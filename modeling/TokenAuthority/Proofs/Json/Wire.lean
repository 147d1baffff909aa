import TokenAuthority.Grant
import TokenAuthority.Proofs.Json.Documents
import TokenAuthority.Proofs.Time.Lifetime
import TokenAuthority.Proofs.Time.Timestamp

/-!
# What clients read

The text that a client gets of a token or of a grant is read back as an object with just the fields that are meant for
it. So the text tells all about these fields and nothing about the others: not the successor of a token nor the code that
it was exchanged for, and not the owner of a grant, its start or its use.
-/

namespace TokenAuthority

/-- An instant as it is shown. -/
def Instant.shown (t : Instant) : String := String.ofList (Timestamp.write t)

theorem Timestamp.read?_shown {t : Instant} (inside : t.InCalendar) : read? t.shown.toList = some t := by
  rw [Instant.shown, String.toList_ofList, read?_write inside]

theorem Instant.shown_inj {t u : Instant} (inside : t.InCalendar) (inside' : u.InCalendar) (same : t.shown = u.shown) :
    t = u := by
  have read := Timestamp.read?_shown inside
  rw [same, Timestamp.read?_shown inside'] at read
  exact (Option.some.inj read).symm

namespace Token

variable {t u : Token} {now : Instant}

/-- The fields of a token that clients see, in the order of their keys. -/
def fields (t : Token) (now : Instant) : Json.Members :=
  [("access_token", .text t.access), ("created_at", .text t.createdAt.shown), ("expires_at", .text t.expiresAt.shown),
    ("expires_in", .number (.integer (t.expiresIn now)))] ++
  (t.refresh.map fun r => ("refresh_token", Json.text r)).toList ++
  [("user_id", .text t.owner), ("valid", .bool t.valid)]

theorem sorted_wire (t : Token) (created expires : String) (remaining : Json.Number) : Json.sorted (
      [("access_token", .text t.access)] ++ (t.refresh.map fun r => ("refresh_token", Json.text r)).toList ++
      [("user_id", .text t.owner), ("created_at", .text created), ("expires_at", .text expires),
        ("expires_in", .number remaining), ("valid", .bool t.valid)]) =
    [("access_token", .text t.access), ("created_at", .text created), ("expires_at", .text expires),
      ("expires_in", .number remaining)] ++ (t.refresh.map fun r => ("refresh_token", Json.text r)).toList ++
    [("user_id", .text t.owner), ("valid", .bool t.valid)] := by
  unfold Json.sorted
  cases t.refresh <;> simp (disch := decide) only [Option.map_some, Option.map_none, Option.toList_some, Option.toList_none,
    List.cons_append, List.nil_append, List.foldl_cons, List.foldl_nil, Json.insertMember_nil, Json.insertMember_of_lt,
    Json.insertMember_of_gt]

theorem read_wire (ends : t.expiresAt.InCalendar) (reading : now.InCalendar) :
    Json.read (Json.render (t.wire now)).toList = .ok (.object (t.fields now)) := by
  have exact : (Json.Number.integer (t.expiresIn now)).Exact := by
    have nonneg := t.expiresIn_nonneg now
    have small := expiresIn_lt ends reading
    exact .integer (by omega) (by omega)
  rw [wire, Json.read_render_object]
  · rw [sorted_wire]
    rfl
  · simp [Json.embeddingKey]
  · cases t.refresh <;> simp [Json.Recoverable.text, Json.Recoverable.number exact, Json.Recoverable.bool]

theorem fields_inj (same : u.fields now = t.fields now) : u.access = t.access ∧ u.refresh = t.refresh ∧
    u.owner = t.owner ∧ u.createdAt.shown = t.createdAt.shown ∧ u.expiresAt.shown = t.expiresAt.shown ∧
    u.valid = t.valid := by
  cases refresh : t.refresh <;> cases refresh' : u.refresh <;> simp_all [fields]

/-- Two tokens look the same to clients just if they differ in nothing but their successors and their codes. -/
theorem render_wire_eq_iff (starts : t.createdAt.InCalendar) (ends : t.expiresAt.InCalendar)
    (starts' : u.createdAt.InCalendar) (ends' : u.expiresAt.InCalendar) (reading : now.InCalendar) :
    Json.render (u.wire now) = Json.render (t.wire now) ↔ u = { t with next := u.next, code := u.code } := by
  constructor
  · intro same
    have read := read_wire ends' reading
    rw [same, read_wire ends reading] at read
    injection read with objects
    injection objects with members
    obtain ⟨access, refresh, owner, created, expires, valid⟩ := fields_inj members.symm
    have start := Instant.shown_inj starts' starts created
    have ending := Instant.shown_inj ends' ends expires
    rw [← access, ← refresh, ← owner, ← start, ← ending, ← valid]
  · intro alike
    rw [alike]
    rfl

end Token

namespace Grant

variable {g h : Grant}

/-- The fields of a grant that clients see, in the order of their keys. -/
def fields (g : Grant) : Json.Members :=
  [("client_id", .text g.client), ("code", .text g.code), ("expires_at", .text g.expiresAt.shown)] ++
  (g.scope.map fun scope => ("scope", Json.text scope)).toList

theorem sorted_wire (g : Grant) (expires : String) : Json.sorted (
      [("code", .text g.code), ("client_id", .text g.client)] ++
      (g.scope.map fun scope => ("scope", Json.text scope)).toList ++ [("expires_at", .text expires)]) =
    [("client_id", .text g.client), ("code", .text g.code), ("expires_at", .text expires)] ++
    (g.scope.map fun scope => ("scope", Json.text scope)).toList := by
  unfold Json.sorted
  cases g.scope <;> simp (disch := decide) only [Option.map_some, Option.map_none, Option.toList_some, Option.toList_none,
    List.cons_append, List.nil_append, List.foldl_cons, List.foldl_nil, Json.insertMember_nil, Json.insertMember_of_lt,
    Json.insertMember_of_gt]

theorem read_wire (g : Grant) : Json.read (Json.render g.wire).toList = .ok (.object g.fields) := by
  rw [wire, Json.read_render_object]
  · rw [sorted_wire]
    rfl
  · simp [Json.embeddingKey]
  · cases g.scope <;> simp [Json.Recoverable.text]

theorem fields_inj (same : h.fields = g.fields) : h.code = g.code ∧ h.client = g.client ∧ h.scope = g.scope ∧
    h.expiresAt.shown = g.expiresAt.shown := by
  cases scope : g.scope <;> cases scope' : h.scope <;> simp_all [fields]

/-- Two grants look the same to clients just if they differ in nothing but their owners, their starts and their uses. -/
theorem render_wire_eq_iff (ends : g.expiresAt.InCalendar) (ends' : h.expiresAt.InCalendar) :
    Json.render h.wire = Json.render g.wire ↔
      h = { g with owner := h.owner, createdAt := h.createdAt, usedAt := h.usedAt } := by
  constructor
  · intro same
    have read := h.read_wire
    rw [same, g.read_wire] at read
    injection read with objects
    injection objects with members
    obtain ⟨code, client, scope, expires⟩ := fields_inj members.symm
    have ending := Instant.shown_inj ends' ends expires
    rw [← code, ← client, ← scope, ← ending]
  · intro alike
    rw [alike]
    rfl

end Grant

/-- The text of a token or of a grant is read as an object with its public fields and no other. The times denote the
instants to the nanosecond, and what is not public makes no difference to the text, but everything that is public does. -/
theorem wire_gives_public_fields :
    (∀ (t : Token) (now : Instant), t.createdAt.InCalendar → t.expiresAt.InCalendar → now.InCalendar →
      (∃ created expires : String,
        Timestamp.read? created.toList = some t.createdAt ∧ Timestamp.read? expires.toList = some t.expiresAt ∧
        Json.read (Json.render (t.wire now)).toList = .ok (.object (
          [("access_token", .text t.access), ("created_at", .text created), ("expires_at", .text expires),
            ("expires_in", .number (.integer (t.expiresIn now)))] ++
          (t.refresh.map fun r => ("refresh_token", Json.text r)).toList ++
          [("user_id", .text t.owner), ("valid", .bool t.valid)]))) ∧
      ∀ u : Token, u.createdAt.InCalendar → u.expiresAt.InCalendar →
        (Json.render (u.wire now) = Json.render (t.wire now) ↔ u = { t with next := u.next, code := u.code })) ∧
    (∀ g : Grant, g.expiresAt.InCalendar →
      (∃ expires : String, Timestamp.read? expires.toList = some g.expiresAt ∧
        Json.read (Json.render g.wire).toList = .ok (.object (
          [("client_id", .text g.client), ("code", .text g.code), ("expires_at", .text expires)] ++
          (g.scope.map fun scope => ("scope", Json.text scope)).toList))) ∧
      ∀ h : Grant, h.expiresAt.InCalendar →
        (Json.render h.wire = Json.render g.wire ↔
          h = { g with owner := h.owner, createdAt := h.createdAt, usedAt := h.usedAt })) := by
  refine ⟨fun t now starts ends reading => ⟨?_, fun u starts' ends' => ?_⟩, fun g ends => ⟨?_, fun h ends' => ?_⟩⟩
  · exact ⟨t.createdAt.shown, t.expiresAt.shown, Timestamp.read?_shown starts, Timestamp.read?_shown ends,
      Token.read_wire ends reading⟩
  · exact Token.render_wire_eq_iff starts ends starts' ends' reading
  · exact ⟨g.expiresAt.shown, Timestamp.read?_shown ends, g.read_wire⟩
  · exact Grant.render_wire_eq_iff ends ends'

/-- A token that was issued half a second into a leap second, with strings that need escapes. -/
def Token.leaping : Token where
  access := "\"\\\n\x01"
  refresh := some "é"
  owner := ""
  createdAt := ⟨1483228799, 1500000000, .inr (by decide)⟩
  expiresAt := ⟨1483232399, 500000000, .inl (by decide)⟩
  valid := true
  next := some "next"
  code := none

theorem leaping_read_back :
    (∃ created expires : String,
      Timestamp.read? created.toList = some Token.leaping.createdAt ∧
      Timestamp.read? expires.toList = some Token.leaping.expiresAt ∧
      Json.read (Json.render (Token.leaping.wire (.ofSeconds 1483228800))).toList = .ok (.object
        [("access_token", .text "\"\\\n\x01"), ("created_at", .text created), ("expires_at", .text expires),
          ("expires_in", .number (.integer 3599)), ("refresh_token", .text "é"), ("user_id", .text ""),
          ("valid", .bool true)])) ∧
    Json.render (({ Token.leaping with next := none } : Token).wire (.ofSeconds 1483228800)) =
      Json.render (Token.leaping.wire (.ofSeconds 1483228800)) ∧
    ∃ expires : String, Timestamp.read? expires.toList = some (Instant.ofSeconds 600) ∧
      Json.read (Json.render (Grant.issued "client" "owner" none 600 (.ofSeconds 0) "code").wire).toList = .ok (.object
        [("client_id", .text "client"), ("code", .text "code"), ("expires_at", .text expires)]) := by
  obtain ⟨read, alike⟩ :=
    wire_gives_public_fields.1 Token.leaping (.ofSeconds 1483228800) (by decide) (by decide) (by decide)
  obtain ⟨granted, -⟩ :=
    wire_gives_public_fields.2 (Grant.issued "client" "owner" none 600 (.ofSeconds 0) "code") (by decide)
  exact ⟨read, (alike { Token.leaping with next := none } (by decide) (by decide)).2 rfl, granted⟩

end TokenAuthority
