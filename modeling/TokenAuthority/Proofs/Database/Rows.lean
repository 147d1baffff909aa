import Mathlib.Data.List.Forall2
import TokenAuthority.Database.Record

/-!
# Rows of records

A row of a record has the record's values in its columns and NULL for what the record lacks; it may have further
columns. From such a row the record is read again, if its times are whole microseconds. The fields of a profile
are a document: of this it only matters that it can be read.
-/

namespace TokenAuthority

open Database

/-! ### Columns -/

namespace Database.Row

variable {row : Row} {column : String} {columns : List String} {values : List Value}

theorem text?_of_get (text : Option String) (get : row.get column = .ofText? text) : row.text? column = text := by
  rw [text?, get]
  cases text <;> rfl

theorem time?_of_get (time : Option Instant) (get : row.get column = .ofTime? time) :
    row.time? column = time.map Instant.stored := by
  rw [time?, get]
  cases time <;> rfl

theorem bool?_of_get {b : Bool} (get : row.get column = .bool b) : row.bool? column = some b := by
  rw [bool?, get]

/-- Columns next to their values are a row with these values. -/
theorem map_get_zip (distinct : columns.Nodup) (length : columns.length = values.length) :
    columns.map (Row.get (columns.zip values)) = values := by
  induction columns generalizing values with
  | nil => exact (List.length_eq_zero_iff.1 length.symm).symm
  | cons column columns ih =>
    obtain ⟨value, values, rfl⟩ := List.exists_cons_of_length_eq_add_one length.symm
    obtain ⟨new, distinct⟩ := List.nodup_cons.1 distinct
    have rest := ih distinct (Nat.succ.inj length)
    rw [List.map_cons, List.zip_cons_cons]
    congr 1
    · simp [get]
    · rw [← rest]
      refine List.map_congr_left fun other mem => ?_
      have different : other ≠ column := by
        rintro rfl
        exact new mem
      rw [rest]
      simp [get, List.lookup_cons, beq_false_of_ne different]

end Database.Row

/-! ### Times -/

/-- The times are as precise as stored ones. -/
def Precise (times : List Instant) : Prop := ∀ time ∈ times, time.stored = time

def Token.times (t : Token) : List Instant := [t.createdAt, t.expiresAt]

def Grant.times (g : Grant) : List Instant := [g.createdAt, g.expiresAt] ++ g.usedAt.toList

def Registration.times (r : Registration) : List Instant := r.requestedAt.toList ++ r.activatedAt.toList

def Account.times (a : Account) : List Instant := a.registration.toList.flatMap Registration.times

theorem Precise.map_stored {time : Option Instant} (precise : Precise time.toList) :
    time.map Instant.stored = time := by
  cases time with
  | none => rfl
  | some time => exact congrArg some (precise time (by simp))

/-! ### Records -/

def Token.IsRow (t : Token) (row : Row) : Prop := Token.columns.map row.get = t.values

def Grant.IsRow (g : Grant) (row : Row) : Prop := Grant.columns.map row.get = g.values

/-- The row of a grant that was used at some time. -/
def Grant.IsTaken (g : Grant) (row : Row) : Prop := ∃ now, Grant.IsRow { g with usedAt := some now } row

def Profile.IsRow (p : Profile) (row : Row) : Prop :=
  ∃ document fields, Json.read document.toList = .ok fields ∧
    Profile.columns.map row.get = [.text p.provider, .text p.subject, .ofText? p.email, .json document]

/-- The columns of an account, whose profiles are in rows of their own. -/
def Account.columns : List String :=
  ["id", "email", "password_hash", "activation_id", "activation_requested_at", "activated_at"]

def Account.values (a : Account) : List Value :=
  [.text a.id, .text a.email, .ofText? a.passwordHash, .ofText? (a.registration.map Registration.activationId),
   .ofTime? (a.registration.bind Registration.requestedAt), .ofTime? (a.registration.bind Registration.activatedAt)]

def Account.IsRow (a : Account) (row : Row) : Prop := Account.columns.map row.get = a.values

/-- An account, but with any profiles. -/
def Account.Alike (a b : Account) : Prop := ∃ profiles, b = { a with profiles := profiles }

/-- A grant, but used at any time. -/
def Grant.Alike (a b : Grant) : Prop := ∃ usedAt, b = { a with usedAt := usedAt }

namespace Account.Alike

variable {a b : Account} (alike : a.Alike b)
include alike

theorem id : b.id = a.id := by
  obtain ⟨profiles, rfl⟩ := alike
  rfl

theorem hasPassword : b.hasPassword = a.hasPassword := by
  obtain ⟨profiles, rfl⟩ := alike
  rfl

theorem checkPassword (password : String) : b.checkPassword password = a.checkPassword password := by
  obtain ⟨profiles, rfl⟩ := alike
  rfl

theorem activationPending : b.activationPending = a.activationPending := by
  obtain ⟨profiles, rfl⟩ := alike
  rfl

end Account.Alike

namespace Grant.Alike

variable {a b : Grant} (alike : a.Alike b)
include alike

theorem client : b.client = a.client := by
  obtain ⟨usedAt, rfl⟩ := alike
  rfl

theorem isExpired (now : Instant) : b.isExpired now = a.isExpired now := by
  obtain ⟨usedAt, rfl⟩ := alike
  rfl

end Grant.Alike

variable {row : Row} {rows : List Row}

theorem Token.ofRow?_of_isRow {t : Token} (isRow : t.IsRow row) (precise : Precise t.times) :
    Token.ofRow? row = some t := by
  simp only [IsRow, columns, values, List.map_cons, List.map_nil, List.cons.injEq] at isRow
  obtain ⟨access, refresh, owner, created, expires, valid, next, code, -⟩ := isRow
  have createdAt : t.createdAt.stored = t.createdAt := precise _ (by simp [times])
  have expiresAt : t.expiresAt.stored = t.expiresAt := precise _ (by simp [times])
  simp [ofRow?, Row.text?_of_get (some _) access, Row.text?_of_get _ refresh,
    Row.text?_of_get (some _) owner, Row.time?_of_get (some _) created,
    Row.time?_of_get (some _) expires, Row.bool?_of_get valid, Row.text?_of_get _ next, Row.text?_of_get _ code,
    createdAt, expiresAt]

theorem Grant.ofRow?_of_isTaken {g : Grant} (isTaken : g.IsTaken row) (precise : Precise g.times) :
    ∃ taken, Grant.ofRow? row = some taken ∧ g.Alike taken := by
  obtain ⟨now, isRow⟩ := isTaken
  simp only [IsRow, columns, values, List.map_cons, List.map_nil, List.cons.injEq] at isRow
  obtain ⟨code, client, owner, scope, created, expires, used, -⟩ := isRow
  have createdAt : g.createdAt.stored = g.createdAt := precise _ (by simp [times])
  have expiresAt : g.expiresAt.stored = g.expiresAt := precise _ (by simp [times])
  refine ⟨{ g with usedAt := some now.stored }, ?_, _, rfl⟩
  simp [ofRow?, Row.text?_of_get (some _) code, Row.text?_of_get (some _) client,
    Row.text?_of_get (some _) owner, Row.text?_of_get _ scope, Row.time?_of_get (some _) created,
    Row.time?_of_get (some _) expires, Row.time?_of_get _ used, createdAt, expiresAt]

theorem Profile.ofRow?_of_isRow {p : Profile} (isRow : p.IsRow row) : ∃ read, Profile.ofRow? row = some read := by
  obtain ⟨document, fields, readable, isRow⟩ := isRow
  simp only [columns, List.map_cons, List.map_nil, List.cons.injEq] at isRow
  obtain ⟨provider, subject, -, document, -⟩ := isRow
  simp [ofRow?, Row.text?_of_get (some _) provider, Row.text?_of_get (some _) subject, Row.json?,
    document, readable, Except.toOption]

theorem Account.text?_id {a : Account} (isRow : a.IsRow row) : row.text? "id" = some a.id := by
  simp only [IsRow, columns, values, List.map_cons, List.cons.injEq] at isRow
  exact Row.text?_of_get (some _) isRow.1

theorem Account.ofRows?_of_isRow {a : Account} (isRow : a.IsRow row) (precise : Precise a.times)
    (readable : ∀ profile ∈ rows, ∃ read, Profile.ofRow? profile = some read) :
    ∃ loaded, Account.ofRows? row rows = some loaded ∧ a.Alike loaded := by
  have all : ∃ profiles, rows.mapM Profile.ofRow? = some profiles := by
    induction rows with
    | nil => exact ⟨[], rfl⟩
    | cons first rest ih =>
      obtain ⟨profile, read⟩ := readable first (by simp)
      obtain ⟨profiles, others⟩ := ih fun row mem => readable row (List.mem_cons_of_mem _ mem)
      exact ⟨profile :: profiles, by simp [List.mapM_cons, read, others]⟩
  obtain ⟨profiles, all⟩ := all
  have id := text?_id isRow
  simp only [IsRow, columns, values, List.map_cons, List.map_nil, List.cons.injEq] at isRow
  obtain ⟨-, email, password, activation, requested, activated, -⟩ := isRow
  refine ⟨{ a with profiles := .ofList (profiles.map fun p => (p.provider, p)) }, ?_, _, rfl⟩
  have registration : (a.registration.map Registration.activationId).map (fun activationId =>
      ({ activationId
         requestedAt := (a.registration.bind Registration.requestedAt).map Instant.stored
         activatedAt := (a.registration.bind Registration.activatedAt).map Instant.stored } : Registration)) =
      a.registration := by
    cases own : a.registration with
    | none => rfl
    | some r =>
      have times : Precise r.times := by simpa [Account.times, own] using precise
      have requestedAt := Precise.map_stored fun time mem => times time (List.mem_append_left _ mem)
      have activatedAt := Precise.map_stored fun time mem => times time (List.mem_append_right _ mem)
      simp [requestedAt, activatedAt]
  simp only [ofRows?, all, id, Row.text?_of_get (some _) email, Row.text?_of_get _ password,
    Row.text?_of_get _ activation, Row.time?_of_get _ requested, Row.time?_of_get _ activated, registration,
    Option.bind_eq_bind, Option.bind_some, Option.pure_def]

/-! ### Rows with no further columns -/

def Account.toRow (a : Account) : Row := Account.columns.zip a.values

/-- The row of a profile whose fields are not known. -/
def Profile.toBareRow (p : Profile) : Row :=
  Profile.columns.zip [.text p.provider, .text p.subject, .ofText? p.email, .ofJson (.object [])]

theorem Account.isRow_toRow (a : Account) : a.IsRow a.toRow := Row.map_get_zip (by decide) rfl

theorem Profile.isRow_toBareRow (p : Profile) : p.IsRow p.toBareRow :=
  ⟨_, _, by rfl, Row.map_get_zip (by decide) rfl⟩

end TokenAuthority
