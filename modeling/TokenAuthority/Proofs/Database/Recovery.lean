import TokenAuthority.Proofs.Database.Chaining
import TokenAuthority.Proofs.Database.Statements
import TokenAuthority.Proofs.Json.Documents

/-!
# Records are read back

A reading call gives a record back if its statement is answered with a row that shows what the insertion of the record
bound. Lost are times in leap seconds and what is finer than microseconds, and fields of which the text is not read as
it was written.
-/

namespace TokenAuthority

/-- Just times of whole microseconds outside leap seconds are stored as they are. -/
theorem Instant.stored_eq_iff {t : Instant} : t.stored = t ↔ t.nanos % 1000 = 0 ∧ t.isLeap = false := by
  constructor
  · intro same
    rw [← same]
    have below : (t.storedMicros % 1000000).toNat * 1000 < nanosPerSecond := by
      unfold nanosPerSecond
      omega
    exact ⟨Nat.mul_mod_left _ _, decide_eq_false (Nat.not_le.2 below)⟩
  · rintro ⟨whole, regular⟩
    have below : t.nanos < 1000000000 := Nat.not_le.1 (of_decide_eq_false regular)
    have micros : t.storedMicros = (t.seconds - storageEpoch) * 1000000 + t.nanos / 1000 := by
      unfold storedMicros nanosPerSecond
      rw [Int.tdiv_eq_ediv_of_dvd (by omega)]
      omega
    obtain ⟨seconds, nanos, valid⟩ := t
    simp only [stored, ofStoredMicros, micros, Instant.mk.injEq]
    dsimp only at whole below
    omega

theorem Profile.text?_provider {row : Database.Row} {p : Profile} (reads : Profile.ofRow? row = some p) :
    row.text? "provider_id" = some p.provider := by
  simp only [ofRow?, Option.bind_eq_bind, Option.bind_eq_some_iff, Option.pure_def, Option.some.injEq] at reads
  obtain ⟨provider, own, subject, -, fields, -, rfl⟩ := reads
  exact own

theorem Table.get?_foldl_insert {α : Type} {t : Table α} {entries : List (String × α)} {key : String}
    (other : ∀ entry ∈ entries, entry.1 ≠ key) :
    (entries.foldl (fun t entry => t.insert entry.1 entry.2) t).get? key = t.get? key := by
  induction entries generalizing t with
  | nil => rfl
  | cons entry entries ih =>
    obtain ⟨first, others⟩ := List.forall_mem_cons.1 other
    rw [List.foldl_cons, ih others, get?_insert, if_neg first.symm]

/-- The last of the records under a key counts. -/
theorem Table.get?_ofList_last {α : Type} {before after : List (String × α)} {key : String} {value : α}
    (last : ∀ entry ∈ after, entry.1 ≠ key) :
    (Table.ofList (before ++ (key, value) :: after)).get? key = some value := by
  rw [ofList, List.foldl_append, List.foldl_cons, get?_foldl_insert last, get?_insert, if_pos rfl]

namespace Database

open Work Step

variable {α : Type} {query select : Query} {reply : Reply} {steps : List Step}

/-! ### Insertions -/

/-- A store call gives a statement that inserts a row. -/
def Inserts (write : StoreCall) (insert : Query) : Prop :=
  ∃ steps result reply, Trace (answer write).run steps result ∧ executing insert reply ∈ steps ∧
    (words insert.text).head? = some "INSERT"

theorem execute_bind_every {f : Reply → Work α} (silent : ∀ reply, ∃ result, (f reply).run = .done result) :
    Every (fun steps _ => ∀ other answer, executing other answer ∈ steps → other = query)
      (execute query >>= f).run := by
  intro answer
  cases answer with
  | error e =>
    intro _ other answer mem
    rcases mem with _ | ⟨_, _ | ⟨_, late⟩⟩
    · rfl
    · nomatch late
  | ok reply =>
    obtain ⟨result, done⟩ := silent reply
    show Every _ (f reply).run
    rw [done]
    intro other answer mem
    rcases mem with _ | ⟨_, late⟩
    · rfl
    · nomatch late

variable {t : Token} {g : Grant} {p : Profile} {account access : String} {write : StoreCall} {insert : Query}

theorem Inserts.of_every (only : Every (fun steps _ => ∀ other answer, executing other answer ∈ steps → other = query)
    (answer write).run) (inserts : Inserts write insert) : insert = query := by
  obtain ⟨steps, result, reply, trace, mem, -⟩ := inserts
  exact trace.meets only insert reply mem

theorem Inserts.of_addToken (inserts : Inserts (.addToken t) insert) : insert = .insertToken t := by
  refine inserts.of_every (execute_bind_every fun reply => ?_)
  by_cases none : reply.affected = 0
  · exact ⟨_, congrArg ExceptT.run (if_pos none)⟩
  · exact ⟨_, congrArg ExceptT.run (if_neg none)⟩

theorem Inserts.of_addGrant (inserts : Inserts (.addGrant g) insert) : insert = .insertGrant g :=
  inserts.of_every (execute_bind_every fun _ => ⟨_, rfl⟩)

theorem Inserts.of_saveProfile (inserts : Inserts (.saveProfile account p) insert) : insert = .saveProfile account p :=
  inserts.of_every (execute_bind_every fun _ => ⟨_, rfl⟩)

theorem Chaining.executes {result : Except Failure Bool} {answer : Except Error Reply}
    (course : Chaining access t steps result) (mem : executing query answer ∈ steps) :
    query = .insertToken t ∨ query = .linkToken access t.access := by
  cases course with
  | unopened e => nomatch mem
  | uninserted e =>
    rcases mem with _ | ⟨_, _ | ⟨_, late⟩⟩
    · exact .inl rfl
    · nomatch late
  | conflicts none undone =>
    rcases mem with _ | ⟨_, _ | ⟨_, _ | ⟨_, late⟩⟩⟩
    · exact .inl rfl
    · exact (executing_not_mem_afterEnd late).elim
  | unlinked some e =>
    rcases mem with _ | ⟨_, _ | ⟨_, _ | ⟨_, late⟩⟩⟩
    · exact .inl rfl
    · exact .inr rfl
    · nomatch late
  | loses some none undone =>
    rcases mem with _ | ⟨_, _ | ⟨_, _ | ⟨_, _ | ⟨_, late⟩⟩⟩⟩
    · exact .inl rfl
    · exact .inr rfl
    · exact (executing_not_mem_afterEnd late).elim
  | links some some' committed =>
    rcases mem with _ | ⟨_, _ | ⟨_, _ | ⟨_, _ | ⟨_, late⟩⟩⟩⟩
    · exact .inl rfl
    · exact .inr rfl
    · exact (executing_not_mem_afterEnd late).elim

theorem Inserts.of_chainToken (inserts : Inserts (.chainToken access t) insert) : insert = .insertToken t := by
  obtain ⟨steps, result, reply, trace, mem, inserting⟩ := inserts
  rcases (trace.meets (chainToken_course access t)).executes mem with rfl | rfl
  · rfl
  · -- The link is made by a statement that inserts nothing.
    have updates : (words (Query.linkToken access t.access).text).head? = some "UPDATE" := by
      show (words ("UPDATE auth_tokens SET next_token = $2 WHERE access_token = $1 AND next_token IS NULL " ++
        "AND valid")).head? = _
      rw [words, String.toList_append]
      decide +kernel
    rw [updates] at inserting
    exact absurd inserting (by decide)

/-! ### Replies -/

theorem trace_execute {f : Reply → Work α} {result : Except Failure α} :
    Trace (execute query >>= f).run (executing select (.ok reply) :: steps) result ↔
      select = query ∧ Trace (f reply).run steps result := by
  constructor
  · intro trace
    cases trace with
    | asks answer rest => exact ⟨rfl, rest⟩
  · rintro ⟨rfl, trace⟩
    exact .asks _ trace

theorem trace_done {value result : α} : Trace (.done value) [] result ↔ result = value := by
  constructor
  · rintro ⟨⟩
    rfl
  · rintro rfl
    exact .done _

/-- The record of a row, or the failure of a row that holds none. -/
def fitted : Option α → Except Failure (Option α)
  | some a => .ok (some a)
  | none => .error misfit

theorem trace_firstRecord {read : Row → Option α} {row : Row} {result : Except Failure (Option α)}
    (head : reply.rows.head? = some row) :
    Trace (execute query >>= firstRecord read).run [executing select (.ok reply)] result ↔
      select = query ∧ result = fitted (read row) := by
  rw [trace_execute, firstRecord, head]
  refine and_congr_right fun _ => ?_
  dsimp only
  cases reads : read row with
  | some a => exact trace_done
  | none => exact trace_done

/-- What is loaded of an account whose row and the rows of its profiles are the answers. -/
theorem trace_loadAccount {users links : Reply} {user : Row} {id : String} {lookUp list : Query}
    {result : Except Failure (Option Account)} (head : users.rows.head? = some user)
    (own : user.text? "id" = some id) :
    Trace (execute query >>= loadAccount).run [executing lookUp (.ok users), executing list (.ok links)] result ↔
      lookUp = query ∧ list = .profilesOf id ∧ result = fitted (Account.ofRows? user links.rows) := by
  rw [trace_execute, loadAccount, head]
  refine and_congr_right fun _ => ?_
  dsimp only
  rw [own]
  show Trace (execute (.profilesOf id) >>= _).run _ _ ↔ _
  rw [trace_execute]
  refine and_congr_right fun _ => ?_
  cases reads : Account.ofRows? user links.rows with
  | some a => exact trace_done
  | none => exact trace_done

/-! ### Profiles of an account -/

theorem mapM_eq_filterMap {rows : List Row} {read : Row → Option α} (readable : ∀ row ∈ rows, (read row).isSome) :
    rows.mapM read = some (rows.filterMap read) := by
  induction rows with
  | nil => rfl
  | cons row rows ih =>
    obtain ⟨first, others⟩ := List.forall_mem_cons.1 readable
    obtain ⟨a, reads⟩ := Option.isSome_iff_exists.1 first
    simp [List.mapM_cons, reads, ih others]

/-- Of the rows with a provider's id the last one counts. -/
theorem ofRows?_profile {user row : Row} {id email : String} (before after : List Row) (own : user.text? "id" = some id)
    (mail : user.text? "email" = some email) (readable : ∀ other ∈ before ++ after, (Profile.ofRow? other).isSome)
    (last : ∀ other ∈ after, other.text? "provider_id" ≠ some p.provider) (reads : Profile.ofRow? row = some p) :
    ∃ a, Account.ofRows? user (before ++ row :: after) = some a ∧ a.profile? p.provider = some p := by
  have all : ∀ other ∈ before ++ row :: after, (Profile.ofRow? other).isSome := by
    intro other mem
    rcases List.mem_append.1 mem with mem | mem
    · exact readable other (List.mem_append_left _ mem)
    · rcases List.mem_cons.1 mem with rfl | mem
      · rw [reads]
        rfl
      · exact readable other (List.mem_append_right _ mem)
  have others : ∀ entry ∈ (after.filterMap Profile.ofRow?).map fun q => (q.provider, q), entry.1 ≠ p.provider := by
    intro entry mem
    obtain ⟨q, held, rfl⟩ := List.mem_map.1 mem
    obtain ⟨other, behind, found⟩ := List.mem_filterMap.1 held
    intro same
    exact last other behind ((Profile.text?_provider found).trans (congrArg some same))
  have entries : ((before ++ row :: after).filterMap Profile.ofRow?).map (fun q => (q.provider, q)) =
      ((before.filterMap Profile.ofRow?).map fun q => (q.provider, q)) ++
        (p.provider, p) :: (after.filterMap Profile.ofRow?).map fun q => (q.provider, q) := by
    simp [List.filterMap_append, reads]
  simp only [Account.ofRows?, mapM_eq_filterMap all, own, mail, Option.bind_eq_bind, Option.bind_some, Option.pure_def]
  refine ⟨_, rfl, ?_⟩
  rw [Account.profile?, entries]
  exact Table.get?_ofList_last others

theorem inserts_token (t : Token) : Inserts (.addToken t) (.insertToken t) :=
  ⟨[executing (.insertToken t) (.ok ⟨1, []⟩)], .ok (), _, .asks _ (.done _), List.mem_cons_self,
    congrArg List.head? Query.words_insertToken⟩

theorem inserts_grant (g : Grant) : Inserts (.addGrant g) (.insertGrant g) :=
  ⟨[executing (.insertGrant g) (.ok ⟨1, []⟩)], .ok (), _, .asks _ (.done _), List.mem_cons_self,
    congrArg List.head? Query.words_insertGrant⟩

theorem inserts_profile (account : String) (p : Profile) : Inserts (.saveProfile account p) (.saveProfile account p) :=
  ⟨[executing (.saveProfile account p) (.ok ⟨1, []⟩)], .ok (), _, .asks _ (.done _), List.mem_cons_self,
    congrArg List.head? Query.words_saveProfile⟩

/-! ### Main results -/

/-- A call that reads a token. -/
def ReadsToken (lookUp : Work (Option Token)) : Prop :=
  (∃ access, lookUp = answer (.tokenByAccess access)) ∨ ∃ refresh, lookUp = answer (.tokenByRefresh refresh)

/-- A call that loads an account. -/
def LoadsAccount (lookUp : Work (Option Account)) : Prop :=
  (∃ email, lookUp = answer (.accountByEmail email)) ∨
    ∃ provider subject, lookUp = answer (.accountByIdentity provider subject)

theorem ReadsToken.selects {lookUp : Work (Option Token)} (reads : ReadsToken lookUp) :
    ∃ query, lookUp = (execute query >>= firstRecord Token.ofRow?) ∧ shownColumns query.text = Token.columns := by
  rcases reads with ⟨access, rfl⟩ | ⟨refresh, rfl⟩
  · exact ⟨.tokenByAccess access, rfl, Query.shownColumns_tokenByAccess⟩
  · exact ⟨.tokenByRefresh refresh, rfl, Query.shownColumns_tokenByRefresh⟩

theorem LoadsAccount.selects {lookUp : Work (Option Account)} (loads : LoadsAccount lookUp) :
    ∃ query, lookUp = (execute query >>= loadAccount) := by
  rcases loads with ⟨email, rfl⟩ | ⟨provider, subject, rfl⟩
  · exact ⟨.accountByEmail email, rfl⟩
  · exact ⟨.accountByIdentity provider subject, rfl⟩

theorem token_read_back {lookUp : Work (Option Token)} {result : Except Failure (Option Token)}
    (writes : write = .addToken t ∨ ∃ access, write = .chainToken access t) (inserts : Inserts write insert)
    (whole : ∀ time ∈ t.times, time.nanos % 1000 = 0 ∧ time.isLeap = false) (reads : ReadsToken lookUp)
    (trace : Trace lookUp.run [executing select (.ok reply)] result)
    (shows : reply.rows.head? = some (select.showing insert.bound.get)) : result = .ok (some t) := by
  have inserted : insert = .insertToken t := by
    rcases writes with rfl | ⟨access, rfl⟩
    · exact inserts.of_addToken
    · exact inserts.of_chainToken
  have precise : Precise t.times := fun time mem => Instant.stored_eq_iff.2 (whole time mem)
  obtain ⟨query, rfl, columns⟩ := reads.selects
  obtain ⟨selected, value⟩ := (trace_firstRecord shows).1 trace
  rw [value, selected, inserted, Token.ofRow?_of_isRow (t.isRow_showing columns) precise, fitted]

/-- A grant is read again as it is stored, and with the time of use that the row shows. -/
theorem trace_takeGrant {code : String} {used : Value} {row : Row} {result : Except Failure (Option Grant)}
    (shows : row = Query.showing (.takeGrant code) (Function.update (Query.insertGrant g).bound.get "used_at" used))
    (head : reply.rows.head? = some row) :
    Trace (answer (.takeGrant code)).run [executing select (.ok reply)] result ↔
      select = .takeGrant code ∧ result = .ok (some { g with
        createdAt := g.createdAt.stored, expiresAt := g.expiresAt.stored, usedAt := row.time? "used_at" }) := by
  have shown : shownColumns (Query.takeGrant code).text = Grant.columns := Query.shownColumns_takeGrant
  have others := Grant.map_get_showing (g := g) used shown
  rw [← shows] at others
  show Trace (execute (.takeGrant code) >>= firstRecord Grant.ofRow?).run _ _ ↔ _
  rw [trace_firstRecord head, Grant.ofRow?_eq others, fitted]

theorem grant_read_back {code : String} {used : Value} {row : Row} {result : Except Failure (Option Grant)}
    (inserts : Inserts (.addGrant g) insert)
    (whole : ∀ time ∈ [g.createdAt, g.expiresAt], time.nanos % 1000 = 0 ∧ time.isLeap = false)
    (trace : Trace (answer (.takeGrant code)).run [executing select (.ok reply)] result)
    (shows : row = select.showing (Function.update insert.bound.get "used_at" used))
    (head : reply.rows.head? = some row) : result = .ok (some { g with usedAt := row.time? "used_at" }) := by
  have selected : select = .takeGrant code := (trace_execute.1 trace).1
  have createdAt := Instant.stored_eq_iff.2 (whole g.createdAt (by simp))
  have expiresAt := Instant.stored_eq_iff.2 (whole g.expiresAt (by simp))
  rw [selected, inserts.of_addGrant] at shows
  rw [((trace_takeGrant shows head).1 trace).2, createdAt, expiresAt]

theorem profile_read_back {lookUp : Work (Option Account)} {accounts list : Query} {users links : Reply} {user : Row}
    {id email : String} {before after : List Row} {result : Except Failure (Option Account)}
    (inserts : Inserts (.saveProfile account p) insert)
    (recoverable : Json.Recoverable Json.depthLimit (.object p.fields)) (loads : LoadsAccount lookUp)
    (trace : Trace lookUp.run [executing accounts (.ok users), executing list (.ok links)] result)
    (head : users.rows.head? = some user) (own : user.text? "id" = some id) (mail : user.text? "email" = some email)
    (shows : links.rows = before ++ list.showing insert.bound.get :: after)
    (readable : ∀ other ∈ before ++ after, (Profile.ofRow? other).isSome)
    (last : ∀ other ∈ after, other.text? "provider_id" ≠ some p.provider) :
    ∃ a, result = .ok (some a) ∧ a.profile? p.provider = some p := by
  obtain ⟨query, rfl⟩ := loads.selects
  obtain ⟨-, listed, value⟩ := (trace_loadAccount head own).1 trace
  have reads : Profile.ofRow? (Query.showing (.profilesOf id) insert.bound.get) = some p := by
    rw [inserts.of_saveProfile, Profile.ofRow?_showing account p Query.shownColumns_profilesOf, recoverable.read_render]
    rfl
  obtain ⟨a, loaded, found⟩ := ofRows?_profile before after own mail readable last reads
  exact ⟨a, by rw [value, shows, listed, loaded, fitted], found⟩

def sampleToken : Token :=
  ⟨"a", some "r", "u", ⟨5, 1000, .inl (by decide)⟩, .ofSeconds 3605, true, none, some "c"⟩

def sampleGrant : Grant := ⟨"c", "m", "u", some "s", ⟨5, 1000, .inl (by decide)⟩, .ofSeconds 605, none⟩

def sampleProfile : Profile :=
  ⟨"p", "s", none, [("n", .number (.float ⟨false, 3 <<< 51, -52⟩)), ("tags", .array [.text "\n", .null])]⟩

/-- The row of an account without a password. -/
def sampleUser : Row := [("id", .text "u"), ("email", .text "e")]

theorem sampleProfile_recoverable : Json.Recoverable Json.depthLimit (.object sampleProfile.fields) := by
  refine .object (by decide) (by decide) (List.forall_mem_cons.2 ⟨.number (.of_readsBack (by decide +kernel)), ?_⟩)
  refine List.forall_mem_singleton.2 (.array ?_)
  exact List.forall_mem_cons.2 ⟨.text _, List.forall_mem_singleton.2 .null⟩

/-- Whether the text of a profile's fields gives them back. -/
def fieldsReadBack (p : Profile) : Bool :=
  match Json.read (Json.object p.fields).write with
  | .ok fields => (Json.object (Profile.fieldsOf fields)).same (.object p.fields)
  | .error _ => false

theorem profile_lost (lost : fieldsReadBack p = false) (same : (Json.object p.fields).same (.object p.fields) = true) :
    ∃ result, Trace (answer (.accountByEmail "e")).run
        [executing (.accountByEmail "e") (.ok ⟨0, [sampleUser]⟩), executing (.profilesOf "u")
          (.ok ⟨0, [Query.showing (.profilesOf "u") (Query.saveProfile "u" p).bound.get]⟩)] result ∧
      ¬∃ a, result = .ok (some a) ∧ a.profile? p.provider = some p := by
  refine ⟨_, (trace_loadAccount rfl rfl).2 ⟨rfl, rfl, rfl⟩, ?_⟩
  rintro ⟨a, loaded, found⟩
  have shown : shownColumns (Query.profilesOf "u").text = Profile.columns := Query.shownColumns_profilesOf
  have reads := Profile.ofRow?_showing "u" p shown
  rw [Json.render, String.toList_ofList] at reads
  unfold fieldsReadBack at lost
  cases read : Json.read (Json.object p.fields).write with
  | error fault =>
    rw [read] at reads
    have none : Account.ofRows? sampleUser
        [Query.showing (.profilesOf "u") (Query.saveProfile "u" p).bound.get] = none := by
      rw [Account.ofRows?, List.mapM_cons, reads]
      rfl
    rw [none] at loaded
    cases loaded
  | ok fields =>
    rw [read] at reads lost
    obtain ⟨b, loads, held⟩ := ofRows?_profile (p := { p with fields := Profile.fieldsOf fields }) [] []
      (show sampleUser.text? "id" = some "u" from rfl) (show sampleUser.text? "email" = some "e" from rfl)
      (List.forall_mem_nil _) (List.forall_mem_nil _) reads
    rw [List.nil_append] at loads
    rw [loads] at loaded
    obtain rfl := Option.some.inj (Except.ok.inj loaded)
    have own := congrArg Profile.fields (Option.some.inj (held.symm.trans found))
    dsimp only at own lost
    rw [own, same] at lost
    cases lost

/-- A profile with one further field. -/
def fieldProfile (key : String) (value : Json) : Profile := ⟨"p", "s", none, [(key, value)]⟩

/-- The number that is written 2.8000000000000003e-308, which is read as one of its neighbours. -/
def unstable : Json := .number (.float ⟨false, 5667263092604698, -1074⟩)

/-- Arrays inside each other. -/
def nested : Nat → Json
  | 0 => .null
  | n + 1 => .array [nested n]

/-- A grant that is made in a leap second. -/
def leapGrant : Grant := ⟨"c", "m", "u", none, ⟨59, 1500000000, .inr (by decide)⟩, .ofSeconds 659, none⟩

end Database
end TokenAuthority
