import TokenAuthority.Proofs.Database.Tables

/-!
# Store calls over a database that describes a store

`Comes` is a condition on the result of work over a database, whatever the database answers as long as it describes
a store in memory; then nothing is logged. `tells` goes through the store calls: one that the store in memory
admits comes to the same value over the database, up to the profiles of accounts and the times at which grants
were used.
-/

namespace TokenAuthority

namespace Database

variable {α β : Type} {m : Memory}

/-! ### Work -/

/-- A program asks for nothing but the database, and comes to a value with a property if this describes a store. -/
def Concludes (m : Memory) : (β → Prop) → Program Effect.Answer β → Prop
  | post, .done b => post b
  | _, .ask (.ambient _) _ => False
  | post, .ask (.database command) next => ∀ answer, m.Describes command answer → Concludes m post (next answer)

/-- The same of the result of work. -/
def Comes (m : Memory) (post : Except Failure α → Prop) (work : Work α) : Prop := Concludes m post work.run

theorem Concludes.mono {post post' : β → Prop} {p : Program Effect.Answer β} (concludes : Concludes m post p)
    (weaker : ∀ b, post b → post' b) : Concludes m post' p := by
  induction p with
  | done b => exact weaker b concludes
  | ask request next ih =>
    cases request with
    | ambient request => exact concludes
    | database command => exact fun answer described => ih answer (concludes answer described)

theorem Concludes.bind {post : β → Prop} {p : Program Effect.Answer α} {f : α → Program Effect.Answer β}
    (first : Concludes m (fun a => Concludes m post (f a)) p) : Concludes m post (p.bind f) := by
  induction p with
  | done a => exact first
  | ask request next ih =>
    cases request with
    | ambient request => exact first
    | database command => exact fun answer described => ih answer (first answer described)

namespace Comes

variable {post : Except Failure β → Prop} {x : Work α} {f : α → Work β}

theorem pure {b : β} (holds : post (.ok b)) : Comes m post (pure b) := holds

theorem mono {post post' : Except Failure α → Prop} (comes : Comes m post x)
    (weaker : ∀ result, post result → post' result) : Comes m post' x :=
  Concludes.mono comes weaker

theorem bind (first : Comes m (fun result => ∃ a, result = .ok a ∧ Comes m post (f a)) x) : Comes m post (x >>= f) := by
  refine Concludes.bind (p := x.run) (Concludes.mono first ?_)
  rintro _ ⟨a, rfl, rest⟩
  exact rest

/-- What a database that describes a store answers is not an error, so nothing is logged. -/
theorem attempt {post : Except Failure α → Prop} {ask : Program Effect.Answer (Except Error α)}
    (answers : Concludes m (fun answer => ∃ a, answer = .ok a ∧ post (.ok a)) ask) :
    Comes m post (Work.attempt ask) := by
  refine Concludes.bind (Concludes.bind (Concludes.mono answers ?_))
  rintro _ ⟨a, rfl, holds⟩
  exact holds

theorem execute {post : Except Failure Reply → Prop} {query : Query}
    (holds : ∀ reply, m.Replies reply query → post (.ok reply)) : Comes m post (Work.execute query) := by
  refine attempt ?_
  rintro _ ⟨reply, rfl, replies⟩
  exact ⟨reply, rfl, holds reply replies⟩

theorem execute_bind {query : Query} {f : Reply → Work β}
    (rest : ∀ reply, m.Replies reply query → Comes m post (f reply)) : Comes m post (Work.execute query >>= f) :=
  bind (execute fun reply replies => ⟨reply, rfl, rest reply replies⟩)

theorem beginTransaction {post : Except Failure Unit → Prop} (holds : post (.ok ())) :
    Comes m post Work.beginTransaction :=
  attempt fun _ answered => ⟨(), answered, holds⟩

theorem commit {post : Except Failure Unit → Prop} (holds : post (.ok ())) : Comes m post Work.commit :=
  attempt fun _ answered => ⟨(), answered, holds⟩

theorem rollBack {post : Except Failure Unit → Prop} (holds : post (.ok ())) : Comes m post Work.rollBack :=
  attempt fun _ answered => ⟨(), answered, holds⟩

theorem orAbandon {post : Except Failure α → Prop} (comes : Comes m post x) : Comes m post (Work.orAbandon x) := by
  refine Concludes.bind (p := x.run) (Concludes.mono comes fun result holds => ?_)
  cases result with
  | ok a => exact holds
  | error failure => exact fun _ _ => holds

theorem fitting_bind {a? : Option α} {a : α} (fits : a? = some a) (rest : Comes m post (f a)) :
    Comes m post (Work.fitting a? >>= f) := by
  rw [fits]
  exact rest

/-- A record is read from the first row, if there is one. -/
theorem firstRecord {read : Row → Option α} {reply : Reply} {found? : Option α} {isRow : α → Row → Prop}
    (alike : α → α → Prop) (rows : Option.Rel isRow found? reply.rows.head?)
    (reads : ∀ a row, found? = some a → isRow a row → ∃ b, read row = some b ∧ alike a b) :
    Comes m (fun result => ∃ read?, result = .ok read? ∧ Option.Rel alike found? read?)
      (Work.firstRecord read reply) := by
  unfold Work.firstRecord
  generalize reply.rows.head? = first at rows
  cases rows with
  | none => exact pure ⟨_, rfl, .none⟩
  | some holds =>
    obtain ⟨b, fits, same⟩ := reads _ _ rfl holds
    exact fitting_bind fits (pure ⟨_, rfl, .some same⟩)

end Comes

/-! ### Store calls -/

end Database

/-- The same value of a store call, up to the profiles of accounts and the times at which grants were used. -/
def StoreCall.Alike : (call : StoreCall) → call.Value → call.Value → Prop
  | .accountByEmail _, found, read => Option.Rel Account.Alike found read
  | .accountByIdentity _ _, found, read => Option.Rel Account.Alike found read
  | .takeGrant _, taken, read => Option.Rel Grant.Alike taken read
  | _, value, other => value = other

/-- What makes a store call one that a store cannot refuse: new tokens have new strings, and profiles are those of
accounts that there are. -/
def Memory.Admits (m : Memory) : StoreCall → Prop
  | .addToken token => m.tokens.get? token.access = none
  | .chainToken _ token => m.tokens.get? token.access = none
  | .saveProfile account _ => m.accounts.contains account = true
  | _ => True

namespace Database

/-- A store call comes to a value. -/
def Tells (m : Memory) (call : StoreCall) (value : call.Value) : Prop :=
  Comes m (fun result => ∃ other, result = .ok other ∧ call.Alike value other) (answer call)

variable {m : Memory} {access r email provider subject account code : String} {token : Token} {profile : Profile}
  {grant : Grant}

theorem addToken_tells : Tells m (.addToken token) () := by
  refine Comes.execute_bind fun reply affected => ?_
  rw [show reply.affected = 1 from affected]
  exact Comes.pure ⟨(), rfl, rfl⟩

theorem saveProfile_tells : Tells m (.saveProfile account profile) () :=
  Comes.execute_bind fun _ _ => Comes.pure ⟨(), rfl, rfl⟩

theorem addGrant_tells : Tells m (.addGrant grant) () :=
  Comes.execute_bind fun _ _ => Comes.pure ⟨(), rfl, rfl⟩

section

variable (representable : m.Representable)
include representable

theorem tokens_tell {found? : Option Token} {reply : Reply} (rows : Option.Rel Token.IsRow found? reply.rows.head?)
    (stored : ∀ token, found? = some token → token ∈ m.tokens.values) :
    Comes m (fun result => ∃ read?, result = .ok read? ∧ found? = read?) (Work.firstRecord Token.ofRow? reply) := by
  refine (Comes.firstRecord Eq rows fun token row found isRow => ?_).mono ?_
  · have precise := representable.precise_token (stored token found)
    exact ⟨token, Token.ofRow?_of_isRow isRow precise, rfl⟩
  · rintro _ ⟨read?, rfl, same⟩
    refine ⟨read?, rfl, ?_⟩
    cases same with
    | none => rfl
    | some same => rw [same]

theorem tokenByAccess_tells : Tells m (.tokenByAccess access) (m.tokens.get? access) :=
  Comes.execute_bind fun _ lists => tokens_tell representable
    (Lists.head lists fun _ => representable.tokenByAccess_iff) fun _ found => Table.mem_values.2 ⟨access, found⟩

theorem tokenByRefresh_tells : Tells m (.tokenByRefresh r) (m.tokenByRefresh? r) :=
  Comes.execute_bind fun _ lists => tokens_tell representable
    (Lists.head lists fun _ => representable.tokenByRefresh_iff) fun _ found =>
      (List.mem_filter.1 (representable.tokenByRefresh_iff.1 found)).1

/-- A token is stored and linked, or the transaction is undone. -/
theorem chainToken_tells : Tells m (.chainToken access token) (m.chainable access) := by
  refine Comes.bind (Comes.beginTransaction ⟨(), rfl, ?_⟩)
  refine Comes.bind (Comes.orAbandon (Comes.execute fun inserted affected => ⟨inserted, rfl, ?_⟩))
  rw [if_neg (by rw [show inserted.affected = 1 from affected]; decide)]
  refine Comes.bind (Comes.orAbandon (Comes.execute fun linked affected => ⟨linked, rfl, ?_⟩))
  rw [show linked.affected = (m.tokensToLink access).length from affected]
  split
  · rename_i none
    have closed : m.chainable access = false :=
      Bool.eq_false_iff.2 fun chainable => representable.chainable_iff.1 chainable none
    exact Comes.bind (Comes.orAbandon (Comes.rollBack ⟨(), rfl, Comes.pure ⟨false, rfl, closed⟩⟩))
  · rename_i some
    have chainable := representable.chainable_iff.2 some
    exact Comes.bind (Comes.orAbandon (Comes.commit ⟨(), rfl, Comes.pure ⟨true, rfl, chainable⟩⟩))

theorem invalidateToken_tells : Tells m (.invalidateToken access) (m.tokens.contains access) := by
  refine Comes.execute_bind fun reply affected => Comes.pure ⟨_, rfl, ?_⟩
  have affected : reply.affected = (m.tokensByAccess access).length := affected
  show m.tokens.contains access = decide (0 < reply.affected)
  rw [Bool.eq_iff_iff, representable.contains_iff, decide_eq_true_iff, affected, Nat.pos_iff_ne_zero]

/-- An account is read from its row and the rows of its profiles. -/
theorem loadAccount_tells {found? : Option Account} {reply : Reply}
    (rows : Option.Rel Account.IsRow found? reply.rows.head?)
    (stored : ∀ account, found? = some account → account ∈ m.accounts.values) :
    Comes m (fun result => ∃ read?, result = .ok read? ∧ Option.Rel Account.Alike found? read?)
      (loadAccount reply) := by
  unfold loadAccount
  generalize reply.rows.head? = first at rows
  cases rows with
  | none => exact Comes.pure ⟨_, rfl, .none⟩
  | some isRow =>
    refine Comes.fitting_bind (Account.text?_id isRow) (Comes.execute_bind fun profiles lists => ?_)
    have readable : ∀ row ∈ profiles.rows, ∃ read, Profile.ofRow? row = some read := by
      intro row mem
      obtain ⟨_, isRow⟩ := Lists.exists_of_mem lists mem
      exact Profile.ofRow?_of_isRow isRow
    have precise := representable.precise_account (stored _ rfl)
    obtain ⟨loaded, fits, alike⟩ := Account.ofRows?_of_isRow isRow precise readable
    exact Comes.fitting_bind fits (Comes.pure ⟨_, rfl, .some alike⟩)

theorem accountByEmail_tells : Tells m (.accountByEmail email) (m.accountByEmail? email) :=
  Comes.execute_bind fun _ lists => loadAccount_tells representable
    (Lists.head lists fun _ => representable.accountByEmail_iff) fun _ found => List.mem_of_find?_eq_some found

theorem accountByIdentity_tells :
    Tells m (.accountByIdentity provider subject) (m.accountByIdentity? provider subject) :=
  Comes.execute_bind fun _ lists => loadAccount_tells representable
    (Lists.head lists fun _ => representable.accountByIdentity_iff) fun _ found => List.mem_of_find?_eq_some found

theorem takeGrant_tells {now : Instant} : Tells m (.takeGrant code)
    (((m.grants.get? code).filter fun grant => grant.usedAt.isNone).map (Grant.presented now)) := by
  refine Comes.execute_bind fun reply lists => ?_
  have rows := Lists.head lists fun _ => representable.grant_iff
  refine (Comes.firstRecord Grant.Alike rows fun grant row found isTaken => ?_).mono ?_
  · have mem := (List.mem_filter.1 (representable.grant_iff.1 found)).1
    exact Grant.ofRow?_of_isTaken isTaken (representable.precise_grant mem)
  · rintro _ ⟨read?, rfl, alike⟩
    refine ⟨read?, rfl, ?_⟩
    generalize (m.grants.get? code).filter _ = found? at alike
    cases alike with
    | none => exact .none
    | some alike =>
      obtain ⟨usedAt, rfl⟩ := alike
      obtain ⟨used, same⟩ := Grant.presented_eq
      rw [Option.map_some, same]
      exact .some ⟨usedAt, rfl⟩

/-- A store call that the store in memory admits comes to the same over the database. -/
theorem tells {call : StoreCall} (admits : m.Admits call) (now : Instant) :
    ∃ value, (m.step now call).1 = .ok value ∧ Tells m call value := by
  cases call with
  | addToken token =>
    obtain ⟨after, inserted⟩ := Memory.insertToken?_of_unused admits
    exact ⟨(), by simp only [Memory.step, inserted], addToken_tells⟩
  | tokenByAccess access => exact ⟨_, rfl, tokenByAccess_tells representable⟩
  | tokenByRefresh r => exact ⟨_, rfl, tokenByRefresh_tells representable⟩
  | chainToken access token =>
    obtain ⟨after, inserted⟩ := Memory.insertToken?_of_unused admits
    refine ⟨m.chainable access, ?_, chainToken_tells representable⟩
    cases chainable : m.chainable access <;> simp [Memory.step, chainable, inserted]
  | invalidateToken access => exact ⟨_, rfl, invalidateToken_tells representable⟩
  | accountByEmail email => exact ⟨_, rfl, accountByEmail_tells representable⟩
  | accountByIdentity provider subject => exact ⟨_, rfl, accountByIdentity_tells representable⟩
  | saveProfile account profile =>
    have known : m.accounts.contains account = true := admits
    exact ⟨(), by simp only [Memory.step, known, if_true], saveProfile_tells⟩
  | addGrant grant => exact ⟨(), rfl, addGrant_tells⟩
  | takeGrant code => exact ⟨_, Memory.step_takeGrant_answer, takeGrant_tells representable⟩

end

end Database

end TokenAuthority
