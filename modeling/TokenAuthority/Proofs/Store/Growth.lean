import TokenAuthority.Store.Memory

/-!
# What a store call does to tokens

`step_changes` lists what one store call can do to the tokens and their index: add a token, add one
and link another to it, invalidate one, or leave them alone. A record never goes away, and of its
fields only two ever change, each in one direction: `step_grows`.
-/

namespace TokenAuthority

/-! ### Later states of records -/

/-- A later state of a token: since then it can have been invalidated and have got a successor. -/
structure Token.Grows (token later : Token) : Prop where
  frame : later = { token with valid := later.valid, next := later.next }
  invalid : token.valid = false → later.valid = false
  linked : ∀ {access}, token.next = some access → later.next = some access

/-- A later state of the store, as far as its tokens go. -/
def Memory.Grows (m after : Memory) : Prop :=
  ∀ {access token}, m.tokens.get? access = some token →
    ∃ later, after.tokens.get? access = some later ∧ token.Grows later

namespace Token

variable {token middle later : Token}

/-- A token with the given successor. -/
def withNext (successor : String) (old : Token) : Token := { old with next := some successor }

/-- A token that was invalidated. -/
def invalidated (token : Token) : Token := { token with valid := false }

namespace Grows

theorem refl (token : Token) : token.Grows token := ⟨rfl, id, id⟩

theorem of_invalidated (token : Token) : token.Grows token.invalidated := ⟨rfl, fun _ => rfl, id⟩

theorem of_withNext (alone : token.next = none) (successor : String) :
    token.Grows (token.withNext successor) := by
  refine ⟨rfl, id, fun next => ?_⟩
  rw [alone] at next
  cases next

theorem trans (first : token.Grows middle) (last : middle.Grows later) : token.Grows later := by
  refine ⟨?_, last.invalid ∘ first.invalid, fun linked => last.linked (first.linked linked)⟩
  have early := first.frame
  have late := last.frame
  rw [early] at late
  exact late

theorem access (grows : token.Grows later) : later.access = token.access := by rw [grows.frame]

theorem refresh (grows : token.Grows later) : later.refresh = token.refresh := by rw [grows.frame]

theorem owner (grows : token.Grows later) : later.owner = token.owner := by rw [grows.frame]

theorem code (grows : token.Grows later) : later.code = token.code := by rw [grows.frame]

/-- A token that is still valid and has no successor is as it was. -/
theorem eq_of_open (grows : token.Grows later) (valid : later.valid = true)
    (last : later.next = none) : later = token := by
  have before : token.valid = true := by
    cases closed : token.valid with
    | true => rfl
    | false =>
      rw [grows.invalid closed] at valid
      cases valid
  have alone : token.next = none := by
    cases next : token.next with
    | none => rfl
    | some access =>
      rw [grows.linked next] at last
      cases last
  rw [grows.frame, valid, last, ← before, ← alone]

end Grows

end Token

/-- The token that a store call is to add. -/
def StoreCall.token? : StoreCall → Option Token
  | .addToken token => some token
  | .chainToken _ token => some token
  | _ => none

namespace Memory

variable {m middle after : Memory} {access : String} {token : Token} {call : StoreCall}

theorem Grows.refl (m : Memory) : m.Grows m := fun found => ⟨_, found, .refl _⟩

theorem Grows.trans (first : m.Grows middle) (last : middle.Grows after) : m.Grows after := by
  intro access token found
  obtain ⟨between, found, early⟩ := first found
  obtain ⟨later, found, late⟩ := last found
  exact ⟨later, found, early.trans late⟩

/-! ### What one store call does -/

/-- No token is stored under a string. -/
structure Unused (m : Memory) (text : String) : Prop where
  access : m.tokens.get? text = none
  refresh : m.refreshIndex.get? text = none

theorem insertToken?_eq_some (h : m.insertToken? token = some after) :
    m.tokens.get? token.access = none ∧ after.tokens = m.tokens.insert token.access token ∧
      (∀ refresh, after.refreshIndex.get? refresh =
        if token.refresh = some refresh then some token.access else m.refreshIndex.get? refresh) := by
  unfold insertToken? at h
  split at h
  · cases h
  · rename_i unused
    obtain rfl := Option.some.inj h
    refine ⟨by simpa [Table.contains] using unused, rfl, fun refresh => ?_⟩
    dsimp only
    cases token.refresh with
    | none => simp
    | some own => simp [Table.get?_insert, eq_comm]

theorem insertToken?_of_unused (unused : m.tokens.get? token.access = none) :
    ∃ after, m.insertToken? token = some after := by
  simp [insertToken?, Table.contains, unused]

theorem chainable_iff : m.chainable access = true ↔
    ∃ old, m.tokens.get? access = some old ∧ old.valid = true ∧ old.next = none := by
  simp [chainable, Option.any_eq_true]

theorem step_addToken_fails {now : Instant} {failure : Failure}
    (fails : (m.step now (.addToken token)).1 = .error failure) : m.tokens.get? token.access ≠ none := by
  intro unused
  obtain ⟨after, inserted⟩ := insertToken?_of_unused unused
  simp only [step, inserted] at fails
  cases fails

theorem step_chainToken_fails {now : Instant} {failure : Failure}
    (fails : (m.step now (.chainToken access token)).1 = .error failure) : m.tokens.get? token.access ≠ none := by
  intro unused
  obtain ⟨after, inserted⟩ := insertToken?_of_unused unused
  simp only [step, inserted] at fails
  split at fails <;> cases fails

theorem step_chainToken_refuses {now : Instant}
    (refuses : (m.step now (.chainToken access token)).1 = .ok false) : m.chainable access = false := by
  simp only [step] at refuses
  split at refuses
  · split at refuses <;> cases refuses
  · rename_i closed
    exact eq_false_of_ne_true closed

theorem step_chainToken_of_open {old : Token} (found : m.tokens.get? access = some old) (valid : old.valid = true)
    (last : old.next = none) (unused : m.tokens.get? token.access = none) :
    ∃ after, ∀ now, m.step now (.chainToken access token) = (.ok true, after) := by
  obtain ⟨middle, inserted⟩ := insertToken?_of_unused unused
  have chainable : m.chainable access = true := chainable_iff.2 ⟨old, found, valid, last⟩
  simp only [step, chainable, inserted, if_true]
  exact ⟨_, fun _ => rfl⟩

theorem step_addToken_tokens {now : Instant} (unused : m.tokens.get? token.access = none) :
    (m.step now (.addToken token)).2.tokens = m.tokens.insert token.access token := by
  obtain ⟨after, inserted⟩ := insertToken?_of_unused unused
  simp only [step, inserted]
  exact (insertToken?_eq_some inserted).2.1

/-- Chaining that succeeds has found an open token, and leaves it linked to the new one. -/
theorem step_chainToken_links {now : Instant} (links : (m.step now (.chainToken access token)).1 = .ok true) :
    ∃ old, m.tokens.get? access = some old ∧ old.valid = true ∧ old.next = none ∧
      (m.step now (.chainToken access token)).2.tokens.get? access = some (old.withNext token.access) ∧
      (m.step now (.chainToken access token)).2.tokens.get? token.access = some token := by
  simp only [step] at links ⊢
  split at links
  · rename_i chainable
    obtain ⟨old, found, valid, last⟩ := chainable_iff.1 chainable
    split at links
    · rename_i middle inserted
      obtain ⟨unused, tokens, -⟩ := insertToken?_eq_some inserted
      have different : token.access ≠ access := by
        rintro rfl
        rw [unused] at found
        cases found
      refine ⟨old, found, valid, last, ?_, ?_⟩
      · simp only [if_pos chainable, tokens, Table.get?_modify, Table.get?_insert,
          if_neg different.symm, found, if_pos, Option.map_some]
        rfl
      · simp only [if_pos chainable, tokens, Table.get?_modify, Table.get?_insert, if_neg different, if_pos]
    · cases links
  · cases links

/-- What a store call can do to the tokens and their index. -/
inductive Changes (m : Memory) : StoreCall → Memory → Prop where
  | inserts (token : Token) (after : Memory) (inserted : m.insertToken? token = some after) :
      Changes m (.addToken token) after
  | chains (access : String) (token : Token) (middle after : Memory)
      (chainable : m.chainable access = true) (inserted : m.insertToken? token = some middle)
      (tokens : after.tokens = middle.tokens.modify access (Token.withNext token.access))
      (index : after.refreshIndex = middle.refreshIndex) : Changes m (.chainToken access token) after
  | closes (access : String) (after : Memory) (tokens : after.tokens = m.tokens.modify access Token.invalidated)
      (index : after.refreshIndex = m.refreshIndex) : Changes m (.invalidateToken access) after
  | keeps (call : StoreCall) (after : Memory) (tokens : after.tokens = m.tokens)
      (index : after.refreshIndex = m.refreshIndex) : Changes m call after

theorem step_changes (m : Memory) (now : Instant) (call : StoreCall) :
    m.Changes call (m.step now call).2 := by
  cases call with
  | addToken token =>
    simp only [step]
    split
    · rename_i inserted
      exact .inserts _ _ inserted
    · exact .keeps _ _ rfl rfl
  | chainToken access token =>
    simp only [step]
    split
    · rename_i chainable
      split
      · rename_i inserted
        exact .chains _ _ _ _ chainable inserted rfl rfl
      · exact .keeps _ _ rfl rfl
    · exact .keeps _ _ rfl rfl
  | invalidateToken access => exact .closes _ _ rfl rfl
  | tokenByAccess access => exact .keeps _ _ rfl rfl
  | tokenByRefresh refresh => exact .keeps _ _ rfl rfl
  | accountByEmail email => exact .keeps _ _ rfl rfl
  | accountByIdentity provider subject => exact .keeps _ _ rfl rfl
  | saveProfile account profile => simp only [step]; split <;> exact .keeps _ _ rfl rfl
  | addGrant grant => exact .keeps _ _ rfl rfl
  | takeGrant code => simp only [step]; split <;> exact .keeps _ _ rfl rfl

/-- A record stays, and changes only by being invalidated or by getting a successor when it has none. -/
theorem Changes.grows (changes : m.Changes call after) : m.Grows after := by
  intro other token found
  cases changes with
  | inserts successor after inserted =>
    obtain ⟨unused, tokens, -⟩ := insertToken?_eq_some inserted
    rw [tokens]
    exact ⟨token, (Table.get?_insert_eq_some unused).2 (.inr found), .refl token⟩
  | chains access successor middle after chainable inserted changed index =>
    obtain ⟨unused, tokens, -⟩ := insertToken?_eq_some inserted
    have old : middle.tokens.get? other = some token := by
      rw [tokens]
      exact (Table.get?_insert_eq_some unused).2 (.inr found)
    rw [changed]
    refine ⟨_, Table.get?_modify_eq_some.2 ⟨token, old, rfl⟩, ?_⟩
    split
    · rename_i same
      subst same
      obtain ⟨current, read, -, alone⟩ := chainable_iff.1 chainable
      rw [found] at read
      obtain rfl := Option.some.inj read
      exact .of_withNext alone _
    · exact .refl token
  | closes access after changed index =>
    rw [changed]
    refine ⟨_, Table.get?_modify_eq_some.2 ⟨token, found, rfl⟩, ?_⟩
    split
    · exact .of_invalidated token
    · exact .refl token
  | keeps call after same index => exact ⟨token, by rw [same, found], .refl token⟩

/-- A token that was invalidated does not change any more, so it never gets a successor. -/
theorem Changes.closed (changes : m.Changes call after) (found : m.tokens.get? access = some token)
    (closed : token.valid = false) : after.tokens.get? access = some token := by
  cases changes with
  | inserts successor after inserted =>
    obtain ⟨unused, tokens, -⟩ := insertToken?_eq_some inserted
    rw [tokens]
    exact (Table.get?_insert_eq_some unused).2 (.inr found)
  | chains other successor middle after chainable inserted changed index =>
    obtain ⟨unused, tokens, -⟩ := insertToken?_eq_some inserted
    obtain ⟨old, read, valid, -⟩ := chainable_iff.1 chainable
    have different : access ≠ other := by
      rintro rfl
      rw [found] at read
      obtain rfl := Option.some.inj read
      rw [closed] at valid
      cases valid
    rw [changed, Table.get?_modify, if_neg different, tokens]
    exact (Table.get?_insert_eq_some unused).2 (.inr found)
  | closes other after changed index =>
    have same : token.invalidated = token := by rw [Token.invalidated, ← closed]
    rw [changed, Table.get?_modify, found]
    split
    · rw [Option.map_some, same]
    · rfl
  | keeps call after same index => rw [same, found]

/-- Invalidating that reports to have found a token leaves it invalid. -/
theorem step_invalidateToken_closes {now : Instant} (closes : (m.step now (.invalidateToken access)).1 = .ok true) :
    ∃ token, (m.step now (.invalidateToken access)).2.tokens.get? access = some token ∧ token.valid = false := by
  have stored : m.tokens.contains access = true := Except.ok.inj closes
  obtain ⟨token, found⟩ := Option.isSome_iff_exists.1 stored
  refine ⟨token.invalidated, ?_, rfl⟩
  show (m.tokens.modify access Token.invalidated).get? access = _
  rw [Table.get?_modify, if_pos rfl, found, Option.map_some]

/-- A store call takes no strings but those of the token that it adds. -/
theorem Changes.unused {text : String} (changes : m.Changes call after) (unused : m.Unused text)
    (other : ∀ token, call.token? = some token → token.access ≠ text ∧ token.refresh ≠ some text) :
    after.Unused text := by
  obtain ⟨access, refresh⟩ := unused
  have kept {f : Token → Token} {tokens : Table Token} {key : String} (free : tokens.get? text = none) :
      (tokens.modify key f).get? text = none := by
    rw [Table.get?_modify, free]
    split <;> rfl
  have added {token : Token} {grown : Memory} (inserted : m.insertToken? token = some grown)
      (different : token.access ≠ text ∧ token.refresh ≠ some text) : grown.Unused text := by
    obtain ⟨-, tokens, index⟩ := insertToken?_eq_some inserted
    refine ⟨?_, ?_⟩
    · rw [tokens, Table.get?_insert, if_neg different.1.symm, access]
    · rw [index, if_neg different.2, refresh]
  cases changes with
  | inserts token after inserted => exact added inserted (other token rfl)
  | chains old token middle after chainable inserted tokens index =>
    have grown := added inserted (other token rfl)
    exact ⟨by rw [tokens]; exact kept grown.access, by rw [index]; exact grown.refresh⟩
  | closes old after tokens index => exact ⟨by rw [tokens]; exact kept access, by rw [index]; exact refresh⟩
  | keeps call after tokens index => exact ⟨by rw [tokens]; exact access, by rw [index]; exact refresh⟩

theorem step_grows (m : Memory) (now : Instant) (call : StoreCall) : m.Grows (m.step now call).2 :=
  (step_changes m now call).grows

end Memory

end TokenAuthority
