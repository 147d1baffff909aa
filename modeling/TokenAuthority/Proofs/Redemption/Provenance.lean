import TokenAuthority.Proofs.Redemption.Outcome

/-!
# Where authority comes from

Tokens and grants pass on the name of their owner: a refreshed token that of the old one, a grant that of the
token it was authorized with, a token for a client that of the grant. At the start of each such line stands a
call that has signed in to the account.
-/

namespace TokenAuthority

/-- Whether a call presents what shows that an account is the caller's. -/
def Call.isLogin : Call → Bool
  | .issueFromPassword _ _ | .issueFromProvider _ _ => true
  | _ => false

namespace Memory

variable {m after : Memory} {call : StoreCall} {access : String} {token : Token}

/-- Every token and every grant is in the name of an owner of a kind. -/
structure OwnedBy (m : Memory) (known : String → Prop) : Prop where
  tokens : ∀ access token, m.tokens.get? access = some token → known token.owner
  grants : ∀ code grant, m.grants.get? code = some grant → known grant.owner

theorem insertToken?_owner {added : Token} (inserted : m.insertToken? added = some after)
    (found : after.tokens.get? access = some token) :
    (∃ old, m.tokens.get? access = some old ∧ token.owner = old.owner) ∨ token.owner = added.owner := by
  obtain ⟨unused, tokens, -⟩ := insertToken?_eq_some inserted
  rw [tokens, Table.get?_insert_eq_some unused] at found
  rcases found with ⟨-, rfl⟩ | before
  · exact .inr rfl
  · exact .inl ⟨token, before, rfl⟩

/-- A token has the owner of one that was stored before, or it is new. -/
theorem Changes.owner (changes : m.Changes call after) (found : after.tokens.get? access = some token) :
    (∃ old, m.tokens.get? access = some old ∧ token.owner = old.owner) ∨
      ∃ added, call.token? = some added ∧ m.tokens.get? added.access = none ∧ token.owner = added.owner := by
  cases changes with
  | inserts added after inserted =>
    refine (insertToken?_owner inserted found).imp_right fun own => ?_
    exact ⟨added, rfl, (insertToken?_eq_some inserted).1, own⟩
  | chains linked added middle after chainable inserted tokens index =>
    rw [tokens] at found
    obtain ⟨old, before, changed⟩ := Table.get?_modify_eq_some.1 found
    have owner : token.owner = old.owner := by
      rw [changed]
      split <;> rfl
    rw [owner]
    refine (insertToken?_owner inserted before).imp_right fun own => ?_
    exact ⟨added, rfl, (insertToken?_eq_some inserted).1, own⟩
  | closes closed after tokens index =>
    rw [tokens] at found
    obtain ⟨old, before, changed⟩ := Table.get?_modify_eq_some.1 found
    refine .inl ⟨old, before, ?_⟩
    rw [changed]
    split <;> rfl
  | keeps call after tokens index =>
    rw [tokens] at found
    exact .inl ⟨token, found, rfl⟩

/-- A grant has the owner of one that was stored before, or it is new. -/
theorem step_grant_owner {now : Instant} {code : String} {grant : Grant}
    (found : (m.step now call).2.grants.get? code = some grant) :
    (∃ old, m.grants.get? code = some old ∧ grant.owner = old.owner) ∨ call = .addGrant grant := by
  by_cases of_grants : call.isOfGrants = true
  · cases call with
    | addGrant added =>
      rw [step_addGrant_grants] at found
      split at found
      · obtain rfl := Option.some.inj found
        exact .inr rfl
      · exact .inl ⟨grant, found, rfl⟩
    | takeGrant taken =>
      rw [step_takeGrant_grants] at found
      split at found
      · obtain ⟨old, before, rfl⟩ := Option.map_eq_some_iff.1 found
        exact .inl ⟨old, before, Grant.presented_owner⟩
      · exact .inl ⟨grant, found, rfl⟩
    | _ => cases of_grants
  · rw [step_grants_of_other (eq_false_of_ne_true of_grants)] at found
    exact .inl ⟨grant, found, rfl⟩

end Memory

namespace Interleaving

variable {run : Interleaving} {n m id : Nat} {owner : String}

/-- Before instant `n` a call has signed in to an account and has stored a token for it. -/
def LoggedIn (run : Interleaving) (n : Nat) (owner : String) : Prop :=
  ∃ i id token, i < n ∧ run.SignsIn id i owner ∧ run.Does i id (.store (.addToken token)) (.ok ()) ∧
    token.owner = owner

theorem LoggedIn.mono (logged : run.LoggedIn n owner) (later : n ≤ m) : run.LoggedIn m owner := by
  obtain ⟨i, id, token, before, signs, adds, own⟩ := logged
  exact ⟨i, id, token, by omega, signs, adds, own⟩

/-! ### What a call knows of an owner it has read from the store -/

section

variable {k : Nat} (earlier : (run.memory k).OwnedBy (run.LoggedIn k)) (before : k < n)
include earlier before

theorem Does.bearer_logged {access : String} {token : Token}
    (reads : run.Does k id (.store (.tokenByAccess access)) (.ok (some token))) : run.LoggedIn n token.owner := by
  obtain ⟨now, answered, -⟩ := reads.step
  have found : some token = (run.memory k).tokens.get? access := Except.ok.inj answered
  exact (earlier.tokens access token found.symm).mono (Nat.le_of_lt before)

theorem Does.refreshed_logged {r : String} {old : Token}
    (looks : run.Does k id (.store (.tokenByRefresh r)) (.ok (some old))) : run.LoggedIn n old.owner := by
  obtain ⟨access, -, found⟩ := Option.bind_eq_some_iff.1 looks.finds.symm
  exact (earlier.tokens access old found).mono (Nat.le_of_lt before)

theorem Does.taken_logged {code : String} {grant : Grant}
    (takes : run.Does k id (.store (.takeGrant code)) (.ok (some grant))) : run.LoggedIn n grant.owner := by
  obtain ⟨now, answered, -⟩ := takes.step
  rw [Memory.step_takeGrant_answer] at answered
  obtain ⟨stored, found, rfl⟩ := Option.map_eq_some_iff.1 (Except.ok.inj answered).symm
  rw [Grant.presented_owner]
  exact (earlier.grants code stored (Option.filter_eq_some_iff.1 found).1).mono (Nat.le_of_lt before)

end

/-! ### One step, and all of them -/

/-- The owner of a token that a call adds has logged in, the call itself included. -/
theorem Does.token_logged {call : StoreCall} {answer : call.Answer} {added : Token}
    (earlier : ∀ k, k < n → (run.memory k).OwnedBy (run.LoggedIn k)) (does : run.Does n id (.store call) answer)
    (adds : call.token? = some added) (unused : (run.memory n).tokens.get? added.access = none) :
    run.LoggedIn (n + 1) added.owner := by
  cases call with
  | addToken token =>
    obtain rfl := Option.some.inj adds
    rcases does.grounds with ⟨-, signs⟩ | ⟨starts, before, takes, own, -⟩
    · have added : answer = .ok () := by
        cases answer with
        | ok value => rfl
        | error failure =>
          obtain ⟨now, answered, -⟩ := does.step
          exact (Memory.step_addToken_fails answered.symm unused).elim
      exact ⟨n, id, token, Nat.lt_succ_self n, signs, added ▸ does, rfl⟩
    · rw [← own]
      exact takes.taken_logged (earlier _ before) (by omega)
  | chainToken access token =>
    obtain rfl := Option.some.inj adds
    obtain ⟨-, -, r, k, old, -, before, looks, -, -, owner⟩ := does.warrant
    rw [owner]
    exact looks.refreshed_logged (earlier k before) (by omega)
  | _ => cases adds

theorem memory_owned (noTokens : run.initial.tokens = .empty) (noGrants : run.initial.grants = .empty) (n : Nat) :
    (run.memory n).OwnedBy (run.LoggedIn n) := by
  -- A call adds what it was told to by records that it read at earlier instants.
  induction n using Nat.strongRecOn with
  | ind n earlier =>
    cases n with
    | zero =>
      constructor
      · intro access token found
        rw [show (run.memory 0).tokens = .empty from noTokens] at found
        cases found
      · intro code grant found
        rw [show (run.memory 0).grants = .empty from noGrants] at found
        cases found
    | succ n =>
      have now := earlier n (Nat.lt_succ_self n)
      have past (k : Nat) (before : k < n) := earlier k (Nat.lt_succ_of_lt before)
      rcases run.memory_succ n with same | ⟨id, call, answer, does⟩
      · rw [same]
        exact ⟨fun access token found => (now.tokens access token found).mono (Nat.le_succ n),
          fun code grant found => (now.grants code grant found).mono (Nat.le_succ n)⟩
      · obtain ⟨time, -, after⟩ := does.step
        rw [after]
        constructor
        · intro access token found
          rcases (Memory.step_changes _ time call).owner found with ⟨old, stored, own⟩ | ⟨added, adds, unused, own⟩
          · rw [own]
            exact (now.tokens access old stored).mono (Nat.le_succ n)
          · rw [own]
            exact does.token_logged past adds unused
        · intro code grant found
          rcases Memory.step_grant_owner found with ⟨old, stored, own⟩ | rfl
          · rw [own]
            exact (now.grants code old stored).mono (Nat.le_succ n)
          · obtain ⟨bearer, bears⟩ := does.grounds
            have owner : grant.owner = bearer.owner := by
              rw [bears.issued]
              rfl
            cases bears with
            | @of access k e now starts first before reads =>
              rw [owner]
              exact reads.bearer_logged (past k (by omega)) (by omega)

theorem LoggedIn.starts (logged : run.LoggedIn n owner) :
    ∃ id call, id < n ∧ run.move id = .start call ∧ call.isLogin = true := by
  obtain ⟨i, id, token, before, signs, adds, -⟩ := logged
  have started : id < n := Nat.lt_trans adds.started.2 before
  cases signs with
  | password starts => exact ⟨id, _, started, starts, rfl⟩
  | provider starts => exact ⟨id, _, started, starts, rfl⟩

/-- Whoever a token or a grant is in the name of has logged in before: some call has found their account by its
email address, with the right password and activated, or by an identity that a provider has confirmed and the
account is linked to, and has stored a token for it. As long as no such call has started there are no tokens
and no grants at all. -/
theorem owners_have_logged_in (run : Interleaving) (noTokens : run.initial.tokens = .empty)
    (noGrants : run.initial.grants = .empty) (n : Nat) :
    (∀ access token, (run.memory n).tokens.get? access = some token → run.LoggedIn n token.owner) ∧
    (∀ code grant, (run.memory n).grants.get? code = some grant → run.LoggedIn n grant.owner) ∧
    ((∀ id call, id < n → run.move id = .start call → call.isLogin = false) →
      ∀ text, (run.memory n).tokens.get? text = none ∧ (run.memory n).grants.get? text = none) := by
  obtain ⟨tokens, grants⟩ := memory_owned noTokens noGrants n
  refine ⟨tokens, grants, fun others text => ?_⟩
  have nobody (owner : String) (logged : run.LoggedIn n owner) : False := by
    obtain ⟨id, call, before, starts, login⟩ := logged.starts
    rw [others id call before starts] at login
    cases login
  constructor
  · rw [Option.eq_none_iff_forall_ne_some]
    exact fun token found => nobody token.owner (tokens text token found)
  · rw [Option.eq_none_iff_forall_ne_some]
    exact fun grant found => nobody grant.owner (grants text grant found)

/-- The token of the client goes back to the login of the account `u`. -/
theorem delegation_logged_in : delegation.initial.tokens = .empty ∧ delegation.initial.grants = .empty ∧
    ((delegation.memory 25).tokens.get? "b").map Token.code = some (some "k") ∧ delegation.LoggedIn 25 "u" := by
  obtain ⟨tokens, -, -⟩ := owners_have_logged_in delegation rfl rfl 25
  have found : (delegation.memory 25).tokens.get? "b" = some (.delegated "u" "k" 3600 (.ofSeconds 0) "b") := rfl
  exact ⟨rfl, rfl, by rw [found]; rfl, tokens "b" _ found⟩

end Interleaving

end TokenAuthority
