import TokenAuthority.Store.Memory

/-!
# What a store call leaves alone

Tokens with their index, accounts, and grants: each store call changes one of these at most.
-/

namespace TokenAuthority

namespace StoreCall

/-- Whether a store call can change tokens. -/
def isOfTokens : StoreCall → Bool
  | addToken _ | chainToken _ _ | invalidateToken _ => true
  | _ => false

/-- Whether a store call can change accounts. -/
def isOfAccounts : StoreCall → Bool
  | saveProfile _ _ => true
  | _ => false

/-- Whether a store call can change grants. -/
def isOfGrants : StoreCall → Bool
  | addGrant _ | takeGrant _ => true
  | _ => false

end StoreCall

namespace Memory

variable {m after : Memory} {now : Instant} {call : StoreCall} {token : Token}

theorem insertToken?_frame (inserted : m.insertToken? token = some after) :
    after.accounts = m.accounts ∧ after.grants = m.grants := by
  unfold insertToken? at inserted
  split at inserted
  · cases inserted
  · obtain rfl := Option.some.inj inserted
    exact ⟨rfl, rfl⟩

theorem step_tokens_of_other (other : call.isOfTokens = false) :
    (m.step now call).2.tokens = m.tokens ∧ (m.step now call).2.refreshIndex = m.refreshIndex := by
  cases call with
  | addToken token => cases other
  | chainToken access token => cases other
  | invalidateToken access => cases other
  | saveProfile account profile =>
    simp only [step]
    split <;> exact ⟨rfl, rfl⟩
  | takeGrant code =>
    simp only [step]
    split <;> exact ⟨rfl, rfl⟩
  | _ => exact ⟨rfl, rfl⟩

/-- What a store call does to tokens does nothing to accounts and grants. -/
theorem step_of_tokens (tokens : call.isOfTokens = true) :
    (m.step now call).2.accounts = m.accounts ∧ (m.step now call).2.grants = m.grants := by
  cases call with
  | addToken token =>
    simp only [step]
    split
    · rename_i inserted
      exact insertToken?_frame inserted
    · exact ⟨rfl, rfl⟩
  | chainToken access token =>
    simp only [step]
    split
    · split
      · rename_i inserted
        obtain ⟨accounts, grants⟩ := insertToken?_frame inserted
        exact ⟨accounts, grants⟩
      · exact ⟨rfl, rfl⟩
    · exact ⟨rfl, rfl⟩
  | invalidateToken access => exact ⟨rfl, rfl⟩
  | _ => cases tokens

theorem step_accounts_of_other (other : call.isOfAccounts = false) : (m.step now call).2.accounts = m.accounts := by
  by_cases tokens : call.isOfTokens = true
  · exact (step_of_tokens tokens).1
  · cases call with
    | saveProfile account profile => cases other
    | takeGrant code =>
      simp only [step]
      split <;> rfl
    | addToken token => exact (tokens rfl).elim
    | chainToken access token => exact (tokens rfl).elim
    | _ => rfl

theorem step_grants_of_other (other : call.isOfGrants = false) : (m.step now call).2.grants = m.grants := by
  by_cases tokens : call.isOfTokens = true
  · exact (step_of_tokens tokens).2
  · cases call with
    | addGrant grant => cases other
    | takeGrant code => cases other
    | saveProfile account profile =>
      simp only [step]
      split <;> rfl
    | addToken token => exact (tokens rfl).elim
    | chainToken access token => exact (tokens rfl).elim
    | _ => rfl

end Memory

end TokenAuthority
