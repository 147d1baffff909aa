import TokenAuthority.Proofs.Google.Identity
import TokenAuthority.Proofs.Refresh.OneSuccessor

/-!
# No illegal states

The service reports an illegal state where a token has gone, a successor is missing, a lost race cannot be
made out, or an access string is taken. In a run that starts without tokens and in which no string is
drawn twice none of that happens.
-/

namespace TokenAuthority

/-- What Google's provider reports is no illegal state. -/
theorem Google.identify_not_illegalState (w : World) (endpoint accessToken reason : String) (journal : Journal) :
    ((w.answerAmbient (.identify (Google.provider endpoint) accessToken)).run journal).1 ≠
      .error (.illegalState reason) := by
  show (((identify endpoint accessToken).run w.answerExchange).run journal).1 ≠ _
  intro fails
  obtain ⟨_, ⟨⟩⟩ | ⟨_, ⟨⟩⟩ | ⟨_, ⟨⟩⟩ := identify_error fails

namespace Interleaving

variable {run : Interleaving} {id n m : Nat} {reason : String} {access : String} {token : Token}

theorem Settles.not_illegalState {r : String} {result : Except Failure Token} (settles : run.Settles id r n result) :
    result ≠ .error (.illegalState reason) := by
  cases settles with
  | handed =>
    unfold Token.handedOut
    split
    · nofun
    · split <;> nofun
  | _ => nofun

theorem Does.addToken_not_fails {failure : Failure} (fresh : run.Fresh)
    (adds : run.Does n id (.store (.addToken token)) (.error failure)) : False := by
  obtain ⟨now, answered, -⟩ := adds.step
  exact Memory.step_addToken_fails answered.symm (((adds.warrant.mints rfl).new fresh).access)

theorem Excuse.reports (excuse : run.Excuse id n reason) (fresh : run.Fresh) :
    ∃ k provider accessToken, k < n ∧
      run.Does k id (.ambient (.identify provider accessToken)) (.error (.illegalState reason)) := by
  cases excuse with
  | collided before does => exact (does.addToken_not_fails fresh).elim
  | reported before does => exact ⟨_, _, _, before, does⟩

/-- Whoever loses a race finds out why: the token was refreshed or invalidated. -/
theorem Does.lost {found : Option Token} (fresh : run.Fresh) (empty : run.StartsEmpty)
    (chains : run.Does n id (.store (.chainToken access token)) (.ok false)) (later : n ≤ m)
    (reads : run.Does m id (.store (.tokenByAccess access)) (.ok found)) :
    ∃ current, found = some current ∧ (current.wasRefreshed = true ∨ current.wasInvalidated = true) := by
  obtain ⟨-, -, r, k, old, -, before, looks, rfl, -⟩ := chains.warrant
  obtain ⟨early, -, kept, -⟩ := found_later fresh empty looks.finds.symm (Nat.le_of_lt before)
  obtain ⟨current, read, closed⟩ := chains.refuses kept later
  refine ⟨current, ?_, ?_⟩
  · rw [Reads.finds ⟨Nat.le_refl m, reads⟩, read]
  · rcases closed with closed | linked
    · exact .inr (by simp [Token.wasInvalidated, closed])
    · exact .inl linked

theorem Ends.reports {call : Call} (ends : run.Ends id call n (.error (.illegalState reason))) (fresh : run.Fresh)
    (empty : run.StartsEmpty) : ∃ k provider accessToken, k < n ∧
      run.Does k id (.ambient (.identify provider accessToken)) (.error (.illegalState reason)) := by
  cases call with
  | refresh r =>
    obtain ⟨result, attempt, same⟩ := ends
    cases result with
    | ok token => cases same
    | error failure =>
      obtain rfl := Except.error.inj same
      exact ((attempt.settles fresh empty).not_illegalState rfl).elim
  | authenticate access =>
    obtain ⟨result, same, excused, -⟩ := ends
    cases result with
    | ok token => cases same
    | error failure =>
      obtain rfl := Except.error.inj same
      exact (excused reason rfl).reports fresh
  | _ => exact (ends reason rfl).reports fresh

/-- No call reports an illegal state, unless its identity provider did, which Google's does not. Tokens never go away,
successors are stored, a lost race leaves the token refreshed or invalidated, and no access string of a new token is
taken. -/
theorem no_illegal_state (run : Interleaving) (fresh : run.Fresh) (empty : run.StartsEmpty) :
    (∀ n id reason, run.Returned n id (.error (.illegalState reason)) → ∃ k provider accessToken, k < n ∧
      run.Does k id (.ambient (.identify provider accessToken)) (.error (.illegalState reason))) ∧
    (∀ n m access token, n ≤ m → (run.memory n).tokens.get? access = some token →
      ∃ later, (run.memory m).tokens.get? access = some later) ∧
    (∀ n access token successor, (run.memory n).tokens.get? access = some token → token.next = some successor →
      ∃ next, (run.memory n).tokens.get? successor = some next) ∧
    (∀ n m id access token found, run.Does n id (.store (.chainToken access token)) (.ok false) → n ≤ m →
      run.Does m id (.store (.tokenByAccess access)) (.ok found) →
      ∃ current, found = some current ∧ (current.wasRefreshed = true ∨ current.wasInvalidated = true)) ∧
    (∀ n id call answer token, run.Does n id (.store call) answer → call.token? = some token →
      (run.memory n).tokens.get? token.access = none) ∧
    ∀ (w : World) endpoint accessToken reason journal,
      ((w.answerAmbient (.identify (Google.provider endpoint) accessToken)).run journal).1 ≠
        .error (.illegalState reason) := by
  refine ⟨?_, ?_, ?_, ?_, ?_, Google.identify_not_illegalState⟩
  · intro n id reason returned
    obtain ⟨call, starts⟩ := returned.started
    obtain ⟨m, early, -, ends⟩ := returned.ends starts
    obtain ⟨k, provider, accessToken, before, reported⟩ := ends.reports fresh empty
    exact ⟨k, provider, accessToken, Nat.lt_of_lt_of_le before early, reported⟩
  · intro n m access token later found
    obtain ⟨kept, read, -⟩ := memory_grows run later found
    exact ⟨kept, read⟩
  · intro n access token successor found next
    exact (memory_orderly fresh empty n).chained.stored ⟨token, found, next⟩
  · intro n m id access token found chains later reads
    exact chains.lost fresh empty later reads
  · intro n id call answer token does adds
    exact ((does.warrant.mints adds).new fresh).access

/-- The refresh that loses a race reads a token that was refreshed or invalidated. -/
theorem race_legal : race.Fresh ∧ race.StartsEmpty ∧
    ∃ token current, race.Does 23 10 (.store (.chainToken "a" token)) (.ok false) ∧
      race.Does 25 10 (.store (.tokenByAccess "a")) (.ok (some current)) ∧
      (current.wasRefreshed = true ∨ current.wasInvalidated = true) := by
  obtain ⟨-, -, -, lost, -⟩ := no_illegal_state race race_fresh race_startsEmpty
  have refused : race.Does 23 10 (.store (.chainToken "a" (.issued "u" 3600 (.ofSeconds 0) "c" "t"))) (.ok false) :=
    ⟨_, _, _, rfl, rfl, rfl⟩
  have reads : race.Does 25 10 (.store (.tokenByAccess "a")) (.ok ((race.memory 25).tokens.get? "a")) :=
    ⟨_, _, _, rfl, rfl, rfl⟩
  obtain ⟨current, found, closed⟩ := lost 23 25 10 _ _ _ refused (by decide) reads
  rw [found] at reads
  exact ⟨race_fresh, race_startsEmpty, _, current, refused, reads, closed⟩

end Interleaving

end TokenAuthority
