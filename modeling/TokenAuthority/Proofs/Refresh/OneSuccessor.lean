import TokenAuthority.Proofs.Interleaving.Finite
import TokenAuthority.Proofs.Refresh.Outcome

/-!
# One successor for each refresh string

However many refreshes of one token overlap, with one another and with other calls, the store links the
token once, and every refresh that succeeds hands out the token that it was linked to.
-/

namespace TokenAuthority

namespace Interleaving

variable {run : Interleaving} {id other n m k : Nat} {r access : String} {old token token' : Token}

theorem linked_once (first : run.Does n id (.store (.chainToken access token)) (.ok true))
    (second : run.Does m other (.store (.chainToken access token')) (.ok true)) : n = m := by
  -- Once linked, a token stays linked, and then it cannot be chained to.
  have apart {n m id other : Nat} {token token' : Token}
      (first : run.Does n id (.store (.chainToken access token)) (.ok true))
      (second : run.Does m other (.store (.chainToken access token')) (.ok true)) : ¬n < m := by
    intro before
    obtain ⟨old, -, -, -, linked, -⟩ := first.links
    obtain ⟨later, kept, grows⟩ := memory_grows run before linked
    obtain ⟨again, read, -, last, -⟩ := second.links
    rw [kept] at read
    obtain rfl := Option.some.inj read
    have next : later.next = some token.access := grows.linked rfl
    rw [last] at next
    cases next
  exact Nat.le_antisymm (Nat.le_of_not_lt (apart second first)) (Nat.le_of_not_lt (apart first second))

/-- A refresh chains to the token that has its string. -/
theorem Does.chains_own {answer : Except Failure Bool} (fresh : run.Fresh) (empty : run.StartsEmpty)
    (starts : run.move id = .start (.refresh r))
    (chains : run.Does n id (.store (.chainToken access token)) answer) :
    ∃ old, (run.memory n).tokenByRefresh? r = some old ∧ old.access = access := by
  obtain ⟨-, -, r', k, old, starts', before, looks, rfl, -⟩ := chains.warrant
  rw [starts] at starts'
  obtain rfl := Call.refresh.inj (Move.start.inj starts')
  obtain ⟨current, found, -, grows⟩ := found_later fresh empty looks.finds.symm (Nat.le_of_lt before)
  exact ⟨current, found, grows.access⟩

theorem Settles.linked (settles : run.Settles id r m (.ok token)) (fresh : run.Fresh) (empty : run.StartsEmpty)
    (later : m ≤ n) : ∃ old, (run.memory n).tokenByRefresh? r = some old ∧ old.next = some token.access := by
  generalize result_eq : (Except.ok token : Except Failure Token) = result at settles
  cases settles with
  | @handed k l old successor access visits found plain valid next before revisits read =>
    obtain rfl := Token.handedOut_eq_ok result_eq.symm
    obtain ⟨current, again, -, grows⟩ := found_later fresh empty found (show k ≤ n by omega)
    refine ⟨current, again, ?_⟩
    rw [(memory_orderly fresh empty l).indexed.keyed read]
    exact grows.linked next
  | @won k m old token' found ready issued chains after =>
    obtain rfl := Except.ok.inj result_eq
    obtain ⟨old', -, -, -, linked, -⟩ := chains.links
    obtain ⟨current, kept, grows⟩ := memory_grows run (show k + 1 ≤ n by omega) linked
    obtain ⟨current', again, kept', -⟩ := found_later fresh empty found (show k ≤ n by omega)
    rw [kept] at kept'
    obtain rfl := Option.some.inj kept'
    exact ⟨current, again, grows.linked rfl⟩
  | _ => cases result_eq

/-- Whatever a refresh yields is the successor of the token with its string, then and ever after. -/
theorem Returned.linked (returned : run.Returned n id (.ok (.token token))) (fresh : run.Fresh)
    (empty : run.StartsEmpty) (starts : run.move id = .start (.refresh r)) (later : n ≤ m) :
    ∃ old, (run.memory m).tokenByRefresh? r = some old ∧ old.next = some token.access := by
  obtain ⟨k, early, -, result, attempt, same⟩ := returned.ends starts
  cases result with
  | error failure => cases same
  | ok yielded =>
    obtain rfl := Yield.token.inj (Except.ok.inj same)
    exact (attempt.settles fresh empty).linked fresh empty (Nat.le_trans early later)

theorem access_of_found {old' : Token} (fresh : run.Fresh) (empty : run.StartsEmpty)
    (found : (run.memory n).tokenByRefresh? r = some old) (found' : (run.memory m).tokenByRefresh? r = some old') :
    old.access = old'.access := by
  rcases Nat.le_total n m with before | after
  · obtain ⟨current, again, -, grows⟩ := found_later fresh empty found before
    rw [found'] at again
    rw [Option.some.inj again, grows.access]
  · obtain ⟨current, again, -, grows⟩ := found_later fresh empty found' after
    rw [found] at again
    rw [Option.some.inj again, grows.access]

/-- The token with a refresh string is linked once, by one call and to one token. -/
theorem found_linked_once {old' : Token} (fresh : run.Fresh) (empty : run.StartsEmpty)
    (found : (run.memory n).tokenByRefresh? r = some old)
    (chains : run.Does n id (.store (.chainToken old.access token)) (.ok true))
    (found' : (run.memory m).tokenByRefresh? r = some old')
    (chains' : run.Does m other (.store (.chainToken old'.access token')) (.ok true)) :
    n = m ∧ id = other ∧ token = token' := by
  rw [← access_of_found fresh empty found found'] at chains'
  obtain rfl := linked_once chains chains'
  obtain ⟨rfl, request, -⟩ := chains.unique chains'
  exact ⟨rfl, rfl, (StoreCall.chainToken.inj (Effect.store.inj request)).2⟩

/-- Of all refreshes with one string at most one links its new token, the token with that string gets at
most one successor, and whatever refresh succeeds yields the token under that successor's access string. -/
theorem refresh_one_successor (run : Interleaving) (fresh : run.Fresh) (empty : run.StartsEmpty) (r : String) :
    (∀ n m id other access access' token token',
      run.move id = .start (.refresh r) → run.Does n id (.store (.chainToken access token)) (.ok true) →
      run.move other = .start (.refresh r) → run.Does m other (.store (.chainToken access' token')) (.ok true) →
      n = m ∧ id = other) ∧
    (∀ n m id other old old' token token',
      (run.memory n).tokenByRefresh? r = some old → run.Does n id (.store (.chainToken old.access token)) (.ok true) →
      (run.memory m).tokenByRefresh? r = some old' →
      run.Does m other (.store (.chainToken old'.access token')) (.ok true) →
      n = m ∧ id = other ∧ token = token') ∧
    (∀ n id token, run.move id = .start (.refresh r) → run.Returned n id (.ok (.token token)) →
      ∃ old, (run.memory n).tokenByRefresh? r = some old ∧ old.next = some token.access) ∧
    (∀ n m id other token token', run.move id = .start (.refresh r) → run.Returned n id (.ok (.token token)) →
      run.move other = .start (.refresh r) → run.Returned m other (.ok (.token token')) →
      token.access = token'.access) := by
  refine ⟨?_, ?_, ?_, ?_⟩
  · intro n m id other access access' token token' starts chains starts' chains'
    obtain ⟨old, found, rfl⟩ := chains.chains_own fresh empty starts
    obtain ⟨old', found', rfl⟩ := chains'.chains_own fresh empty starts'
    obtain ⟨instant, call, -⟩ := found_linked_once fresh empty found chains found' chains'
    exact ⟨instant, call⟩
  · intro n m id other old old' token token' found chains found' chains'
    exact found_linked_once fresh empty found chains found' chains'
  · intro n id token starts returned
    exact returned.linked fresh empty starts (Nat.le_refl n)
  · intro n m id other token token' starts returned starts' returned'
    obtain ⟨old, found, next⟩ := returned.linked fresh empty starts (Nat.le_max_left n m)
    obtain ⟨old', found', next'⟩ := returned'.linked fresh empty starts' (Nat.le_max_right n m)
    rw [found] at found'
    obtain rfl := Option.some.inj found'
    exact Option.some.inj (next.symm.trans next')

/-- Of two refreshes at a time the one that loses yields the token of the one that wins. -/
theorem race_one_successor : race.Fresh ∧ race.StartsEmpty ∧
    ∃ token token', race.move 9 = .start (.refresh "r") ∧ race.Returned 27 9 (.ok (.token token)) ∧
      race.move 10 = .start (.refresh "r") ∧ race.Returned 27 10 (.ok (.token token')) ∧
      token.access = token'.access ∧
      ∃ old, (race.memory 27).tokenByRefresh? "r" = some old ∧ old.next = some token'.access := by
  obtain ⟨-, -, linked, agree⟩ := refresh_one_successor race race_fresh race_startsEmpty "r"
  have won : race.Returned 27 9 (.ok (.token (.issued "u" 3600 (.ofSeconds 0) "b" "s"))) := ⟨_, rfl⟩
  have lost : race.Returned 27 10 (.ok (.token (.issued "u" 3600 (.ofSeconds 0) "b" "s"))) := ⟨_, rfl⟩
  exact ⟨race_fresh, race_startsEmpty, _, _, rfl, won, rfl, lost, agree 27 27 9 10 _ _ rfl won rfl lost,
    linked 27 10 _ rfl lost⟩

end Interleaving

end TokenAuthority
