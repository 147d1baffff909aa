import TokenAuthority.Proofs.Interleaving.Finite
import TokenAuthority.Proofs.Refresh.Outcome
import TokenAuthority.Proofs.Store.Built

/-!
# No update is lost

A refresh links the record of a token and a logout marks it as invalid, each without regard for the other.
Whatever the store contained at first and however calls overlap, both changes stay.
-/

namespace TokenAuthority

namespace Interleaving

variable {run : Interleaving} {id n m : Nat} {r access : String} {old token : Token}

theorem memory_built (built : run.initial.Built) (n : Nat) : (run.memory n).Built := by
  induction n with
  | zero => exact built
  | succ n ih =>
    rcases run.memory_succ n with same | ⟨id, call, answer, does⟩
    · rw [same]
      exact ih
    · obtain ⟨now, -, after⟩ := does.step
      rw [after]
      exact ih.step now call

theorem memory_closed (found : (run.memory n).tokens.get? access = some token) (closed : token.valid = false)
    (later : n ≤ m) : (run.memory m).tokens.get? access = some token := by
  induction later with
  | refl => exact found
  | @step m later ih =>
    rcases run.memory_succ m with same | ⟨id, call, answer, does⟩
    · rw [same]
      exact ih
    · obtain ⟨now, -, after⟩ := does.step
      rw [after]
      exact (Memory.step_changes _ now call).closed ih closed

/-! ### Logging out -/

theorem invalidate_closes : run.Leads id (fun _ _ => True)
    (fun m result => result = .ok .nothing → ∃ j, j < m ∧ run.Does j id (.store (.invalidateToken access)) (.ok true))
    n (run.service.perform (.invalidate (some access))) := by
  refine Leads.map (Leads.orThrow_bind nofun fun text same => ?_)
  obtain rfl := Option.some.inj same
  refine Leads.read_bind (fun _ _ => rfl) (fun _ => trivial) fun j _ does => ?_
  split
  · rename_i stored
    rw [stored] at does
    exact Course.ambient fun m _ later _ _ _ => ⟨j, by omega, does⟩
  · exact Leads.throw nofun

/-- Once a logout has succeeded, the token is there and is invalid. -/
theorem Returned.closed (returned : run.Returned n id (.ok .nothing))
    (starts : run.move id = .start (.invalidate (some access))) (later : n ≤ m) :
    ∃ token, (run.memory m).tokens.get? access = some token ∧ token.valid = false := by
  obtain ⟨k, -, early, -, closes⟩ := returned.meets starts invalidate_closes
  obtain ⟨j, before, does⟩ := closes rfl
  obtain ⟨now, answered, after⟩ := does.step
  obtain ⟨token, found, closed⟩ := Memory.step_invalidateToken_closes answered.symm
  rw [← after] at found
  exact ⟨token, memory_closed found closed (by omega), closed⟩

/-! ### Refreshing -/

theorem HandsOver.linked (handsOver : run.HandsOver id old n m (.ok token)) (built : run.initial.Built) :
    ∃ l, n ≤ l ∧ l < m ∧ old.next = some token.access ∧ (run.memory l).tokens.get? token.access = some token := by
  generalize result_eq : (Except.ok token : Except Failure Token) = result at handsOver
  cases handsOver with
  | dangling next reads => cases result_eq
  | @found l access successor next reads =>
    obtain rfl := Token.handedOut_eq_ok result_eq.symm
    have read := reads.finds.symm
    have own := (memory_built built l).keyed read
    rw [← own] at next read
    exact ⟨l, reads.1, Nat.lt_succ_self l, next, read⟩

/-- A refresh that succeeds leaves the token that it found linked to the one that it yields, which is stored. -/
theorem Attempt.linked (attempt : run.Attempt id r m (.ok token)) (built : run.initial.Built) :
    ∃ f l old current, run.Does f id (.store (.tokenByRefresh r)) (.ok (some old)) ∧ f < l ∧ l ≤ m ∧
      (run.memory l).tokens.get? old.access = some current ∧ current.next = some token.access ∧
      (run.memory l).tokens.get? token.access = some token := by
  -- Who hands over the successor has read a link, which is still there when the successor is read.
  have handed {f g n : Nat} {old early : Token} (looks : run.Does f id (.store (.tokenByRefresh r)) (.ok (some old)))
      (before : f < n) (read : (run.memory g).tokens.get? old.access = some early) (first : g < n)
      (handsOver : run.HandsOver id early n m (.ok token)) :
      ∃ f l old current, run.Does f id (.store (.tokenByRefresh r)) (.ok (some old)) ∧ f < l ∧ l ≤ m ∧
        (run.memory l).tokens.get? old.access = some current ∧ current.next = some token.access ∧
        (run.memory l).tokens.get? token.access = some token := by
    obtain ⟨l, since, until_, next, stored⟩ := handsOver.linked built
    obtain ⟨current, kept, grows⟩ := memory_grows run (show g ≤ l by omega) read
    exact ⟨f, l, old, current, looks, by omega, by omega, kept, grows.linked next, stored⟩
  generalize result_eq : (Except.ok token : Except Failure Token) = result at attempt
  cases attempt with
  | @replayed f m old result looks plain valid linked handsOver =>
    subst result_eq
    have stored := (memory_built built f).stored looks.finds.symm
    exact handed looks (Nat.lt_succ_self f) stored (Nat.lt_succ_self f) handsOver
  | @won f c m old token' looks ready later issued chains after =>
    obtain rfl := Except.ok.inj result_eq
    obtain ⟨early, -, -, -, linked, stored⟩ := chains.links
    exact ⟨f, c + 1, old, _, looks, by omega, by omega, linked, rfl, stored⟩
  | @lost f c m old token' result looks ready later chains rereads =>
    subst result_eq
    cases rereads with
    | @replaced g m current result reads valid linked handsOver =>
      have since := reads.1
      exact handed looks (by omega) reads.finds.symm (Nat.lt_succ_self g) handsOver
  | _ => cases result_eq

/-- A stored token stays for good, and of its record only two fields change, in one direction each. When a
refresh of a token succeeds, the token stays linked to the one that the refresh yields, which stays too; and
if a logout of it succeeds as well, however the two overlap, it stays invalid besides. -/
theorem no_update_is_lost (run : Interleaving) (built : run.initial.Built) :
    (∀ n m access token, n ≤ m → (run.memory n).tokens.get? access = some token →
      ∃ later, (run.memory m).tokens.get? access = some later ∧
        later = { token with valid := later.valid, next := later.next } ∧
        (token.valid = false → later.valid = false) ∧ ∀ successor, token.next = some successor → later.next = some successor) ∧
    (∀ n id r token, run.move id = .start (.refresh r) → run.Returned n id (.ok (.token token)) →
      ∃ f old, f < n ∧ run.Does f id (.store (.tokenByRefresh r)) (.ok (some old)) ∧
        ∀ k, n ≤ k → ∃ current successor,
          (run.memory k).tokens.get? old.access = some current ∧ old.Grows current ∧
          current.next = some token.access ∧
          (run.memory k).tokens.get? token.access = some successor ∧ token.Grows successor ∧
          ∀ m other, m ≤ k → run.move other = .start (.invalidate (some old.access)) →
            run.Returned m other (.ok .nothing) → current.valid = false) := by
  constructor
  · intro n m access token later found
    obtain ⟨current, kept, grows⟩ := memory_grows run later found
    exact ⟨current, kept, grows.frame, grows.invalid, fun _ => grows.linked⟩
  · intro n id r token starts returned
    obtain ⟨m, early, -, result, attempt, same⟩ := returned.ends starts
    cases result with
    | error failure => cases same
    | ok yielded =>
      obtain rfl := Yield.token.inj (Except.ok.inj same)
      obtain ⟨f, l, old, current, looks, before, until_, found, next, stored⟩ := attempt.linked built
      refine ⟨f, old, by omega, looks, fun k later => ?_⟩
      have first := (memory_built built f).stored looks.finds.symm
      obtain ⟨final, kept, grows⟩ := memory_grows run (show f ≤ k by omega) first
      obtain ⟨final', kept', grows'⟩ := memory_grows run (show l ≤ k by omega) found
      obtain ⟨successor, there, grown⟩ := memory_grows run (show l ≤ k by omega) stored
      rw [kept] at kept'
      obtain rfl := Option.some.inj kept'
      refine ⟨final, successor, kept, grows, grows'.linked next, there, grown, ?_⟩
      intro m other ended starts' closes
      obtain ⟨closed, read, invalid⟩ := closes.closed starts' ended
      rw [kept] at read
      rw [Option.some.inj read, invalid]

/-- A refresh and a logout of one stored token: the logout gets in after the refresh has linked the token and
before it has returned. -/
def farewell : Interleaving :=
  let resume (id : Nat) (text : String) : Move := .resume id ⟨.ofSeconds 0, text, .error .unknownToken⟩
  ofMoves ⟨.empty, 3600, 600⟩
    (Memory.empty.step (.ofSeconds 0) (.addToken (.issued "u" 3600 (.ofSeconds 0) "a" "r"))).2
    ([.start (.refresh "r"), .start (.invalidate (some "a"))] ++ ["", "", "", "b", "s", ""].map (resume 0) ++
      [resume 1 "", resume 0 "", resume 1 ""])

theorem farewell_not_lost : farewell.initial.Built ∧ ∃ token, farewell.move 0 = .start (.refresh "r") ∧
    farewell.Returned 11 0 (.ok (.token token)) ∧ farewell.move 1 = .start (.invalidate (some "a")) ∧
    farewell.Returned 11 1 (.ok .nothing) ∧ ∃ current, (farewell.memory 11).tokens.get? "a" = some current ∧
      current.valid = false ∧ current.next = some token.access := by
  have built : farewell.initial.Built := .step .empty _ _
  have refreshed : farewell.Returned 11 0 (.ok (.token (.issued "u" 3600 (.ofSeconds 0) "b" "s"))) := ⟨_, rfl⟩
  have left : farewell.Returned 11 1 (.ok .nothing) := ⟨_, rfl⟩
  obtain ⟨-, stays⟩ := no_update_is_lost farewell built
  obtain ⟨f, old, early, looks, stays⟩ := stays 11 0 "r" _ rfl refreshed
  have named : old.access = "a" := by
    have carriers : ∀ f, f < 11 → ((farewell.memory f).tokenByRefresh? "r").map Token.access = some "a" := by decide
    have carrier := carriers f early
    rw [← looks.finds] at carrier
    exact Option.some.inj carrier
  obtain ⟨current, -, kept, -, linked, -, -, closed⟩ := stays 11 (Nat.le_refl 11)
  rw [named] at kept closed
  exact ⟨built, _, rfl, refreshed, rfl, left, current, kept, closed 11 1 (Nat.le_refl 11) rfl left, linked⟩

end Interleaving

end TokenAuthority
