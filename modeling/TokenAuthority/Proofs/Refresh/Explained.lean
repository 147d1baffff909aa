import TokenAuthority.Proofs.Refresh.OneSuccessor

/-!
# Each refresh is explained by one instant

A refresh reads the store at several instants, between which other calls change it. Still its result is
that of a refresh that is carried out in one go at a single instant: at its first look, when it chains its
token, when it reads the old token again, or when it looks at the successor. Only when the successor has
itself been refreshed in the meantime there need not be such an instant.
-/

namespace TokenAuthority

namespace Interleaving

/-- An instant between the first and the last store call that call `id` makes before `n`. -/
def Within (run : Interleaving) (id n k : Nat) : Prop :=
  (∃ first, first ≤ k ∧ run.Visits first id) ∧ ∃ last, k ≤ last ∧ last < n ∧ run.Visits last id

/-- A refresh carried out in one go at an instant has the given result and changes nothing, whatever the
time and whatever strings it draws. -/
def GivesAlone (run : Interleaving) (k : Nat) (r : String) (result : Except Failure Yield) : Prop :=
  ∀ (w : World) (j : Journal), ∃ after,
    w.alone (run.service.perform (.refresh r)) (j, run.memory k) = (result, after, run.memory k)

/-- At instant `k` call `id` chains a token, and a refresh carried out in one go at that instant would mint
one as well: for the same owner, at its own time and with its own strings, or just the same one. -/
structure MintsAlone (run : Interleaving) (id k : Nat) (r : String) (token : Token) : Prop where
  chains : ∃ access, run.Does k id (.store (.chainToken access token)) (.ok true)
  mints : ∀ (w : World) (j : Journal), (run.memory k).tokens.get? (w.text j.drawn) = none → ∃ after m,
    w.alone (run.service.perform (.refresh r)) (j, run.memory k) =
      (.ok (.token (.issued token.owner run.service.tokenLifetime (w.clock (j.readings + 1)) (w.text j.drawn)
        (w.text (j.drawn + 1)))), after, m)
  same : ∃ (w : World) (j after : Journal),
    w.alone (run.service.perform (.refresh r)) (j, run.memory k) = (.ok (.token token), after, run.memory (k + 1))

/-- There is an instant within call `id` at which a refresh carried out in one go would have the result. -/
def Explained (run : Interleaving) (id n : Nat) (r : String) (result : Except Failure Yield) : Prop :=
  ∃ k, run.Within id n k ∧
    (run.GivesAlone k r result ∨ ∃ token, result = .ok (.token token) ∧ run.MintsAlone id k r token)

/-- The token with the string `r` has a successor that has a successor. -/
def Superseded (run : Interleaving) (k : Nat) (r : String) : Prop :=
  ∃ old a successor b final, (run.memory k).tokenByRefresh? r = some old ∧ old.next = some a ∧
    (run.memory k).tokens.get? a = some successor ∧ successor.next = some b ∧
    (run.memory k).tokens.get? b = some final

variable {run : Interleaving} {id n k l : Nat} {r access : String} {old successor token : Token}

theorem givesAlone_of_verdict {result : Except Failure Token} (settled : (run.memory k).verdict r = .settled result) :
    run.GivesAlone k r (.token <$> result) := by
  intro w j
  obtain ⟨after, alone, -⟩ := w.alone_refresh_of_settled run.service j settled
  exact ⟨after, by rw [Service.perform, World.alone_map, alone]⟩

theorem mintsAlone_of_open {now : Instant} {access refresh : String} (fresh : run.Fresh)
    (found : (run.memory k).tokenByRefresh? r = some old) (ready : old.Open)
    (stored : (run.memory k).tokens.get? old.access = some old)
    (issued : token = .issued old.owner run.service.tokenLifetime now access refresh)
    (chains : run.Does k id (.store (.chainToken old.access token)) (.ok true)) :
    run.MintsAlone id k r token := by
  have extended := Memory.verdict_of_open found ready
  refine ⟨⟨_, chains⟩, fun w j unused => ?_, ?_⟩
  · obtain ⟨after, alone⟩ := w.alone_refresh_of_extended run.service j extended stored rfl unused now
    subst issued
    exact ⟨after, _, by rw [Service.perform, World.alone_map, alone]; rfl⟩
  · let w : World := ⟨fun _ => now, fun i => if i = 0 then access else refresh, fun _ => .failed⟩
    obtain ⟨time, -, changed⟩ := chains.step
    have unused := ((chains.warrant.mints rfl).new fresh).access
    obtain ⟨after, alone⟩ := w.alone_refresh_of_extended run.service .empty extended stored issued unused time
    refine ⟨w, .empty, after, ?_⟩
    rw [Service.perform, World.alone_map, alone, changed]
    rfl

theorem Rests.last (rests : run.Rests id (l + 1) n) (later : l < k) (before : k < n) :
    ¬run.Visits k id := fun ⟨_, answer, does⟩ => rests k later before ⟨_, answer, does⟩

theorem within_of_visits (visits : run.Visits k id) (before : k < n) : run.Within id n k :=
  ⟨⟨k, Nat.le_refl k, visits⟩, k, Nat.le_refl k, before, visits⟩

theorem explained_of_verdict {result : Except Failure Token} (within : run.Within id n k)
    (settled : (run.memory k).verdict r = .settled result) : run.Explained id n r (.token <$> result) :=
  ⟨k, within, .inl (givesAlone_of_verdict settled)⟩

/-- A successor that is still open was the same when the old token was looked up. -/
theorem verdict_of_later_open (fresh : run.Fresh) (empty : run.StartsEmpty)
    (found : (run.memory k).tokenByRefresh? r = some old) (plain : old.code = none) (valid : old.valid = true)
    (next : old.next = some access) (later : k ≤ l) (read : (run.memory l).tokens.get? access = some successor)
    (last : successor.next = none) (good : successor.valid = true) :
    (run.memory k).verdict r = .settled (.ok successor) := by
  obtain ⟨early, stored⟩ := successor_later fresh empty found next (Nat.le_refl k)
  obtain ⟨kept, read', grows⟩ := memory_grows run later stored
  rw [read] at read'
  obtain rfl := Option.some.inj read'
  obtain rfl := grows.eq_of_open good last
  rw [← Token.handedOut_of_open last good]
  exact Memory.verdict_of_linked found plain valid next stored

/-- When the successor is found invalid, the old token may be invalid too, which gives the same result. -/
theorem verdict_of_closed_successor (found : (run.memory l).tokenByRefresh? r = some old) (plain : old.code = none)
    (next : old.next = some access) (read : (run.memory l).tokens.get? access = some successor)
    (last : successor.next = none) (closed : successor.valid = false) :
    (run.memory l).verdict r = .settled (.error .alreadyInvalidated) := by
  cases valid : old.valid with
  | false => exact Memory.verdict_of_closed found plain valid
  | true =>
    rw [← Token.handedOut_of_closed last closed]
    exact Memory.verdict_of_linked found plain valid next read

/-- Every result of a refresh but one is that of a refresh carried out in one go at an instant between its
first and its last store call. If it is that the token was already refreshed, then at its last store call
the token has a successor that has a successor. -/
theorem refresh_explained (run : Interleaving) (fresh : run.Fresh) (empty : run.StartsEmpty) (r : String)
    (n id : Nat) (result : Except Failure Yield) (starts : run.move id = .start (.refresh r))
    (returned : run.Returned n id result) :
    (result ≠ .error .alreadyRefreshed → run.Explained id n r result) ∧
    (result = .error .alreadyRefreshed → ∃ last, last < n ∧ run.Visits last id ∧
      (∀ k, last < k → k < n → ¬run.Visits k id) ∧ run.Superseded last r) := by
  obtain ⟨m, early, rests, final, attempt, rfl⟩ := returned.ends starts
  cases attempt.settles fresh empty with
  | unknown visits absent =>
    refine ⟨fun _ => ?_, nofun⟩
    exact explained_of_verdict (within_of_visits visits early) (Memory.verdict_of_unknown absent)
  | delegated visits found code =>
    refine ⟨fun _ => ?_, nofun⟩
    exact explained_of_verdict (within_of_visits visits early) (Memory.verdict_of_delegated found code)
  | closed visits found plain closed =>
    refine ⟨fun _ => ?_, nofun⟩
    exact explained_of_verdict (within_of_visits visits early) (Memory.verdict_of_closed found plain closed)
  | @won k n old token found ready issued chains after =>
    have within := within_of_visits ⟨_, _, chains⟩ (Nat.lt_of_lt_of_le after early)
    obtain ⟨now, access, refresh, issued⟩ := issued
    have mints := mintsAlone_of_open fresh found ready (found_stored fresh empty found) issued chains
    exact ⟨fun _ => ⟨k, within, .inr ⟨token, rfl, mints⟩⟩, nofun⟩
  | @handed k l old successor access visits found plain valid next later revisits read =>
    obtain ⟨current, again, -, grows⟩ := found_later fresh empty found (Nat.le_of_lt later)
    cases linked : successor.next with
    | some b =>
      rw [Token.handedOut_of_linked (by rw [linked]; rfl)]
      refine ⟨fun other => (other rfl).elim, fun _ => ⟨l, early, revisits, fun k => rests.last, ?_⟩⟩
      obtain ⟨final, stored⟩ := (memory_orderly fresh empty l).chained.stored ⟨successor, read, linked⟩
      exact ⟨current, access, successor, b, final, again, grows.linked next, read, linked, stored⟩
    | none =>
      cases good : successor.valid with
      | false =>
        rw [Token.handedOut_of_closed linked good]
        have verdict :=
          verdict_of_closed_successor again (grows.code.trans plain) (grows.linked next) read linked good
        exact ⟨fun _ => explained_of_verdict (within_of_visits revisits early) verdict, nofun⟩
      | true =>
        rw [Token.handedOut_of_open linked good]
        have within : run.Within id n k := ⟨⟨k, Nat.le_refl k, visits⟩, l, Nat.le_of_lt later, early, revisits⟩
        have verdict := verdict_of_later_open fresh empty found plain valid next (Nat.le_of_lt later) read linked good
        exact ⟨fun _ => explained_of_verdict within verdict, nofun⟩

/-- The refresh that loses a race does as if it had come later. -/
theorem race_explained : race.Fresh ∧ race.StartsEmpty ∧ ∃ result, race.move 10 = .start (.refresh "r") ∧
    race.Returned 27 10 result ∧ race.Explained 10 27 "r" result := by
  have returned : race.Returned 27 10 (.ok (.token (.issued "u" 3600 (.ofSeconds 0) "b" "s"))) := ⟨_, rfl⟩
  have explained := (refresh_explained race race_fresh race_startsEmpty "r" 27 10 _ rfl returned).1 nofun
  exact ⟨race_fresh, race_startsEmpty, _, rfl, returned, explained⟩

end Interleaving

end TokenAuthority
