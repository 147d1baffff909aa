import TokenAuthority.Proofs.Interleaving.Updates

/-!
# Results of refreshes only move forward

Of refreshes with one string that follow one another, a later one hands out the same token as an earlier one
or refuses, and a refusal is never taken back. A result leaves its marks in the store, which stay: the link
of the token, the link of its successor, or that one of the two is invalid.
-/

namespace TokenAuthority

/-- The marks that are left in the store when a refresh finds a token and comes to a result. -/
inductive Token.Marked (old : Token) (tokens : Table Token) : Except Failure Token → Prop where
  | handed {successor token : Token} (next : old.next = some token.access)
      (read : tokens.get? token.access = some successor) (grows : token.Grows successor) : Marked old tokens (.ok token)
  | replaced {successor : Token} {access : String} (next : old.next = some access)
      (read : tokens.get? access = some successor) (linked : successor.next.isSome) :
      Marked old tokens (.error .alreadyRefreshed)
  | closed (closed : old.valid = false) : Marked old tokens (.error .alreadyInvalidated)
  | abandoned {successor : Token} {access : String} (next : old.next = some access)
      (read : tokens.get? access = some successor) (last : successor.next = none) (closed : successor.valid = false) :
      Marked old tokens (.error .alreadyInvalidated)

/-- The token with the string `r` can be refreshed in principle, and is marked by a result. -/
def Memory.Marks (m : Memory) (r : String) (result : Except Failure Token) : Prop :=
  ∃ old, m.tokenByRefresh? r = some old ∧ old.code = none ∧ old.Marked m.tokens result

/-- The results that can follow a result. -/
inductive Follows : Except Failure Token → Except Failure Token → Prop where
  | again (token : Token) : Follows (.ok token) (.ok token)
  | replaced (token : Token) : Follows (.ok token) (.error .alreadyRefreshed)
  | stillReplaced : Follows (.error .alreadyRefreshed) (.error .alreadyRefreshed)
  | closed (result : Except Failure Token) : Follows result (.error .alreadyInvalidated)

namespace Interleaving

variable {run : Interleaving} {id other n m k l : Nat} {r access : String} {old successor : Token}
  {result later : Except Failure Token}

theorem Settles.marks (settles : run.Settles id r n result) (fresh : run.Fresh) (empty : run.StartsEmpty)
    (since : n ≤ m) : (run.memory m).Marks r result ∨ result = .error .unknownToken ∨ result = .error .oauthRefresh := by
  cases settles with
  | unknown => exact .inr (.inl rfl)
  | delegated => exact .inr (.inr rfl)
  | @closed k old visits found plain closed =>
    obtain ⟨current, again, -, grows⟩ := found_later fresh empty found (show k ≤ m by omega)
    exact .inl ⟨current, again, grows.code.trans plain, .closed (grows.invalid closed)⟩
  | @handed k l old successor access visits found plain valid next before revisits read =>
    obtain ⟨current, again, -, grows⟩ := found_later fresh empty found (show k ≤ m by omega)
    obtain ⟨final, kept, grown⟩ := memory_grows run (show l ≤ m by omega) read
    have next := grows.linked next
    refine .inl ⟨current, again, grows.code.trans plain, ?_⟩
    refine Token.handedOut_cases (fun linked => ?_) (fun last closed => ?_) fun last good => ?_
    · obtain ⟨b, linked⟩ := Option.isSome_iff_exists.1 linked
      exact .replaced next kept (by rw [grown.linked linked]; rfl)
    · exact .abandoned next (memory_closed read closed (by omega)) last closed
    · rw [← (memory_orderly fresh empty l).indexed.keyed read] at next kept
      exact .handed next kept grown
  | @won k n old token found ready issued chains after =>
    obtain ⟨current, again, there, grows⟩ := found_later fresh empty found (show k ≤ m by omega)
    obtain ⟨old', -, -, -, linked, stored⟩ := chains.links
    obtain ⟨current', there', grows'⟩ := memory_grows run (show k + 1 ≤ m by omega) linked
    obtain ⟨final, kept, grown⟩ := memory_grows run (show k + 1 ≤ m by omega) stored
    rw [there] at there'
    obtain rfl := Option.some.inj there'
    exact .inl ⟨current, again, grows.code.trans ready.plain, .handed (grows'.linked rfl) kept grown⟩

/-- Whoever later reads the successor of a valid token that is marked comes to a result that can follow. -/
theorem handedOut_follows (marked : old.Marked (run.memory k).tokens result) (valid : old.valid = true)
    (next : old.next = some access) (before : k ≤ l) (read : (run.memory l).tokens.get? access = some successor) :
    Follows result successor.handedOut := by
  -- The successor that is read is the one that bears the mark, as it has become.
  have grown {b : String} {early : Token} (link : old.next = some b)
      (stored : (run.memory k).tokens.get? b = some early) : early.Grows successor := by
    rw [next] at link
    obtain rfl := Option.some.inj link
    obtain ⟨final, kept, grows⟩ := memory_grows run before stored
    rw [read] at kept
    rwa [Option.some.inj kept]
  cases marked with
  | handed link stored grows =>
    have grows := grows.trans (grown link stored)
    refine Token.handedOut_cases (fun _ => .replaced _) (fun _ _ => .closed _) fun last valid => ?_
    rw [grows.eq_of_open valid last]
    exact .again _
  | replaced link stored refreshed =>
    obtain ⟨b, final⟩ := Option.isSome_iff_exists.1 refreshed
    rw [Token.handedOut_of_linked (by rw [(grown link stored).linked final]; rfl)]
    exact .stillReplaced
  | closed closed =>
    rw [closed] at valid
    cases valid
  | abandoned link stored last closed =>
    rw [next] at link
    obtain rfl := Option.some.inj link
    rw [memory_closed stored closed before] at read
    obtain rfl := Option.some.inj read
    rw [Token.handedOut_of_closed last closed]
    exact .closed _

theorem not_open_of_marked {tokens : Table Token} (marked : old.Marked tokens result) : ¬old.Open := by
  intro ready
  have unlinked {b : String} (link : old.next = some b) : False := by
    rw [ready.last] at link
    cases link
  cases marked with
  | handed link => exact unlinked link
  | replaced link => exact unlinked link
  | closed closed =>
    rw [ready.valid] at closed
    cases closed
  | abandoned link => exact unlinked link

/-- A refresh that finds the marks of a result whenever it looks comes to a result that can follow. -/
theorem Settles.follows (settles : run.Settles other r m later) (marks : ∀ k, other < k → (run.memory k).Marks r result) :
    Follows result later := by
  have marked {k : Nat} {old : Token} (visits : run.Visits k other)
      (found : (run.memory k).tokenByRefresh? r = some old) :
      old.code = none ∧ old.Marked (run.memory k).tokens result := by
    obtain ⟨call, answer, does⟩ := visits
    obtain ⟨old', again, plain, marked⟩ := marks k does.started.2
    rw [found] at again
    obtain rfl := Option.some.inj again
    exact ⟨plain, marked⟩
  cases settles with
  | unknown visits absent =>
    obtain ⟨call, answer, does⟩ := visits
    obtain ⟨old, found, -⟩ := marks _ does.started.2
    rw [absent] at found
    cases found
  | delegated visits found code =>
    rw [(marked visits found).1] at code
    cases code
  | closed visits found plain closed => exact .closed _
  | handed visits found plain valid next before revisits read =>
    exact handedOut_follows (marked visits found).2 valid next (Nat.le_of_lt before) read
  | won found ready issued chains after =>
    exact (not_open_of_marked (marked ⟨_, _, chains⟩ found).2 ready).elim

/-- A refresh with the string of a token that was invalidated before it started yields nothing. -/
theorem Settles.not_ok_of_closed {token : Token} (settles : run.Settles other r m (.ok token)) (fresh : run.Fresh)
    (empty : run.StartsEmpty) (found : (run.memory n).tokenByRefresh? r = some old) (closed : old.valid = false)
    (since : n ≤ other) : False := by
  have stays {k : Nat} {current : Token} (visits : run.Visits k other)
      (read : (run.memory k).tokenByRefresh? r = some current) : current.valid = false := by
    obtain ⟨call, answer, does⟩ := visits
    have after := does.started.2
    obtain ⟨old', again, -, grows⟩ := found_later fresh empty found (show n ≤ k by omega)
    rw [read] at again
    rw [Option.some.inj again]
    exact grows.invalid closed
  generalize result_eq : (Except.ok token : Except Failure Token) = result at settles
  cases settles with
  | handed visits read plain valid =>
    rw [stays visits read] at valid
    cases valid
  | won read ready issued chains after =>
    have valid := ready.valid
    rw [stays ⟨_, _, chains⟩ read] at valid
    cases valid
  | _ => cases result_eq

/-- Let a refresh with the string `r` start after another one has returned. If that one yielded a token, the
later one yields the same token or refuses it as refreshed or invalidated; if it was refused as refreshed, the
later one is refused as refreshed or invalidated; if it was refused as invalidated, so is the later one. Nor
does the string yield anything once its token was logged out. -/
theorem refresh_moves_forward (run : Interleaving) (fresh : run.Fresh) (empty : run.StartsEmpty) (r : String)
    (m other : Nat) (result : Except Failure Yield) (starts : run.move other = .start (.refresh r))
    (returned : run.Returned m other result) :
    (∀ n id token, run.move id = .start (.refresh r) → run.Returned n id (.ok (.token token)) → n ≤ other →
      result = .ok (.token token) ∨ result = .error .alreadyRefreshed ∨ result = .error .alreadyInvalidated) ∧
    (∀ n id, run.move id = .start (.refresh r) → run.Returned n id (.error .alreadyRefreshed) → n ≤ other →
      result = .error .alreadyRefreshed ∨ result = .error .alreadyInvalidated) ∧
    (∀ n id, run.move id = .start (.refresh r) → run.Returned n id (.error .alreadyInvalidated) → n ≤ other →
      result = .error .alreadyInvalidated) ∧
    (∀ n id old, run.move id = .start (.invalidate (some old.access)) → run.Returned n id (.ok .nothing) →
      (run.memory n).tokenByRefresh? r = some old → n ≤ other → ∀ yielded, result ≠ .ok yielded) := by
  obtain ⟨ended, -, -, later, attempt, rfl⟩ := returned.ends starts
  have settles := attempt.settles fresh empty
  have follows {n id : Nat} {first : Except Failure Token} (starts : run.move id = .start (.refresh r))
      (returned : run.Returned n id (.token <$> first)) (before : n ≤ other)
      (regular : first ≠ .error .unknownToken ∧ first ≠ .error .oauthRefresh) : Follows first later := by
    obtain ⟨e, early, -, earlier, attempt, same⟩ := returned.ends starts
    obtain rfl : first = earlier := by
      cases first <;> cases earlier <;> cases same <;> rfl
    refine settles.follows fun k after => ?_
    rcases (attempt.settles fresh empty).marks fresh empty (show e ≤ k by omega) with marks | unknown | delegated
    · exact marks
    · exact (regular.1 unknown).elim
    · exact (regular.2 delegated).elim
  refine ⟨?_, ?_, ?_, ?_⟩
  · intro n id token starts' returned' before
    have after : Follows (.ok token) later := follows starts' returned' before ⟨nofun, nofun⟩
    cases after with
    | again => exact .inl rfl
    | replaced => exact .inr (.inl rfl)
    | closed => exact .inr (.inr rfl)
  · intro n id starts' returned' before
    have after : Follows (.error .alreadyRefreshed) later := follows starts' returned' before ⟨nofun, nofun⟩
    cases after with
    | stillReplaced => exact .inl rfl
    | closed => exact .inr rfl
  · intro n id starts' returned' before
    have after : Follows (.error .alreadyInvalidated) later := follows starts' returned' before ⟨nofun, nofun⟩
    cases after with
    | closed => rfl
  · intro n id old starts' returned' found before yielded same
    obtain ⟨closed, read, invalid⟩ := returned'.closed starts' (Nat.le_refl n)
    rw [found_stored fresh empty found] at read
    obtain rfl := Option.some.inj read
    cases later with
    | error failure => cases same
    | ok token => exact settles.not_ok_of_closed fresh empty found invalid before

/-- A provider login of the user `u`, a refresh of its token, a logout of that token, and one more refresh. -/
def departure : Interleaving :=
  let profile : Profile := ⟨"p", "s", none, []⟩
  let resume (id : Nat) (text : String) : Move := .resume id ⟨.ofSeconds 0, text, .ok profile⟩
  ofMoves ⟨Registry.empty.register ⟨"p", fun _ => .done (.error .unknownToken)⟩, 3600, 600⟩
    (Memory.empty.insertAccount ⟨"u", "", none, none, Table.empty.insert "p" profile⟩)
    (.start (.issueFromProvider "p" "") :: ["", "", "", "", "a", "r", "", ""].map (resume 0) ++
      .start (.refresh "r") :: ["", "", "", "b", "s", "", ""].map (resume 9) ++
      .start (.invalidate (some "a")) :: ["", ""].map (resume 17) ++
      .start (.refresh "r") :: ["", ""].map (resume 20))

/-- After the logout the refresh that comes last yields nothing, so it is refused as one of two. -/
theorem departure_moves_forward : departure.Fresh ∧ departure.StartsEmpty ∧ ∃ token result,
    departure.Returned 17 9 (.ok (.token token)) ∧ departure.Returned 20 17 (.ok .nothing) ∧
    departure.move 20 = .start (.refresh "r") ∧ departure.Returned 23 20 result ∧
    (result = .error .alreadyRefreshed ∨ result = .error .alreadyInvalidated) := by
  have fresh : departure.Fresh := fresh_ofMoves (by decide)
  have empty : departure.StartsEmpty := ⟨rfl, rfl⟩
  have refreshed : departure.Returned 17 9 (.ok (.token (.issued "u" 3600 (.ofSeconds 0) "b" "s"))) := ⟨_, rfl⟩
  have left : departure.Returned 20 17 (.ok .nothing) := ⟨_, rfl⟩
  have refused : departure.Returned 23 20 (.error .alreadyInvalidated) := ⟨_, rfl⟩
  obtain ⟨forward, -, -, dead⟩ := refresh_moves_forward departure fresh empty "r" 23 20 _ rfl refused
  refine ⟨fresh, empty, _, _, refreshed, left, rfl, refused, ?_⟩
  rcases forward 17 9 _ rfl refreshed (by decide) with yields | refusal
  · exact (dead 20 17 _ rfl left rfl (by decide) _ yields).elim
  · exact refusal

end Interleaving

end TokenAuthority
