import TokenAuthority.Proofs.Interleaving.Order

/-!
# What a refresh amounts to

In a run that starts without tokens and in which no string is drawn twice, a refresh ends in one of five
ways, each of which is told by what the store contains at one or two instants: `Attempt.settles`.
Everything else that the program provides for cannot come about, since tokens never go away, successors
are stored, and a token that could not be chained to was refreshed or invalidated for good.
-/

namespace TokenAuthority

namespace Interleaving

/-- The result of a refresh with the string `r`, by what the store contained when it was called. -/
inductive Settles (run : Interleaving) (id : Nat) (r : String) : Nat → Except Failure Token → Prop where
  | unknown {k : Nat} (visits : run.Visits k id) (absent : (run.memory k).tokenByRefresh? r = none) :
      Settles run id r (k + 1) (.error .unknownToken)
  | delegated {k : Nat} {old : Token} (visits : run.Visits k id)
      (found : (run.memory k).tokenByRefresh? r = some old) (code : old.code.isSome) :
      Settles run id r (k + 1) (.error .oauthRefresh)
  | closed {k : Nat} {old : Token} (visits : run.Visits k id)
      (found : (run.memory k).tokenByRefresh? r = some old) (plain : old.code = none)
      (closed : old.valid = false) : Settles run id r (k + 1) (.error .alreadyInvalidated)
  | handed {k l : Nat} {old successor : Token} {access : String} (visits : run.Visits k id)
      (found : (run.memory k).tokenByRefresh? r = some old) (plain : old.code = none)
      (valid : old.valid = true) (next : old.next = some access) (later : k < l) (revisits : run.Visits l id)
      (read : (run.memory l).tokens.get? access = some successor) :
      Settles run id r (l + 1) successor.handedOut
  | won {k n : Nat} {old token : Token} (found : (run.memory k).tokenByRefresh? r = some old) (ready : old.Open)
      (issued : ∃ now access refresh, token = .issued old.owner run.service.tokenLifetime now access refresh)
      (chains : run.Does k id (.store (.chainToken old.access token)) (.ok true)) (after : k < n) :
      Settles run id r n (.ok token)

variable {run : Interleaving} {id n m k : Nat} {r access : String} {old token : Token}

/-- A token found by a refresh string is found by it ever after, and by its access string too. -/
theorem found_later (fresh : run.Fresh) (empty : run.StartsEmpty)
    (found : (run.memory n).tokenByRefresh? r = some old) (later : n ≤ m) :
    ∃ current, (run.memory m).tokenByRefresh? r = some current ∧
      (run.memory m).tokens.get? old.access = some current ∧ old.Grows current := by
  obtain ⟨access, index, read⟩ := Option.bind_eq_some_iff.1 found
  obtain ⟨other, stored, own⟩ := (memory_orderly fresh empty n).indexed.indexed.1 index
  rw [read] at stored
  obtain rfl := Option.some.inj stored
  rw [(memory_orderly fresh empty n).indexed.keyed read]
  obtain ⟨current, kept, grows⟩ := memory_grows run later read
  refine ⟨current, Option.bind_eq_some_iff.2 ⟨access, ?_, kept⟩, kept, grows⟩
  exact (memory_orderly fresh empty m).indexed.indexed.2 ⟨current, kept, grows.refresh.trans own⟩

theorem found_stored (fresh : run.Fresh) (empty : run.StartsEmpty)
    (found : (run.memory n).tokenByRefresh? r = some old) : (run.memory n).tokens.get? old.access = some old := by
  obtain ⟨current, again, stored, -⟩ := found_later fresh empty found (Nat.le_refl n)
  rw [found] at again
  rw [stored, Option.some.inj again]

theorem successor_later (fresh : run.Fresh) (empty : run.StartsEmpty)
    (found : (run.memory n).tokenByRefresh? r = some old) (next : old.next = some access) (later : n ≤ m) :
    ∃ successor, (run.memory m).tokens.get? access = some successor := by
  obtain ⟨current, -, kept, grows⟩ := found_later fresh empty found later
  exact (memory_orderly fresh empty m).chained.stored ⟨current, kept, grows.linked next⟩

/-- Who reads a token again finds it, as it has become. -/
theorem Reads.again {found? : Option Token} (reads : run.Reads id n m old.access found?) (fresh : run.Fresh)
    (empty : run.StartsEmpty) (found : (run.memory k).tokenByRefresh? r = some old) (before : k ≤ n) :
    ∃ current, found? = some current ∧ (run.memory m).tokenByRefresh? r = some current ∧ old.Grows current := by
  obtain ⟨current, again, kept, grows⟩ := found_later fresh empty found (Nat.le_trans before reads.1)
  rw [← reads.finds] at kept
  exact ⟨current, kept, again, grows⟩

theorem Does.links (chains : run.Does n id (.store (.chainToken access token)) (.ok true)) :
    ∃ old, (run.memory n).tokens.get? access = some old ∧ old.valid = true ∧ old.next = none ∧
      (run.memory (n + 1)).tokens.get? access = some (old.withNext token.access) ∧
      (run.memory (n + 1)).tokens.get? token.access = some token := by
  obtain ⟨now, answered, after⟩ := chains.step
  rw [after]
  exact Memory.step_chainToken_links answered.symm

theorem Does.chainToken_not_fails {failure : Failure} (fresh : run.Fresh)
    (chains : run.Does n id (.store (.chainToken access token)) (.error failure)) : False := by
  obtain ⟨now, answered, -⟩ := chains.step
  exact Memory.step_chainToken_fails answered.symm
    (((chains.warrant.mints rfl).new fresh).access)

/-- A token that could not be chained to was refreshed or invalidated, and so it stays. -/
theorem Does.refuses (chains : run.Does n id (.store (.chainToken access token)) (.ok false))
    (found : (run.memory n).tokens.get? access = some old) (later : n ≤ m) :
    ∃ current, (run.memory m).tokens.get? access = some current ∧
      (current.valid = false ∨ current.next.isSome) := by
  obtain ⟨now, answered, -⟩ := chains.step
  have closed := Memory.step_chainToken_refuses answered.symm
  obtain ⟨current, kept, grows⟩ := memory_grows run later found
  refine ⟨current, kept, ?_⟩
  cases valid : current.valid with
  | false => exact .inl rfl
  | true =>
    refine .inr (Option.isSome_iff_ne_none.2 fun last => ?_)
    obtain rfl := grows.eq_of_open valid last
    rw [Memory.chainable_iff.2 ⟨current, found, valid, last⟩] at closed
    cases closed

theorem HandsOver.settles {result : Except Failure Token} (handsOver : run.HandsOver id old n m result)
    (fresh : run.Fresh) (empty : run.StartsEmpty) (visits : run.Visits k id)
    (found : (run.memory k).tokenByRefresh? r = some old) (plain : old.code = none) (valid : old.valid = true)
    (later : k < n) : run.Settles id r m result := by
  cases handsOver with
  | dangling next reads =>
    have after := Nat.le_trans (Nat.le_of_lt later) reads.1
    obtain ⟨successor, stored⟩ := successor_later fresh empty found next after
    rw [← reads.finds] at stored
    cases stored
  | found next reads =>
    have after := Nat.lt_of_lt_of_le later reads.1
    exact .handed visits found plain valid next after ⟨_, _, reads.2⟩ reads.finds.symm

theorem Rereads.settles {result : Except Failure Token} (rereads : run.Rereads id old.access (k + 1) m result)
    (fresh : run.Fresh) (empty : run.StartsEmpty) (found : (run.memory k).tokenByRefresh? r = some old)
    (plain : old.code = none) (chains : run.Does k id (.store (.chainToken old.access token)) (.ok false)) :
    run.Settles id r m result := by
  cases rereads with
  | gone reads =>
    obtain ⟨current, same, -⟩ := reads.again fresh empty found (Nat.le_succ k)
    cases same
  | closed reads closed =>
    obtain ⟨current, same, again, grows⟩ := reads.again fresh empty found (Nat.le_succ k)
    obtain rfl := Option.some.inj same
    exact .closed ⟨_, _, reads.2⟩ again (grows.code.trans plain) closed
  | replaced reads valid linked handsOver =>
    obtain ⟨current, same, again, grows⟩ := reads.again fresh empty found (Nat.le_succ k)
    obtain rfl := Option.some.inj same
    exact handsOver.settles fresh empty ⟨_, _, reads.2⟩ again (grows.code.trans plain) valid (Nat.lt_succ_self _)
  | unchanged reads valid last =>
    obtain ⟨current, read, closed⟩ := chains.refuses (found_stored fresh empty found) (Nat.le_of_succ_le reads.1)
    rw [← reads.finds] at read
    obtain rfl := Option.some.inj read
    rw [valid, last] at closed
    simp at closed

theorem Attempt.settles {result : Except Failure Token} (attempt : run.Attempt id r n result)
    (fresh : run.Fresh) (empty : run.StartsEmpty) : run.Settles id r n result := by
  cases attempt with
  | unknown looks => exact .unknown ⟨_, _, looks⟩ looks.finds.symm
  | delegated looks code => exact .delegated ⟨_, _, looks⟩ looks.finds.symm code
  | closed looks plain closed => exact .closed ⟨_, _, looks⟩ looks.finds.symm plain closed
  | replayed looks plain valid linked handsOver =>
    exact handsOver.settles fresh empty ⟨_, _, looks⟩ looks.finds.symm plain valid (Nat.lt_succ_self _)
  | won looks ready later issued chains after =>
    obtain ⟨current, found, kept, grows⟩ := found_later fresh empty looks.finds.symm (Nat.le_of_lt later)
    obtain ⟨again, read, valid, last, -⟩ := chains.links
    rw [kept] at read
    obtain rfl := Option.some.inj read
    obtain rfl := grows.eq_of_open valid last
    exact .won found ready issued chains after
  | collided looks later chains => exact (chains.chainToken_not_fails fresh).elim
  | lost looks ready later chains rereads =>
    obtain ⟨current, found, -, grows⟩ := found_later fresh empty looks.finds.symm (Nat.le_of_lt later)
    rw [← grows.access] at chains rereads
    exact rereads.settles fresh empty found (grows.code.trans ready.plain) chains

end Interleaving

end TokenAuthority
