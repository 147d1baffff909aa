import TokenAuthority.Proofs.Interleaving.Basic

/-!
# Runs that come to rest

A run given by the list of its moves, after which nothing happens. Whether its strings are fresh can be
decided by looking at each string when it is drawn: `fresh_ofMoves`.
-/

namespace TokenAuthority

instance (m : Memory) (text : String) : Decidable (m.Mentions text) := inferInstanceAs (Decidable (_ ∨ _ ∨ _))

namespace Interleaving

/-- The run with the given moves. After them each instant is that of a call that has not started. -/
def ofMoves (service : Service) (initial : Memory) (moves : List Move) : Interleaving where
  service
  initial
  move n := moves.getD n (.resume n ⟨.ofSeconds 0, "", .error .unknownToken⟩)

/-- The string that is drawn at an instant. -/
def drawn (run : Interleaving) (n : Nat) : Option String :=
  match run.move n with
  | .start _ => none
  | .resume id supply =>
    match (run.scene n).running id with
    | some ⟨_, .ask (.ambient .freshText) _⟩ => some supply.text
    | _ => none

/-- The strings of the call that starts at an instant. -/
def presented (run : Interleaving) (n : Nat) : List String :=
  match run.move n with
  | .start call => call.texts
  | .resume _ _ => []

/-- A string that is not known at an instant, in terms of what can be computed. -/
def NewAt (run : Interleaving) (n : Nat) (text : String) : Prop :=
  ¬(run.memory n).Mentions text ∧ (∀ k, k < n → run.drawn k ≠ some text) ∧ ∀ k, k < n → text ∉ run.presented k

instance (run : Interleaving) (n : Nat) (text : String) : Decidable (run.NewAt n text) :=
  inferInstanceAs (Decidable (_ ∧ _ ∧ _))

variable {run : Interleaving} {n id : Nat} {text : String} {service : Service} {initial : Memory} {moves : List Move}

theorem Does.drawn (does : run.Does n id (.ambient .freshText) text) : run.drawn n = some text := by
  obtain ⟨call, next, supply, move, there, rfl⟩ := does
  simp only [Interleaving.drawn, move, there]
  rfl

theorem fresh_of_newAt (new : ∀ n text, run.drawn n = some text → run.NewAt n text) : run.Fresh := by
  intro n id text does known
  obtain ⟨unmentioned, undrawn, unasked⟩ := new n text does.drawn
  rcases known with mentions | ⟨k, before, other, again⟩ | ⟨k, before, call, starts, member⟩
  · exact unmentioned mentions
  · exact undrawn k before again.drawn
  · refine unasked k before ?_
    rw [presented, starts]
    exact member

theorem drawn_ofMoves_of_le (late : moves.length ≤ n) : (ofMoves service initial moves).drawn n = none := by
  have move : (ofMoves service initial moves).move n = .resume n ⟨.ofSeconds 0, "", .error .unknownToken⟩ := by
    simp [ofMoves, late]
  simp only [drawn, move]
  cases there : ((ofMoves service initial moves).scene n).running n with
  | none => rfl
  | some call => exact absurd (start_of_running there).2 (Nat.lt_irrefl n)

theorem fresh_ofMoves (new : ∀ n, n < moves.length → ∀ text ∈ (ofMoves service initial moves).drawn n,
    (ofMoves service initial moves).NewAt n text) : (ofMoves service initial moves).Fresh := by
  refine fresh_of_newAt fun n text drawn => ?_
  rcases Nat.lt_or_ge n moves.length with early | late
  · exact new n early text drawn
  · rw [drawn_ofMoves_of_le late] at drawn
    cases drawn

/-! ### Two refreshes at a time -/

/-- A provider login of the user `u`, then two refreshes with the refresh string of its token, both of which
have minted a token when the first one chains its own. -/
def race : Interleaving :=
  let profile : Profile := ⟨"p", "s", none, []⟩
  let resume (id : Nat) (text : String) : Move := .resume id ⟨.ofSeconds 0, text, .ok profile⟩
  ofMoves ⟨Registry.empty.register ⟨"p", fun _ => .done (.error .unknownToken)⟩, 3600, 600⟩
    (Memory.empty.insertAccount ⟨"u", "", none, none, Table.empty.insert "p" profile⟩)
    ([.start (.issueFromProvider "p" "")] ++ ["", "", "", "", "a", "r", "", ""].map (resume 0) ++
      [.start (.refresh "r"), .start (.refresh "r")] ++
      ["", "", "", "b", "s"].map (resume 9) ++ ["", "", "", "c", "t"].map (resume 10) ++
      ["", ""].map (resume 9) ++ ["", "", "", ""].map (resume 10))

theorem race_fresh : race.Fresh := fresh_ofMoves (by decide)

theorem race_startsEmpty : race.StartsEmpty := ⟨rfl, rfl⟩

end Interleaving

end TokenAuthority
