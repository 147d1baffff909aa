import TokenAuthority.Proofs.Alone.Basic
import TokenAuthority.Proofs.Interleaving.Finite
import TokenAuthority.Proofs.Interleaving.Order

/-!
# Chains along a run

At every instant the tokens of a run fall into chains that are paths: each leads through tokens of one
owner to one last token, which is the only one of its chain that can be accepted.
-/

namespace TokenAuthority

open Chain

namespace Interleaving

variable {run : Interleaving} {id n : Nat} {access : String} {token : Token}

theorem Returned.accepts (returned : run.Returned n id (.ok (.token token)))
    (starts : run.move id = .start (.authenticate access)) :
    ∃ k, k < n ∧ run.Visits k id ∧ token.next = none ∧ (run.memory k).tokens.get? access = some token := by
  obtain ⟨m, early, -, result, same, -, accepts⟩ := returned.ends starts
  cases result with
  | error failure => cases same
  | ok accepted =>
    obtain rfl := Yield.token.inj (Except.ok.inj same)
    obtain ⟨k, before, -, last, does⟩ := accepts _ rfl
    have found := Reads.finds ⟨Nat.le_refl k, does⟩
    exact ⟨k, by omega, ⟨_, _, does⟩, last, found.symm⟩

/-- Successors are stored, and no two tokens have one. Links never lead back to a token. The tokens of a
chain have one owner, and no authorization code unless they are alone in it. Whatever the time, a token
that is accepted is the last of its chain, which has one last token. -/
theorem chains_are_paths (run : Interleaving) (fresh : run.Fresh) (empty : run.StartsEmpty) (n : Nat) :
    (∀ a b, Precedes (run.memory n).tokens a b →
      ∃ token, (run.memory n).tokens.get? b = some token ∧ token.access = b) ∧
    (∀ a b c, Precedes (run.memory n).tokens a c → Precedes (run.memory n).tokens b c → a = b) ∧
    (∀ a, ¬Relation.TransGen (Precedes (run.memory n).tokens) a a) ∧
    (∀ a b token other, Same (run.memory n).tokens a b → (run.memory n).tokens.get? a = some token →
      (run.memory n).tokens.get? b = some other →
      token.owner = other.owner ∧ (a ≠ b → token.code = none ∧ other.code = none)) ∧
    (∀ a, (run.memory n).Accepts a → ∀ b, ¬Precedes (run.memory n).tokens a b) ∧
    (∀ a b, Same (run.memory n).tokens a b → (run.memory n).Accepts a → (run.memory n).Accepts b → a = b) ∧
    (∀ id a token, run.move id = .start (.authenticate a) → run.Returned n id (.ok (.token token)) →
      ∃ k, k < n ∧ run.Visits k id ∧ (run.memory k).tokens.get? a = some token ∧
        ∀ b, ¬Precedes (run.memory k).tokens a b) := by
  obtain ⟨indexed, chained⟩ := memory_orderly fresh empty n
  have ends {tokens : Table Token} {a : String} {token : Token} (found : tokens.get? a = some token)
      (last : token.next = none) (b : String) : ¬Precedes tokens a b := by
    rintro ⟨other, read, next⟩
    rw [found] at read
    obtain rfl := Option.some.inj read
    rw [last] at next
    cases next
  refine ⟨fun a b link => ?_, fun a b c => chained.single, fun a => chained.acyclic, ?_, ?_, ?_, ?_⟩
  · obtain ⟨token, found⟩ := chained.stored link
    exact ⟨token, found, indexed.keyed found⟩
  · intro a b token other same found read
    refine ⟨?_, fun different => ⟨same.plain chained different found, ?_⟩⟩
    · have owner := same.owner chained
      rw [found, read] at owner
      exact Option.some.inj owner
    · exact Same.plain chained (same.symm _ _) different.symm read
  · intro a accepts
    obtain ⟨token, found, last⟩ := accepts.last
    exact ends found last
  · intro a b same accepts accepts'
    obtain ⟨token, found, last⟩ := accepts.last
    obtain ⟨other, read, end_⟩ := accepts'.last
    exact same.eq_of_last found last read end_
  · intro id a token starts returned
    obtain ⟨k, before, visits, last, found⟩ := returned.accepts starts
    exact ⟨k, before, visits, found, ends found last⟩

/-- A token that was refreshed has a successor in its chain and is not accepted any more. -/
theorem race_chain : race.Fresh ∧ race.StartsEmpty ∧ Precedes (race.memory 27).tokens "a" "b" ∧
    ¬Relation.TransGen (Precedes (race.memory 27).tokens) "a" "a" ∧ ¬(race.memory 27).Accepts "a" := by
  obtain ⟨-, -, acyclic, -, last, -⟩ := chains_are_paths race race_fresh race_startsEmpty 27
  have linked : Precedes (race.memory 27).tokens "a" "b" := ⟨_, rfl, rfl⟩
  exact ⟨race_fresh, race_startsEmpty, linked, acyclic "a", fun accepts => last "a" accepts "b" linked⟩

end Interleaving

end TokenAuthority
