import Mathlib.Data.List.Forall2

/-!
# Results that can be errors

When a program that may fail comes to a value: every step of it did, and every item of a list was read.
-/

namespace Except

variable {ε ε' : Type} {α β : Type}

theorem bind_eq_ok_iff {x : Except ε α} {f : α → Except ε β} {b : β} :
    x >>= f = .ok b ↔ ∃ a, x = .ok a ∧ f a = .ok b := by
  cases x with
  | error e => exact ⟨nofun, fun ⟨a, fails, _⟩ => nomatch fails⟩
  | ok a => exact ⟨fun rest => ⟨a, rfl, rest⟩, fun ⟨_, same, rest⟩ => Except.ok.inj same ▸ rest⟩

theorem mapError_eq_ok_iff {x : Except ε α} {f : ε → ε'} {a : α} : x.mapError f = .ok a ↔ x = .ok a := by
  cases x with
  | error e => exact ⟨nofun, nofun⟩
  | ok b => exact ⟨fun same => congrArg _ (Except.ok.inj same), fun same => congrArg _ (Except.ok.inj same)⟩

/-- What is refused under a condition has a value if the condition fails. -/
theorem refuse_eq_ok_iff {γ : Type} {condition : Prop} [Decidable condition] {e : ε} {f : γ → Except ε α}
    {rest : Except ε α} {a : α} :
    (if condition then throw e >>= f else rest) = .ok a ↔ ¬condition ∧ rest = .ok a := by
  by_cases holds : condition
  · rw [if_pos holds]
    exact ⟨(nomatch ·), fun ⟨fails, _⟩ => (fails holds).elim⟩
  · rw [if_neg holds]
    exact ⟨fun same => ⟨holds, same⟩, And.right⟩

theorem mapM_eq_ok_iff {f : α → Except ε β} {items : List α} {values : List β} :
    items.mapM f = .ok values ↔ List.Forall₂ (fun item value => f item = .ok value) items values := by
  induction items generalizing values with
  | nil =>
    rw [List.mapM_nil, List.forall₂_nil_left_iff]
    exact ⟨fun same => (Except.ok.inj same).symm, fun none => none ▸ rfl⟩
  | cons item items ih =>
    rw [List.mapM_cons, List.forall₂_cons_left_iff]
    simp only [bind_eq_ok_iff, ih]
    constructor
    · rintro ⟨value, first, values, others, same⟩
      exact ⟨value, values, first, others, (Except.ok.inj same).symm⟩
    · rintro ⟨value, values, first, others, rfl⟩
      exact ⟨value, first, values, others, rfl⟩

end Except
