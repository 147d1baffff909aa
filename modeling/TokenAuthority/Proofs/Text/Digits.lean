import Mathlib.Data.List.Induction
import Mathlib.Data.Nat.Init

/-!
# Numbers in decimal digits

A number has one text in decimal digits that does not start with a superfluous zero.
-/

namespace TokenAuthority.Text

variable {digits : List Char} {c : Char} {n : Nat}

theorem isDigit_of_mem_toDigits (mem : c ∈ Nat.toDigits 10 n) : c.isDigit = true :=
  Nat.isDigit_of_mem_toDigits (by omega) (by omega) mem

theorem toDigits_cons (n : Nat) : ∃ c cs, Nat.toDigits 10 n = c :: cs ∧ c.isDigit = true := by
  obtain ⟨c, cs, digits⟩ := List.exists_cons_of_ne_nil (Nat.toDigits_ne_nil (n := n) (b := 10))
  have mem : c ∈ Nat.toDigits 10 n := by rw [digits]; exact List.mem_cons_self
  exact ⟨c, cs, digits, isDigit_of_mem_toDigits mem⟩

theorem head?_toDigits (zero : (Nat.toDigits 10 n).head? = some '0') : n = 0 := by
  induction n using Nat.strong_induction_on with
  | _ n ih =>
    by_cases small : n < 10
    · rw [Nat.toDigits_of_lt_base small] at zero
      have first : ∀ n < 10, [Nat.digitChar n].head? = some '0' → n = 0 := by decide
      exact first n small zero
    · rw [Nat.toDigits_of_base_le (by omega) (by omega)] at zero
      obtain ⟨c, digits, front, -⟩ := toDigits_cons (n / 10)
      have less := ih (n / 10) (by omega)
      rw [front] at zero less
      have none := less zero
      omega

theorem le_ofDigitChars (digits : List Char) (start : Nat) : start ≤ Nat.ofDigitChars 10 digits start := by
  rw [Nat.ofDigitChars_eq_ofDigitChars_zero]
  exact Nat.le_add_right_of_le (Nat.le_mul_of_pos_left _ (Nat.pow_pos (by decide)))

/-- A digit stands for a number below ten, whose digit it is. -/
theorem digitChar_of_isDigit (digit : c.isDigit = true) :
    c.toNat - '0'.toNat < 10 ∧ Nat.digitChar (c.toNat - '0'.toNat) = c := by
  have checked : ∀ code < 58, 48 ≤ code →
      code - '0'.toNat < 10 ∧ Nat.digitChar (code - '0'.toNat) = Char.ofNat code := by decide
  obtain ⟨least, most⟩ := Char.isDigit_iff_toNat.1 digit
  have same := checked c.toNat (Nat.lt_succ_of_le most) least
  rwa [Char.ofNat_toNat] at same

/-- Digits that do not start with a zero, unless it is the only one, are those of their number. -/
theorem toDigits_ofDigitChars (filled : digits ≠ []) (all : ∀ c ∈ digits, c.isDigit = true)
    (canonical : digits.head? = some '0' → digits.length ≤ 1) :
    Nat.toDigits 10 (Nat.ofDigitChars 10 digits 0) = digits := by
  induction digits using List.reverseRecOn with
  | nil => exact (filled rfl).elim
  | append_singleton front c ih =>
    obtain ⟨small, digit⟩ := digitChar_of_isDigit (all c (List.mem_append_right _ List.mem_cons_self))
    rw [Nat.ofDigitChars_append, Nat.ofDigitChars_cons, Nat.ofDigitChars_nil]
    cases front with
    | nil =>
      rw [Nat.ofDigitChars_nil, Nat.mul_zero, Nat.zero_add, Nat.toDigits_of_lt_base small, digit, List.nil_append]
    | cons d front =>
      have leading : d ≠ '0' := by
        rintro rfl
        have short := canonical rfl
        simp at short
      have same := ih (List.cons_ne_nil _ _) (fun c mem => all c (List.mem_append_left _ mem))
        fun zero => (leading (Option.some.inj zero)).elim
      have positive : 0 < Nat.ofDigitChars 10 (d :: front) 0 := by
        refine Nat.pos_of_ne_zero fun zero => ?_
        rw [zero, Nat.toDigits_zero] at same
        exact leading (List.cons.inj same).1.symm
      rw [← Nat.toDigits_append_toDigits (by omega) positive small, same, Nat.toDigits_of_lt_base small, digit]

end TokenAuthority.Text
