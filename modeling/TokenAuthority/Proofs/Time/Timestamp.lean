import Mathlib.Algebra.Group.Nat.Defs
import TokenAuthority.Time.Timestamp

/-!
# Timestamps are read back

The text of an instant gives each of its parts in as many digits as are read for it, and the one part of varying length,
the fraction, ends where the text does. `read?_write` puts the parts together again: the text of an instant in the
calendar denotes that instant to the nanosecond, in a leap second too.
-/

namespace TokenAuthority

/-! ### Dates -/

namespace Date

variable (days : Int)

theorem month_ofDays_le : (ofDays days).month ≤ 12 := by
  unfold ofDays
  extract_lets fromMarch dayOfEra century dayOfCentury quad dayOfQuad yearOfQuad dayOfYear month year
  have : month ≤ 11 := by omega
  dsimp only
  split <;> omega

theorem day_ofDays_le : (ofDays days).day ≤ 31 := by
  unfold ofDays firstDay
  extract_lets fromMarch dayOfEra century dayOfCentury quad dayOfQuad yearOfQuad dayOfYear month year
  have _ : month = (5 * dayOfYear + 2) / 153 := rfl
  clear_value dayOfYear month
  dsimp only
  omega

end Date

namespace Timestamp

/-! ### Digits -/

variable {width n : Nat} {rest : List Char}

theorem isDigit_of_mem_padded {c : Char} (mem : c ∈ padded width n) : c.isDigit = true := by
  rw [padded, List.leftpad, List.mem_append] at mem
  rcases mem with zero | digit
  · obtain ⟨-, rfl⟩ := List.mem_replicate.1 zero
    rfl
  · exact Nat.isDigit_of_mem_toDigits (by decide) (by decide) digit

theorem length_padded (wide : 0 < width) (fits : n < 10 ^ width) : (padded width n).length = width := by
  have short : (Nat.toDigits 10 n).length ≤ width := (Nat.length_toDigits_le_iff (by decide) wide).2 fits
  rw [padded, List.length_leftpad, Nat.max_eq_left short]

theorem le_length_padded (width n : Nat) : width ≤ (padded width n).length := by
  rw [padded, List.length_leftpad]
  exact Nat.le_max_left ..

theorem ofDigitChars_padded (width n : Nat) : Nat.ofDigitChars 10 (padded width n) 0 = n := by
  rw [padded, List.leftpad, Nat.ofDigitChars_append, Nat.ofDigitChars_replicate_zero, Nat.mul_zero,
    Nat.ofDigitChars_ten_toDigits]

theorem readDigits_padded (wide : 0 < width) (fits : n < 10 ^ width) :
    readDigits width (padded width n ++ rest) = some (n, rest) := by
  have length := length_padded wide fits
  have front : (padded width n ++ rest).take width = padded width n := List.take_left' length
  have back : (padded width n ++ rest).drop width = rest := List.drop_left' length
  have all : (padded width n).all Char.isDigit = true := List.all_eq_true.2 fun c mem => isDigit_of_mem_padded mem
  rw [readDigits, front, back, if_pos ⟨length, all⟩, ofDigitChars_padded]

theorem takeWhile_isDigit_padded {mark : Char} (other : mark.isDigit = false) :
    (padded width n ++ mark :: rest).takeWhile Char.isDigit = padded width n := by
  rw [List.takeWhile_append_of_pos fun c mem => isDigit_of_mem_padded mem,
    List.takeWhile_cons_of_neg (by simp [other]), List.append_nil]

/-! ### Parts -/

theorem readMark_cons (mark : Char) (rest : List Char) : readMark mark (mark :: rest) = some rest := by
  rw [readMark, if_pos rfl]

theorem readYear_writeYear (year : Int) : readYear (writeYear year ++ '-' :: rest) = some (year, '-' :: rest) := by
  unfold writeYear
  split
  · rename_i plain
    have fits : year.toNat < 10 ^ 4 := by omega
    obtain ⟨c, cs, digits⟩ : ∃ c cs, padded 4 year.toNat = c :: cs :=
      List.exists_cons_of_ne_nil (List.ne_nil_of_length_pos (by rw [length_padded (by decide) fits]; decide))
    have digit : c.isDigit = true := isDigit_of_mem_padded (digits ▸ List.mem_cons_self)
    have unsigned : ¬(c = '+' ∨ c = '-') := by
      rintro (rfl | rfl) <;> cases digit
    have reads : readDigits 4 (padded 4 year.toNat ++ '-' :: rest) = some (year.toNat, '-' :: rest) :=
      readDigits_padded (by decide) fits
    rw [digits, List.cons_append] at reads ⊢
    simp only [readYear, if_neg unsigned, reads]
    exact congrArg (fun y : Int => some (y, '-' :: rest)) (Int.toNat_of_nonneg plain.1)
  · rename_i signed
    -- With a sign in front, a year goes on up to the mark behind it.
    have long : ¬(padded 4 year.natAbs).length < 4 := Nat.not_lt.2 (le_length_padded 4 year.natAbs)
    have stops : (padded 4 year.natAbs ++ '-' :: rest).takeWhile Char.isDigit = padded 4 year.natAbs :=
      takeWhile_isDigit_padded rfl
    by_cases negative : year < 0
    · simp only [negative, if_true, List.cons_append, readYear, or_true, stops, long, if_false, ofDigitChars_padded,
        List.drop_left]
      exact congrArg (fun y : Int => some (y, '-' :: rest)) (show -(year.natAbs : Int) = year by omega)
    · simp only [negative, if_false, List.cons_append, readYear, true_or, if_true, stops, long, ofDigitChars_padded,
        List.drop_left]
      exact congrArg (fun y : Int => some (y, '-' :: rest)) (show (year.natAbs : Int) = year by omega)

theorem readDate_writeDate (days : Int) :
    readDate (writeDate (Date.ofDays days) ++ rest) = some (Date.ofDays days, rest) := by
  have month := Date.month_ofDays_le days
  have day := Date.day_ofDays_le days
  have real : Date.ofDays (Date.ofDays days).toDays = Date.ofDays days := by rw [Date.toDays_ofDays]
  simp only [writeDate, List.append_assoc, List.cons_append]
  refine Option.bind_eq_some_iff.2 ⟨_, readYear_writeYear _, ?_⟩
  refine Option.bind_eq_some_iff.2 ⟨_, readMark_cons '-' _, ?_⟩
  refine Option.bind_eq_some_iff.2 ⟨_, readDigits_padded (by decide) (show _ < 10 ^ 2 by omega), ?_⟩
  refine Option.bind_eq_some_iff.2 ⟨_, readMark_cons '-' _, ?_⟩
  refine Option.bind_eq_some_iff.2 ⟨_, readDigits_padded (by decide) (show _ < 10 ^ 2 by omega), ?_⟩
  exact if_pos real

theorem readFraction_padded (wide : 0 < width) (narrow : width ≤ 9) (fits : n < 10 ^ width) :
    readFraction ('.' :: (padded width n ++ ['Z'])) = some (n * 10 ^ (9 - width), ['Z']) := by
  have length := length_padded wide fits
  have some : padded width n ≠ [] := List.ne_nil_of_length_pos (by omega)
  have filled : Nat.ofDigitChars 10 ((padded width n).rightpad 9 '0') 0 = n * 10 ^ (9 - width) := by
    rw [List.rightpad, Nat.ofDigitChars_append, ofDigitChars_padded, Nat.ofDigitChars_replicate_zero, length,
      Nat.mul_comm]
  rw [readFraction, takeWhile_isDigit_padded rfl, if_neg (by simp [some, length, narrow]), filled, List.drop_left]

theorem readFraction_writeFraction {nanos : Nat} (small : nanos < nanosPerSecond) :
    readFraction (writeFraction nanos ++ ['Z']) = some (nanos, ['Z']) := by
  unfold nanosPerSecond at small
  unfold writeFraction
  split
  · rename_i zero
    subst zero
    rfl
  · split
    · rename_i millis
      rw [List.cons_append, readFraction_padded (by decide) (by decide) (by omega)]
      congr 2
      omega
    · split
      · rename_i micros
        rw [List.cons_append, readFraction_padded (by decide) (by decide) (by omega)]
        congr 2
        omega
      · rw [List.cons_append, readFraction_padded (by decide) (by decide) (by omega)]
        simp

/-! ### Instants -/

/-- The text of an instant denotes that instant. -/
theorem read?_write {t : Instant} (inside : t.InCalendar) : read? (write t) = some t := by
  have small := t.nanos_lt
  unfold nanosPerSecond at small
  have day : t.seconds / 86400 * 86400 + t.secondOfDay = t.seconds ∧ 0 ≤ t.secondOfDay ∧ t.secondOfDay < 86400 := by
    unfold Instant.secondOfDay
    omega
  obtain ⟨clock, clocked⟩ : ∃ clock : Nat, t.secondOfDay = clock := Int.eq_ofNat_of_zero_le day.2.1
  obtain ⟨leap, leaps⟩ : ∃ leap, t.nanos / nanosPerSecond = leap := ⟨_, rfl⟩
  -- A leap second is second 60, whose first digit is all that reading has to go by.
  have once : leap = 0 ∨ leap = 1 ∧ clock % 60 = 59 := by
    unfold nanosPerSecond at leaps
    omega
  have back : (clock % 60 + leap) / 60 = leap := by omega
  have fraction : readFraction (writeFraction (t.nanos % nanosPerSecond) ++ ['Z']) =
      some (t.nanos % nanosPerSecond, ['Z']) := readFraction_writeFraction (Nat.mod_lt _ (by decide))
  have whole : leap * nanosPerSecond + t.nanos % nanosPerSecond = t.nanos := by
    rw [← leaps, Nat.div_add_mod']
  have seconds : t.seconds / 86400 * 86400 +
      (clock / 3600 * 3600 + clock / 60 % 60 * 60 + (clock % 60 + leap - leap) : Nat) = t.seconds := by omega
  have text : write t = writeDate (.ofDays (t.seconds / 86400)) ++ 'T' :: (padded 2 (clock / 3600) ++
      ':' :: (padded 2 (clock / 60 % 60) ++ ':' :: (padded 2 (clock % 60 + leap) ++
        (writeFraction (t.nanos % nanosPerSecond) ++ ['Z'])))) := by
    rw [write, writeTime, clocked, Int.toNat_natCast, leaps]
    simp only [List.append_assoc, List.cons_append]
  have real : ¬(['Z'] ≠ ['Z'] ∨ 24 ≤ clock / 3600 ∨ 60 ≤ clock / 60 % 60 ∨ 60 < clock % 60 + leap) := by
    rw [ne_self_iff_false, false_or]
    omega
  rw [read?, text]
  refine Option.bind_eq_some_iff.2 ⟨_, readDate_writeDate _, ?_⟩
  refine Option.bind_eq_some_iff.2 ⟨_, readMark_cons 'T' _, ?_⟩
  refine Option.bind_eq_some_iff.2 ⟨_, readDigits_padded (by decide) (show clock / 3600 < 10 ^ 2 by omega), ?_⟩
  refine Option.bind_eq_some_iff.2 ⟨_, readMark_cons ':' _, ?_⟩
  refine Option.bind_eq_some_iff.2 ⟨_, readDigits_padded (by decide) (show clock / 60 % 60 < 10 ^ 2 by omega), ?_⟩
  refine Option.bind_eq_some_iff.2 ⟨_, readMark_cons ':' _, ?_⟩
  refine Option.bind_eq_some_iff.2 ⟨_, readDigits_padded (by decide) (show clock % 60 + leap < 10 ^ 2 by omega), ?_⟩
  refine Option.bind_eq_some_iff.2 ⟨_, fraction, ?_⟩
  dsimp only
  rw [if_neg real, back, Date.toDays_ofDays, seconds, whole, Instant.ofParts?, dif_pos t.nanos_lt]
  exact if_pos inside

end Timestamp

end TokenAuthority
