/-!
Dates of the Gregorian calendar and their numbers, counted in days from 1970-01-01. Years are
reckoned from March, so that a leap day is the last day of its year: 400 years have 146097 days, of
which each of the first three centuries has 36524, each four years up to the last 1461, and each
year up to the last 365. `toDays_ofDays` says that a day is found again from its date.
-/

namespace TokenAuthority

structure Date where
  year : Int
  month : Nat
  day : Nat
deriving DecidableEq

namespace Date

/-- The number of days from 0000-03-01 to 1970-01-01. -/
def epochOffset : Int := 719468

/-- The first day of a month within a year from March on; March is month 0. -/
def firstDay (month : Nat) : Nat := (153 * month + 2) / 5

def ofDays (days : Int) : Date :=
  let fromMarch := days + epochOffset
  let dayOfEra := (fromMarch % 146097).toNat
  let century := min (dayOfEra / 36524) 3
  let dayOfCentury := dayOfEra - 36524 * century
  let quad := dayOfCentury / 1461
  let dayOfQuad := dayOfCentury - 1461 * quad
  let yearOfQuad := min (dayOfQuad / 365) 3
  let dayOfYear := dayOfQuad - 365 * yearOfQuad
  let month := (5 * dayOfYear + 2) / 153
  let year := 400 * (fromMarch / 146097) + (100 * century + 4 * quad + yearOfQuad : Nat)
  { year := if month < 10 then year else year + 1
    month := if month < 10 then month + 3 else month - 9
    day := dayOfYear - firstDay month + 1 }

def toDays (d : Date) : Int :=
  let year := if d.month < 3 then d.year - 1 else d.year
  let month := if d.month < 3 then d.month + 9 else d.month - 3
  365 * year + year / 4 - year / 100 + year / 400 + firstDay month + d.day - 1 - epochOffset

theorem firstDay_le (dayOfYear : Nat) : firstDay ((5 * dayOfYear + 2) / 153) ≤ dayOfYear := by
  unfold firstDay
  omega

theorem daysBefore_year (era year : Int) (century quad yearOfQuad : Nat) (hq : quad ≤ 24)
    (hy : yearOfQuad ≤ 3) (hc : century ≤ 3)
    (h : year = 400 * era + (100 * century + 4 * quad + yearOfQuad : Nat)) :
    365 * year + year / 4 - year / 100 + year / 400 =
      146097 * era + (36524 * century + 1461 * quad + 365 * yearOfQuad : Nat) := by
  have fours : year / 4 = 100 * era + (25 * century + quad : Nat) := by omega
  have hundreds : year / 100 = 4 * era + (century : Nat) := by omega
  have eras : year / 400 = era := by omega
  omega

theorem toDays_ofDays (days : Int) : (ofDays days).toDays = days := by
  unfold ofDays
  extract_lets fromMarch dayOfEra century dayOfCentury quad dayOfQuad yearOfQuad dayOfYear month
    year
  have _ : dayOfEra < 146097 := by omega
  have hc : century ≤ 3 := by omega
  have _ : 36524 * century + dayOfCentury = dayOfEra ∧ dayOfCentury ≤ 36524 := by omega
  have hq : quad ≤ 24 := by omega
  have _ : 1461 * quad + dayOfQuad = dayOfCentury ∧ dayOfQuad ≤ 1460 := by omega
  have hy : yearOfQuad ≤ 3 := by omega
  have _ : 365 * yearOfQuad + dayOfYear = dayOfQuad ∧ dayOfYear ≤ 365 := by omega
  have _ : month ≤ 11 := by omega
  have before := daysBefore_year (fromMarch / 146097) year century quad yearOfQuad hq hy hc rfl
  have first : firstDay month ≤ dayOfYear := firstDay_le dayOfYear
  have _ : fromMarch = 146097 * (fromMarch / 146097) + dayOfEra := by omega
  have _ : fromMarch = days + epochOffset := rfl
  clear_value fromMarch dayOfEra century dayOfCentury quad dayOfQuad yearOfQuad dayOfYear month year
  unfold toDays
  by_cases h : month < 10
  · have later : ¬month + 3 < 3 := by omega
    simp only [h, if_true, later, if_false, Nat.add_sub_cancel]
    omega
  · have early : month - 9 < 3 := by omega
    have same : month - 9 + 9 = month := by omega
    simp only [h, if_true, early, if_false, same, Int.add_sub_cancel]
    omega

example : ofDays 0 = ⟨1970, 1, 1⟩ := by decide
example : ofDays 11016 = ⟨2000, 2, 29⟩ := by decide
example : ofDays (-719529) = ⟨-1, 12, 31⟩ := by decide
example : toDays ⟨2024, 2, 29⟩ = 19782 := by decide

end Date

end TokenAuthority
