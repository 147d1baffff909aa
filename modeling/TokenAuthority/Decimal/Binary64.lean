/-!
Finite 64-bit floating-point numbers as a sign, a mantissa and an exponent, with rounding to the
nearest number, ties to the even mantissa, in exact integer arithmetic.
-/

namespace TokenAuthority.Decimal

/-- The number `mantissa * 2 ^ exponent` with a sign. Rounding yields a mantissa of 53 bits, or of
fewer bits at the least exponent. -/
structure Binary64 where
  negative : Bool
  mantissa : Nat
  exponent : Int
deriving DecidableEq

def powerOfTen (n : Nat) : Nat := Nat.pow 10 n

/-- The nearest natural number to `n / d`, the even one of two. -/
def roundDiv (n d : Nat) : Nat :=
  let q := n / d
  let r := 2 * (n % d)
  if r < d ∨ (r = d ∧ q % 2 = 0) then q else q + 1

namespace Binary64

def leastExponent : Int := -1074

def greatestExponent : Int := 971

def zero (negative : Bool) : Binary64 := ⟨negative, 0, leastExponent⟩

def isZero (x : Binary64) : Bool := x.mantissa == 0

/-- Equality of values: the two zeros are equal. -/
def same (x y : Binary64) : Bool := x == y || (x.isZero && y.isZero)

def neg (x : Binary64) : Binary64 := { x with negative := !x.negative }

def ratio (x : Binary64) : Nat × Nat :=
  (x.mantissa <<< x.exponent.toNat, 1 <<< (-x.exponent).toNat)

/-- The nearest number to `num / den`, or nothing when that is beyond the greatest number. -/
def ofRatio (num den : Nat) : Option Binary64 :=
  if num = 0 then some (zero false)
  else
    let scaled (e : Int) : Nat × Nat := (num <<< (-e).toNat, den <<< e.toNat)
    let guess := max ((num.log2 : Int) - den.log2 - 53) leastExponent
    let e := if (scaled guess).1 < (scaled guess).2 <<< 53 then guess else guess + 1
    let m := roundDiv (scaled e).1 (scaled e).2
    let (m, e) := if m = 1 <<< 53 then (1 <<< 52, e + 1) else (m, e)
    if greatestExponent < e then none else some ⟨false, m, e⟩

def times (x y : Binary64) : Option Binary64 :=
  ofRatio (x.ratio.1 * y.ratio.1) (x.ratio.2 * y.ratio.2)

def dividedBy (x y : Binary64) : Option Binary64 :=
  ofRatio (x.ratio.1 * y.ratio.2) (x.ratio.2 * y.ratio.1)

def ofNat (n : Nat) : Option Binary64 := ofRatio n 1

/-- The rounded quotient of a number by a power of ten, itself rounded; an exponent above 308 is
taken in steps. -/
def overPowerOfTen (x : Binary64) (n : Nat) : Option Binary64 :=
  if n ≤ 308 then do x.dividedBy (← ofNat (powerOfTen n))
  else if x.isZero then some x
  else do
    let y ← x.dividedBy (← ofNat (powerOfTen 308))
    overPowerOfTen y (n - 308)
termination_by n

/-- The number that `significand * 10 ^ exponent` is read as: the significand is rounded, then
multiplied or divided by a rounded power of ten. Nothing when it is out of range. -/
def ofDecimal (significand : Nat) (exponent : Int) : Option Binary64 := do
  let x ← ofNat significand
  if exponent < 0 then overPowerOfTen x (-exponent).toNat
  else if exponent ≤ 308 then times x (← ofNat (powerOfTen exponent.toNat))
  else if x.isZero then some x
  else none

end Binary64

end TokenAuthority.Decimal
