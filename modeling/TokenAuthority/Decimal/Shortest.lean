import TokenAuthority.Decimal.Binary64

/-!
The fewest decimal digits that round back to a given floating-point number, and among texts of that
many digits the nearest. `Layout` says when an exponent is written.
-/

namespace TokenAuthority.Decimal

/-- `digits * 10 ^ exponent`. -/
structure Scientific where
  digits : Nat
  exponent : Int
deriving DecidableEq

def lessEq (x y : Nat × Nat) : Bool := x.1 * y.2 ≤ y.1 * x.2

namespace Scientific

def ratio (s : Scientific) : Nat × Nat :=
  (s.digits * powerOfTen s.exponent.toNat, powerOfTen (-s.exponent).toNat)

end Scientific

namespace Binary64

def interval (x : Binary64) : (Nat × Nat) × (Nat × Nat) :=
  let below := if x.mantissa = 1 <<< 52 ∧ leastExponent < x.exponent then 1 else 2
  let quarter (k : Nat) : Nat × Nat :=
    (k <<< x.exponent.toNat, 4 <<< (-x.exponent).toNat)
  (quarter (4 * x.mantissa - below), quarter (4 * x.mantissa + 2))

/-- Whether a decimal rounds to a number; the ends of the interval do so for even mantissas. -/
def roundsTo (s : Scientific) (x : Binary64) : Bool :=
  let (low, high) := x.interval
  if x.mantissa % 2 = 0 then lessEq low s.ratio && lessEq s.ratio high
  else !lessEq s.ratio low && !lessEq high s.ratio

/-- The greatest `e` with `10 ^ e` at most the size of a number that is not zero. -/
def magnitude (x : Binary64) : Int :=
  let guess := ((x.ratio.1.log2 : Int) - x.ratio.2.log2) * 30103 / 100000
  let fits (e : Int) : Bool := lessEq (Scientific.ratio ⟨1, e⟩) x.ratio
  (([guess + 2, guess + 1, guess, guess - 1].find? fits).getD (guess - 2))

/-- The nearer of the two neighbours on the grid of multiples of `10 ^ p` that rounds to the
number. -/
def onGrid? (x : Binary64) (p : Int) : Option Scientific :=
  let num := x.ratio.1 * powerOfTen (-p).toNat
  let den := x.ratio.2 * powerOfTen p.toNat
  let under : Scientific := ⟨num / den, p⟩
  let above : Scientific := ⟨num / den + 1, p⟩
  let preferred := if roundDiv num den = num / den then [under, above] else [above, under]
  preferred.find? (roundsTo · x)

/-- The shortest decimal of a number that is not zero; seventeen digits are always enough. Only
the coarsest grid can yield a last digit of zero, for a number just below a power of ten. -/
def shortest (x : Binary64) : Scientific :=
  let hit := (List.range 17).findSome? fun (n : Nat) => x.onGrid? (x.magnitude - n)
  let s := hit.getD ⟨0, 0⟩
  if s.digits % 10 = 0 then ⟨s.digits / 10, s.exponent + 1⟩ else s

end Binary64

/-- Between which positions of the decimal point, counted from the first digit, a number is written
without an exponent. -/
structure Layout where
  leftmost : Int
  rightmost : Int

def Layout.write (l : Layout) (s : Scientific) : List Char :=
  let digits := Nat.toDigits 10 s.digits
  let point : Int := digits.length + s.exponent
  if 0 ≤ s.exponent ∧ point ≤ l.rightmost then
    digits ++ List.replicate s.exponent.toNat '0' ++ ['.', '0']
  else if 0 < point ∧ point ≤ l.rightmost then
    digits.take point.toNat ++ '.' :: digits.drop point.toNat
  else if l.leftmost ≤ point ∧ point ≤ 0 then
    ['0', '.'] ++ List.replicate (-point).toNat '0' ++ digits
  else
    let power := point - 1
    let fraction := if digits.length ≤ 1 then [] else '.' :: digits.drop 1
    digits.take 1 ++ fraction ++ ['e', if power < 0 then '-' else '+'] ++
      Nat.toDigits 10 power.natAbs

def Layout.text (l : Layout) (x : Binary64) : List Char :=
  (if x.negative then ['-'] else []) ++
    if x.isZero then ['0', '.', '0'] else l.write x.shortest

end TokenAuthority.Decimal
