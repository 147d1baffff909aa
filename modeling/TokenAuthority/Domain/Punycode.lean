/-!
Labels beyond ASCII, written in ASCII: the ASCII characters come first, and digits in base 36 say
which other characters stand where, in ascending order of their code points.
-/

namespace TokenAuthority.Domain

def bootDigit (n : Nat) : Char := if n < 26 then Char.ofNat (97 + n) else Char.ofNat (22 + n)

def bootValue? (c : Char) : Option Nat :=
  if c.isDigit then some (c.toNat - 22) else if c.isLower then some (c.toNat - 97) else none

/-- A digit below its threshold is the last one of a number. -/
def threshold (bias k : Nat) : Nat :=
  if k ≤ bias then 1 else if bias + 26 ≤ k then 26 else k - bias

theorem threshold_pos (bias k : Nat) : 0 < threshold bias k := by grind [threshold]

def adaptSteps (delta k : Nat) : Nat × Nat :=
  if 455 < delta then adaptSteps (delta / 35) (k + 36) else (delta, k)
termination_by delta
decreasing_by omega

def adaptBias (delta points : Nat) (first : Bool) : Nat :=
  let start := if first then delta / 700 else delta / 2
  let (rest, k) := adaptSteps (start + start / points) 0
  k + 36 * rest / (rest + 38)

/-! ### Writing -/

def bootDigits (bias k q : Nat) : List Char :=
  let t := threshold bias k
  if q < t then [bootDigit q]
  else bootDigit (t + (q - t) % (36 - t)) :: bootDigits bias (k + 36) ((q - t) / (36 - t))
termination_by q
decreasing_by
  have := threshold_pos bias k
  exact Nat.lt_of_le_of_lt (Nat.div_le_self ..) (by grind)

structure LabelState where
  written : List Char
  delta : Nat
  bias : Nat
  handled : Nat

/-- Passes a character of a label while the code point `point` is written. -/
def LabelState.pass (basic point : Nat) (s : LabelState) (c : Char) : LabelState :=
  if c.toNat < point then { s with delta := s.delta + 1 }
  else if c.toNat = point then
    { written := s.written ++ bootDigits s.bias 36 s.delta
      delta := 0
      bias := adaptBias s.delta (s.handled + 1) (s.handled == basic)
      handled := s.handled + 1 }
  else s

/-- Writes a code point wherever it stands in a label; the state holds the point to go on from. -/
def LabelState.write (label : List Char) (basic : Nat) (s : Nat × LabelState) (point : Nat) :
    Nat × LabelState :=
  let delta := s.2.delta + (point - s.1) * (s.2.handled + 1)
  let passed := label.foldl (LabelState.pass basic point) { s.2 with delta }
  (point + 1, { passed with delta := passed.delta + 1 })

def asciiLabel (label : List Char) : List Char :=
  let basic := label.filter fun c => c.toNat < 128
  let others := (label.filter fun c => 128 ≤ c.toNat).map Char.toNat
  if others = [] then label
  else
    let points := others.eraseDups.mergeSort fun a b => a ≤ b
    let start : LabelState := ⟨[], 0, 72, basic.length⟩
    let (_, s) := points.foldl (LabelState.write label basic.length) (128, start)
    "xn--".toList ++ basic ++ (if basic = [] then [] else ['-']) ++ s.written

/-! ### Reading -/

/-- Reads a difference; each digit counts for more than the one before. -/
def readDelta (bias k weight : Nat) : List Char → Option (Nat × List Char)
  | [] => none
  | c :: rest => do
    let d ← bootValue? c
    let t := threshold bias k
    if d < t then some (d * weight, rest)
    else
      let (delta, rest) ← readDelta bias (k + 36) (weight * (36 - t)) rest
      some (d * weight + delta, rest)

/-- Puts characters into a label until the digits are used up; `fuel` is at least their number. -/
def placePoints (fuel : Nat) (done : List Char) (point place bias : Nat) (digits : List Char) :
    Option (List Char) :=
  match fuel, digits with
  | _, [] => some done
  | 0, _ => none
  | fuel + 1, digits => do
    let (delta, rest) ← readDelta bias 36 1 digits
    let points := done.length + 1
    let next := point + (place + delta) / points
    let here := (place + delta) % points
    if Nat.isValidChar next then
      placePoints fuel (done.insertIdx here (Char.ofNat next)) next (here + 1)
        (adaptBias delta points (place == 0)) rest
    else none

def readLabel? (code : List Char) : Option (List Char) :=
  let digits := (code.reverse.takeWhile (· != '-')).reverse
  let basic := code.take (code.length - digits.length - 1)
  if basic = [] ∧ digits.length < code.length then none
  else placePoints digits.length basic 128 0 72 digits

end TokenAuthority.Domain
