import TokenAuthority.Time.Calendar
import TokenAuthority.Time.Instant

/-!
Instants as text in UTC, such as 2000-02-29T23:59:59.500Z. A leap second is second 60. The fraction
has no, three, six or nine digits, as few as give the instant exactly. Years from 0 to 9999 have
four digits; other years have a sign and at least four digits.
-/

namespace TokenAuthority.Timestamp

def padded (width n : Nat) : List Char := (Nat.toDigits 10 n).leftpad width '0'

def writeYear (year : Int) : List Char :=
  if 0 ≤ year ∧ year ≤ 9999 then padded 4 year.toNat
  else (if year < 0 then '-' else '+') :: padded 4 year.natAbs

def writeDate (d : Date) : List Char :=
  writeYear d.year ++ '-' :: padded 2 d.month ++ '-' :: padded 2 d.day

def writeFraction (nanos : Nat) : List Char :=
  if nanos = 0 then []
  else if nanos % 1000000 = 0 then '.' :: padded 3 (nanos / 1000000)
  else if nanos % 1000 = 0 then '.' :: padded 6 (nanos / 1000)
  else '.' :: padded 9 nanos

/-- The time of a day; a leap second adds one to the seconds. -/
def writeTime (secondOfDay nanos : Nat) : List Char :=
  let leap := nanos / nanosPerSecond
  padded 2 (secondOfDay / 3600) ++ ':' :: padded 2 (secondOfDay / 60 % 60) ++
    ':' :: padded 2 (secondOfDay % 60 + leap) ++ writeFraction (nanos % nanosPerSecond)

def write (t : Instant) : List Char :=
  writeDate (Date.ofDays (t.seconds / 86400)) ++
    'T' :: writeTime t.secondOfDay.toNat t.nanos ++ ['Z']

/-! ### Reading -/

def readDigits (width : Nat) (cs : List Char) : Option (Nat × List Char) :=
  let digits := cs.take width
  if digits.length = width ∧ digits.all Char.isDigit then
    some (Nat.ofDigitChars 10 digits 0, cs.drop width)
  else none

def readMark (mark : Char) : List Char → Option (List Char)
  | [] => none
  | c :: cs => if c = mark then some cs else none

/-- Reads a year: four digits, or a sign and at least four. -/
def readYear (cs : List Char) : Option (Int × List Char) :=
  match cs with
  | c :: rest =>
    if c = '+' ∨ c = '-' then do
      let digits := rest.takeWhile Char.isDigit
      if digits.length < 4 then failure
      let n : Int := Nat.ofDigitChars 10 digits 0
      return (if c = '-' then -n else n, rest.drop digits.length)
    else do
      let (n, rest) ← readDigits 4 cs
      return ((n : Int), rest)
  | [] => none

def readDate (cs : List Char) : Option (Date × List Char) := do
  let (year, cs) ← readYear cs
  let (month, cs) ← readDigits 2 (← readMark '-' cs)
  let (day, cs) ← readDigits 2 (← readMark '-' cs)
  let date : Date := ⟨year, month, day⟩
  if Date.ofDays date.toDays = date then return (date, cs) else failure

def readFraction : List Char → Option (Nat × List Char)
  | '.' :: rest =>
    let digits := rest.takeWhile Char.isDigit
    if digits = [] ∨ 9 < digits.length then none
    else
      some (Nat.ofDigitChars 10 (digits.rightpad 9 '0') 0, rest.drop digits.length)
  | cs => some (0, cs)

def read? (cs : List Char) : Option Instant := do
  let (date, cs) ← readDate cs
  let (hour, cs) ← readDigits 2 (← readMark 'T' cs)
  let (minute, cs) ← readDigits 2 (← readMark ':' cs)
  let (second, cs) ← readDigits 2 (← readMark ':' cs)
  let (fraction, cs) ← readFraction cs
  if cs ≠ ['Z'] ∨ 24 ≤ hour ∨ 60 ≤ minute ∨ 60 < second then failure
  let leap := second / 60
  Instant.ofParts? (date.toDays * 86400 + (hour * 3600 + minute * 60 + (second - leap) : Nat))
    (leap * nanosPerSecond + fraction)

end TokenAuthority.Timestamp
