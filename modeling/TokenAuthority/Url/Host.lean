import TokenAuthority.Domain.Label
import TokenAuthority.Url.Percent

/-!
The host of an address: a domain, an IPv4 or an IPv6 address, in its normal form. A domain is
written in ASCII.
-/

namespace TokenAuthority.Url

open Text

inductive Fault where
  | emptyHost
  | badDomain
  | badPort
  | badIpv4
  | badIpv6
  | badHostCharacter
  | relative
deriving DecidableEq

def Fault.message : Fault → String
  | emptyHost => "empty host"
  | badDomain => "invalid international domain name"
  | badPort => "invalid port number"
  | badIpv4 => "invalid IPv4 address"
  | badIpv6 => "invalid IPv6 address"
  | badHostCharacter => "invalid domain character"
  | relative => "relative URL without a base"

/-! ### IPv4 -/

/-- The number that a part of an IPv4 address stands for, in base 8, 10 or 16. -/
def partNumber? (part : List Char) : Option Nat :=
  let number (base : Nat) (digits : List Char) : Option Nat :=
    digits.foldlM (fun n c => do
      let d ← hexValue? c
      if d < base then some (n * base + d) else none) 0
  match part with
  | [] => none
  | '0' :: 'x' :: digits | '0' :: 'X' :: digits => number 16 digits
  | '0' :: d :: digits => number 8 (d :: digits)
  | digits => number 10 digits

def parts (domain : List Char) : List (List Char) :=
  let all := domain.splitOn '.'
  if 1 < all.length && all.getLast? == some [] then all.dropLast else all

/-- Whether the last part of a domain is a number, so that the domain must be an IPv4 address. -/
def endsInNumber (domain : List Char) : Bool :=
  match (parts domain).getLast? with
  | some part => part ≠ [] && (part.all Char.isDigit || (partNumber? part).isSome)
  | none => false

/-- Reads an IPv4 address. The last number fills all bytes that are left. -/
def readIpv4 (domain : List Char) : Except Fault Nat :=
  match (parts domain).mapM partNumber? with
  | none => .error .badIpv4
  | some numbers =>
    let front := numbers.dropLast
    let last := numbers.getLast?.getD 0
    let room := 1 <<< (8 * (4 - front.length))
    if 4 < numbers.length ∨ front.any (255 < ·) ∨ room ≤ last then
      .error .badIpv4
    else .ok (front.foldr (fun n (acc : Nat × Nat) => (acc.1 * 256, acc.2 + n * acc.1))
      (room, last)).2

def writeIpv4 (n : Nat) : List Char :=
  ['.'].intercalate ([n >>> 24, (n >>> 16) % 256, (n >>> 8) % 256, n % 256].map (Nat.toDigits 10))

/-! ### IPv6 -/

/-- The pieces that a group of an IPv6 address stands for; the last group may be an IPv4 address. -/
def groupPieces? (last : Bool) (group : List Char) : Option (List Nat) :=
  if last && group.contains '.' then do
    let bytes ← (group.splitOn '.').mapM fun part => do
      if part = [] ∨ 3 < part.length ∨ !part.all Char.isDigit ∨
          (part.head? = some '0' ∧ 1 < part.length) then none
      let n := Nat.ofDigitChars 10 part 0
      if 255 < n then none else some n
    match bytes with
    | [a, b, c, d] => some [256 * a + b, 256 * c + d]
    | _ => none
  else if group = [] ∨ 4 < group.length then none
  else (group.mapM hexValue?).map fun ds => [ds.foldl (fun n d => 16 * n + d) 0]

def pieces? (last : Bool) (text : List Char) : Option (List Nat) :=
  if text = [] then some []
  else
    let groups := text.splitOn ':'
    (groups.zipIdx.mapM fun g => groupPieces? (last && g.2 + 1 == groups.length) g.1).map
      List.flatten

def splitDouble : List Char → List Char × Option (List Char)
  | ':' :: ':' :: rest => ([], some rest)
  | c :: rest => let (front, back) := splitDouble rest; (c :: front, back)
  | [] => ([], none)

def readIpv6 (text : List Char) : Except Fault (List Nat) :=
  let result := match splitDouble text with
    | (front, none) => do
      let all ← pieces? true front
      if all.length = 8 then some all else none
    | (front, some back) => do
      let front ← pieces? false front
      let back ← pieces? true back
      if front.length + back.length < 8 then
        some (front ++ List.replicate (8 - front.length - back.length) 0 ++ back)
      else none
  match result with
  | some all => .ok all
  | none => .error .badIpv6

def zeros (pieces : List Nat) : Nat := (pieces.takeWhile (· == 0)).length

/-- The start of the longest run of two or more zeros, the first one of several. -/
def longestZeros? (pieces : List Nat) : Option Nat :=
  let runs := (List.range pieces.length).map fun i => (i, zeros (pieces.drop i))
  let best := runs.foldl (fun best run => if best.2 < run.2 then run else best) (0, 1)
  if best.2 < 2 then none else some best.1

def writeIpv6 (pieces : List Nat) : List Char :=
  let groups (ps : List Nat) : List Char := [':'].intercalate (ps.map (Nat.toDigits 16))
  match longestZeros? pieces with
  | none => groups pieces
  | some start =>
    let rest := pieces.drop start
    groups (pieces.take start) ++ [':', ':'] ++ groups (rest.drop (zeros rest))

/-! ### Hosts -/

def isForbidden (c : Char) : Bool := "\x00\t\n\r #/:<>?@[\\]^|".contains c

def readBracketed (text : List Char) : Except Fault (List Char) :=
  if text.getLast? = some ']' then do
    return '[' :: writeIpv6 (← readIpv6 text.dropLast) ++ [']']
  else .error .badIpv6

def readWebHost (text : List Char) : Except Fault (List Char) :=
  match text with
  | '[' :: rest => readBracketed rest
  | _ =>
    match (Utf8.strict? (decode text)).bind Domain.ascii? with
    | none => .error .badDomain
    | some domain =>
      if domain = [] then .error .emptyHost
      else if endsInNumber domain then (readIpv4 domain).map writeIpv4
      else .ok domain

def readOpaqueHost (text : List Char) : Except Fault (List Char) :=
  match text with
  | '[' :: rest => readBracketed rest
  | _ => if text.any isForbidden then .error .badHostCharacter else .ok (encode isControl text)

end TokenAuthority.Url
