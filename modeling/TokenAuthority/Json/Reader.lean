import TokenAuthority.Json.Basic
import TokenAuthority.Text.Utf8

/-!
Readers take what they need from the front of a text and return the rest, so that a record can be
read member by member and the first fault met from the left is the one reported. Faults are of three
kinds: the text breaks the rules of JSON, it ends too early, or it is sound so far but holds a value
of the wrong kind.

A lenient reader is for values that are skipped: it sets no limit to nesting or to the size of
numbers and accepts unpaired surrogates.
-/

namespace TokenAuthority.Json

open Text

inductive Fault where
  | malformed
  | cutShort
  | mismatched
deriving DecidableEq

/-- How many levels of arrays and objects may be open at once. -/
def depthLimit : Nat := 127

def skipBlanks (cs : List Char) : List Char :=
  cs.dropWhile fun c => c == ' ' || c == '\n' || c == '\t' || c == '\r'

def readLiteral : List Char → List Char → Except Fault (List Char)
  | [], cs => .ok cs
  | _ :: _, [] => .error .cutShort
  | e :: es, c :: cs => if c = e then readLiteral es cs else .error .malformed

/-! ### Strings -/

def hexValue? (c : Char) : Option Nat :=
  if '0' ≤ c ∧ c ≤ '9' then some (c.toNat - 48)
  else if 'a' ≤ c ∧ c ≤ 'f' then some (c.toNat - 87)
  else if 'A' ≤ c ∧ c ≤ 'F' then some (c.toNat - 55)
  else none

def hexNumber? (digits : List Char) : Option Nat :=
  digits.foldlM (fun n c => (hexValue? c).map (n * 16 + ·)) 0

/-- Reads four hexadecimal digits; fewer than four remaining bytes count as an early end. -/
def readHex (cs : List Char) : Except Fault Nat :=
  if Utf8.size (cs.take 4) < 4 then .error .cutShort
  else
    match hexNumber? (cs.take 4) with
    | some n => if (cs.take 4).length = 4 then .ok n else .error .malformed
    | none => .error .malformed

def surrogatePair (high low : Nat) : Char :=
  Char.ofNat ((high - 0xD800) * 0x400 + (low - 0xDC00) + 0x10000)

/-- Reads the second half of a character, given the first, and says how many characters of the text
it takes. -/
def readLowSurrogate (high : Nat) : List Char → Except Fault (Char × Nat)
  | [] | ['\\'] => .error .cutShort
  | '\\' :: 'u' :: rest => do
    let low ← readHex rest
    if 0xDC00 ≤ low ∧ low ≤ 0xDFFF then return (surrogatePair high low, 6)
    else throw .malformed
  | _ => .error .malformed

/-- Reads what follows a backslash and says how many characters of the text it takes. -/
def readEscape (lenient : Bool) : List Char → Except Fault (Char × Nat)
  | [] => .error .cutShort
  | '"' :: _ => .ok ('"', 1)
  | '\\' :: _ => .ok ('\\', 1)
  | '/' :: _ => .ok ('/', 1)
  | 'b' :: _ => .ok ('\x08', 1)
  | 'f' :: _ => .ok ('\x0c', 1)
  | 'n' :: _ => .ok ('\n', 1)
  | 'r' :: _ => .ok ('\r', 1)
  | 't' :: _ => .ok ('\t', 1)
  | 'u' :: rest => do
    let n ← readHex rest
    if lenient || n < 0xD800 || 0xDFFF < n then return (Char.ofNat n, 5)
    if 0xDC00 ≤ n then throw .malformed
    let (c, taken) ← readLowSurrogate n (rest.drop 4)
    return (c, 5 + taken)
  | _ => .error .malformed

/-- Reads a string whose opening quote is already taken; `done` holds its characters so far, the
last one first. -/
def readText (lenient : Bool) (done cs : List Char) : Except Fault (String × List Char) :=
  match cs with
  | [] => .error .cutShort
  | '"' :: rest => .ok (String.ofList done.reverse, rest)
  | '\\' :: rest =>
    match readEscape lenient rest with
    | .error fault => .error fault
    | .ok (c, taken) => readText lenient (c :: done) (rest.drop taken)
  | c :: rest => if c.toNat < 32 then .error .malformed else readText lenient (c :: done) rest
termination_by cs.length
decreasing_by all_goals simp only [List.length_drop, List.length_cons]; omega

/-! ### Numbers -/

/-- Appends digits to a number as long as it stays below 2^64, and returns the digits that did not
fit. -/
def gather (n : Nat) : List Char → Nat × List Char
  | [] => (n, [])
  | c :: cs =>
    let next := n * 10 + (c.toNat - '0'.toNat)
    if next < 1 <<< 64 then gather next cs else (n, c :: cs)

structure NumberText where
  negative : Bool
  whole : List Char
  fraction : Option (List Char)
  exponent : Option Int

/-- The value of a number: an integer if it is written as one and fits 64 bits with its sign, and
otherwise a floating-point number, unless it is out of range. Digits beyond 64 bits do not count,
except for their number in the whole part. -/
def NumberText.value? (t : NumberText) : Option Number :=
  let (significand, dropped) := gather 0 t.whole
  let float (x : Decimal.Binary64) : Number := .float (if t.negative then x.neg else x)
  if t.fraction = none ∧ t.exponent = none ∧ dropped = [] then
    if !t.negative then some (.integer significand)
    else if 0 < significand ∧ significand ≤ 1 <<< 63 then some (.integer (-significand))
    -- Negative zero is no integer, and neither is what lies below the 64 bits.
    else (Decimal.Binary64.ofNat significand).map float
  else
    let digits := t.fraction.getD []
    let (significand, unread) := gather significand digits
    let shift : Int := dropped.length - (digits.length - unread.length : Nat)
    (Decimal.Binary64.ofDecimal significand (shift + t.exponent.getD 0)).map float

def readDigits (lenient : Bool) (cs : List Char) : Except Fault (List Char × List Char) :=
  let digits := cs.takeWhile Char.isDigit
  if digits = [] then .error (if cs = [] ∧ !lenient then .cutShort else .malformed)
  else .ok (digits, cs.drop digits.length)

def readFraction (lenient : Bool) : List Char → Except Fault (Option (List Char) × List Char)
  | '.' :: rest => do
    let (digits, rest) ← readDigits lenient rest
    return (some digits, rest)
  | cs => .ok (none, cs)

def readPower (lenient negative : Bool) (cs : List Char) :
    Except Fault (Option Int × List Char) := do
  let (digits, rest) ← readDigits lenient cs
  let n : Int := Nat.ofDigitChars 10 digits 0
  return (some (if negative then -n else n), rest)

def readExponent (lenient : Bool) : List Char → Except Fault (Option Int × List Char)
  | c :: rest =>
    if c = 'e' ∨ c = 'E' then
      match rest with
      | '+' :: rest => readPower lenient false rest
      | '-' :: rest => readPower lenient true rest
      | rest => readPower lenient false rest
    else .ok (none, c :: rest)
  | [] => .ok (none, [])

def readNumber (lenient negative : Bool) (cs : List Char) : Except Fault (Number × List Char) := do
  let (whole, rest) ← readDigits lenient cs
  if whole.head? = some '0' ∧ 1 < whole.length then throw .malformed
  let (fraction, rest) ← readFraction lenient rest
  let (exponent, rest) ← readExponent lenient rest
  match NumberText.value? ⟨negative, whole, fraction, exponent⟩ with
  | some n => return (n, rest)
  | none => if lenient then return (.integer 0, rest) else throw .malformed

/-! ### Arrays and objects -/

/-- Reads the items of an array after its opening bracket, through its closing one; `done` holds the
items so far, the last one first. The fuel bounds the number of items. -/
def readItems {α : Type} (item : List Char → Except Fault (α × List Char)) :
    Nat → List α → List Char → Except Fault (List α × List Char)
  | 0, _, _ => .error .malformed
  | fuel + 1, done, cs =>
    match skipBlanks cs with
    | [] => .error .cutShort
    | ']' :: rest => .ok (done.reverse, rest)
    | c :: rest =>
      if done.isEmpty then do
        let (x, rest) ← item (c :: rest)
        readItems item fuel [x] rest
      else if c = ',' then
        match skipBlanks rest with
        | [] => .error .cutShort
        | ']' :: _ => .error .malformed
        | rest => do
          let (x, rest) ← item rest
          readItems item fuel (x :: done) rest
      else .error .malformed

def readKey {σ : Type} (lenient : Bool)
    (member : String → List Char → Except Fault (σ × List Char)) :
    List Char → Except Fault (σ × List Char)
  | [] => .error .cutShort
  | '"' :: rest => do
    let (key, rest) ← readText lenient [] rest
    member key rest
  | _ => .error .malformed

/-- Reads the members of an object after its opening brace, through its closing one. `member` takes
the colon and the value after a key and changes the state; the fuel bounds the number of members. -/
def readMembers {σ : Type} (lenient : Bool)
    (member : σ → String → List Char → Except Fault (σ × List Char)) :
    Nat → Bool → σ → List Char → Except Fault (σ × List Char)
  | 0, _, _, _ => .error .malformed
  | fuel + 1, first, s, cs =>
    match skipBlanks cs with
    | [] => .error .cutShort
    | '}' :: rest => .ok (s, rest)
    | c :: rest =>
      if first then do
        let (s, rest) ← readKey lenient (member s) (c :: rest)
        readMembers lenient member fuel false s rest
      else if c = ',' then do
        let (s, rest) ← readKey lenient (member s) (skipBlanks rest)
        readMembers lenient member fuel false s rest
      else .error .malformed

def readColon (cs : List Char) : Except Fault (List Char) :=
  match skipBlanks cs with
  | [] => .error .cutShort
  | ':' :: rest => .ok rest
  | _ => .error .malformed

def readClosing (cs : List Char) : Except Fault (List Char) :=
  match skipBlanks cs with
  | [] => .error .cutShort
  | '}' :: rest => .ok rest
  | _ => .error .malformed

/-! ### Values -/

def readScalar (lenient : Bool) : List Char → Except Fault (Json × List Char)
  | [] => .error .cutShort
  | 'n' :: rest => do return (.null, ← readLiteral "ull".toList rest)
  | 't' :: rest => do return (.bool true, ← readLiteral "rue".toList rest)
  | 'f' :: rest => do return (.bool false, ← readLiteral "alse".toList rest)
  | '"' :: rest => do
    let (s, rest) ← readText lenient [] rest
    return (.text s, rest)
  | '-' :: rest => do
    let (n, rest) ← readNumber lenient true rest
    return (.number n, rest)
  | c :: rest =>
    if c.isDigit then do
      let (n, rest) ← readNumber lenient false (c :: rest)
      return (.number n, rest)
    else .error .malformed

/-- The fault of a value that is not of the expected kind: its own fault if it has one, else that it
does not match. Arrays and objects are not looked into. -/
def mismatch (cs : List Char) : Fault :=
  match skipBlanks cs with
  | '[' :: _ | '{' :: _ => .mismatched
  | cs =>
    match readScalar false cs with
    | .error fault => fault
    | .ok _ => .mismatched

def readString (cs : List Char) : Except Fault (String × List Char) :=
  match skipBlanks cs with
  | '"' :: rest => readText false [] rest
  | cs => .error (mismatch cs)

def readString? (cs : List Char) : Except Fault (Option String × List Char) :=
  match skipBlanks cs with
  | 'n' :: rest => do return (none, ← readLiteral "ull".toList rest)
  | cs => do
    let (s, rest) ← readString cs
    return (some s, rest)

def finish {α : Type} : Except Fault (α × List Char) → Except Fault α
  | .error fault => .error fault
  | .ok (a, rest) => if skipBlanks rest = [] then .ok a else .error .malformed

def readBody (lenient : Bool) (value : List Char → Except Fault (Json × List Char)) (fuel : Nat)
    (cs : List Char) : Except Fault (Members × List Char) :=
  let member (members : Members) (key : String) (cs : List Char) :
      Except Fault (Members × List Char) := do
    let (x, rest) ← value (← readColon cs)
    return (insertMember key x members, rest)
  readMembers lenient member fuel true [] cs

/-- An object whose first key is this one has no other member, and stands for the value that the
text of this member holds. -/
def embeddingKey : String := "$serde_json::private::RawValue"

def afterEmbeddingKey? (cs : List Char) : Option (List Char) :=
  match skipBlanks cs with
  | '"' :: rest =>
    match readText false [] rest with
    | .ok (key, rest) => if key = embeddingKey then some rest else none
    | .error _ => none
  | _ => none

/-- Reads a value with at most `depth` further levels. The fuel bounds nesting and the number of
items; the length of the text is always enough. Embedded values are read as texts of their own, and
lenient readers leave them as they are. -/
def readValue (lenient : Bool) : Nat → Nat → List Char → Except Fault (Json × List Char)
  | 0, _, _ => .error .malformed
  | fuel + 1, depth, cs =>
    match skipBlanks cs with
    | '[' :: rest =>
      match depth with
      | 0 => .error .malformed
      | depth + 1 => do
        let (items, rest) ← readItems (readValue lenient fuel depth) fuel [] rest
        return (.array items, rest)
    | '{' :: rest =>
      match depth with
      | 0 => .error .malformed
      | depth + 1 =>
        match if lenient then none else afterEmbeddingKey? rest with
        | some rest => do
          let (inner, rest) ← readString (← readColon rest)
          -- An embedded text starts again at the full depth.
          match finish (readValue lenient fuel depthLimit inner.toList) with
          | .ok value => return (value, ← readClosing rest)
          | .error _ => throw .mismatched
        | none => do
          let (members, rest) ← readBody lenient (readValue lenient fuel depth) fuel rest
          return (.object members, rest)
    | cs => readScalar lenient cs

def read (text : List Char) : Except Fault Json :=
  finish (readValue false (text.length + 1) depthLimit text)

def skipValue (cs : List Char) : Except Fault (List Char) :=
  (readValue true (cs.length + 1) (cs.length + 1) cs).map (·.2)

/-- Reads the members of an object value with at most `depth` levels, its own included. -/
def readObject (depth : Nat) (cs : List Char) : Except Fault (Members × List Char) :=
  match skipBlanks cs, depth with
  | '{' :: _, 0 => .error .malformed
  | '{' :: rest, depth + 1 =>
    readBody false (readValue false (cs.length + 1) depth) (cs.length + 1) rest
  | cs, _ => .error (mismatch cs)

end TokenAuthority.Json
