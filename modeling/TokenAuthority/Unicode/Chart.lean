/-!
Charts of characters. A chart is written in words such as `41-5A=61`: a code point or a range of
them in hexadecimal digits, and after an equals sign the values of its first one, with points
between them. A range that ends in `/2` holds every other code point. Rows are in ascending order
and apart from each other.
-/

namespace TokenAuthority.Unicode

/-- Every `step`-th code point of a range, with the values of the first one. -/
structure Row where
  first : Nat
  last : Nat
  step : Nat
  values : List Nat

def Row.holds (row : Row) (n : Nat) : Bool :=
  row.first ≤ n && n ≤ row.last && (n - row.first) % row.step == 0

def readHex (digits : List Char) : Nat :=
  digits.foldl (fun n c => 16 * n + if c.isDigit then c.toNat - 48 else c.toNat - 55) 0

def Row.read (word : List Char) : Row :=
  let range := word.takeWhile (· != '=')
  let values := match word.drop (range.length + 1) with
    | [] => []
    | values => (values.splitOn '.').map readHex
  let first := range.takeWhile (· != '-')
  match (range.drop (first.length + 1)).splitOn '/' with
  | [last] => ⟨readHex first, if last = [] then readHex first else readHex last, 1, values⟩
  | last :: step :: _ => ⟨readHex first, readHex last, readHex step, values⟩
  | [] => ⟨readHex first, readHex first, 1, values⟩

structure Chart where
  rows : Array Row

namespace Chart

def read (text : String) : Chart :=
  let words := text.toList.splitOnP Char.isWhitespace
  ⟨((words.filter (· ≠ [])).map Row.read).toArray⟩

/-- Counts the rows that start at or before a code point, between a lower and an upper bound. -/
def countUpTo (rows : Array Row) (n low high : Nat) : Nat :=
  if low < high then
    let middle := (low + high) / 2
    if (rows[middle]?.any fun row => row.first ≤ n) then countUpTo rows n (middle + 1) high
    else countUpTo rows n low middle
  else low
termination_by high - low

def find? (t : Chart) (n : Nat) : Option Row :=
  (t.rows[countUpTo t.rows n 0 t.rows.size - 1]?).filter (·.holds n)

def contains (t : Chart) (c : Char) : Bool := (t.find? c.toNat).isSome

def values? (t : Chart) (n : Nat) : Option (List Nat) := (t.find? n).map (·.values)

/-- The values of a code point, where those of a range move along with it. -/
def image? (t : Chart) (n : Nat) : Option (List Nat) :=
  (t.find? n).map fun row => row.values.map (· + (n - row.first))

end Chart

end TokenAuthority.Unicode
