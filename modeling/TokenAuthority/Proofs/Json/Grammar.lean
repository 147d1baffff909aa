import TokenAuthority.Json.Reader

/-!
# How values are written

The grammar of JSON texts, apart from any reader: which texts write a string, a number or a value, and which string,
number or value it is. Nesting is limited, and a number must have a value. Readers can go beyond the grammar at one
point, which is left open here: an object whose first key is the embedding key may stand for a value that is written
inside of it.
-/

namespace TokenAuthority.Json

/-- Characters that mean nothing between values. -/
def Blank (cs : List Char) : Prop := ∀ c ∈ cs, c ∈ [' ', '\n', '\t', '\r']

/-! ### Strings -/

/-- The letters that stand for a character after a backslash. -/
def shortMarks : List (Char × Char) :=
  [('"', '"'), ('\\', '\\'), ('/', '/'), ('b', '\x08'), ('f', '\x0c'), ('n', '\n'), ('r', '\r'), ('t', '\t')]

/-- Four hexadecimal digits and their number. -/
structure CodeUnit (digits : List Char) (n : Nat) : Prop where
  four : digits.length = 4
  number : hexNumber? digits = some n

/-- The ways to write a character of a string: as it is, by a letter, by its number, or by two surrogates. -/
inductive Spells : List Char → Char → Prop where
  | plain {c : Char} (visible : ¬c.toNat < 32) (quote : c ≠ '"') (backslash : c ≠ '\\') : Spells [c] c
  | short {mark c : Char} (known : (mark, c) ∈ shortMarks) : Spells ['\\', mark] c
  | unit {digits : List Char} {n : Nat} (unit : CodeUnit digits n) (whole : n < 0xD800 ∨ 0xDFFF < n) :
    Spells ('\\' :: 'u' :: digits) (Char.ofNat n)
  | pair {first second : List Char} {high low : Nat} (unit : CodeUnit first high) (unit' : CodeUnit second low)
      (upper : 0xD800 ≤ high ∧ high < 0xDC00) (lower : 0xDC00 ≤ low ∧ low ≤ 0xDFFF) :
    Spells ('\\' :: 'u' :: (first ++ '\\' :: 'u' :: second)) (surrogatePair high low)

inductive SpellsText : List Char → List Char → Prop where
  | nil : SpellsText [] []
  | cons {front written text : List Char} {c : Char} (first : Spells front c) (others : SpellsText written text) :
    SpellsText (front ++ written) (c :: text)

/-- The ways to write a string, with blanks around it. -/
inductive SpellsString : List Char → String → Prop where
  | of {front written back : List Char} {s : String} (before : Blank front) (inside : SpellsText written s.toList)
      (after : Blank back) : SpellsString (front ++ '"' :: (written ++ '"' :: back)) s

/-- The ways to write a string that may be left out, by `null`, with blanks around it. -/
inductive SpellsOptional : List Char → Option String → Prop where
  | null {front back : List Char} (before : Blank front) (after : Blank back) :
    SpellsOptional (front ++ ("null".toList ++ back)) none
  | text {text : List Char} {s : String} (string : SpellsString text s) : SpellsOptional text (some s)

/-! ### Numbers -/

structure Digits (digits : List Char) : Prop where
  some : digits ≠ []
  all : ∀ c ∈ digits, c.isDigit = true

inductive SpellsFraction : List Char → Option (List Char) → Prop where
  | absent : SpellsFraction [] none
  | digits {ds : List Char} (digits : Digits ds) : SpellsFraction ('.' :: ds) (some ds)

inductive SpellsExponent : List Char → Option Int → Prop where
  | absent : SpellsExponent [] none
  | bare {e : Char} {ds : List Char} (mark : e = 'e' ∨ e = 'E') (digits : Digits ds) :
    SpellsExponent (e :: ds) (some (Nat.ofDigitChars 10 ds 0))
  | plus {e : Char} {ds : List Char} (mark : e = 'e' ∨ e = 'E') (digits : Digits ds) :
    SpellsExponent (e :: '+' :: ds) (some (Nat.ofDigitChars 10 ds 0))
  | minus {e : Char} {ds : List Char} (mark : e = 'e' ∨ e = 'E') (digits : Digits ds) :
    SpellsExponent (e :: '-' :: ds) (some (-Nat.ofDigitChars 10 ds 0))

/-- The ways to write the size of a number: no digit comes after a zero in front, and the number has a value. -/
inductive SpellsSize (negative : Bool) : List Char → Number → Prop where
  | of {whole point power : List Char} {fraction : Option (List Char)} {exponent : Option Int} {n : Number}
      (digits : Digits whole) (leading : ¬(whole.head? = some '0' ∧ 1 < whole.length))
      (after : SpellsFraction point fraction) (shift : SpellsExponent power exponent)
      (value : NumberText.value? ⟨negative, whole, fraction, exponent⟩ = some n) :
    SpellsSize negative (whole ++ (point ++ power)) n

inductive SpellsNumber : List Char → Number → Prop where
  | positive {text : List Char} {n : Number} (size : SpellsSize false text n) : SpellsNumber text n
  | negative {text : List Char} {n : Number} (size : SpellsSize true text n) : SpellsNumber ('-' :: text) n

/-! ### Values -/

/-- A member of an object as it is written, with what its two parts stand for. -/
structure Entry where
  name : List Char
  key : String
  text : List Char
  value : Json

namespace Entry

def written (e : Entry) : List Char := e.name ++ ':' :: e.text

def member (e : Entry) : String × Json := (e.key, e.value)

end Entry

/-- The ways to write things between two brackets: with commas between them, or just blanks if there is nothing. -/
inductive Joined {ι : Type} (written : ι → List Char) : List Char → List ι → Prop where
  | none {inside : List Char} (blank : Blank inside) : Joined written inside []
  | some {items : List ι} (some : items ≠ []) : Joined written ([','].intercalate (items.map written)) items

/-- The ways to write a value of at most `depth` levels, with blanks around it. Of members with one key the last one
counts. If texts can be embedded, an object whose first key is the embedding key writes the value that is written, as a
text of its own, in the string that is its only member. -/
inductive SpellsValue (embeds : Bool) : Nat → List Char → Json → Prop where
  | null {depth : Nat} : SpellsValue embeds depth "null".toList .null
  | yes {depth : Nat} : SpellsValue embeds depth "true".toList (.bool true)
  | no {depth : Nat} : SpellsValue embeds depth "false".toList (.bool false)
  | number {depth : Nat} {text : List Char} {n : Number} (number : SpellsNumber text n) :
    SpellsValue embeds depth text (.number n)
  | text {depth : Nat} {text : List Char} {s : String} (string : SpellsString text s) :
    SpellsValue embeds depth text (.text s)
  | array {depth : Nat} {inside : List Char} {items : List (List Char × Json)} (joined : Joined Prod.fst inside items)
      (all : ∀ item ∈ items, SpellsValue embeds depth item.1 item.2) :
    SpellsValue embeds (depth + 1) ('[' :: (inside ++ [']'])) (.array (items.map Prod.snd))
  | object {depth : Nat} {inside : List Char} {entries : List Entry} (joined : Joined Entry.written inside entries)
      (keys : ∀ e ∈ entries, SpellsString e.name e.key)
      (plain : embeds = true → ∀ e ∈ entries.head?, e.key ≠ embeddingKey)
      (values : ∀ e ∈ entries, SpellsValue embeds depth e.text e.value) :
    SpellsValue embeds (depth + 1) ('{' :: (inside ++ ['}'])) (.object (sorted (entries.map Entry.member)))
  | embedded {depth : Nat} {name text : List Char} {inner : String} {value : Json} (allowed : embeds = true)
      (key : SpellsString name embeddingKey) (string : SpellsString text inner)
      (inside : SpellsValue embeds depthLimit inner.toList value) :
    SpellsValue embeds (depth + 1) ('{' :: (name ++ ':' :: (text ++ ['}']))) value
  | padded {depth : Nat} {front text back : List Char} {value : Json} (before : Blank front) (after : Blank back)
      (between : SpellsValue embeds depth text value) : SpellsValue embeds depth (front ++ (text ++ back)) value

/-- The ways to write an object with its members told apart, and with values of at most `depth` levels. -/
inductive SpellsObject (embeds : Bool) (depth : Nat) : List Char → List Entry → Prop where
  | of {front inside back : List Char} {entries : List Entry} (before : Blank front)
      (joined : Joined Entry.written inside entries) (keys : ∀ e ∈ entries, SpellsString e.name e.key)
      (values : ∀ e ∈ entries, SpellsValue embeds depth e.text e.value) (after : Blank back) :
    SpellsObject embeds depth (front ++ '{' :: (inside ++ '}' :: back)) entries

end TokenAuthority.Json
