import TokenAuthority.Domain.Mapping
import TokenAuthority.Domain.Punycode
import TokenAuthority.Unicode.Composition
import TokenAuthority.Unicode.Direction
import TokenAuthority.Unicode.Joining

/-!
The labels between the dots of a domain, and which characters may stand where in them.
-/

namespace TokenAuthority.Domain

open Unicode

structure Label where
  characters : List Char
  written : List Char

def isAscii (cs : List Char) : Bool := cs.all (·.toNat < 0x80)

def isForbidden (c : Char) : Bool :=
  c.toNat ≤ 0x20 || c.toNat == 0x7F || "#%/:<>?@[\\]^|".contains c

/-! ### Joiners -/

/-- Whether a joiner may stand between two texts; the one before it comes last character first. It
stands behind a virama, or it keeps letters apart that would join. -/
def joinerFits (joiner : Char) (before after : List Char) : Bool :=
  before.head?.any isVirama ||
    (joiner == '\u200c' && (before.dropWhile isTransparent).head?.any joinsNext &&
      (after.dropWhile isTransparent).head?.any joinsPrevious)

def joinersFit (before : List Char) : List Char → Bool
  | [] => true
  | c :: after =>
    ((c != '\u200c' && c != '\u200d') || joinerFits c before after) &&
      joinersFit (c :: before) after

/-! ### Directions -/

/-- The directions that make a domain one that is read from both sides. -/
def turning : List Direction := [.right, .arabicLetter, .arabicNumber]

def shared : List Direction :=
  [.europeanNumber, .numberSign, .numberSeparator, .numberTerminator, .neutral, .boundary,
    .nonspacing]

def turns (c : Char) : Bool := 0x80 ≤ c.toNat && turning.contains (direction c)

/-- Whether what follows the first character of a label may follow it, last direction first: it
has the given letters, and it ends with one of them or a digit, and then perhaps some marks. -/
def followersFit (letters others : List Direction) : Bool :=
  others.all (letters ++ shared).contains &&
    (others.dropWhile (· == .nonspacing)).head?.all (.europeanNumber :: letters).contains &&
    !(others.contains .arabicNumber && others.contains .europeanNumber)

/-- Whether a label may stand in a domain that is read from both sides. It starts with a letter,
which says in which direction its letters go. -/
def directionsFit (label : List Char) : Bool :=
  match label.map direction with
  | [] => true
  | .left :: others => followersFit [.left] others.reverse
  | .right :: others | .arabicLetter :: others => followersFit turning others.reverse
  | _ => false

/-! ### Reading -/

/-- The most characters of a label that is written with digits, behind `xn--`. -/
def maxCode : Nat := 2000

def maxLabel : Nat := 1000

/-- The label that a text denotes; behind `xn--` its characters are written with digits. -/
def Label.read? (text : List Char) : Option Label :=
  match text with
  | 'x' :: 'n' :: '-' :: '-' :: code =>
    if !isAscii code || code = [] || code.getLast? == some '-' || maxCode < code.length then none
    else do
      let characters ← readLabel? code
      if characters.length ≤ maxLabel && characters.all isSettled &&
          composed characters == characters then
        some ⟨characters, text⟩
      else none
  | _ => if !isAscii text && maxLabel < text.length then none else some ⟨text, asciiLabel text⟩

def Label.isSound (label : Label) : Bool :=
  label.characters.all (!isForbidden ·) &&
    (isAscii label.characters ||
      (!label.characters.head?.any isMark && joinersFit [] label.characters))

def ascii? (domain : List Char) : Option (List Char) := do
  let image := (← domain.mapM image?).flatten
  let labels ← ((if isAscii image then image else composed image).splitOn '.').mapM Label.read?
  if labels.all Label.isSound &&
      (!labels.any (·.characters.any turns) || labels.all (directionsFit ·.characters)) then
    some (['.'].intercalate (labels.map (·.written)))
  else none

end TokenAuthority.Domain
