import TokenAuthority.Text.Utf8

/-!
Which characters of the parts of an address are written as percent signs with two hexadecimal
digits. Characters beyond ASCII and control characters always are, byte by byte.
-/

namespace TokenAuthority.Url

open Text

def isControl (c : Char) : Bool := c.toNat < 0x20 || 0x7F ≤ c.toNat

def inFragment (c : Char) : Bool := isControl c || " \"<>\x60".contains c

def inPath (c : Char) : Bool := inFragment c || "#?\x7b\x7d".contains c

def inQuery (c : Char) : Bool := isControl c || " \"#<>".contains c

def inWebQuery (c : Char) : Bool := inQuery c || c == '\''

def inUser (c : Char) : Bool := inPath c || "/:;=@[\\]^|".contains c

def percent (b : UInt8) : List Char :=
  let digit (n : Nat) : Char := (Nat.digitChar n).toUpper
  ['%', digit (b.toNat / 16), digit (b.toNat % 16)]

def encode (set : Char → Bool) (cs : List Char) : List Char :=
  cs.flatMap fun c => if set c then (Utf8.encode [c]).flatMap percent else [c]

def hexValue? (c : Char) : Option Nat :=
  if c.isDigit then some (c.toNat - 48)
  else if 'a' ≤ c.toLower ∧ c.toLower ≤ 'f' then some (c.toLower.toNat - 87)
  else none

/-- The bytes that a text stands for; a percent sign without two digits stands for itself. -/
def decode : List Char → List UInt8
  | '%' :: high :: low :: rest =>
    match hexValue? high, hexValue? low with
    | some h, some l => UInt8.ofNat (16 * h + l) :: decode rest
    | _, _ => 0x25 :: decode (high :: low :: rest)
  | c :: rest => Utf8.encode [c] ++ decode rest
  | [] => []

end TokenAuthority.Url
