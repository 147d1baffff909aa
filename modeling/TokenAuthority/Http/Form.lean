import TokenAuthority.Text.Utf8

/-!
Fields written as `name=value` and separated by `&`, in a query or in a body. A plus sign stands for
a space and a percent sign with two hexadecimal digits for a byte; any other percent sign stands for
itself. Bytes that are not UTF-8 are replaced.
-/

namespace TokenAuthority.Http.Form

open Text

def hexValue? (b : UInt8) : Option UInt8 :=
  if 0x30 ≤ b && b ≤ 0x39 then some (b - 0x30)
  else if 0x41 ≤ b && b ≤ 0x46 then some (b - 0x37)
  else if 0x61 ≤ b && b ≤ 0x66 then some (b - 0x57)
  else none

def byte? (high low : UInt8) : Option UInt8 := do return (← hexValue? high) * 16 + (← hexValue? low)

/-- Decodes bytes; `done` holds the decoded ones, the last one first. -/
def unescape (done : List UInt8) : List UInt8 → List UInt8
  | 0x25 :: high :: low :: rest =>
    match byte? high low with
    | some b => unescape (b :: done) rest
    | none => unescape (0x25 :: done) (high :: low :: rest)
  | 0x2B :: rest => unescape (0x20 :: done) rest
  | b :: rest => unescape (b :: done) rest
  | [] => done.reverse

def decode (bytes : List UInt8) : String := String.ofList (Utf8.lossy (unescape [] bytes))

/-- The name and the value of a field; the first equals sign separates them. -/
def readField (bytes : List UInt8) : String × String :=
  let name := bytes.takeWhile (· != 0x3D)
  (decode name, decode (bytes.drop (name.length + 1)))

/-- The fields of a form; empty pieces count for nothing. -/
def read (bytes : List UInt8) : List (String × String) :=
  ((bytes.splitOn 0x26).filter (!·.isEmpty)).map readField

def value? (fields : List (String × String)) (name : String) : Option String := fields.lookup name

/-- The name of the first field that has one of the given names and the same name as a field in
front of it. -/
def repeated? (names : List String) (fields : List (String × String)) : Option String :=
  go [] fields
where
  /-- Goes through the fields; `seen` holds the names so far. -/
  go (seen : List String) : List (String × String) → Option String
    | [] => none
    | (name, _) :: rest =>
      if names.contains name then
        if seen.contains name then some name else go (name :: seen) rest
      else go seen rest

end TokenAuthority.Http.Form
