import TokenAuthority.Password.Argon2
import TokenAuthority.Password.Base64
import TokenAuthority.Text.Utf8

/-!
A stored password is a line of fields that start with `$`: algorithm, version, parameters, salt and
output. `PasswordHash.read` takes such a line apart and says what is wrong with any other text,
`PasswordHash.render` writes it, and `PasswordHash.verify` runs the algorithm that the line names.
-/

namespace TokenAuthority.Password

open Text

inductive Defect where
  | badCharacter (c : Char)
  | badFormat
  | malformed
  | tooLong
  | tooShort
deriving DecidableEq

inductive HashFault where
  | missingField
  | trailingField
  | badName
  | tooManyParameters
  | badValue (defect : Defect)
  | badSalt (defect : Defect)
  | shortOutput
  | badOutputEncoding
  | badOutputLength
deriving DecidableEq

def Defect.message : Defect → String
  | .badCharacter c => "contains invalid character: '" ++ String.singleton c ++ "'"
  | .badFormat => "value format is invalid"
  | .malformed => "value malformed"
  | .tooLong => "value to long"
  | .tooShort => "value to short"

def HashFault.message : HashFault → String
  | .missingField => "password hash string missing field"
  | .trailingField => "password hash string contains trailing characters"
  | .badName => "invalid parameter name"
  | .tooManyParameters => "maximum number of parameters reached"
  | .badValue defect => "invalid parameter value: " ++ defect.message
  | .badSalt defect => "salt invalid: " ++ defect.message
  | .shortOutput => "output size too short, expected at least 10 bytes"
  | .badOutputEncoding => "invalid Base64 encoding"
  | .badOutputLength => "invalid Base64 length"

/-- A password hash taken apart. Salt and parameter values are kept as written. -/
structure PasswordHash where
  algorithm : List Char
  version : Option Nat
  parameters : List (List Char × List Char)
  salt : Option (List Char)
  output : Option (List UInt8)
deriving DecidableEq

namespace PasswordHash

/-! ### Reading -/

def isNameChar (c : Char) : Bool := ('a' ≤ c && c ≤ 'z') || ('0' ≤ c && c ≤ '9') || c == '-'

def isValueChar (c : Char) : Bool :=
  ('A' ≤ c && c ≤ 'Z') || ('a' ≤ c && c ≤ 'z') || ('0' ≤ c && c ≤ '9') ||
  c == '/' || c == '+' || c == '.' || c == '-'

def readName (name : List Char) : Except HashFault (List Char) :=
  if name ≠ [] && Utf8.size name ≤ 32 && name.all isNameChar then .ok name else .error .badName

def checkCharacters (value : List Char) : Except Defect Unit :=
  match value.find? (!isValueChar ·) with
  | some c => .error (.badCharacter c)
  | none => .ok ()

def readValue (value : List Char) : Except Defect (List Char) := do
  if 64 < Utf8.size value then throw .tooLong
  checkCharacters value
  return value

/-- A decimal number below 2^32 without leading zeros. -/
def readDecimal (value : List Char) : Except Defect Nat := do
  if value = [] then throw .malformed
  match value.find? (!Char.isDigit ·) with
  | some c => throw (.badCharacter c)
  | none => pure ()
  if value.head? = some '0' && 1 < value.length then throw .badFormat
  let n := Nat.ofDigitChars 10 value 0
  if 1 <<< 32 ≤ n then throw .badFormat
  return n

def readParameter (pair : List Char) : Except HashFault (List Char × List Char) :=
  match pair.splitOn '=' with
  | [] => .error .badName
  | name :: rest => do
    let name ← readName name
    match rest with
    | [] => throw (.badValue .malformed)
    | value :: more =>
      let value ← (readValue value).mapError .badValue
      if more ≠ [] then throw (.badValue .malformed)
      return (name, value)

def readParameters (field : List Char) : Except HashFault (List (List Char × List Char)) :=
  if 127 < Utf8.size field then .error .tooManyParameters
  else (field.splitOn ',').mapM readParameter

def readSalt (field : List Char) : Except HashFault (List Char) :=
  if Utf8.size field < 4 then .error (.badSalt .tooShort)
  else if 64 < Utf8.size field then .error (.badSalt .tooLong)
  else
    match checkCharacters field with
    | .error defect => .error (.badSalt defect)
    | .ok _ => .ok field

def readOutput (field : List Char) : Except HashFault (List UInt8) :=
  if 64 < Base64.decodedLength (Utf8.size field) then .error .badOutputLength
  else
    match Base64.decode? field with
    | none => .error .badOutputEncoding
    | some bytes => if bytes.length < 10 then .error .shortOutput else .ok bytes

/-- The version and the fields that follow it: a field `v=…` without a comma is a version. -/
def readVersion : List (List Char) → Except HashFault (Option Nat × List (List Char))
  | ('v' :: '=' :: value) :: rest =>
    if ',' ∈ value then .ok (none, ('v' :: '=' :: value) :: rest)
    else do
      let value ← (readValue value).mapError .badValue
      let version ← (readDecimal value).mapError .badValue
      return (some version, rest)
  | fields => .ok (none, fields)

/-- The parameters and the fields that follow them: a field with an equals sign holds parameters. -/
def readOptional :
    List (List Char) → Except HashFault (List (List Char × List Char) × List (List Char))
  | field :: rest =>
    if '=' ∈ field then do return (← readParameters field, rest)
    else .ok ([], field :: rest)
  | [] => .ok ([], [])

/-- Salt and output, each of which may be missing, and nothing after them. -/
def readTail :
    List (List Char) → Except HashFault (Option (List Char) × Option (List UInt8))
  | [] => .ok (none, none)
  | [salt] => do return (some (← readSalt salt), none)
  | salt :: output :: rest => do
    let salt ← readSalt salt
    let output ← readOutput output
    if rest ≠ [] then throw .trailingField
    return (some salt, some output)

/-- Takes a stored text apart; the first fault met from the left counts. -/
def read (text : String) : Except HashFault PasswordHash :=
  match text.toList.splitOn '$' with
  | [] :: algorithm :: fields => do
    let algorithm ← readName algorithm
    let (version, fields) ← readVersion fields
    let (parameters, fields) ← readOptional fields
    let (salt, output) ← readTail fields
    return ⟨algorithm, version, parameters, salt, output⟩
  | _ => .error .missingField

/-! ### Writing -/

def renderParameters (ps : List (List Char × List Char)) : List Char :=
  [','].intercalate (ps.map fun p => p.1 ++ '=' :: p.2)

def fields (h : PasswordHash) : List (List Char) :=
  [h.algorithm] ++ (h.version.map fun v => "v=".toList ++ Nat.toDigits 10 v).toList ++
  (if h.parameters = [] then [] else [renderParameters h.parameters]) ++
  h.salt.toList ++ (h.output.map Base64.encode).toList

def render (h : PasswordHash) : String := String.ofList (['$'].intercalate ([] :: h.fields))

/-! ### Verifying -/

def variant? (name : List Char) : Option Argon2.Variant :=
  if name = "argon2d".toList then some .d
  else if name = "argon2i".toList then some .i
  else if name = "argon2id".toList then some .id
  else none

def variantName : Argon2.Variant → List Char
  | .d => "argon2d".toList
  | .i => "argon2i".toList
  | .id => "argon2id".toList

/-- The algorithm version that a number stands for; 19 when none is given. -/
def version? : Option Nat → Option Argon2.Version
  | none => some .v19
  | some 16 => some .v16
  | some 19 => some .v19
  | some _ => none

def defaultCost : Argon2.Parameters := ⟨19456, 2, 1, [], 32⟩

def readBytes? (limit : Nat) (value : List Char) : Option (List UInt8) :=
  (Base64.decode? value).filter (·.length ≤ limit)

/-- Applies one parameter to the costs. A key identifier is checked but has no effect. -/
def applyParameter (p : Argon2.Parameters) (pair : List Char × List Char) :
    Option Argon2.Parameters :=
  let number? := (readDecimal pair.2).toOption
  if pair.1 = "m".toList then number?.map fun n => { p with memory := n }
  else if pair.1 = "t".toList then number?.map fun n => { p with passes := n }
  else if pair.1 = "p".toList then number?.map fun n => { p with lanes := n }
  else if pair.1 = "keyid".toList then (readBytes? 8 pair.2).map fun _ => p
  else if pair.1 = "data".toList then (readBytes? 32 pair.2).map fun data => { p with data }
  else none

def acceptable (p : Argon2.Parameters) : Bool :=
  8 ≤ p.memory && p.lanes * 8 ≤ p.memory && 1 ≤ p.passes && 1 ≤ p.lanes && p.lanes ≤ 0xFFFFFF

/-- The costs that a hash writes, for an output of `length` bytes; of repeated parameters the last
one counts. -/
def cost? (parameters : List (List Char × List Char)) (length : Nat) :
    Option Argon2.Parameters :=
  (parameters.foldlM applyParameter { defaultCost with length }).filter acceptable

def compute? (variant : Argon2.Variant) (version : Argon2.Version) (cost : Argon2.Parameters)
    (salt password : List UInt8) : Option (List UInt8) :=
  if salt.length < 8 ∨ 1 <<< 32 ≤ password.length then none
  else some (Argon2.hash variant version cost salt password)

def recompute? (h : PasswordHash) (password : String) : Option (List UInt8) := do
  let salt ← h.salt
  let output ← h.output
  let cost ← cost? h.parameters output.length
  let variant ← variant? h.algorithm
  let version ← version? h.version
  let salt ← Base64.decode? salt
  compute? variant version cost salt password.toUTF8.toList

/-- Whether a password gives the output of a hash. A hash that cannot be computed matches none. -/
def verify (h : PasswordHash) (password : String) : Bool :=
  match h.output, recompute? h password with
  | some expected, some actual => expected == actual
  | _, _ => false

/-! ### Hashing -/

def costParameters (p : Argon2.Parameters) : List (List Char × List Char) :=
  [("m".toList, Nat.toDigits 10 p.memory), ("t".toList, Nat.toDigits 10 p.passes),
   ("p".toList, Nat.toDigits 10 p.lanes)]

def ofPassword? (salt : List UInt8) (password : String) : Option PasswordHash :=
  (compute? .id .v19 defaultCost salt password.toUTF8.toList).map fun output =>
    { algorithm := variantName .id
      version := some 19
      parameters := costParameters defaultCost
      salt := some (Base64.encode salt)
      output := some output }

end PasswordHash

end TokenAuthority.Password
