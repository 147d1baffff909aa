import TokenAuthority.Http.Target

/-!
HTTP requests and answers. A request is made from its parts, each of which is checked; the first one
that may not stand in a request is reported.
-/

namespace TokenAuthority.Http

/-- A request. Names of headers are in lower case. -/
structure Request where
  method : String
  target : Target
  headers : List (String × List UInt8)
  body : List UInt8

structure Response where
  status : Nat
  headers : List (String × String)
  body : String
deriving DecidableEq

inductive RequestFault where
  | badMethod
  | badTarget (fault : TargetFault)
  | badHeaderName
  | badHeaderValue
deriving DecidableEq

def RequestFault.message : RequestFault → String
  | badMethod => "invalid HTTP method"
  | badTarget fault => fault.message
  | badHeaderName => "invalid HTTP header name"
  | badHeaderValue => "failed to parse header value"

def isToken (text : String) : Bool :=
  !text.isEmpty && text.toList.all fun c => c.isAlphanum || "!#$%&'*+-.^_\x60|~".contains c

def isHeaderByte (b : UInt8) : Bool := b == 9 || (32 ≤ b && b != 127)

def isHeaderName (name : String) : Bool := isToken name && name.length ≤ 0xFFFF

/-- The request with the given parts. Values of headers are checked before everything else, and
their names at the end. -/
def Request.ofParts (method target : String) (headers : List (String × List UInt8))
    (body : List UInt8) : Except RequestFault Request := do
  if !headers.all (·.2.all isHeaderByte) then throw .badHeaderValue
  if !isToken method then throw .badMethod
  let target ← (Target.read target).mapError .badTarget
  if !headers.all (isHeaderName ·.1) then throw .badHeaderName
  return { method, target, headers := headers.map fun h => (h.1.toLower, h.2), body }

/-- The value of the first header with a name, if all of its bytes are visible characters, spaces or
tabs. -/
def Request.header? (r : Request) (name : String) : Option (List Char) :=
  match r.headers.lookup name with
  | some value =>
    if value.all fun b => b == 9 || (32 ≤ b && b < 127) then
      some (value.map fun b => Char.ofNat b.toNat)
    else none
  | none => none

end TokenAuthority.Http
