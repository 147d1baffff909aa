import TokenAuthority.Text.Utf8

/-!
The target of a request: a path and a query, or an address with a scheme and an authority in front
of them, which play no role once they are found to be well-formed. A fragment is cut off.
-/

namespace TokenAuthority.Http

open Text

structure Target where
  path : String
  query : String
deriving DecidableEq

inductive TargetFault where
  | badCharacter
  | badAuthority
  | badFormat
  | tooLong
  | empty
  | schemeTooLong
deriving DecidableEq

def TargetFault.message : TargetFault → String
  | badCharacter => "invalid uri character"
  | badAuthority => "invalid authority"
  | badFormat => "invalid format"
  | tooLong => "uri too long"
  | empty => "empty string"
  | schemeTooLong => "scheme too long"

namespace Target

/-- The most bytes that a target may have. -/
def maxSize : Nat := 65534

def maxScheme : Nat := 64

def isPathChar (c : Char) : Bool :=
  c == '!' || ('$' ≤ c && c ≤ ';') || c == '=' || ('@' ≤ c && c ≤ '_') || ('a' ≤ c && c ≤ '~') ||
    c == '"' || c.toNat ≥ 0x80

def isQueryChar (c : Char) : Bool :=
  c == '!' || ('$' ≤ c && c ≤ ';') || c == '=' || ('?' ≤ c && c ≤ '~') || c.toNat ≥ 0x80

def endsAuthority (c : Char) : Bool := c == '/' || c == '?' || c == '#'

def isAuthorityChar (c : Char) : Bool :=
  c.isAlphanum || "!$&'()*+,-.:;=?@[]_~%".contains c

def isSchemeChar (c : Char) : Bool := c.isAlphanum || "+-.~".contains c

def ofPathAndQuery (cs : List Char) : Except TargetFault Target :=
  let path := cs.takeWhile fun c => c != '?' && c != '#'
  let query :=
    match cs.dropWhile fun c => c != '?' && c != '#' with
    | '?' :: rest => rest.takeWhile (· != '#')
    | _ => []
  if path.all isPathChar && query.all isQueryChar then
    .ok ⟨if path = [] then "/" else String.ofList path, String.ofList query⟩
  else .error .badCharacter

/-- What an authority was found to hold since its last at sign. -/
structure Authority where
  colons : Nat
  opened : Bool
  closed : Bool
  percent : Bool

def Authority.push (a : Authority) (c : Char) : Except TargetFault Authority :=
  if !isAuthorityChar c then .error .badCharacter
  else if c = ':' then
    if 8 ≤ a.colons then .error .badAuthority else .ok { a with colons := a.colons + 1 }
  else if c = '[' then
    if a.percent || a.opened then .error .badAuthority else .ok { a with opened := true }
  else if c = ']' then
    if !a.opened || a.closed then .error .badAuthority
    else .ok { a with closed := true, colons := 0, percent := false }
  else if c = '@' then .ok { a with colons := 0, percent := false }
  else if c = '%' then .ok { a with percent := true }
  else .ok a

/-- Checks an authority: its brackets match, it has at most one colon outside them, no percent sign
outside the user's part, and something after an at sign. -/
def checkAuthority (cs : List Char) : Except TargetFault Unit := do
  let a ← cs.foldlM Authority.push ⟨0, false, false, false⟩
  if a.opened != a.closed || 1 < a.colons || cs.getLast? == some '@' || a.percent then
    throw .badAuthority

/-- The text after a scheme and `://`, if the text starts so. -/
def afterScheme (cs : List Char) : Except TargetFault (Option (List Char)) :=
  let scheme := cs.takeWhile isSchemeChar
  match cs.drop scheme.length with
  | ':' :: '/' :: '/' :: rest =>
    if scheme = [] && rest = [] then .ok none
    else if maxScheme < scheme.length then .error .schemeTooLong
    else .ok (some rest)
  | _ => .ok none

def read (text : String) : Except TargetFault Target :=
  let cs := text.toList
  if maxSize < Utf8.size cs then .error .tooLong
  else if cs = [] then .error .empty
  else if cs = ['*'] then .ok ⟨"*", ""⟩
  else if cs.head? = some '/' then ofPathAndQuery cs
  else do
    let rest? ← afterScheme cs
    let rest := rest?.getD cs
    if rest = [] then throw .empty
    let authority := rest.takeWhile (!endsAuthority ·)
    checkAuthority authority
    let rest := rest.drop authority.length
    match rest? with
    | none =>
      if rest ≠ [] then throw (if cs.length = 1 then .badCharacter else .badFormat)
      return ⟨"", ""⟩
    | some _ =>
      if authority = [] then throw .badFormat
      ofPathAndQuery rest

end Target

end TokenAuthority.Http
