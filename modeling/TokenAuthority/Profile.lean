import TokenAuthority.Json.Reader
import TokenAuthority.Json.Writer

/-!
What an identity provider says about one of its users: an identity, an email address and any further
fields, which are kept as they are.
-/

namespace TokenAuthority

structure Profile where
  provider : String
  /-- The id of the user at the provider. -/
  subject : String
  email : Option String
  fields : Json.Members

namespace Profile

def same (p q : Profile) : Bool :=
  p.provider == q.provider && p.subject == q.subject && p.email == q.email &&
    Json.sameMembers p.fields q.fields

def wire (p : Profile) : Json :=
  .object [("provider_id", .text p.provider), ("user_id", .text p.subject),
    ("email", (p.email.map Json.text).getD .null), ("fields", .object p.fields)]

/-! ### Reading -/

open Json

structure Draft where
  provider : Option String
  subject : Option String
  email : Option (Option String)
  fields : Option Members

def Draft.complete? (d : Draft) : Option Profile := do
  return ⟨← d.provider, ← d.subject, d.email.join, d.fields.getD []⟩

def innerDepth : Nat := depthLimit - 1

def readOnce {α : Type} (seen : Option α) (value : List Char → Except Fault (α × List Char))
    (cs : List Char) : Except Fault (α × List Char) :=
  if seen.isSome then .error .mismatched
  else do value (← readColon cs)

/-- Reads the value of the member with the given key; members with other keys are skipped. -/
def readMember (d : Draft) (key : String) (cs : List Char) : Except Fault (Draft × List Char) :=
  if key = "provider_id" then do
    let (value, rest) ← readOnce d.provider readString cs
    return ({ d with provider := some value }, rest)
  else if key = "user_id" then do
    let (value, rest) ← readOnce d.subject readString cs
    return ({ d with subject := some value }, rest)
  else if key = "email" then do
    let (value, rest) ← readOnce d.email readString? cs
    return ({ d with email := some value }, rest)
  else if key = "fields" then do
    let (value, rest) ← readOnce d.fields (readObject innerDepth) cs
    return ({ d with fields := some value }, rest)
  else do
    return (d, ← skipValue (← readColon cs))

def readNext (first : Bool) (cs : List Char) : Except Fault (List Char) :=
  match skipBlanks cs with
  | [] => .error .cutShort
  | ']' :: _ => .error .mismatched
  | c :: rest =>
    if first then .ok (c :: rest)
    else if c = ',' then
      match skipBlanks rest with
      | [] => .error .cutShort
      | ']' :: _ => .error .malformed
      | rest => .ok rest
    else .error .malformed

def readEnd (cs : List Char) : Except Fault (List Char) :=
  match skipBlanks cs with
  | [] => .error .cutShort
  | ']' :: rest => .ok rest
  | _ => .error .malformed

/-- Reads a record written as an array of its parts, after the opening bracket. The last part may
be left out. -/
def readParts (cs : List Char) : Except Fault (Profile × List Char) := do
  let (provider, cs) ← readString (← readNext true cs)
  let (subject, cs) ← readString (← readNext false cs)
  let (email, cs) ← readString? (← readNext false cs)
  match skipBlanks cs with
  | ']' :: rest => return (⟨provider, subject, email, []⟩, rest)
  | cs =>
    let (fields, cs) ← readObject innerDepth (← readNext false cs)
    return (⟨provider, subject, email, fields⟩, ← readEnd cs)

def read (text : List Char) : Except Fault Profile :=
  match skipBlanks text with
  | '{' :: rest =>
    match readMembers false readMember (rest.length + 1) true ⟨none, none, none, none⟩ rest with
    | .error fault => .error fault
    | .ok (draft, rest) =>
      match draft.complete? with
      | none => .error .mismatched
      | some profile => finish (.ok (profile, rest))
  | '[' :: rest => finish (readParts rest)
  | cs => .error (mismatch cs)

end Profile

end TokenAuthority
