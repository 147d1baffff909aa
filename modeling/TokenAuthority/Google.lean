import TokenAuthority.Http.Message
import TokenAuthority.Http.Status
import TokenAuthority.Provider
import TokenAuthority.Settings
import TokenAuthority.Url.Address

/-!
The provider that asks Google's userinfo endpoint who holds an access token. The answer must be one
JSON object with a string `sub`, once, and a string or null `email`, at most once; all other members
are kept as fields.
-/

namespace TokenAuthority.Google

open Json Text

def id : String := "google"

/-! ### Reading the answer -/

structure Draft where
  sub : Option String
  email : Option (Option String)
  rest : Members

def readMember (d : Draft) (key : String) (cs : List Char) : Except Fault (Draft × List Char) :=
  if key = "sub" then do
    let (value, rest) ← Profile.readOnce d.sub readString cs
    return ({ d with sub := some value }, rest)
  else if key = "email" then do
    let (value, rest) ← Profile.readOnce d.email readString? cs
    return ({ d with email := some value }, rest)
  else do
    let (value, rest) ← Json.readValue false (cs.length + 1) Profile.innerDepth (← readColon cs)
    return ({ d with rest := insertMember key value d.rest }, rest)

def Draft.profile? (d : Draft) : Option Profile := do
  return ⟨id, ← d.sub, d.email.join, d.rest⟩

def readProfile? (body : List UInt8) : Option Profile := do
  match skipBlanks (← Utf8.strict? body) with
  | '{' :: rest =>
    let members := readMembers false readMember (rest.length + 1) true ⟨none, none, []⟩ rest
    (← (finish members).toOption).profile?
  | _ => none

/-! ### Asking -/

/-- Prepares a request, or says why it cannot be sent: the endpoint's address does not parse, is no
web address, or the token cannot stand in a header. -/
def prepare (endpoint accessToken : String) : Except String Exchange :=
  match Url.Address.read endpoint with
  | .error _ => .error "builder error"
  | .ok address =>
    let url := address.withoutUser.text
    let refused : String := "builder error for url (" ++ url ++ ")"
    if !address.hasHost then .error refused
    else if !accessToken.toUTF8.toList.all Http.isHeaderByte then .error "builder error"
    else if address.scheme ≠ "http" ∧ address.scheme ≠ "https" then .error refused
    else
      match Http.Target.read url with
      | .error _ => .error refused
      | .ok _ => .ok ⟨url, accessToken⟩

def conclude (url : String) : Exchange.Outcome → Except Failure Profile
  | .failed =>
    .error (.providerUnreachable
      ("Google userinfo request failed: error sending request for url (" ++ url ++ ")"))
  | .answered status body complete =>
    if 200 ≤ status ∧ status ≤ 299 then
      match if complete then readProfile? body else none with
      | some profile => .ok profile
      | none =>
        .error (.providerUnreachable
          "Failed to parse userinfo response: error decoding response body")
    else if status = 400 ∨ status = 401 ∨ status = 403 then
      .error (.providerTokenInvalid ("Google rejected the token: " ++
        if complete then String.ofList (Utf8.lossy body) else ""))
    else .error (.providerUnreachable ("Google userinfo returned " ++ Http.statusText status))

def identify (endpoint accessToken : String) :
    Program Exchange.Answer (Except Failure Profile) :=
  if accessToken = "" then .done (.error (.invalidArgument "The access token is empty."))
  else
    match prepare endpoint accessToken with
    | .error reason =>
      .done (.error (.providerUnreachable ("Google userinfo request failed: " ++ reason)))
    | .ok exchange => .ask exchange fun outcome => .done (conclude exchange.url outcome)

def provider (endpoint : String) : Provider := ⟨id, identify endpoint⟩

end TokenAuthority.Google

namespace TokenAuthority

def Registry.registerDefaults (r : Registry) (s : Settings) : Registry :=
  if s.googleEnabled then r.register (Google.provider s.userinfoUrl) else r

end TokenAuthority
