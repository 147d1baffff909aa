import TokenAuthority.Http.Form
import TokenAuthority.Http.Message
import TokenAuthority.Service.Call

/-!
What a request asks for, decided from the request alone: either it is answered right away, or it
makes one call of the service. A request is looked at in a fixed order: path, method, form, bearer,
parameters.
-/

namespace TokenAuthority.Http

open Text

inductive Decision where
  | answer (response : Response)
  | call (call : Call)

def Response.bare (status : Nat) (headers : List (String × String)) : Response :=
  ⟨status, headers, ""⟩

def Response.plain (status : Nat) (body : String) : Response :=
  ⟨status, [("content-type", "text/plain; charset=utf-8")], body⟩

def Response.json (status : Nat) (body : Json) : Response :=
  ⟨status, [("content-type", "application/json")], body.render⟩

def Response.failure (f : Failure) : Response := .json f.status f.body

def Response.health : Response :=
  .json 200 (.object [("service", .text "ohmage-auth"), ("status", .text "ok"),
    ("version", .text "0.1.0")])

/-! ### Reading the parts of a request -/

def maxForm : Nat := 2097152

def formType : List Char := "application/x-www-form-urlencoded".toList

/-- The fields of a query, of which the given ones may occur once. -/
def queryFields (r : Request) (names : List String) :
    Except Response (List (String × String)) :=
  let fields := Form.read (Utf8.encode r.target.query.toList)
  match Form.repeated? names fields with
  | some name =>
    .error (.plain 400
      ("Failed to deserialize query string: duplicate field \x60" ++ name ++ "\x60"))
  | none => .ok fields

def bodyFields (r : Request) (names : List String) :
    Except Response (List (String × String)) :=
  if !((r.header? "content-type").any fun value => formType.isPrefixOf value) then
    .error (.plain 415
      "Form requests must have \x60Content-Type: application/x-www-form-urlencoded\x60")
  else if maxForm < r.body.length then
    .error (.plain 413 "Failed to buffer the request body: length limit exceeded")
  else
    let fields := Form.read r.body
    match Form.repeated? names fields with
    | some name =>
      .error (.plain 422
        ("Failed to deserialize form body: duplicate field \x60" ++ name ++ "\x60"))
    | none => .ok fields

def bearer? (r : Request) : Option String := do
  let value ← r.header? "authorization"
  let scheme := "Bearer ".toList
  if scheme.isPrefixOf value then
    let token := trimmed (value.drop scheme.length)
    if token = [] then none else some (String.ofList token)
  else none

/-! ### Deciding -/

def credentialNames : List String :=
  ["email", "password", "provider", "access_token", "refresh_token"]

def issue (fields : List (String × String)) : Except Failure Call :=
  match Form.value? fields "email", Form.value? fields "password" with
  | some email, some password => .ok (.issueFromPassword email password)
  | _, _ =>
    match Form.value? fields "provider", Form.value? fields "access_token" with
    | some provider, some accessToken => .ok (.issueFromProvider provider accessToken)
    | _, _ =>
      match Form.value? fields "refresh_token" with
      | some refreshToken => .ok (.refresh refreshToken)
      | none =>
        .error (.invalidArgument
          "Provide email and password, provider and access_token, or refresh_token.")

def authorize (bearer : Option String) (fields : List (String × String)) :
    Except Failure Call := do
  match bearer with
  | none => throw .noCredentials
  | some access =>
    match Form.value? fields "client_id" with
    | none => throw (.invalidArgument "client_id is required.")
    | some client => return .authorize access client (Form.value? fields "scope")

def exchange (fields : List (String × String)) : Except Failure Call := do
  match Form.value? fields "grant_type" with
  | none => throw (.invalidArgument "grant_type is required.")
  | some grantType =>
    if grantType ≠ "authorization_code" then
      throw (.invalidArgument ("Unsupported grant type: " ++ grantType))
    match Form.value? fields "code", Form.value? fields "client_id" with
    | some code, some client => return .issueFromCode code client
    | _, _ => throw (.invalidArgument "code and client_id are required.")

inductive Route where
  | status
  | authToken
  | authorize
  | token
deriving DecidableEq

def Route.ofPath? (path : String) : Option Route :=
  if path = "/status" then some .status
  else if path = "/auth_token" then some .authToken
  else if path = "/oauth/authorize" then some .authorize
  else if path = "/oauth/token" then some .token
  else none

def Route.allowed : Route → String
  | status => "GET,HEAD"
  | authToken => "GET,HEAD,POST,DELETE"
  | authorize | token => "POST"

def Decision.ofExcept (fields : Except Response (List (String × String)))
    (call : List (String × String) → Except Failure Call) : Decision :=
  match fields with
  | .error response => .answer response
  | .ok fields =>
    match call fields with
    | .error failure => .answer (.failure failure)
    | .ok call => .call call

def Route.decide (route : Route) (r : Request) : Decision :=
  let refused : Decision := .answer (.bare 405 [("allow", route.allowed)])
  match route with
  | .status => if r.method = "GET" ∨ r.method = "HEAD" then .answer .health else refused
  | .authToken =>
    if r.method = "GET" ∨ r.method = "HEAD" then
      .ofExcept (queryFields r credentialNames) issue
    else if r.method = "POST" then .ofExcept (bodyFields r credentialNames) issue
    else if r.method = "DELETE" then
      .ofExcept (queryFields r ["auth_token"]) fun fields =>
        .ok (.invalidate ((bearer? r).or (Form.value? fields "auth_token")))
    else refused
  | .authorize =>
    if r.method = "POST" then
      .ofExcept (bodyFields r ["client_id", "scope"]) (Http.authorize (bearer? r))
    else refused
  | .token =>
    if r.method = "POST" then
      .ofExcept (bodyFields r ["grant_type", "code", "client_id"]) exchange
    else refused

/-- What becomes of a request. Every OPTIONS request is answered right away. -/
def Request.decide (r : Request) : Decision :=
  let route := Route.ofPath? r.target.path
  if r.method = "OPTIONS" then
    .answer (.bare 200 ([("access-control-allow-methods", "*"),
      ("access-control-allow-headers", "*")] ++
      (route.map fun route => ("allow", route.allowed)).toList))
  else
    match route with
    | none => .answer (.bare 404 [])
    | some route => route.decide r

/-! ### Answering -/

def Response.ofOutcome (outcome : Except Failure Yield) : Program Effect.Answer Response :=
  match outcome with
  | .error failure => return .failure failure
  | .ok (.token token) => do return .json 200 (token.wire (← Action.clock))
  | .ok (.grant grant) => return .json 201 grant.wire
  | .ok .nothing => return .bare 200 []

def sharedHeaders : List (String × String) :=
  [("access-control-allow-origin", "*"),
   ("vary", "origin, access-control-request-method, access-control-request-headers")]

/-- The answer to a request as it is sent: with the shared headers, and without its body if only the
head was asked for. -/
def Response.sent (response : Response) (method : String) : Response :=
  { response with
    headers := sharedHeaders ++ response.headers
    body := if method = "HEAD" then "" else response.body }

def respond (s : Service) (r : Request) : Program Effect.Answer Response := do
  match r.decide with
  | .answer response => return response.sent r.method
  | .call call =>
    let response ← Response.ofOutcome (← (s.perform call).run)
    return response.sent r.method

end TokenAuthority.Http
