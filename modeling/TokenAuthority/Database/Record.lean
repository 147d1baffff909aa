import TokenAuthority.Account
import TokenAuthority.Database.Value
import TokenAuthority.Grant
import TokenAuthority.Token

/-!
The columns of tokens, grants and profiles, their values, and the records that rows hold. A row is
read only if every column that is always set has a value of its type.
-/

namespace TokenAuthority

open Database

def Token.columns : List String :=
  ["access_token", "refresh_token", "user_id", "created_at", "expires_at", "valid", "next_token",
   "authorization_code"]

def Token.values (t : Token) : List Value :=
  [.text t.access, .ofText? t.refresh, .text t.owner, .time t.createdAt.stored,
   .time t.expiresAt.stored, .bool t.valid, .ofText? t.next, .ofText? t.code]

def Token.ofRow? (r : Row) : Option Token := do
  return {
    access := ← r.text? "access_token"
    refresh := r.text? "refresh_token"
    owner := ← r.text? "user_id"
    createdAt := ← r.time? "created_at"
    expiresAt := ← r.time? "expires_at"
    valid := ← r.bool? "valid"
    next := r.text? "next_token"
    code := r.text? "authorization_code" }

def Grant.columns : List String :=
  ["code", "client_id", "user_id", "scope", "created_at", "expires_at", "used_at"]

def Grant.values (g : Grant) : List Value :=
  [.text g.code, .text g.client, .text g.owner, .ofText? g.scope, .time g.createdAt.stored,
   .time g.expiresAt.stored, .ofTime? g.usedAt]

def Grant.ofRow? (r : Row) : Option Grant := do
  return {
    code := ← r.text? "code"
    client := ← r.text? "client_id"
    owner := ← r.text? "user_id"
    scope := r.text? "scope"
    createdAt := ← r.time? "created_at"
    expiresAt := ← r.time? "expires_at"
    usedAt := r.time? "used_at" }

def Profile.columns : List String := ["provider_id", "provider_user_id", "email", "fields"]

def Profile.values (p : Profile) : List Value :=
  [.text p.provider, .text p.subject, .ofText? p.email, .ofJson (.object p.fields)]

/-- The fields that a JSON value holds; anything but an object holds none. -/
def Profile.fieldsOf : Json → Json.Members
  | .object members => members
  | _ => []

def Profile.ofRow? (r : Row) : Option Profile := do
  return {
    provider := ← r.text? "provider_id"
    subject := ← r.text? "provider_user_id"
    email := r.text? "email"
    fields := fieldsOf (← r.json? "fields") }

/-- The account that its row and the rows of its profiles hold. -/
def Account.ofRows? (r : Row) (profiles : List Row) : Option Account := do
  let profiles ← profiles.mapM Profile.ofRow?
  return {
    id := ← r.text? "id"
    email := ← r.text? "email"
    passwordHash := r.text? "password_hash"
    registration := (r.text? "activation_id").map fun activationId =>
      { activationId
        requestedAt := r.time? "activation_requested_at"
        activatedAt := r.time? "activated_at" }
    profiles := .ofList (profiles.map fun p => (p.provider, p)) }

end TokenAuthority
