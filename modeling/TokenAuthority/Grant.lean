import TokenAuthority.Json.Writer
import TokenAuthority.Time.Timestamp

/-!
A grant lets a client trade an authorization code, once, for a token that acts for the account that
granted it.
-/

namespace TokenAuthority

structure Grant where
  code : String
  client : String
  /-- The id of the account that the code acts for. -/
  owner : String
  scope : Option String
  createdAt : Instant
  expiresAt : Instant
  usedAt : Option Instant
deriving DecidableEq

namespace Grant

def issued (client owner : String) (scope : Option String) (lifetime : Int) (now : Instant)
    (code : String) : Grant where
  code := code
  client := client
  owner := owner
  scope := scope
  createdAt := now
  expiresAt := now.addSeconds lifetime
  usedAt := none

def isExpired (g : Grant) (now : Instant) : Bool := g.expiresAt ≤ now

/-- What clients see of a grant. -/
def wire (g : Grant) : Json :=
  .object <|
    [("code", .text g.code), ("client_id", .text g.client)] ++
    (g.scope.map fun s => ("scope", Json.text s)).toList ++
    [("expires_at", .text (String.ofList (Timestamp.write g.expiresAt)))]

end Grant

end TokenAuthority
