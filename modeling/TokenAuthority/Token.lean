import TokenAuthority.Json.Writer
import TokenAuthority.Time.Timestamp

/-!
An access token with its owner, its lifetime and its place in a chain of refreshed tokens. A token
is never changed but for two things: it can be invalidated, and it can get a successor.
-/

namespace TokenAuthority

structure Token where
  access : String
  /-- The string that can be traded for a successor. -/
  refresh : Option String
  owner : String
  createdAt : Instant
  expiresAt : Instant
  valid : Bool
  /-- The access string of the successor. -/
  next : Option String
  /-- The authorization code that it was exchanged for. -/
  code : Option String
deriving DecidableEq

namespace Token

def issued (owner : String) (lifetime : Int) (now : Instant) (access refresh : String) : Token where
  access := access
  refresh := some refresh
  owner := owner
  createdAt := now
  expiresAt := now.addSeconds lifetime
  valid := true
  next := none
  code := none

/-- A token for a client that presented an authorization code. It cannot be refreshed. -/
def delegated (owner code : String) (lifetime : Int) (now : Instant) (access : String) : Token where
  access := access
  refresh := none
  owner := owner
  createdAt := now
  expiresAt := now.addSeconds lifetime
  valid := true
  next := none
  code := some code

def wasRefreshed (t : Token) : Bool := t.next.isSome

def wasInvalidated (t : Token) : Bool := !t.valid

def isOAuth (t : Token) : Bool := t.code.isSome

def isExpired (t : Token) (now : Instant) : Bool := t.expiresAt ≤ now

/-- The whole seconds that remain, and 0 once the time is over. -/
def expiresIn (t : Token) (now : Instant) : Int := max (t.expiresAt.secondsSince now) 0

def wire (t : Token) (now : Instant) : Json :=
  .object <|
    [("access_token", .text t.access)] ++
    (t.refresh.map fun r => ("refresh_token", Json.text r)).toList ++
    [("user_id", .text t.owner),
     ("created_at", .text (String.ofList (Timestamp.write t.createdAt))),
     ("expires_at", .text (String.ofList (Timestamp.write t.expiresAt))),
     ("expires_in", .number (.integer (t.expiresIn now))),
     ("valid", .bool t.valid)]

end Token

end TokenAuthority
