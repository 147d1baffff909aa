import TokenAuthority.Password.PasswordHash
import TokenAuthority.Profile
import TokenAuthority.Table
import TokenAuthority.Time.Instant

/-!
Accounts with their password and the records of their identities at providers.
`Account.checkPassword` tells a wrong password from a stored hash that cannot be read.
-/

namespace TokenAuthority

open Password

/-- How far an account that registered itself has come. -/
structure Registration where
  activationId : String
  requestedAt : Option Instant
  activatedAt : Option Instant
deriving DecidableEq

structure Account where
  id : String
  email : String
  /-- Accounts that only sign in through a provider have none. -/
  passwordHash : Option String
  registration : Option Registration
  /-- The records of the account's identities, by provider. -/
  profiles : Table Profile

inductive PasswordCheck where
  | right
  | wrong
  | unreadable (fault : HashFault)
deriving DecidableEq

namespace Account

def hasPassword (a : Account) : Bool := a.passwordHash.isSome

/-- Whether the account registered itself and has not been activated. -/
def activationPending (a : Account) : Bool :=
  a.registration.any fun r => r.activatedAt.isNone

def checkPassword (a : Account) (password : String) : PasswordCheck :=
  match a.passwordHash with
  | none => .wrong
  | some text =>
    match PasswordHash.read text with
    | .error fault => .unreadable fault
    | .ok hash => if hash.verify password then .right else .wrong

def profile? (a : Account) (provider : String) : Option Profile := a.profiles.get? provider

def withProfile (a : Account) (profile : Profile) : Account :=
  { a with profiles := a.profiles.insert profile.provider profile }

def isLinkedTo (a : Account) (provider subject : String) : Bool :=
  (a.profile? provider).any fun p => p.subject == subject

/-- Whether a provider's record is saved as it is. -/
def hasSaved (a : Account) (profile : Profile) : Bool :=
  (a.profile? profile.provider).any fun p => p.same profile

/-- Equality of accounts; the order of the profiles does not matter. -/
def same (a b : Account) : Bool :=
  a.id == b.id && a.email == b.email && a.passwordHash == b.passwordHash &&
    a.registration == b.registration && a.profiles.size == b.profiles.size &&
    a.profiles.entries.all fun e => (b.profiles.get? e.1).any fun p => e.2.same p

end Account

end TokenAuthority
