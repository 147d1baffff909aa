import TokenAuthority.Report
import TokenAuthority.Service
import TokenAuthority.Text.Utf8

/-!
What the program is told by its environment: addresses, lifetimes and which providers to use. Every
setting has a default. A variable that is not UTF-8 counts as unset.
-/

namespace TokenAuthority

open Text

structure Settings where
  host : String
  port : Nat
  databaseUrl : Option String
  tokenLifetime : Span
  grantLifetime : Span
  providerTimeout : Span
  googleEnabled : Bool
  userinfoUrl : String
deriving DecidableEq

namespace Settings

def seconds (n : Nat) : Span := ⟨n, 0⟩

def defaultUserinfoUrl : String := "https://openidconnect.googleapis.com/v1/userinfo"

def standard : Settings where
  host := "127.0.0.1"
  port := 8430
  databaseUrl := none
  tokenLifetime := seconds 3600
  grantLifetime := seconds 600
  providerTimeout := seconds 10
  googleEnabled := true
  userinfoUrl := defaultUserinfoUrl

/-! ### Reading -/

inductive NumberFault where
  | empty
  | badDigit
  | tooLarge
deriving DecidableEq

def NumberFault.message : NumberFault → String
  | empty => "cannot parse integer from empty string"
  | badDigit => "invalid digit found in string"
  | tooLarge => "number too large to fit in target type"

def pushDigit (bits n : Nat) (c : Char) : Except NumberFault Nat :=
  if !c.isDigit then .error .badDigit
  else
    let next := n * 10 + (c.toNat - '0'.toNat)
    if 1 <<< bits ≤ next then .error .tooLarge else .ok next

/-- Reads a number of at most so many bits: decimal digits, with a plus sign in front or none. -/
def readNumber (bits : Nat) (text : List Char) : Except NumberFault Nat :=
  match text with
  | [] => .error .empty
  | ['+'] => .error .badDigit
  | '+' :: digits => digits.foldlM (pushDigit bits) 0
  | digits => digits.foldlM (pushDigit bits) 0

abbrev Environment := List (String × List UInt8)

def Environment.get? (env : Environment) (name : String) : Option (List Char) :=
  (env.lookup name).bind Utf8.strict?

def readSeconds (name : String) (text : List Char) : Except Report Nat :=
  match readNumber 64 (trimmed text) with
  | .ok n => .ok n
  | .error fault =>
    .error ((Report.ofCause fault.message).within
      ("Invalid " ++ name ++ ": expected a number of seconds"))

def readLifetime (name : String) (text : List Char) : Except Report Nat := do
  let n ← readSeconds name text
  if maxLifetime < n then
    throw ((Report.ofCause (toString n ++ " is longer than " ++ toString maxLifetime ++
      " seconds")).within ("Invalid " ++ name))
  return n

def spanFrom (env : Environment) (read : String → List Char → Except Report Nat)
    (name : String) (unset : Nat) : Except Report Span :=
  match env.get? name with
  | none => .ok (seconds unset)
  | some text => (read name text).map seconds

def portFrom (env : Environment) : Except Report Nat :=
  match readNumber 16 ((env.get? "PORT").getD "8430".toList) with
  | .ok n => .ok n
  | .error fault => .error ((Report.ofCause fault.message).within "Invalid PORT")

def fromEnvironment (env : Environment) : Except Report Settings := do
  let text (name : String) := (env.get? name).map String.ofList
  return {
    host := (text "HOST").getD "0.0.0.0"
    port := ← portFrom env
    databaseUrl := (text "DATABASE_URL").filter fun url => url ≠ ""
    tokenLifetime := ← spanFrom env readLifetime "TOKEN_LIFETIME_SECS" 3600
    grantLifetime := ← spanFrom env readLifetime "AUTHORIZATION_CODE_LIFETIME_SECS" 600
    providerTimeout := ← spanFrom env readSeconds "PROVIDER_TIMEOUT_SECS" 10
    googleEnabled := text "GOOGLE_ENABLED" ≠ some "false"
    userinfoUrl := (text "GOOGLE_USERINFO_URL").getD defaultUserinfoUrl }

/-- The database to serve from, without which there are no accounts. -/
def requireDatabaseUrl (s : Settings) : Except Report String :=
  match s.databaseUrl with
  | some url => .ok url
  | none =>
    .error (.ofCause "DATABASE_URL is required: users and tokens live in PostgreSQL")

def listenAddress (s : Settings) : String := s.host ++ ":" ++ toString s.port

end Settings

end TokenAuthority
