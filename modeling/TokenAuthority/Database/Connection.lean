import TokenAuthority.Database.Value
import TokenAuthority.Http.Form
import TokenAuthority.Settings
import TokenAuthority.Text.Quoted
import TokenAuthority.Url.Address

/-!
The address of a database with its options, and why a connection to it fails.
-/

namespace TokenAuthority.Database

open Text

def sslModes : List String :=
  ["disable", "allow", "prefer", "require", "verify-ca", "verify-full"]

def isIpAddress (text : List Char) : Bool :=
  (text.contains '.' && ((Url.groupPieces? true text).any fun pieces => pieces.length == 2)) ||
    (Url.readIpv6 text).isOk

/-- Checks an option of the address; unknown options do not matter. -/
def checkOption (option : String × String) : Except Error Unit :=
  let number (bits : Nat) : Except Error Unit :=
    match Settings.readNumber bits option.2.toList with
    | .ok _ => .ok ()
    | .error fault => .error (.configuration fault.message)
  if option.1 = "sslmode" ∨ option.1 = "ssl-mode" then
    if sslModes.contains option.2.toLower then .ok ()
    else
      let inner : Error := .configuration
        ("unknown value " ++ quoted option.2 ++ " for \x60ssl_mode\x60")
      .error (.configuration inner.message)
  else if option.1 = "statement-cache-capacity" then number 64
  else if option.1 = "port" then number 16
  else if option.1 = "hostaddr" ∧ !isIpAddress option.2.toList then
    .error (.configuration "invalid IP address syntax")
  else .ok ()

/-- The parts of an address that must be UTF-8 once they are decoded: a host that is a path, the
user, the password and the name of the database. -/
def textParts (address : Url.Address) : List (List Char) :=
  let host := address.host.getD []
  let isPath := (Url.decode host).head? == some 0x2F
  (if isPath then [host] else []) ++ [address.user, address.password.getD [],
    address.path.dropWhile (· == '/')]

def checkText (part : List Char) : Except Error Unit :=
  match Utf8.fault? (Url.decode part) with
  | some fault => .error (.configuration fault.message)
  | none => .ok ()

def checkAddress (url : String) : Except Error Unit :=
  match Url.Address.read url with
  | .error fault => .error (.configuration fault.message)
  | .ok address => do
    (textParts address).forM checkText
    (Http.Form.read (Utf8.encode address.queryText)).forM checkOption

def connectionFailure (e : Error) : Failure :=
  .database ("Failed to connect to PostgreSQL: " ++ e.message)

/-- Connects to the database at an address, unless the server refuses. -/
def connect (url : String) (refusal : Option String) : Except Failure Unit :=
  match checkAddress url, refusal with
  | .error e, _ => .error (connectionFailure e)
  | .ok (), some reason => .error (connectionFailure (.server reason))
  | .ok (), none => .ok ()

end TokenAuthority.Database
