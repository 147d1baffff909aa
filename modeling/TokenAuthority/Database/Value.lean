import TokenAuthority.Failure
import TokenAuthority.Json.Reader
import TokenAuthority.Json.Writer
import TokenAuthority.Time.Instant

/-!
Values of columns, rows by the names of their columns, and the errors that a database reports.
-/

namespace TokenAuthority.Database

/-- The value of a column. Times are kept in whole microseconds, and JSON values as text. -/
inductive Value where
  | null
  | text (s : String)
  | bool (b : Bool)
  | time (t : Instant)
  | json (text : String)

namespace Value

def ofText? : Option String → Value
  | some s => text s
  | none => null

/-- A time as it is stored, or no value. -/
def ofTime? : Option Instant → Value
  | some t => time t.stored
  | none => null

def ofJson (j : Json) : Value := json j.render

end Value

abbrev Row := List (String × Value)

namespace Row

def get (r : Row) (column : String) : Value := (r.lookup column).getD .null

def text? (r : Row) (column : String) : Option String :=
  match r.get column with
  | .text s => some s
  | _ => none

def bool? (r : Row) (column : String) : Option Bool :=
  match r.get column with
  | .bool b => some b
  | _ => none

def time? (r : Row) (column : String) : Option Instant :=
  match r.get column with
  | .time t => some t
  | _ => none

def json? (r : Row) (column : String) : Option Json :=
  match r.get column with
  | .json text => (Json.read text.toList).toOption
  | _ => none

end Row

inductive Error where
  | server (reason : String)
  | configuration (reason : String)
  | rowNotFound
  | poolTimedOut
  | poolClosed
  | columnNotFound (name : String)
  | protocol (reason : String)
deriving DecidableEq

def Error.message : Error → String
  | server reason => "error returned from database: " ++ reason
  | configuration reason => "error with configuration: " ++ reason
  | rowNotFound =>
    "no rows returned by a query that expected to return at least one row"
  | poolTimedOut => "pool timed out while waiting for an open connection"
  | poolClosed => "attempted to acquire a connection on a closed pool"
  | columnNotFound name => "no column found for name: " ++ name
  | protocol reason => "encountered unexpected or invalid data: " ++ reason

def Error.failure (e : Error) : Failure := .database e.message

end TokenAuthority.Database
