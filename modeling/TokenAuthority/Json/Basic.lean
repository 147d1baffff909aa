import TokenAuthority.Decimal.Shortest

/-!
JSON values. Objects are lists of members. Objects that were read hold their members in the order of
the keys, each key once; `Json.insertMember` keeps that order.
-/

namespace TokenAuthority

/-- A number is an integer of at most 64 bits or a floating-point number. -/
inductive Json.Number where
  | integer (n : Int)
  | float (x : Decimal.Binary64)
deriving DecidableEq

inductive Json where
  | null
  | bool (b : Bool)
  | number (n : Json.Number)
  | text (s : String)
  | array (items : List Json)
  | object (members : List (String × Json))

namespace Json

abbrev Members := List (String × Json)

/-- Equality of numbers: an integer is never a floating-point number, and the two zeros are
equal. -/
def Number.same : Number → Number → Bool
  | .integer m, .integer n => m == n
  | .float x, .float y => x.same y
  | _, _ => false

mutual

def same : Json → Json → Bool
  | .null, .null => true
  | .bool a, .bool b => a == b
  | .number m, .number n => m.same n
  | .text s, .text t => s == t
  | .array xs, .array ys => sameItems xs ys
  | .object xs, .object ys => sameMembers xs ys
  | _, _ => false

def sameItems : List Json → List Json → Bool
  | [], [] => true
  | x :: xs, y :: ys => same x y && sameItems xs ys
  | _, _ => false

def sameMembers : List (String × Json) → List (String × Json) → Bool
  | [], [] => true
  | (k, x) :: xs, (l, y) :: ys => k == l && same x y && sameMembers xs ys
  | _, _ => false

end

/-- Adds a member at its place in the order of the keys, in place of one with the same key. -/
def insertMember (key : String) (value : Json) : Members → Members
  | [] => [(key, value)]
  | (k, v) :: rest =>
    if key < k then (key, value) :: (k, v) :: rest
    else if key = k then (key, value) :: rest
    else (k, v) :: insertMember key value rest

/-- Members in the order of their keys; of a repeated key the last value counts. -/
def sorted (members : Members) : Members :=
  members.foldl (fun acc m => insertMember m.1 m.2 acc) []

def get? (j : Json) (key : String) : Option Json :=
  match j with
  | .object members => (members.find? (·.1 == key)).map (·.2)
  | _ => none

end Json

end TokenAuthority
