/-!
Log entries, and the fingerprint by which they tell tokens apart without showing them.
-/

namespace TokenAuthority

inductive Level where
  | debug
  | info
  | warn
  | error
deriving DecidableEq

def Level.name : Level → String
  | debug => "DEBUG"
  | info => "INFO"
  | warn => "WARN"
  | error => "ERROR"

structure Event where
  level : Level
  message : String
deriving DecidableEq

/-- The first eight bytes of a token, to tell log entries apart without showing the token. A token
that is shorter, or where the cut would split a character, is shown whole. -/
def fingerprint (token : String) : String :=
  let rec front : Nat → List Char → Option (List Char)
    | 0, _ => some []
    | _ + 1, [] => none
    | n + 1, c :: cs =>
      if c.utf8Size ≤ n + 1 then (front (n + 1 - c.utf8Size) cs).map (c :: ·) else none
  ((front 8 token.toList).map String.ofList).getD token

end TokenAuthority
