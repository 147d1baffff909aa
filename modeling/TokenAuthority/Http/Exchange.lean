/-!
One request to another server and what comes of it.
-/

namespace TokenAuthority

structure Exchange where
  /-- The address, in its normal form. -/
  url : String
  bearer : String

/-- What comes of a request: nothing, or an answer whose body may have broken off. -/
inductive Exchange.Outcome where
  | failed
  | answered (status : Nat) (body : List UInt8) (complete : Bool)

/-- What is received of an answer: no body follows the statuses 101, 204 and 304, and the other
statuses below 200 promise an answer that does not come. A status has three digits. -/
def Exchange.Outcome.received (status : Nat) (body : List UInt8) (complete : Bool) : Outcome :=
  if status = 101 ∨ status = 204 ∨ status = 304 then .answered status [] true
  else if status < 200 ∨ 999 < status then .failed
  else .answered status body complete

abbrev Exchange.Answer (_ : Exchange) : Type := Outcome

end TokenAuthority
