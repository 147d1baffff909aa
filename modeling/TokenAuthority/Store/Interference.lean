import TokenAuthority.Store.Memory

/-!
What can happen to the store calls of a client: a call can fail and do nothing, other clients can
get in between, and a call can find nothing although there is something.
-/

namespace TokenAuthority

inductive StoreCall.Kind where
  | addToken
  | tokenByAccess
  | tokenByRefresh
  | chainToken
  | invalidateToken
  | accountByEmail
  | accountByIdentity
  | saveProfile
  | addGrant
  | takeGrant
deriving DecidableEq

def StoreCall.kind : StoreCall → Kind
  | addToken _ => .addToken
  | tokenByAccess _ => .tokenByAccess
  | tokenByRefresh _ => .tokenByRefresh
  | chainToken _ _ => .chainToken
  | invalidateToken _ => .invalidateToken
  | accountByEmail _ => .accountByEmail
  | accountByIdentity _ _ => .accountByIdentity
  | saveProfile _ _ => .saveProfile
  | addGrant _ => .addGrant
  | takeGrant _ => .takeGrant

/-- The answer that reports an absence, for the calls that can. -/
def StoreCall.absence? : (call : StoreCall) → Option call.Value
  | addToken _ => none
  | tokenByAccess _ => some (none : Option Token)
  | tokenByRefresh _ => some (none : Option Token)
  | chainToken _ _ => some false
  | invalidateToken _ => some false
  | accountByEmail _ => some (none : Option Account)
  | accountByIdentity _ _ => some (none : Option Account)
  | saveProfile _ _ => none
  | addGrant _ => none
  | takeGrant _ => some (none : Option Grant)

structure Interference where
  failure : Option String
  /-- What other clients do to the store before the call. -/
  before : Memory → Memory
  /-- The call reports an absence, if it can. -/
  absent : Bool

def Interference.none : Interference := ⟨Option.none, id, false⟩

def Memory.stepUnder (i : Interference) (now : Instant) (call : StoreCall) (m : Memory) :
    call.Answer × Memory :=
  match i.failure with
  | some reason => (.error (.database reason), m)
  | Option.none =>
    match if i.absent then call.absence? else Option.none with
    | some value => (.ok value, i.before m)
    | Option.none => (i.before m).step now call

end TokenAuthority
