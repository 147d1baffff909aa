import TokenAuthority.Account
import TokenAuthority.Event
import TokenAuthority.Failure
import TokenAuthority.Grant
import TokenAuthority.Provider
import TokenAuthority.Token

/-!
What the service asks of its surroundings: the time, random strings, a line in the log, the answer
of an identity provider, and calls of the store. A store call is one atomic step.
-/

namespace TokenAuthority

inductive StoreCall where
  | addToken (token : Token)
  | tokenByAccess (access : String)
  | tokenByRefresh (refresh : String)
  | chainToken (access : String) (successor : Token)
  | invalidateToken (access : String)
  | accountByEmail (email : String)
  | accountByIdentity (provider subject : String)
  | saveProfile (account : String) (profile : Profile)
  | addGrant (grant : Grant)
  | takeGrant (code : String)

def StoreCall.Value : StoreCall → Type
  | addToken _ => Unit
  | tokenByAccess _ => Option Token
  | tokenByRefresh _ => Option Token
  | chainToken _ _ => Bool
  | invalidateToken _ => Bool
  | accountByEmail _ => Option Account
  | accountByIdentity _ _ => Option Account
  | saveProfile _ _ => Unit
  | addGrant _ => Unit
  | takeGrant _ => Option Grant

abbrev StoreCall.Answer (call : StoreCall) : Type := Except Failure call.Value

inductive Ambient where
  | clock
  | freshText
  | log (event : Event)
  | identify (provider : Provider) (accessToken : String)

def Ambient.Answer : Ambient → Type
  | clock => Instant
  | freshText => String
  | log _ => Unit
  | identify _ _ => Except Failure Profile

inductive Effect where
  | ambient (request : Ambient)
  | store (call : StoreCall)

def Effect.Answer : Effect → Type
  | ambient request => request.Answer
  | store call => call.Answer

/-- What the service does, up to its failure. -/
abbrev Action : Type → Type := ExceptT Failure (Program Effect.Answer)

namespace Action

def clock : Program Effect.Answer Instant := .request (Effect.ambient .clock)

/-- A string of 64 random letters and digits. -/
def freshText : Program Effect.Answer String := .request (Effect.ambient .freshText)

def log (level : Level) (message : String) : Program Effect.Answer Unit :=
  .request (Effect.ambient (.log ⟨level, message⟩))

def identify (provider : Provider) (accessToken : String) : Action Profile :=
  .mk (.request (Effect.ambient (.identify provider accessToken)))

def store (call : StoreCall) : Action call.Value := .mk (.request (Effect.store call))

/-- Stores a token, whose access string must not be in use. -/
def addToken (token : Token) : Action Unit := store (.addToken token)

def tokenByAccess (access : String) : Action (Option Token) := store (.tokenByAccess access)

def tokenByRefresh (refresh : String) : Action (Option Token) := store (.tokenByRefresh refresh)

/-- Stores a successor and links a token to it, if the token is valid and has no successor. -/
def chainToken (access : String) (successor : Token) : Action Bool :=
  store (.chainToken access successor)

def invalidateToken (access : String) : Action Bool := store (.invalidateToken access)

def accountByEmail (email : String) : Action (Option Account) := store (.accountByEmail email)

def accountByIdentity (provider subject : String) : Action (Option Account) :=
  store (.accountByIdentity provider subject)

def saveProfile (account : String) (profile : Profile) : Action Unit :=
  store (.saveProfile account profile)

def addGrant (grant : Grant) : Action Unit := store (.addGrant grant)

/-- Marks a grant as used and yields it, if it was not used before. -/
def takeGrant (code : String) : Action (Option Grant) := store (.takeGrant code)

end Action

end TokenAuthority
