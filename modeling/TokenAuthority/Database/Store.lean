import TokenAuthority.Database.Query
import TokenAuthority.Effect

/-!
Every store call is a program over the database: statements, and for chaining a token a transaction.
An error of the database is logged and fails the call; a transaction that it leaves open is
abandoned.
-/

namespace TokenAuthority.Database

inductive Command where
  | execute (query : Query)
  | beginTransaction
  | commit
  | rollBack
  /-- Rolls back a transaction that an error left open, whatever comes of it. -/
  | abandon

structure Reply where
  affected : Nat
  rows : List Row

def Command.Answer : Command → Type
  | execute _ => Except Error Reply
  | beginTransaction | commit | rollBack => Except Error Unit
  | abandon => Unit

inductive Effect where
  | ambient (request : Ambient)
  | database (command : Command)

def Effect.Answer : Effect → Type
  | ambient request => request.Answer
  | database command => command.Answer

/-- What is done over the database, up to its failure. -/
abbrev Work : Type → Type := ExceptT Failure (Program Effect.Answer)

/-- The failure of a call that meets a row of another shape than the schema's. -/
def misfit : Failure := .internal "a stored row does not fit the schema"

namespace Work

def logError (message : String) : Program Effect.Answer Unit :=
  .request (Effect.ambient (.log ⟨.error, message⟩))

def give (command : Command) : Program Effect.Answer command.Answer :=
  .request (Effect.database command)

def attempt {α : Type} (ask : Program Effect.Answer (Except Error α)) : Work α := do
  match ← ExceptT.lift ask with
  | .ok a => return a
  | .error e =>
    ExceptT.lift (logError ("Database error: " ++ e.message))
    throw e.failure

def execute (query : Query) : Work Reply := attempt (give (.execute query))

def beginTransaction : Work Unit := attempt (give .beginTransaction)

def commit : Work Unit := attempt (give .commit)

def rollBack : Work Unit := attempt (give .rollBack)

/-- Does something inside a transaction, which is abandoned if that fails. -/
def orAbandon {α : Type} (act : Work α) : Work α :=
  tryCatch act fun failure => do
    let _ ← ExceptT.lift (give .abandon)
    throw failure

def fitting {α : Type} : Option α → Work α
  | some a => pure a
  | none => throw misfit

def firstRecord {α : Type} (read : Row → Option α) (reply : Reply) : Work (Option α) :=
  match reply.rows.head? with
  | none => pure none
  | some row => do return some (← fitting (read row))

end Work

open Work

def migrate : Work Unit := do
  for definition in [Definition.accounts, .profiles, .tokens, .grants, .ownerIndex] do
    let _ ← execute (.define definition)

def loadAccount (reply : Reply) : Work (Option Account) :=
  match reply.rows.head? with
  | none => pure none
  | some row => do
    let id ← fitting (row.text? "id")
    let profiles ← execute (.profilesOf id)
    return some (← fitting (Account.ofRows? row profiles.rows))

/-- Stores a successor and links a token to it, both or neither. -/
def chainToken (access : String) (successor : Token) : Work Bool := do
  beginTransaction
  if (← orAbandon (execute (.insertToken successor))).affected = 0 then
    orAbandon rollBack
    throw .mintedTwice
  -- A concurrent refresh waits for the row here, and then finds that it is linked.
  else if (← orAbandon (execute (.linkToken access successor.access))).affected = 0 then
    orAbandon rollBack
    return false
  else
    orAbandon commit
    return true

def answer : (call : StoreCall) → Work call.Value
  | .addToken token => do
    if (← execute (.insertToken token)).affected = 0 then throw .mintedTwice
    else return ()
  | .tokenByAccess access => do firstRecord Token.ofRow? (← execute (.tokenByAccess access))
  | .tokenByRefresh refresh => do firstRecord Token.ofRow? (← execute (.tokenByRefresh refresh))
  | .chainToken access successor => chainToken access successor
  | .invalidateToken access => do
    let reply ← execute (.invalidateToken access)
    return (decide (0 < reply.affected) : Bool)
  | .accountByEmail email => do loadAccount (← execute (.accountByEmail email))
  | .accountByIdentity provider subject => do
    loadAccount (← execute (.accountByIdentity provider subject))
  | .saveProfile account profile => do
    let _ ← execute (.saveProfile account profile)
    return ()
  | .addGrant grant => do
    let _ ← execute (.insertGrant grant)
    return ()
  | .takeGrant code => do firstRecord Grant.ofRow? (← execute (.takeGrant code))

def lowerRequest : (request : TokenAuthority.Effect) → Program Effect.Answer request.Answer
  | .ambient request => .request (Effect.ambient request)
  | .store call => (answer call).run

/-- A program of the service as a program over the database. -/
def lower {α : Type} (p : Program TokenAuthority.Effect.Answer α) : Program Effect.Answer α :=
  p.run lowerRequest

end TokenAuthority.Database
