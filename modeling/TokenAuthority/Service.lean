import TokenAuthority.Effect
import TokenAuthority.Text.Blank

/-!
Issuing tokens, refreshing them, invalidating them, and trading authorization codes for them. A
token stays in the store for good. Refreshing appends a successor, which the store links to the old
token in one step and only if the old token is valid and has no successor yet, so that of any number
of refreshes of one token one makes the successor and the others hand out the same one.
-/

namespace TokenAuthority

structure Span where
  seconds : Nat
  nanos : Nat
deriving DecidableEq

/-- The longest lifetime, ten years, in seconds. -/
def maxLifetime : Nat := 10 * 365 * 24 * 60 * 60

/-- The most seconds that instants can be moved by, a number of milliseconds within 64 bits. -/
def maxShift : Nat := ((1 <<< 63) - 1) / 1000

structure Service where
  registry : Registry
  tokenLifetime : Int
  grantLifetime : Int

namespace Service

def lifetime (what : String) (span : Span) : Except Failure Int :=
  if maxLifetime < span.seconds then
    .error (.invalidArgument ("The " ++ what ++ " lifetime of " ++ toString span.seconds ++
      " seconds exceeds " ++ toString maxLifetime ++ " seconds."))
  else if maxShift < span.seconds then
    .error (.invalidArgument ("The " ++ what ++ " lifetime is out of range."))
  else .ok span.seconds

/-- A service with the given lifetimes, of which only the whole seconds count. -/
def new (registry : Registry) (tokenLifetime grantLifetime : Span) : Except Failure Service := do
  return {
    registry
    tokenLifetime := ← lifetime "token" tokenLifetime
    grantLifetime := ← lifetime "authorization code" grantLifetime }

open TokenAuthority.Action

def orThrow {α : Type} (failure : Failure) : Option α → Action α
  | some a => pure a
  | none => throw failure

def newToken (s : Service) (owner : String) : Program Effect.Answer Token := do
  let now ← clock
  let access ← freshText
  let refresh ← freshText
  return .issued owner s.tokenLifetime now access refresh

def newDelegatedToken (s : Service) (grant : Grant) : Program Effect.Answer Token := do
  let now ← clock
  let access ← freshText
  return .delegated grant.owner grant.code s.tokenLifetime now access

def newGrant (s : Service) (client owner : String) (scope : Option String) :
    Program Effect.Answer Grant := do
  let now ← clock
  let code ← freshText
  return .issued client owner scope s.grantLifetime now code

def mint (token : Token) : Action Token := do
  addToken token
  log .info ("Issued token " ++ fingerprint token.access ++ " for user " ++ token.owner)
  return token

/-- Holds a password against an account; a hash that cannot be read is logged. -/
def passwordMatches (account : Account) (password : String) : Program Effect.Answer Bool :=
  match account.checkPassword password with
  | .right => return true
  | .wrong => return false
  | .unreadable fault => do
    log .warn ("Stored password hash for user " ++ account.id ++ " is unreadable: " ++
      fault.message)
    return false

/-- Issues a token for an email address and a password. All that can be wrong with the two fails
alike. -/
def issueFromPassword (s : Service) (email password : String) : Action Token := do
  log .info "Creating an authentication token from an email address and password"
  match ← accountByEmail email with
  | none =>
    log .info ("No user with email " ++ email)
    throw .badCredentials
  | some account =>
    if !account.hasPassword then
      log .info ("User " ++ account.id ++ " signs in through a provider and has no password")
      throw .badCredentials
    else if !(← passwordMatches account password) then
      log .info ("Incorrect password for user " ++ account.id)
      throw .badCredentials
    else if account.activationPending then
      log .info ("User " ++ account.id ++ " never activated their account")
      throw .activationPending
    else mint (← s.newToken account.id)

/-- Saves a provider's record if it differs from the saved one. A failure is logged and has no other
effect. -/
def refreshProfile (account : Account) (profile : Profile) : Program Effect.Answer Unit := do
  if account.hasSaved profile then return
  else
    log .debug ("Provider information for user " ++ account.id ++ " changed")
    match ← (saveProfile account.id profile).run with
    | .ok _ => return
    | .error failure =>
      log .warn ("Failed to save updated " ++ profile.provider ++ " information for user " ++
        account.id ++ ": " ++ failure.message)

def issueFromProvider (s : Service) (providerId accessToken : String) : Action Token := do
  log .info ("Creating an authentication token from a " ++ providerId ++ " access token")
  let provider ← orThrow (.unknownProvider providerId) (s.registry.get? providerId)
  let profile ← identify provider accessToken
  match ← accountByIdentity profile.provider profile.subject with
  | none =>
    log .info (profile.provider ++ " user " ++ profile.subject ++
      " is not linked to an ohmage account")
    throw .unlinkedIdentity
  | some account =>
    refreshProfile account profile
    mint (← s.newToken account.id)

def successorOf (old : Token) : Action Token := do
  let access ← orThrow (.illegalState "token has no successor") old.next
  match ← tokenByAccess access with
  | none =>
    log .error ("Token " ++ fingerprint old.access ++ " has a next token " ++
      fingerprint access ++ " which is unknown")
    throw (.illegalState ("token '" ++ fingerprint old.access ++
      "' points at an unknown successor"))
  | some next =>
    if next.wasRefreshed then throw .alreadyRefreshed
    else if next.wasInvalidated then throw .alreadyInvalidated
    else return next

/-- Decides a refresh whose token was refreshed or invalidated by someone else after it was read. -/
def settleLostRefresh (old : Token) : Action Token := do
  log .warn ("Concurrent update of token " ++ fingerprint old.access ++ " while refreshing it")
  match ← tokenByAccess old.access with
  | none =>
    throw (.illegalState ("token '" ++ fingerprint old.access ++
      "' disappeared during a refresh"))
  | some current =>
    if current.wasInvalidated then throw .alreadyInvalidated
    else if current.wasRefreshed then successorOf current
    else
      log .error ("Token " ++ fingerprint old.access ++
        " could not be chained although it is valid and unrefreshed")
      throw (.illegalState "the refresh chain could not be extended")

def refresh (s : Service) (refreshToken : String) : Action Token := do
  log .info "Creating an authentication token from a refresh token"
  match ← tokenByRefresh refreshToken with
  | none => throw .unknownToken
  | some old =>
    if old.isOAuth then throw .oauthRefresh
    else if old.wasInvalidated then throw .alreadyInvalidated
    else if old.wasRefreshed then
      log .debug ("Token " ++ fingerprint old.access ++ " was already refreshed")
      successorOf old
    else
      let next ← s.newToken old.owner
      if ← chainToken old.access next then
        log .info ("Refreshed token " ++ fingerprint old.access ++ " into " ++
          fingerprint next.access ++ " for user " ++ next.owner)
        return next
      else settleLostRefresh old

def invalidate (access : Option String) : Action Unit := do
  let access ← orThrow .noCredentials access
  if ← invalidateToken access then
    log .info ("Invalidated token " ++ fingerprint access)
  else throw .unknownAccess

def authenticate (access : String) : Action Token := do
  match ← tokenByAccess access with
  | none => throw .unknownAccess
  | some token =>
    if token.wasInvalidated then throw .alreadyInvalidated
    else if token.wasRefreshed then throw .alreadyRefreshed
    else if token.isExpired (← clock) then throw .expiredAccess
    else return token

/-- Grants a client a code that it can trade, once, for a token of the bearer's account. -/
def authorize (s : Service) (access client : String) (scope : Option String) : Action Grant := do
  if (Text.trimmed client.toList).isEmpty then throw .missingClient
  else
    let token ← authenticate access
    let grant ← s.newGrant client token.owner scope
    addGrant grant
    log .info ("User " ++ token.owner ++ " authorized client " ++ client)
    return grant

def issueFromCode (s : Service) (code client : String) : Action Token := do
  log .info "Creating an authentication token from an authorization code"
  match ← takeGrant code with
  | none => throw .unknownCode
  | some grant =>
    -- The code is spent by now, whatever comes of it.
    if grant.client ≠ client then throw .foreignCode
    else if grant.isExpired (← clock) then throw .expiredCode
    else mint (← s.newDelegatedToken grant)

end Service

end TokenAuthority
