import TokenAuthority.Json.Writer
import TokenAuthority.Report

/-!
Why a call of the service fails. Every failure has a stable code, a message and an HTTP status.
-/

namespace TokenAuthority

inductive Failure where
  | authentication (reason : String)
  | unknownToken
  | alreadyInvalidated
  | alreadyRefreshed
  | accountNotSetup (reason : String)
  | accountNotActivated (reason : String)
  | invalidArgument (reason : String)
  | unknownProvider (id : String)
  | providerTokenInvalid (reason : String)
  | providerUnreachable (reason : String)
  | illegalState (reason : String)
  | database (reason : String)
  | internal (reason : String)
deriving DecidableEq

namespace Failure

def code : Failure → String
  | authentication _ => "authentication_error"
  | unknownToken => "unknown_token"
  | alreadyInvalidated => "token_invalidated"
  | alreadyRefreshed => "token_already_refreshed"
  | accountNotSetup _ => "account_not_setup"
  | accountNotActivated _ => "account_not_activated"
  | invalidArgument _ => "invalid_argument"
  | unknownProvider _ => "unknown_provider"
  | providerTokenInvalid _ => "provider_token_invalid"
  | providerUnreachable _ => "provider_unreachable"
  | illegalState _ => "illegal_state"
  | database _ => "database_error"
  | internal _ => "internal_error"

def status : Failure → Nat
  | authentication _ | alreadyInvalidated | alreadyRefreshed | providerTokenInvalid _ => 401
  | accountNotSetup _ | accountNotActivated _ => 409
  | unknownToken => 404
  | invalidArgument _ | unknownProvider _ => 400
  | providerUnreachable _ => 502
  | illegalState _ | database _ | internal _ => 500

def message : Failure → String
  | authentication reason => reason
  | unknownToken => "The given refresh token is unknown."
  | alreadyInvalidated => "This token has been invalidated."
  | alreadyRefreshed => "This token has already been refreshed."
  | accountNotSetup reason => reason
  | accountNotActivated reason => reason
  | invalidArgument reason => reason
  | unknownProvider id => "Provider " ++ id ++ " is unknown"
  | providerTokenInvalid reason => "The provider rejected the access token: " ++ reason
  | providerUnreachable reason => "Could not communicate with the provider: " ++ reason
  | illegalState reason => "Illegal state: " ++ reason
  | database reason => "Database error: " ++ reason
  | internal reason => "Internal error: " ++ reason

def body (f : Failure) : Json :=
  .object [("error", .object [("code", .text f.code), ("message", .text f.message)])]

/-- An error of which callers see no more than the outermost message. -/
def ofReport (r : Report) : Failure := .internal r.headline

/-! ### Failures with fixed messages -/

/-- The same for every way in which an email address and a password can be wrong. -/
def badCredentials : Failure := .authentication "Unknown user or incorrect password."

def noCredentials : Failure := .authentication "No auth information was given."

def unknownAccess : Failure := .authentication "The auth token is unknown."

def expiredAccess : Failure := .authentication "The auth token has expired."

/-- A caller named an authorization code that nobody may use, or no longer. -/
def unknownCode : Failure :=
  .authentication "The authorization code is unknown or was already used."

def expiredCode : Failure := .authentication "The authorization code has expired."

def foreignCode : Failure :=
  .invalidArgument "The authorization code was issued to a different client."

def activationPending : Failure :=
  .accountNotActivated "The account has not yet been activated."

def unlinkedIdentity : Failure :=
  .accountNotSetup "The user has not yet created an ohmage account."

/-- A token that was exchanged for an authorization code cannot be refreshed. -/
def oauthRefresh : Failure :=
  .invalidArgument "This API may not be used to refresh OAuth-based tokens."

def missingClient : Failure := .invalidArgument "A client ID is required."

def mintedTwice : Failure := .illegalState "an access token was minted twice"

end Failure

end TokenAuthority
