import TokenAuthority.Service

/-!
The calls of the service as values, so that runs of many calls can be spoken of.
-/

namespace TokenAuthority

inductive Call where
  | issueFromPassword (email password : String)
  | issueFromProvider (provider accessToken : String)
  | refresh (refreshToken : String)
  | authenticate (access : String)
  | invalidate (access : Option String)
  | authorize (access client : String) (scope : Option String)
  | issueFromCode (code client : String)
deriving DecidableEq

inductive Yield where
  | token (token : Token)
  | grant (grant : Grant)
  | nothing
deriving DecidableEq

def Service.perform (s : Service) : Call → Action Yield
  | .issueFromPassword email password => .token <$> s.issueFromPassword email password
  | .issueFromProvider provider accessToken =>
    .token <$> s.issueFromProvider provider accessToken
  | .refresh refreshToken => .token <$> s.refresh refreshToken
  | .authenticate access => .token <$> Service.authenticate access
  | .invalidate access => (fun _ => .nothing) <$> Service.invalidate access
  | .authorize access client scope => .grant <$> s.authorize access client scope
  | .issueFromCode code client => .token <$> s.issueFromCode code client

end TokenAuthority
