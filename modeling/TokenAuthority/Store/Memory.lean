import TokenAuthority.Effect

/-!
Tokens, an index from refresh strings to tokens, accounts and grants. `Memory.step` carries out one
store call; calls of different clients follow one another in some order.
-/

namespace TokenAuthority

structure Memory where
  tokens : Table Token
  /-- Access strings by refresh string. -/
  refreshIndex : Table String
  accounts : Table Account
  grants : Table Grant

namespace Memory

def empty : Memory := ⟨.empty, .empty, .empty, .empty⟩

def insertAccount (m : Memory) (account : Account) : Memory :=
  { m with accounts := m.accounts.insert account.id account }

/-- Adds a token, unless its access string is in use. -/
def insertToken? (m : Memory) (token : Token) : Option Memory :=
  if m.tokens.contains token.access then none
  else
    some { m with
      tokens := m.tokens.insert token.access token
      refreshIndex :=
        match token.refresh with
        | some refresh => m.refreshIndex.insert refresh token.access
        | none => m.refreshIndex }

/-- Whether a token can get a successor: it is there, is valid and has none. -/
def chainable (m : Memory) (access : String) : Bool :=
  (m.tokens.get? access).any fun old => old.valid && old.next.isNone

def tokenByRefresh? (m : Memory) (refresh : String) : Option Token :=
  (m.refreshIndex.get? refresh).bind m.tokens.get?

def accountByEmail? (m : Memory) (email : String) : Option Account :=
  m.accounts.values.find? fun a => a.email == email

def accountByIdentity? (m : Memory) (provider subject : String) : Option Account :=
  m.accounts.values.find? fun a => a.isLinkedTo provider subject

def step (now : Instant) (call : StoreCall) (m : Memory) : call.Answer × Memory :=
  match call with
  | .addToken token =>
    match m.insertToken? token with
    | some m => (.ok (), m)
    | none => (.error .mintedTwice, m)
  | .tokenByAccess access => (.ok (m.tokens.get? access), m)
  | .tokenByRefresh refresh => (.ok (m.tokenByRefresh? refresh), m)
  | .chainToken access successor =>
    if m.chainable access then
      match m.insertToken? successor with
      | some m =>
        let link (old : Token) : Token := { old with next := some successor.access }
        (.ok true, { m with tokens := m.tokens.modify access link })
      | none => (.error .mintedTwice, m)
    else (.ok false, m)
  | .invalidateToken access =>
    let close (token : Token) : Token := { token with valid := false }
    (.ok (m.tokens.contains access), { m with tokens := m.tokens.modify access close })
  | .accountByEmail email => (.ok (m.accountByEmail? email), m)
  | .accountByIdentity provider subject => (.ok (m.accountByIdentity? provider subject), m)
  | .saveProfile account profile =>
    if m.accounts.contains account then
      (.ok (), { m with accounts := m.accounts.modify account fun a => a.withProfile profile })
    else (.error (.illegalState ("user " ++ account ++ " does not exist")), m)
  | .addGrant grant => (.ok (), { m with grants := m.grants.insert grant.code grant })
  | .takeGrant code =>
    match (m.grants.get? code).filter fun grant => grant.usedAt.isNone with
    | some grant =>
      let used : Grant := { grant with usedAt := some now }
      (.ok (some used), { m with grants := m.grants.insert code used })
    | none => (.ok none, m)

end Memory

end TokenAuthority
