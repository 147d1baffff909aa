import TokenAuthority.Database.Record

/-!
The statements that the store sends to its database, as text with numbered parameters.
-/

namespace TokenAuthority.Database

/-- What the tables of the store are made of. -/
inductive Definition where
  | accounts
  | profiles
  | tokens
  | grants
  | ownerIndex
deriving DecidableEq

inductive Query where
  | define (definition : Definition)
  | insertToken (token : Token)
  | tokenByAccess (access : String)
  | tokenByRefresh (refresh : String)
  | linkToken (access successor : String)
  | invalidateToken (access : String)
  | accountByEmail (email : String)
  | accountByIdentity (provider subject : String)
  | profilesOf (account : String)
  | saveProfile (account : String) (profile : Profile)
  | insertGrant (grant : Grant)
  | takeGrant (code : String)

def Definition.text : Definition → String
  | accounts =>
    "CREATE TABLE IF NOT EXISTS users ( id TEXT PRIMARY KEY, email TEXT NOT NULL UNIQUE, " ++
    "password_hash TEXT, activation_id TEXT, activation_requested_at TIMESTAMPTZ, " ++
    "activated_at TIMESTAMPTZ, created_at TIMESTAMPTZ DEFAULT NOW() )"
  | profiles =>
    "CREATE TABLE IF NOT EXISTS user_providers ( user_id TEXT NOT NULL REFERENCES users(id), " ++
    "provider_id TEXT NOT NULL, provider_user_id TEXT NOT NULL, email TEXT, " ++
    "fields JSONB NOT NULL DEFAULT '\x7b\x7d', updated_at TIMESTAMPTZ DEFAULT NOW(), " ++
    "PRIMARY KEY (provider_id, provider_user_id), UNIQUE (user_id, provider_id) )"
  | tokens =>
    "CREATE TABLE IF NOT EXISTS auth_tokens ( access_token TEXT PRIMARY KEY, " ++
    "refresh_token TEXT UNIQUE, user_id TEXT NOT NULL, created_at TIMESTAMPTZ NOT NULL, " ++
    "expires_at TIMESTAMPTZ NOT NULL, valid BOOLEAN NOT NULL DEFAULT true, " ++
    "next_token TEXT REFERENCES auth_tokens(access_token), authorization_code TEXT )"
  | grants =>
    "CREATE TABLE IF NOT EXISTS authorization_codes ( code TEXT PRIMARY KEY, " ++
    "client_id TEXT NOT NULL, user_id TEXT NOT NULL, scope TEXT, " ++
    "created_at TIMESTAMPTZ NOT NULL, expires_at TIMESTAMPTZ NOT NULL, used_at TIMESTAMPTZ )"
  | ownerIndex => "CREATE INDEX IF NOT EXISTS idx_auth_tokens_user ON auth_tokens(user_id)"

def commaSeparated (names : List String) : String := ", ".intercalate names

def insertion (table : String) (columns : List String) : String :=
  "INSERT INTO " ++ table ++ " (" ++ commaSeparated columns ++ ") VALUES (" ++
    commaSeparated ((List.range columns.length).map fun i => "$" ++ toString (i + 1)) ++ ")"

namespace Query

def text : Query → String
  | define definition => definition.text
  | insertToken _ =>
    insertion "auth_tokens" Token.columns ++ " ON CONFLICT (access_token) DO NOTHING"
  | tokenByAccess _ =>
    "SELECT " ++ commaSeparated Token.columns ++ " FROM auth_tokens WHERE access_token = $1"
  | tokenByRefresh _ =>
    "SELECT " ++ commaSeparated Token.columns ++ " FROM auth_tokens WHERE refresh_token = $1"
  | linkToken _ _ =>
    "UPDATE auth_tokens SET next_token = $2 WHERE access_token = $1 AND next_token IS NULL " ++
    "AND valid"
  | invalidateToken _ => "UPDATE auth_tokens SET valid = false WHERE access_token = $1"
  | accountByEmail _ => "SELECT * FROM users WHERE email = $1"
  | accountByIdentity _ _ =>
    "SELECT u.* FROM users u JOIN user_providers p ON p.user_id = u.id " ++
    "WHERE p.provider_id = $1 AND p.provider_user_id = $2"
  | profilesOf _ =>
    "SELECT " ++ commaSeparated Profile.columns ++ " FROM user_providers WHERE user_id = $1"
  | saveProfile _ _ =>
    insertion "user_providers" ("user_id" :: Profile.columns) ++
    " ON CONFLICT (user_id, provider_id) DO UPDATE SET " ++
    "provider_user_id = EXCLUDED.provider_user_id, email = EXCLUDED.email, " ++
    "fields = EXCLUDED.fields, updated_at = NOW()"
  | insertGrant _ => insertion "authorization_codes" Grant.columns
  | takeGrant _ =>
    "UPDATE authorization_codes SET used_at = NOW() WHERE code = $1 AND used_at IS NULL " ++
    "RETURNING " ++ commaSeparated Grant.columns

def parameters : Query → List Value
  | define _ => []
  | insertToken token => token.values
  | tokenByAccess access => [.text access]
  | tokenByRefresh refresh => [.text refresh]
  | linkToken access successor => [.text access, .text successor]
  | invalidateToken access => [.text access]
  | accountByEmail email => [.text email]
  | accountByIdentity provider subject => [.text provider, .text subject]
  | profilesOf account => [.text account]
  | saveProfile account profile => .text account :: profile.values
  | insertGrant grant => grant.values
  | takeGrant code => [.text code]

end Query

end TokenAuthority.Database
