import QueryGateway.Catalog.Backend
import QueryGateway.Failure
import QueryGateway.Text.Base64

/-!
# Headers of a system

The headers that every request to a system carries: those that its credentials
give, and on top of them the headers it declares.
-/

namespace QueryGateway
namespace Remote

open Catalog

abbrev Headers := Dictionary String

def authorization : String :=
  "Authorization"

def defaultKeyHeader : String :=
  "X-API-Key"

def required (scheme field : String) (value : Option String) : Except Failure String :=
  match value.filter fun v => !v.isEmpty with
  | some v => .ok v
  | none => .error (.authentication (scheme ++ " auth requires '" ++ field ++ "'"))

def credentialHeaders : Credentials -> Except Failure Headers
  | .none => .ok []
  | .basic username password => do
      let username ← required "basic" "username" username
      let password ← required "basic" "password" password
      pure [(authorization, "Basic " ++ Text.base64 (username ++ ":" ++ password))]
  | .bearer token => do
      let token ← required "bearer" "token" token
      pure [(authorization, "Bearer " ++ token)]
  | .apiKey key headerName => do
      let key ← required "api_key" "key" key
      pure [((headerName.filter fun name => !name.isEmpty).getD defaultKeyHeader, key)]
  | .oauth accessToken _ => do
      let token ← required "oauth" "access_token" accessToken
      pure [(authorization, "Bearer " ++ token)]
  | .custom headers => .ok (Dictionary.insertAll headers [])

/-- The headers for a system's credentials, with further ones set on top. -/
def buildHeaders (auth : Credentials) (extra : Headers) : Except Failure Headers :=
  (credentialHeaders auth).map (Dictionary.insertAll extra)

def headersOf (system : Backend) : Except Failure Headers :=
  buildHeaders system.auth system.headers

end Remote
end QueryGateway
