import QueryGateway.Schema.Choice

/-!
# Credentials

How a system wants its callers to identify themselves.  A credential may be
left out here, so that a system set up halfway can still be loaded; it is
missed when headers are built from it.
-/

namespace QueryGateway
namespace Catalog

open Schema

inductive Credentials where
  | none
  | basic (username password : Option String)
  | bearer (token : Option String)
  | apiKey (key headerName : Option String)
  | oauth (accessToken refreshToken : Option String)
  | custom (headers : Dictionary String)
deriving DecidableEq, Inhabited

namespace Credentials

def pairRecord (first second : String) : Record (Option String × Option String × Unit) :=
  .cons (.optional first readText) (.cons (.optional second readText) .nil)

def bearerRecord : Record (Option String × Unit) :=
  .cons (.optional "token" readText) .nil

def customRecord : Record (Dictionary String × Unit) :=
  .cons (.withDefault "headers" (readDictionary readText) []) .nil

def tagged : Tagged Credentials where
  kind := "AuthConfig"
  tag := "type"
  variants :=
    [("none", Tagged.empty .none),
     ("basic", Tagged.fields "AuthConfig::Basic" (pairRecord "username" "password")
        fun (username, password, _) => .basic username password),
     ("bearer", Tagged.fields "AuthConfig::Bearer" bearerRecord fun (token, _) => .bearer token),
     ("api_key", Tagged.fields "AuthConfig::ApiKey" (pairRecord "key" "header_name")
        fun (key, headerName, _) => .apiKey key headerName),
     ("oauth", Tagged.fields "AuthConfig::OAuth" (pairRecord "access_token" "refresh_token")
        fun (accessToken, refreshToken, _) => .oauth accessToken refreshToken),
     ("custom", Tagged.fields "AuthConfig::Custom" customRecord
        fun (headers, _) => .custom headers)]

def reader : Reader Credentials :=
  tagged.reader

def textOrNull (text : Option String) : Json :=
  .ofOption (text.map .text)

def toJson : Credentials -> Json
  | .none => .ofMembers [("type", .text "none")]
  | .basic username password =>
      .ofMembers [("type", .text "basic"), ("username", textOrNull username),
        ("password", textOrNull password)]
  | .bearer token => .ofMembers [("type", .text "bearer"), ("token", textOrNull token)]
  | .apiKey key headerName =>
      .ofMembers [("type", .text "api_key"), ("key", textOrNull key),
        ("header_name", textOrNull headerName)]
  | .oauth accessToken refreshToken =>
      .ofMembers [("type", .text "oauth"), ("access_token", textOrNull accessToken),
        ("refresh_token", textOrNull refreshToken)]
  | .custom headers =>
      .ofMembers [("type", .text "custom"),
        ("headers", .object (headers.map fun (name, value) => (name, .text value)))]

end Credentials
end Catalog
end QueryGateway
