import QueryGateway.Json.Printer
import QueryGateway.Net.Url
import QueryGateway.Text.Base64
import QueryGateway.Remote.Headers

/-!
# Requests to backends

A request is put together from an address, headers and a body.  It cannot be
sent when the address is not one, when a header is not written as headers are,
or when the address is not on the web; the text of the failure then names the
address, where there is one.
-/

namespace QueryGateway
namespace Remote

/-- A request ready to be sent; header names are in lower case and may repeat. -/
structure Request where
  verb : String
  url : Net.Url
  headers : List (String × String)
  body : String
deriving DecidableEq

/-!
## What cannot be sent
-/

/-- A request cannot be put together; the address is told if it is known. -/
def misbuilt (url : Option Net.Url) : Failure :=
  match url with
  | some url => .request ("builder error for url (" ++ url.render ++ ")")
  | none => .request "builder error"

/-- A request was put together, but nothing came back. -/
def unanswered (url : Net.Url) : Failure :=
  .request ("error sending request for url (" ++ url.render ++ ")")

/-!
## Headers
-/

def isTokenChar (c : Char) : Bool :=
  c.isAlphanum || "!#$%&'*+-.^_`|~".toList.contains c

def isToken (text : String) : Bool :=
  !text.isEmpty && text.toList.all isTokenChar

/-- The characters of header values: all but controls, of which only tabs may occur. -/
def isFieldChar (c : Char) : Bool :=
  c = '\t' || (0x20 ≤ c.toNat && c.toNat ≠ 0x7F)

def isFieldValue (text : String) : Bool :=
  text.toList.all isFieldChar

def lowerName (name : String) : String :=
  String.ofList (name.toList.map Char.toLower)

def hasHeader (headers : List (String × String)) (name : String) : Bool :=
  headers.any fun header => header.1 == name

def sentHeaders (headers : Headers) : Except Failure (List (String × String)) :=
  headers.mapM fun (name, value) =>
    if isToken name && isFieldValue value then .ok (lowerName name, value)
    else .error (misbuilt none)

def withDefault (name value : String) (headers : List (String × String)) :
    List (String × String) :=
  if hasHeader headers name then headers else headers ++ [(name, value)]

def product : String :=
  "query-bridge/0.1.0"

/-- The headers that every request has, unless a system sets them. -/
def withDefaults (headers : List (String × String)) : List (String × String) :=
  withDefault "accept" "*/*" (withDefault "user-agent" product headers)

def userOf? (url : Net.Url) : Option (String × Option String) :=
  let decode (part : String) : Option String :=
    Text.decodeUtf8? (Text.percentDecode (Text.utf8 part))
  (decode url.username).bind fun username =>
    let password := if url.password.isEmpty then none else decode url.password
    if username.isEmpty && password.isNone then none else some (username, password)

/-- An address whose user, if it has one, has become a header. -/
def splitUser (url : Net.Url) : Net.Url × List (String × String) :=
  match userOf? url with
  | none => (url, [])
  | some (username, password) =>
      (url.withoutCredentials,
        [("authorization", "Basic " ++ Text.base64 (username ++ ":" ++ password.getD ""))])

/-!
## Putting a request together
-/

def target (address : String) : Except Failure Net.Url :=
  match Net.Url.parse? address with
  | none => .error (misbuilt none)
  | some url => if url.hasHost then .ok url else .error (misbuilt (some url))

/-- Characters that a host may have although it cannot be asked for by a name with them. -/
def isUnaskable (c : Char) : Bool :=
  "\"\x60\x7b\x7d".toList.contains c

def isWeb (url : Net.Url) : Bool :=
  (url.scheme == "http" || url.scheme == "https") &&
    !(url.host.any fun host => host.render.toList.any isUnaskable)

def onWeb (request : Request) : Except Failure Request :=
  if isWeb request.url then .ok request else .error (misbuilt (some request.url))

/-- A request without a body, pairs of names and values being added to the address. -/
def bare (verb address : String) (headers : Headers)
    (adjust : Net.Url -> Net.Url) : Except Failure Request := do
  let url ← target address
  let (url, credentials) := splitUser url
  let sent ← sentHeaders headers
  onWeb
    { verb, body := "", url := adjust url
      headers := withDefaults (credentials ++ sent) }

def getRequest (address : String) (headers : Headers) (pairs : List (String × String)) :
    Except Failure Request :=
  bare "GET" address headers fun url => url.addPairs pairs

def postRequest (address : String) (headers : Headers) (body : Members) :
    Except Failure Request := do
  let request ← bare "POST" address headers id
  pure
    { request with
      body := (Json.object body).render
      headers := withDefault "content-type" "application/json" request.headers }

end Remote
end QueryGateway
