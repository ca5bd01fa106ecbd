import QueryGateway.Execution.Request
import QueryGateway.Service.Exchange
import QueryGateway.Service.MediaType
import QueryGateway.Text.Blank

/-!
# What calls bring along

The parts of a call that are read before anything is done: identifiers in the
path, the user on whose behalf the call is made, the body of an execution, and
what the query string sets.
-/

namespace QueryGateway
namespace Service

open Schema

/-!
## Identifiers in paths
-/

def pathId (name segment : String) : Except String Uuid :=
  match Text.decodeUtf8? (Text.percentDecode (Text.utf8 segment)) with
  | none => .error ("Invalid URL: Invalid UTF-8 in `" ++ name ++ "`")
  | some text =>
      (Uuid.parse text).mapError fun fault =>
        "Invalid URL: Cannot parse `" ++ name ++ "` with value `" ++ text ++
          "`: UUID parsing failed: " ++ fault.message

/-!
## Users
-/

def userHeader : String :=
  "x-user-id"

def userOf (call : Call) : Except Refusal (Option Uuid) :=
  match call.header? userHeader with
  | none => .ok none
  | some value =>
      if Call.isPlainText value then
        match Uuid.parse (Text.trim value) with
        | .ok id => .ok (some id)
        | .error fault => .error ⟨userHeader ++ " is not a UUID: " ++ fault.message⟩
      else
        .error ⟨userHeader ++ " is not valid text"⟩

/-!
## Bodies
-/

/-- The body of an execution; the system comes from the path. -/
structure Body where
  query : String
  method : Option String
  parameters : Members
  transformations : List String
  timeoutMs : Option UInt64
  cacheTtlSecs : Option UInt64
  forceRefresh : Bool

namespace Body

def record :
    Record (String × Option String × Members × List String × Option UInt64 × Option UInt64 ×
      Bool × Unit) :=
  .cons (.required "query" readText)
    (.cons (.optional "method" readText)
      (.cons (.withDefault "parameters" readMembers [])
        (.cons (.withDefault "transformations" (readList readText) [])
          (.cons (.optional "timeout_ms" readUInt64)
            (.cons (.optional "cache_ttl_secs" readUInt64)
              (.cons (.withDefault "force_refresh" readBool false) .nil))))))

def reader : Reader Body := fun origin doc =>
  (record.reader "struct ExecuteBody" origin doc).map
    fun (query, method, parameters, transformations, timeoutMs, cacheTtlSecs, forceRefresh, _) =>
      ⟨query, method, parameters, transformations, timeoutMs, cacheTtlSecs, forceRefresh⟩

def toRequest (body : Body) (systemId : Uuid) : Execution.Request where
  systemId := systemId
  query := body.query
  method := body.method
  parameters := body.parameters
  transformations := body.transformations
  timeoutMs := body.timeoutMs
  cacheTtlSecs := body.cacheTtlSecs
  forceRefresh := body.forceRefresh
  queryId := none

def isDeclared (call : Call) : Bool :=
  match (call.header? "content-type").filter Call.isPlainText with
  | none => false
  | some value => (MediaType.parse? value).any MediaType.isJson

def located (bytes : Text.Bytes) (fault : Fault) : String :=
  match Fault.describePath fault.path with
  | none => fault.message bytes
  | some way => way ++ ": " ++ fault.message bytes

def refusal (bytes : Text.Bytes) (fault : Fault) : Refusal :=
  if fault.cause.isSyntax then
    ⟨"Failed to parse the request body as JSON: " ++ located bytes fault⟩
  else
    ⟨"Failed to deserialize the JSON body into the target type: " ++ located bytes fault⟩

/-- So many bytes of a body are read at most. -/
def maxLength : Nat :=
  2097152

def ofCall (call : Call) : Except Refusal Body :=
  if isDeclared call then
    if call.body.length ≤ maxLength then
      (Reader.ofText reader call.body).mapError (refusal call.body)
    else
      .error ⟨"Failed to buffer the request body: length limit exceeded"⟩
  else
    .error ⟨"Expected request with `Content-Type: application/json`"⟩

end Body

/-!
## Query strings
-/

def queryFault (detail : String) : String :=
  "Failed to deserialize query string: " ++ detail

/-- The value of one name in a query string, if it is there; it must not be there twice. -/
def queryValue {α : Type} (name : String) (read : String -> Except String α) :
    Option α -> List (String × String) -> Except String (Option α)
  | found, [] => .ok found
  | found, (key, text) :: rest =>
      if key = name then
        match found with
        | some _ => .error (queryFault ("duplicate field `" ++ name ++ "`"))
        | none =>
            match read text with
            | .ok value => queryValue name read (some value) rest
            | .error detail => .error (queryFault (name ++ ": " ++ detail))
      else
        queryValue name read found rest

def readFlag (text : String) : Except String Bool :=
  if text = "true" then .ok true
  else if text = "false" then .ok false
  else .error "provided string was not `true` or `false`"

def pairsOf (call : Call) : List (String × String) :=
  Text.parseForm (call.query.getD "")

def refreshOf (call : Call) : Except Refusal Bool :=
  ((queryValue "force_refresh" readFlag none (pairsOf call)).map (·.getD false)).mapError
    Refusal.mk

def readSystemId (text : String) : Except String Uuid :=
  (Uuid.parse text).mapError fun fault => "UUID parsing failed: " ++ fault.message

def streamSystem (call : Call) : Except String (Option Uuid) :=
  queryValue "system_id" readSystemId none (pairsOf call)

end Service
end QueryGateway
