import QueryGateway.Catalog.Method
import QueryGateway.Template

/-!
# What a request says

The address an endpoint has under a base address, the body that carries query
text and parameters, and the errors that a GraphQL response may hold.
-/

namespace QueryGateway
namespace Remote

open Catalog

/-!
## Addresses
-/

def isAbsolute (endpoint : String) : Bool :=
  "http://".toList.isPrefixOf endpoint.toList || "https://".toList.isPrefixOf endpoint.toList

def dropSlashes (text : List Char) : List Char :=
  text.dropWhile (· = '/')

def trimBase (base : String) : String :=
  String.ofList (dropSlashes base.toList.reverse).reverse

/-- The address of an endpoint: itself when it is absolute, else below the base. -/
def join (base endpoint : String) : String :=
  if isAbsolute endpoint then
    endpoint
  else
    let relative := dropSlashes endpoint.toList
    if relative.isEmpty then
      trimBase base
    else
      trimBase base ++ "/" ++ String.ofList relative

def addressOf (base template : String) (parameters : Members) : String :=
  join base (Template.fill parameters template)

/-!
## Bodies
-/

def defaultQueryField : String :=
  "query"

def nonEmpty (name : Option String) : Option String :=
  name.filter fun n => !n.isEmpty

def queryFieldOf (method : Method) : String :=
  (nonEmpty method.queryField).getD defaultQueryField

/-- The parameters laid over a default payload, under a field of their own or one by one. -/
def withParameters (method : Method) (parameters : Members) : Members :=
  let defaults := method.defaultPayload.getD []
  match nonEmpty method.paramsField with
  | some field => Dictionary.insert field (.object parameters) defaults
  | none => Dictionary.insertAll parameters defaults

/-- The body of a posted query: default payload, over it the parameters, over both the query. -/
def postBody (method : Method) (parameters : Members) (query : String) : Members :=
  Dictionary.insert (queryFieldOf method) (.text query) (withParameters method parameters)

def graphqlBody (parameters : Members) (query : String) : Members :=
  Dictionary.ofList [("query", .text query), ("variables", .object parameters)]

/-!
## Errors in responses
-/

def errorText (error : Json) : String :=
  match error.get? "message" with
  | some (.text message) => message
  | _ => error.render

def graphqlErrors (response : Json) : Option String :=
  match response.get? "errors" with
  | some (.array (first :: rest)) => some ("; ".intercalate ((first :: rest).map errorText))
  | _ => none

end Remote
end QueryGateway
