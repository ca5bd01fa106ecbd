import QueryGateway.Digest.Sha256
import QueryGateway.Execution.Request
import QueryGateway.Json.Printer

/-!
# Cache keys

A result is kept under the fingerprint of everything that shapes it: system,
method, query, parameters, the ordered names of transformations, and the saved
query if there is one.  Objects have their members in order, so equal
parameters give the same text; a method not named is the same as an empty name.
-/

namespace QueryGateway
namespace Cache

open Execution

structure Key where
  fingerprint : String
deriving DecidableEq

structure Identity where
  systemId : Uuid
  method : Option String
  query : String
  parameters : Members
  transformations : List String
  queryId : Option Uuid

namespace Identity

def ofRequest (request : Request) : Identity :=
  ⟨request.systemId, request.method, request.query, request.parameters,
    request.transformations, request.queryId⟩

def toJson (identity : Identity) : Json :=
  .ofMembers
    [("system_id", .text identity.systemId.render),
     ("method", .text (identity.method.getD "")), ("query", .text identity.query),
     ("parameters", .object identity.parameters),
     ("transformations", .ofTexts identity.transformations),
     ("query_id", .ofOption (identity.queryId.map fun id => .text id.render))]

def text (identity : Identity) : String :=
  identity.toJson.render

def key (fingerprint : String -> String) (identity : Identity) : Key :=
  ⟨fingerprint identity.text⟩

end Identity

def standardFingerprint : String -> String :=
  Sha256.hex

def keyOf (fingerprint : String -> String) (request : Request) : Key :=
  (Identity.ofRequest request).key fingerprint

end Cache
end QueryGateway
