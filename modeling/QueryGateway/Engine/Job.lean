import QueryGateway.Catalog.Selection
import QueryGateway.Execution.Outcome
import QueryGateway.Execution.Request
import QueryGateway.Registry
import QueryGateway.Rows.Pipeline
import QueryGateway.Template
import QueryGateway.Remote.Payload
import QueryGateway.Remote.Reply
import QueryGateway.Remote.Request

/-!
# Jobs

A job is what a request comes to once system and method are known: the query
text with its placeholders filled, and where it goes.  The protocol of the
method decides what is sent, and how the reply is read.
-/

namespace QueryGateway
namespace Engine

open Catalog Remote

structure Job where
  resolved : Resolved
  method : Method
  query : String
  parameters : Members

namespace Job

def ofRequest (request : Execution.Request) (resolved : Resolved) : Except Failure Job :=
  (resolved.system.chooseMethod request.method).map fun method =>
    ⟨resolved, method, Template.fill request.parameters request.query, request.parameters⟩

def address (job : Job) (endpoint : String) : String :=
  addressOf job.resolved.system.baseUrl endpoint job.parameters

/-- The parameters as pairs in a query string, the query text last where the method names it. -/
def pairs (job : Job) : List (String × String) :=
  job.parameters.map (fun (name, value) => (name, Rows.asText value)) ++
    ((nonEmpty job.method.queryParam).map fun name => (name, job.query)).toList

def post (job : Job) (endpoint : String) : Except Failure Remote.Request :=
  postRequest (job.address endpoint) job.resolved.headers
    (postBody job.method job.parameters job.query)

inductive Message where
  | web (request : Remote.Request)
  | statement

def message (job : Job) : Except Failure Message :=
  match job.method.protocol with
  | .httpGet =>
      (getRequest (job.address job.method.endpoint) job.resolved.headers job.pairs).map .web
  | .httpPost => (job.post job.method.endpoint).map .web
  | .rest => (job.post job.method.endpoint).map .web
  | .graphql =>
      (postRequest (job.address job.method.endpoint) job.resolved.headers
        (graphqlBody job.parameters job.query)).map .web
  | .sql => .ok .statement
  | .custom =>
      match nonEmpty job.method.customEndpoint with
      | some endpoint => (job.post endpoint).map .web
      | none =>
          .error (.configuration ("custom method '" ++ job.method.name ++
            "' has no custom_endpoint"))

/-- The errors that a reply reports although its status is one of success. -/
def checkReply (job : Job) (value : Json) : Except Failure Json :=
  match job.method.protocol with
  | .graphql =>
      match graphqlErrors value with
      | some messages => .error (.graphql messages)
      | none => .ok value
  | _ => .ok value

def readReply (job : Job) (reply : Reply) : Except Failure Json := do
  let value ← reply.read
  job.checkReply value

def payload (job : Job) (response : Json) : Json :=
  response.extract job.method.resultPath

def refusal (job : Job) : Failure :=
  .configuration ("method '" ++ job.method.name ++ "' uses the sql protocol, which requires a " ++
    "database-driver-backed SqlExecutor to be supplied to the engine")

/-!
## Declared transformations
-/

def declared (system : Backend) (requested : List String) : List (String × Rows.Transform) :=
  requested.filterMap fun name =>
    (Dictionary.find? system.transforms name).map fun transform => (name, transform)

def applyDeclared (system : Backend) (requested : List String) (payload : Json) :
    Except Failure (Json × List String) :=
  let steps := declared system requested
  (Rows.applyAll (steps.map Prod.snd) payload).map fun data => (data, steps.map Prod.fst)

def outcome (job : Job) (requested : List String) (response : Json) :
    Except Failure Execution.Outcome :=
  (applyDeclared job.resolved.system requested (job.payload response)).map fun (data, applied) =>
    { data
      recordCount := .ofNat (Rows.recordCount data)
      systemName := job.resolved.system.name
      method := job.method.name
      transformationsApplied := applied }

end Job
end Engine
end QueryGateway
