import QueryGateway.Engine.Run

/-!
# Executing queries

The calls that users make: executing a query of their own, and executing a
saved one, which runs only while it is active and, unless it is for everyone,
only for its owner.  Neither ever fails: what goes wrong is told in the result.
-/

namespace QueryGateway
namespace Engine

open Catalog Execution

variable {σ : Type}

def execute (policy : Policy) (outside : Outside σ) (request : Request) (userId : Option Uuid)
    (state : State) (world : σ) : Result × State × σ :=
  (Run.start policy request userId (outside.clock world)).complete policy outside state world

def loadSaved (outside : Outside σ) (id : Uuid) (world : σ) : Except Failure SavedQuery := do
  match ← outside.loadQuery id world with
  | some query => pure query
  | none => throw (.notFound ("query " ++ id.render))

def checkRunnable (query : SavedQuery) (userId : Option Uuid) : Except Failure Unit :=
  if !query.isActive then
    .error (.validation ("query " ++ query.id.render ++ " is deactivated"))
  else if query.visibility = .ownerOnly ∧ userId ≠ some query.ownerId then
    .error (.accessDenied ("query " ++ query.id.render ++ " is private to its owner"))
  else
    .ok ()

def refusalEntry (query : SavedQuery) (userId : Option Uuid) (failure : Failure)
    (id : Uuid) (date : Timestamp) (elapsedMs : Nat) : LogEntry :=
  { LogEntry.plain id query.systemId .failed date with
    queryId := some query.id
    userId
    executionTimeMs := .ofNat elapsedMs
    errorMessage := some failure.message }

def refuse (outside : Outside σ) (query : SavedQuery) (userId : Option Uuid) (failure : Failure)
    (startedAt : Nat) (state : State) (world : σ) : Result × State × σ :=
  let (id, world) := outside.newId world
  let date := outside.date world
  let elapsedMs := outside.clock world - startedAt
  (failed failure elapsedMs query.method date,
    state.record (refusalEntry query userId failure id date elapsedMs), world)

def executeSaved (policy : Policy) (outside : Outside σ) (queryId : Uuid) (userId : Option Uuid)
    (forceRefresh : Bool) (state : State) (world : σ) : Result × State × σ :=
  let startedAt := outside.clock world
  match loadSaved outside queryId world with
  | .error failure =>
      let elapsedMs := outside.clock world - startedAt
      (failed failure elapsedMs none (outside.date world), state, world)
  | .ok query =>
      match checkRunnable query userId with
      | .error failure => refuse outside query userId failure startedAt state world
      | .ok () => execute policy outside (.ofSaved query forceRefresh) userId state world

end Engine
end QueryGateway
