import QueryGateway.Engine.Connection
import QueryGateway.Engine.Execute
import QueryGateway.Service.Metrics
import QueryGateway.Service.Route
import QueryGateway.Service.Stream

/-!
# The service

What is done about each call.  Executions answer with a result whether they
succeed or not; only a call that cannot be understood is refused, and that is
counted apart from the calls that reach the engine.
-/

namespace QueryGateway
namespace Service

open Engine

structure Gateway where
  engine : State
  metrics : Metrics

/-- The engine's outside, and what is wrong with the database, if anything is. -/
structure Surroundings (σ : Type) where
  outside : Outside σ
  databaseFault : σ -> Option String

namespace Gateway

def initial (logCapacity feedCapacity : Nat) : Gateway :=
  ⟨.initial logCapacity feedCapacity, .zero⟩

def accept (gateway : Gateway) : Gateway :=
  { gateway with
    metrics := { gateway.metrics with requestsTotal := gateway.metrics.requestsTotal + 1 } }

def reject (gateway : Gateway) : Gateway :=
  { gateway with
    metrics := { gateway.metrics with rejectedTotal := gateway.metrics.rejectedTotal + 1 } }

/-!
## Looking at the service
-/

def health : Answer :=
  .json 200 (.ofMembers [("status", .text "ok"), ("version", .text Metrics.version)])

def check (healthy : Bool) (message : String) : Json :=
  .ofMembers [("healthy", .bool healthy), ("message", .text message)]

/-- Ready is a service whose database answers and whose journal has room. -/
def readiness (gateway : Gateway) (databaseFault : Option String) : Answer :=
  let journal := gateway.engine.journal
  let hasRoom := decide (journal.depth < journal.capacity)
  let healthy := databaseFault.isNone && hasRoom
  let database :=
    match databaseFault with
    | none => check true "Connected"
    | some fault => check false ("Connection failed: " ++ fault)
  let buffer := check hasRoom s!"Buffer length: {journal.depth}/{journal.capacity}"
  let caches := check true
    s!"Systems cached: {gateway.engine.registry.size}, results cached: {gateway.engine.cache.size}"
  .json (if healthy then 200 else 503)
    (.ofMembers
      [("status", .text (if healthy then "ready" else "not_ready")),
       ("checks", .ofMembers
        [("database", database), ("log_buffer", buffer), ("caches", caches)])])

def showMetrics (gateway : Gateway) : Answer :=
  .text 200 (gateway.metrics.render gateway.engine)

variable {σ : Type}

/-!
## Executions
-/

def executionInput (call : Call) : Except Refusal (Option Uuid × Body) := do
  let user ← userOf call
  let body ← Body.ofCall call
  pure (user, body)

def execute (policy : Policy) (outside : Outside σ) (call : Call) (systemId : Uuid)
    (gateway : Gateway) (world : σ) : Answer × Gateway × σ :=
  match executionInput call with
  | .error refusal => (refusal.answer, gateway.reject, world)
  | .ok (user, body) =>
      let (result, engine, world) :=
        Engine.execute policy outside (body.toRequest systemId) user gateway.engine world
      (.json 200 result.toJson, { gateway.accept with engine }, world)

def savedInput (call : Call) : Except Refusal (Option Uuid × Bool) := do
  let user ← userOf call
  let forceRefresh ← refreshOf call
  pure (user, forceRefresh)

def executeSaved (policy : Policy) (outside : Outside σ) (call : Call) (queryId : Uuid)
    (gateway : Gateway) (world : σ) : Answer × Gateway × σ :=
  match savedInput call with
  | .error refusal => (refusal.answer, gateway.reject, world)
  | .ok (user, forceRefresh) =>
      let (result, engine, world) :=
        Engine.executeSaved policy outside queryId user forceRefresh gateway.engine world
      (.json 200 result.toJson, { gateway.accept with engine }, world)

def test (policy : Policy) (outside : Outside σ) (systemId : Uuid) (gateway : Gateway)
    (world : σ) : Answer × Gateway × σ :=
  let (report, engine, world) := testConnection policy outside systemId gateway.engine world
  (.json 200 report.toJson, { gateway.accept with engine }, world)

/-!
## Caches
-/

def clear (systemId : Option Uuid) (gateway : Gateway) : Answer × Gateway :=
  (.empty 204, { gateway with engine := gateway.engine.clearCache systemId })

def invalidate (queryId : Uuid) (gateway : Gateway) : Answer × Gateway :=
  let (dropped, engine) := gateway.engine.invalidateQuery queryId
  (.json 200 (.ofMembers [("query_id", .text queryId.render), ("invalidated", .ofNat dropped)]),
    { gateway with engine })

/-!
## Calls
-/

def withId (name segment : String) (gateway : Gateway) (world : σ)
    (act : Uuid -> Answer × Gateway × σ) : Answer × Gateway × σ :=
  match pathId name segment with
  | .error text => (.text 400 text, gateway, world)
  | .ok id => act id

/-- A stream is opened by upgrading a connection, which an answer alone cannot do. -/
def refuseStream (call : Call) : Answer :=
  match Stream.request call false with
  | .error answer => answer
  | .ok _ => Stream.Hindrance.notUpgradable.answer

def serve (policy : Policy) (surroundings : Surroundings σ) (route : Route) (call : Call)
    (gateway : Gateway) (world : σ) : Answer × Gateway × σ :=
  let outside := surroundings.outside
  match route with
  | .health => (health, gateway, world)
  | .ready => (gateway.readiness (surroundings.databaseFault world), gateway, world)
  | .metrics => (gateway.showMetrics, gateway, world)
  | .stream => (refuseStream call, gateway, world)
  | .execute segment =>
      withId "system_id" segment gateway world fun id =>
        gateway.execute policy outside call id world
  | .test segment =>
      withId "system_id" segment gateway world fun id => gateway.test policy outside id world
  | .executeSaved segment =>
      withId "query_id" segment gateway world fun id =>
        gateway.executeSaved policy outside call id world
  | .clearAll =>
      let (answer, gateway) := gateway.clear none
      (answer, gateway, world)
  | .clearSystem segment =>
      withId "system_id" segment gateway world fun id =>
        let (answer, gateway) := gateway.clear (some id)
        (answer, gateway, world)
  | .invalidateQuery segment =>
      withId "query_id" segment gateway world fun id =>
        let (answer, gateway) := gateway.invalidate id
        (answer, gateway, world)

def handle (policy : Policy) (surroundings : Surroundings σ) (call : Call) (gateway : Gateway)
    (world : σ) : Answer × Gateway × σ :=
  match Route.ofPath call.path with
  | none => (.empty 404, gateway, world)
  | some route =>
      if route.answersTo call.verb then
        let (answer, gateway, world) := gateway.serve policy surroundings route call world
        (if call.verb = "HEAD" then answer.withoutBody else answer, gateway, world)
      else
        (.notAllowed route.verbs, gateway, world)

/-!
## Streams
-/

def openStream (policy : Policy) (surroundings : Surroundings σ) (call : Call) (listener : Nat)
    (gateway : Gateway) (world : σ) : Except Answer Stream × Gateway × σ :=
  match Route.ofPath call.path, Stream.request call true with
  | some .stream, .ok system =>
      let engine := { gateway.engine with feed := gateway.engine.feed.subscribe listener }
      let metrics := { gateway.metrics with streams := gateway.metrics.streams + 1 }
      (.ok ⟨listener, system⟩, { gateway with engine, metrics }, world)
  | some .stream, .error answer => (.error answer, gateway, world)
  | _, _ =>
      let (answer, gateway, world) := gateway.handle policy surroundings call world
      (.error answer, gateway, world)

def readStream (stream : Stream) (gateway : Gateway) : List Execution.Event × Gateway :=
  let (inbox, feed) := gateway.engine.feed.collect stream.listener
  (stream.forwarded inbox, { gateway with engine := { gateway.engine with feed } })

def closeStream (stream : Stream) (gateway : Gateway) : Gateway :=
  let engine := { gateway.engine with feed := gateway.engine.feed.unsubscribe stream.listener }
  let metrics := { gateway.metrics with streams := gateway.metrics.streams - 1 }
  { gateway with engine, metrics }

end Gateway
end Service
end QueryGateway
