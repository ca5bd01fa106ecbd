import QueryGateway.Engine.State

/-!
# Testing connections

A system is reached when its health check, or else its base address, answers
with the status that is expected; any status of success will do where none is
declared.
-/

namespace QueryGateway
namespace Engine

open Catalog Execution

structure Probe where
  address : String
  verb : String
  expectedStatus : Option UInt16
  limitMs : UInt64

namespace Probe

/-- A verb in upper case; what is no verb counts as `GET`. -/
def verbOf (declared : Option String) : String :=
  let raised := declared.map fun verb => String.ofList (verb.toList.map Char.toUpper)
  (raised.filter Remote.isToken).getD "GET"

def ofSystem (system : Backend) (default : UInt64) : Probe :=
  match system.healthCheck with
  | some check =>
      { address := Remote.join system.baseUrl (check.endpoint.getD "")
        verb := verbOf check.method
        expectedStatus := check.expectedStatus
        limitMs := (check.timeoutMs.or system.timeoutMs).getD default }
  | none =>
      { address := system.baseUrl
        verb := "GET"
        expectedStatus := none
        limitMs := system.timeoutMs.getD default }

def accepts (probe : Probe) (reply : Remote.Reply) : Bool :=
  match probe.expectedStatus with
  | some status => reply.status == status.toNat
  | none => reply.isSuccess

variable {σ : Type}

def run (probe : Probe) (outside : Outside σ) (headers : Remote.Headers) (world : σ) :
    Except Failure Remote.Reply × σ :=
  match Remote.bare probe.verb probe.address headers id with
  | .error failure => (.error failure, world)
  | .ok request =>
      let (delivery, world) := outside.deliver request probe.limitMs.toNat world
      match delivery with
      | .replied reply => (.ok reply, world)
      | .lost => (.error (Remote.unanswered request.url), world)
      | .late => (.error (.timeout probe.limitMs.toNat), world)

def reportReply (probe : Probe) (system : Backend) (reply : Remote.Reply) (elapsedMs : Nat) :
    ConnectionReport where
  success := probe.accepts reply
  message :=
    if probe.accepts reply then "Connected to " ++ system.name
    else s!"{system.name} responded with HTTP {reply.status}"
  details := .ofMembers
    [("system_name", .text system.name), ("url", .text probe.address),
     ("method", .text probe.verb), ("status_code", .ofNat reply.status),
     ("response_time_ms", .ofNat elapsedMs)]

def reportFailure (probe : Probe) (system : Backend) (failure : Failure) : ConnectionReport where
  success := false
  message := failure.message
  details := .ofMembers
    [("system_name", .text system.name), ("url", .text probe.address),
     ("kind", .text failure.kind)]

end Probe

variable {σ : Type}

def reportUnresolved (systemId : Uuid) (failure : Failure) : ConnectionReport where
  success := false
  message := failure.message
  details := .ofMembers
    [("system_id", .text systemId.render), ("kind", .text failure.kind)]

def testConnection (policy : Policy) (outside : Outside σ) (systemId : Uuid) (state : State)
    (world : σ) : ConnectionReport × State × σ :=
  let (resolved, registry) :=
    state.registry.resolve (fun id => outside.loadSystem id world) systemId
  let state := { state with registry }
  match resolved with
  | .error failure => (reportUnresolved systemId failure, state, world)
  | .ok resolved =>
      let system := resolved.system
      let probe := Probe.ofSystem system policy.defaultLimitMs
      let startedAt := outside.clock world
      let (reply, world) := probe.run outside resolved.headers world
      match reply with
      | .ok reply =>
          (probe.reportReply system reply (outside.clock world - startedAt), state, world)
      | .error failure => (probe.reportFailure system failure, state, world)

end Engine
end QueryGateway
