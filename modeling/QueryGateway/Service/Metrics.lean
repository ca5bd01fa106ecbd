import QueryGateway.Engine.State
import QueryGateway.Service.Exchange

/-!
# Metrics

Counts of requests and connections, and the text in which they are shown with
the counts of the journal and the caches.
-/

namespace QueryGateway
namespace Service

structure Metrics where
  requestsTotal : Nat
  rejectedTotal : Nat
  streams : Nat
deriving DecidableEq, Repr

namespace Metrics

def zero : Metrics :=
  ⟨0, 0, 0⟩

/-- A value of a metric, perhaps one of several told apart by a label. -/
structure Sample where
  label : Option (String × String)
  value : Nat

structure Family where
  name : String
  help : String
  kind : String
  samples : List Sample

namespace Family

def renderLabel : Option (String × String) -> String
  | none => ""
  | some (name, value) => "\x7b" ++ name ++ "=\"" ++ value ++ "\"\x7d"

def renderSample (name : String) (sample : Sample) : String :=
  name ++ renderLabel sample.label ++ " " ++ toString sample.value ++ "\n"

def render (family : Family) : String :=
  let name := "querybridge_" ++ family.name
  "# HELP " ++ name ++ " " ++ family.help ++ "\n" ++
    "# TYPE " ++ name ++ " " ++ family.kind ++ "\n" ++
    String.join (family.samples.map (renderSample name))

def counter (name help : String) (value : Nat) : Family :=
  ⟨name, help, "counter", [⟨none, value⟩]⟩

def gauge (name help : String) (value : Nat) : Family :=
  ⟨name, help, "gauge", [⟨none, value⟩]⟩

end Family

def version : String :=
  "0.1.0"

def families (metrics : Metrics) (state : Engine.State) : List Family :=
  let counters := state.journal.counters
  let status (name : String) (value : Nat) : Sample := ⟨some ("status", name), value⟩
  [.counter "requests_total" "Total number of engine HTTP requests processed"
      metrics.requestsTotal,
    .counter "requests_rejected_total" "Requests rejected before execution"
      metrics.rejectedTotal,
    ⟨"executions_total", "Recorded executions by status", "counter",
      [status "completed" counters.completed, status "failed" counters.failed,
        status "cached" counters.cached]⟩,
    .counter "execution_logs_dropped_total"
      "Execution log rows dropped because the buffer was full" counters.dropped,
    .counter "execution_logs_flushed_total" "Execution log rows written to the store"
      counters.flushed,
    .counter "execution_log_flush_failures_total" "Failed execution log batch writes"
      counters.flushFailures,
    .gauge "log_buffer_depth" "Current number of execution log rows in buffer"
      state.journal.depth,
    .gauge "result_cache_entries" "Current number of result cache entries" state.cache.size,
    .counter "result_cache_hits_total" "Result cache hits" state.cache.hits,
    .counter "result_cache_misses_total" "Result cache misses" state.cache.misses,
    .gauge "registry_entries" "Current number of cached system configurations"
      state.registry.size,
    .gauge "websocket_connections" "Current number of active WebSocket connections"
      metrics.streams,
    ⟨"info", "Build information", "gauge", [⟨some ("version", version), 1⟩]⟩]

def render (metrics : Metrics) (state : Engine.State) : String :=
  "\n".intercalate ((metrics.families state).map Family.render)

end Metrics
end Service
end QueryGateway
