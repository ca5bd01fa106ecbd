import QueryGateway.Cache.Store
import QueryGateway.Engine.Outside
import QueryGateway.Journal.Basic
import QueryGateway.Journal.Feed

/-!
# The engine's state

What all executions share: remembered systems, kept results, the journal, and
the feed of news for operators.
-/

namespace QueryGateway
namespace Engine

open Execution

structure Policy where
  defaultLimitMs : UInt64
  fingerprint : String -> String

structure State where
  registry : Registry
  cache : Cache.Store
  journal : Journal
  feed : Feed

namespace State

def initial (logCapacity feedCapacity : Nat) : State :=
  ⟨∅, .empty, .empty logCapacity, .empty feedCapacity⟩

def record (entry : LogEntry) (state : State) : State :=
  let (events, journal) := state.journal.record entry
  { state with journal, feed := state.feed.publishAll events }

/-- Forget what is known of one system, or of all, and drop the results it produced. -/
def clearCache (systemId : Option Uuid) (state : State) : State :=
  { state with
    registry := state.registry.clear systemId
    cache := match systemId with
      | some id => (state.cache.invalidateSystem id).2
      | none => state.cache.clear }

def invalidateQuery (queryId : Uuid) (state : State) : Nat × State :=
  let (dropped, cache) := state.cache.invalidateQuery queryId
  (dropped, { state with cache })

def purgeExpired (now : Nat) (state : State) : Nat × State :=
  let (dropped, cache) := state.cache.purgeExpired now
  (dropped, { state with cache })

def settle {σ : Type} (flushed : Journal.Flushed σ) (state : State) : Nat × State × σ :=
  (flushed.written,
    { state with journal := flushed.journal, feed := state.feed.publishAll flushed.events },
    flushed.store)

variable {σ : Type}

def flush (outside : Outside σ) (max : Nat) (state : State) (world : σ) : Nat × State × σ :=
  state.settle (state.journal.flush outside.writeLogs max world)

def drain (outside : Outside σ) (state : State) (world : σ) : Nat × State × σ :=
  state.settle (state.journal.drain outside.writeLogs world)

end State
end Engine
end QueryGateway
