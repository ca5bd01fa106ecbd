import QueryGateway.Catalog.SavedQuery
import QueryGateway.Execution.LogEntry
import QueryGateway.Table

/-!
# Records in memory

A store that keeps systems, saved queries and log entries in memory.  It can be
made to fail, and to take only part of each batch of log entries.
-/

namespace QueryGateway
namespace Storage

open Catalog Execution

structure Memory where
  systems : Table Uuid Backend
  queries : Table Uuid SavedQuery
  logs : List LogEntry
  failure : Option Failure
  batchLimit : Option Nat

namespace Memory

def empty : Memory :=
  ⟨∅, ∅, [], none, none⟩

def putSystem (system : Backend) (memory : Memory) : Memory :=
  { memory with systems := memory.systems.set system.id system }

def putQuery (query : SavedQuery) (memory : Memory) : Memory :=
  { memory with queries := memory.queries.set query.id query }

def removeQuery (id : Uuid) (memory : Memory) : Option SavedQuery × Memory :=
  (memory.queries.get? id, { memory with queries := memory.queries.erase id })

/-- An answer, unless the store has been made to fail. -/
def answer {α : Type} (memory : Memory) (value : α) : Except Failure α :=
  match memory.failure with
  | some failure => .error failure
  | none => .ok value

def loadSystem (id : Uuid) (memory : Memory) : Except Failure (Option Backend) :=
  memory.answer (memory.systems.get? id)

def loadQuery (id : Uuid) (memory : Memory) : Except Failure (Option SavedQuery) :=
  memory.answer (memory.queries.get? id)

def taken (memory : Memory) (batch : List LogEntry) : List LogEntry :=
  match memory.batchLimit with
  | some limit => batch.take limit
  | none => batch

def writeLogs (batch : List LogEntry) (memory : Memory) : Except Failure Nat × Memory :=
  match memory.failure with
  | some failure => (.error failure, memory)
  | none =>
      let taken := memory.taken batch
      (.ok taken.length, { memory with logs := memory.logs ++ taken })

end Memory
end Storage
end QueryGateway
