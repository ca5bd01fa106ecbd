import QueryGateway.Execution.LogEntry

/-!
# The journal

Entries wait in a buffer of bounded length until they are written to the log
store.  Whoever records an entry never waits: an entry that finds no room is
dropped, and a batch that the store refuses is lost, and operators are told of
either.
-/

namespace QueryGateway

open Execution

structure Counters where
  completed : Nat
  failed : Nat
  cached : Nat
  dropped : Nat
  flushed : Nat
  flushFailures : Nat
deriving DecidableEq, Repr

namespace Counters

def zero : Counters :=
  ⟨0, 0, 0, 0, 0, 0⟩

def tally (status : Status) (counters : Counters) : Counters :=
  match status with
  | .completed => { counters with completed := counters.completed + 1 }
  | .failed => { counters with failed := counters.failed + 1 }
  | .cached => { counters with cached := counters.cached + 1 }

def recorded (counters : Counters) : Nat :=
  counters.completed + counters.failed + counters.cached

end Counters

structure Journal where
  capacity : Nat
  pending : List LogEntry
  counters : Counters

namespace Journal

def empty (capacity : Nat) : Journal :=
  ⟨capacity, [], .zero⟩

def noRoom : String :=
  "capacity must be non-zero"

def ofCapacity (capacity : Nat) : Except String Journal :=
  if capacity = 0 then .error noRoom else .ok (empty capacity)

def depth (journal : Journal) : Nat :=
  journal.pending.length

def push? (entry : LogEntry) (journal : Journal) : Option Journal :=
  if journal.depth < journal.capacity then
    some { journal with pending := journal.pending ++ [entry] }
  else
    none

def pop (max : Nat) (journal : Journal) : List LogEntry × Journal :=
  (journal.pending.take max, { journal with pending := journal.pending.drop max })

def record (entry : LogEntry) (journal : Journal) : List Event × Journal :=
  let tallied := { journal with counters := journal.counters.tally entry.status }
  match tallied.push? entry with
  | some waiting => ([.execution entry], waiting)
  | none =>
      let counters := { tallied.counters with dropped := tallied.counters.dropped + 1 }
      ([.execution entry, .logDropped entry.systemId entry.queryId], { tallied with counters })

def summary (journal : Journal) : Json :=
  let counters := journal.counters
  .ofMembers
    [("completed", .ofNat counters.completed), ("failed", .ofNat counters.failed),
     ("cached", .ofNat counters.cached), ("dropped", .ofNat counters.dropped),
     ("flushed", .ofNat counters.flushed), ("flush_failures", .ofNat counters.flushFailures),
     ("buffered", .ofNat journal.depth), ("buffer_empty", .bool journal.pending.isEmpty),
     ("capacity", .ofNat journal.capacity)]

/-!
## Writing entries to a store
-/

/-- What a store answers to a batch: how many of its entries were written. -/
abbrev Written := Except Failure Nat

def settle (size : Nat) (answer : Written) (journal : Journal) : Nat × List Event × Journal :=
  match answer with
  | .ok written =>
      let counters := { journal.counters with flushed := journal.counters.flushed + written }
      (written, [], { journal with counters })
  | .error failure =>
      let counters :=
        { journal.counters with flushFailures := journal.counters.flushFailures + 1 }
      (0, [.logFlushFailed size failure.message], { journal with counters })

/-- What writing leads to: the count of written entries, news for operators, and both states. -/
structure Flushed (σ : Type) where
  written : Nat
  events : List Event
  journal : Journal
  store : σ

/-- Hand the oldest entries, at most so many, to a store. -/
def flush {σ : Type} (write : List LogEntry -> σ -> Written × σ) (max : Nat)
    (journal : Journal) (store : σ) : Flushed σ :=
  let (batch, rest) := journal.pop max
  if batch.isEmpty then
    ⟨0, [], rest, store⟩
  else
    let (answer, store) := write batch store
    let (written, events, settled) := rest.settle batch.length answer
    ⟨written, events, settled, store⟩

def batchSize : Nat :=
  1000

theorem settle_pending (size : Nat) (answer : Written) (journal : Journal) :
    (journal.settle size answer).2.2.pending = journal.pending := by
  cases answer with
  | ok written => rfl
  | error failure => rfl

theorem flush_pending {σ : Type} (write : List LogEntry -> σ -> Written × σ) (max : Nat)
    (journal : Journal) (store : σ) :
    (journal.flush write max store).journal.pending = journal.pending.drop max := by
  unfold flush pop
  dsimp only
  split
  · rfl
  · exact settle_pending _ _ _

/-- Hand over batch after batch, until nothing waits or a batch has no entry written. -/
def drain {σ : Type} (write : List LogEntry -> σ -> Written × σ) (journal : Journal)
    (store : σ) : Flushed σ :=
  if journal.pending.isEmpty then
    ⟨0, [], journal, store⟩
  else
    let first := journal.flush write batchSize store
    if first.written = 0 then
      first
    else
      let others := first.journal.drain write first.store
      { others with
        written := first.written + others.written
        events := first.events ++ others.events }
termination_by journal.pending.length
decreasing_by
  rename_i waiting _
  rw [flush_pending, List.length_drop]
  have : 0 < journal.pending.length := by
    cases h : journal.pending with
    | nil => simp [h] at waiting
    | cons entry rest => simp
  simp only [batchSize]
  omega

end Journal
end QueryGateway
