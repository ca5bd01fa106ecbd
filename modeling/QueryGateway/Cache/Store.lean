import QueryGateway.Cache.Key
import QueryGateway.Execution.Outcome
import QueryGateway.Table

/-!
# Results that are kept

Results are kept under their keys for a time, together with the system and the
saved query that they come from, so that all results of either can be dropped.
A result whose time is over is never given out; it goes when it is next looked
for, or with the next sweep.

Times are milliseconds on a clock that never runs backwards.
-/

namespace QueryGateway
namespace Cache

open Execution

structure Entry where
  result : Outcome
  storedAt : Nat
  lifetime : Nat
  systemId : Uuid
  queryId : Option Uuid

namespace Entry

def isFresh (now : Nat) (entry : Entry) : Bool :=
  now - entry.storedAt < entry.lifetime

end Entry

structure Store where
  entries : Table Key Entry
  hits : Nat
  misses : Nat

namespace Store

def empty : Store :=
  ⟨∅, 0, 0⟩

instance : Inhabited Store :=
  ⟨empty⟩

/-!
## Looking for a result

A search has two sections, between which others may use the store.  The first
looks at the entry and counts; only when it finds a stale one does the second
look again, and remove the entry if it is still stale.
-/

/-- What the first section finds. -/
inductive Finding where
  | fresh (result : Outcome)
  | stale
  | absent

def look (now : Nat) (key : Key) (store : Store) : Finding :=
  match store.entries.get? key with
  | none => .absent
  | some entry => if entry.isFresh now then .fresh entry.result else .stale

def count (finding : Finding) (store : Store) : Store :=
  match finding with
  | .fresh _ => { store with hits := store.hits + 1 }
  | _ => { store with misses := store.misses + 1 }

/-- The second section: drop the entry of a key if it is stale by now. -/
def dropStale (now : Nat) (key : Key) (store : Store) : Store :=
  match store.entries.get? key with
  | some entry =>
      if entry.isFresh now then store else { store with entries := store.entries.erase key }
  | none => store

def get (now : Nat) (key : Key) (store : Store) : Option Outcome × Store :=
  let finding := store.look now key
  let counted := store.count finding
  match finding with
  | .fresh result => (some result, counted)
  | .stale => (none, counted.dropStale now key)
  | .absent => (none, counted)

/-!
## Keeping and dropping results
-/

/-- Keep a result for a time; for no time, nothing is kept. -/
def insert (now : Nat) (key : Key) (result : Outcome) (lifetime : Nat) (systemId : Uuid)
    (queryId : Option Uuid) (store : Store) : Store :=
  if lifetime = 0 then
    store
  else
    { store with entries := store.entries.set key ⟨result, now, lifetime, systemId, queryId⟩ }

def dropWhere (condition : Entry -> Bool) (store : Store) : Nat × Store :=
  let kept := store.entries.filter fun _ entry => !condition entry
  (store.entries.size - kept.size, { store with entries := kept })

def invalidateQuery (queryId : Uuid) (store : Store) : Nat × Store :=
  store.dropWhere fun entry => entry.queryId = some queryId

def invalidateSystem (systemId : Uuid) (store : Store) : Nat × Store :=
  store.dropWhere fun entry => entry.systemId = systemId

def purgeExpired (now : Nat) (store : Store) : Nat × Store :=
  store.dropWhere fun entry => !entry.isFresh now

def clear (store : Store) : Store :=
  { store with entries := ∅ }

def size (store : Store) : Nat :=
  store.entries.size

def summary (store : Store) : Json :=
  .ofMembers
    [("entries", .ofNat store.size), ("hits", .ofNat store.hits), ("misses", .ofNat store.misses)]

end Store
end Cache
end QueryGateway
