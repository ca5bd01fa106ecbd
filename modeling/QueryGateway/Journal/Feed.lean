import QueryGateway.Execution.LogEntry
import QueryGateway.Table

/-!
# News for operators

Whoever listens is told of each event, and may take its time: up to the
capacity of the feed, events wait for a listener.  One that falls further
behind misses the oldest of them, and can tell how many it missed.
-/

namespace QueryGateway

open Execution

structure Inbox where
  waiting : List Event
  missed : Nat

namespace Inbox

def empty : Inbox :=
  ⟨[], 0⟩

/-- An inbox to which an event has come; the oldest goes when there are too many. -/
def push (capacity : Nat) (event : Event) (inbox : Inbox) : Inbox :=
  let waiting := inbox.waiting ++ [event]
  let surplus := waiting.length - capacity
  ⟨waiting.drop surplus, inbox.missed + surplus⟩

end Inbox

structure Feed where
  capacity : Nat
  inboxes : Table Nat Inbox

namespace Feed

def empty (capacity : Nat) : Feed :=
  ⟨capacity, ∅⟩

def publish (event : Event) (feed : Feed) : Feed :=
  { feed with
    inboxes := ⟨feed.inboxes.entries.map fun (listener, inbox) =>
      (listener, inbox.push feed.capacity event)⟩ }

def publishAll (events : List Event) (feed : Feed) : Feed :=
  events.foldl (fun feed event => feed.publish event) feed

def subscribe (listener : Nat) (feed : Feed) : Feed :=
  { feed with inboxes := feed.inboxes.set listener .empty }

def unsubscribe (listener : Nat) (feed : Feed) : Feed :=
  { feed with inboxes := feed.inboxes.erase listener }

def collect (listener : Nat) (feed : Feed) : Inbox × Feed :=
  match feed.inboxes.get? listener with
  | some inbox => (inbox, feed.subscribe listener)
  | none => (.empty, feed)

end Feed
end QueryGateway
