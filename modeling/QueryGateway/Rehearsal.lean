import QueryGateway.Engine.Outside

/-!
# Rehearsals

A world whose systems answer from a script, one scene to each request.  What
they receive is written down, and time passes only when it is made to.
-/

namespace QueryGateway

open Catalog Execution

inductive Scene where
  | reply (status : Nat) (body : Text.Bytes)
  | hangUp

structure Records (τ : Type) where
  loadSystem : Uuid -> τ -> Except Failure (Option Backend)
  loadQuery : Uuid -> τ -> Except Failure (Option SavedQuery)
  writeLogs : List LogEntry -> τ -> Except Failure Nat × τ

/--
A world under rehearsal.  No system can be reached in one that is cut off; in
one that is silent requests are never answered.
-/
structure Rehearsal (τ : Type) where
  clock : Nat
  issued : Nat
  records : τ
  cutOff : Bool
  silent : Bool
  script : List Scene
  received : List Remote.Request
  statements : List Engine.Job

namespace Rehearsal

variable {τ : Type}

def opening (records : τ) (cutOff : Bool) : Rehearsal τ :=
  ⟨0, 0, records, cutOff, false, [], [], []⟩

def wait (millis : Nat) (world : Rehearsal τ) : Rehearsal τ :=
  { world with clock := world.clock + millis }

def stage (script : List Scene) (silent : Bool) (world : Rehearsal τ) : Rehearsal τ :=
  { world with script, silent, received := [], statements := [] }

def hasBody (request : Remote.Request) (status : Nat) : Bool :=
  request.verb != "HEAD" && status != 204 && status != 304

def unscripted : Scene :=
  .reply 404 (Text.utf8 "no scripted response")

def play (request : Remote.Request) (world : Rehearsal τ) : Remote.Delivery × Rehearsal τ :=
  let after := { world with
    script := world.script.drop 1
    received := world.received ++ [request] }
  match world.script.headD unscripted with
  | .hangUp => (.lost, after)
  | .reply status body =>
      (.replied ⟨status, if hasBody request status then body else []⟩, after)

/-- Systems are reached without encryption only. -/
def send (request : Remote.Request) (limit : Nat) (world : Rehearsal τ) :
    Remote.Delivery × Rehearsal τ :=
  if world.cutOff || request.url.scheme != "http" then (.lost, world)
  else if world.silent then (.late, world.wait limit)
  else world.play request

def answerStatement (answer : Except Failure Json) (job : Engine.Job) (_limit : Nat)
    (world : Rehearsal τ) : Engine.StatementAnswer × Rehearsal τ :=
  (some answer, { world with statements := world.statements ++ [job] })

/-- The outside of an engine in a rehearsal, statements having one answer, if any. -/
def outside (records : Records τ) (statementAnswer : Option (Except Failure Json)) :
    Engine.Outside (Rehearsal τ) where
  clock world := world.clock
  date world := .ofMillis world.clock
  newId world := (.ofNat world.issued, { world with issued := world.issued + 1 })
  loadSystem id world := records.loadSystem id world.records
  loadQuery id world := records.loadQuery id world.records
  writeLogs entries world :=
    let (answer, written) := records.writeLogs entries world.records
    (answer, { world with records := written })
  send := send
  runStatement := statementAnswer.map answerStatement

/-!
## Requests as they are received
-/

def transportHeaders : List String :=
  ["host", "content-length", "connection"]

def isSpace (c : Char) : Bool :=
  c = ' ' || c = '\t'

def fieldValue (text : String) : String :=
  String.ofList ((text.toList.dropWhile isSpace).reverse.dropWhile isSpace).reverse

def headerBefore (a b : String × String) : Bool :=
  a.1 < b.1 || (a.1 == b.1 && a.2 ≤ b.2)

def receivedHeaders (request : Remote.Request) : List (String × String) :=
  ((request.headers.filter fun header => !transportHeaders.contains header.1).map
    fun (name, value) => (name, fieldValue value)).mergeSort headerBefore

/-- A request as the system sees it, which is told neither credentials nor a fragment. -/
def requestJson (request : Remote.Request) : Json :=
  .ofMembers
    [("method", .text request.verb),
     ("url", .text request.url.withoutCredentials.withoutFragment.render),
     ("headers", .array ((receivedHeaders request).map fun (name, value) =>
       .array [.text name, .text value])),
     ("body", .text request.body)]

def statementJson (job : Engine.Job) : Json :=
  .ofMembers
    [("system", .text job.resolved.system.name), ("method", .text job.method.name),
     ("query", .text job.query), ("parameters", .object job.parameters),
     ("headers", .object (job.resolved.headers.map fun (name, value) => (name, .text value)))]

end Rehearsal
end QueryGateway
