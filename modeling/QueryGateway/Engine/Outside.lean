import QueryGateway.Engine.Job
import QueryGateway.Execution.LogEntry

/-!
# The world outside

What the engine asks of its surroundings: the time, fresh identifiers, records
of systems and queries, a place for log entries, and the systems themselves.
The state of the world is of any type; asking for something may change it.
-/

namespace QueryGateway
namespace Engine

open Catalog Execution

/-- An answer to a statement; none when it does not come in time. -/
abbrev StatementAnswer := Option (Except Failure Json)

structure Outside (σ : Type) where
  /-- Milliseconds on a clock that never runs backwards. -/
  clock : σ -> Nat
  /-- The date and time of day. -/
  date : σ -> Timestamp
  newId : σ -> Uuid × σ
  loadSystem : Uuid -> σ -> Except Failure (Option Backend)
  loadQuery : Uuid -> σ -> Except Failure (Option SavedQuery)
  writeLogs : List LogEntry -> σ -> Except Failure Nat × σ
  /--
  Send a request and wait for its reply, for so many milliseconds at most.  Where a reply
  names another address, the client may go there, and its delivery is what comes of that.
  -/
  send : Remote.Request -> Nat -> σ -> Remote.Delivery × σ
  /-- The way to a database for statements, where there is one. -/
  runStatement : Option (Job -> Nat -> σ -> StatementAnswer × σ)

namespace Outside

variable {σ : Type} (outside : Outside σ)

/-- Send a request, unless there is no time at all to wait for a reply. -/
def deliver (request : Remote.Request) (limit : Nat) (world : σ) : Remote.Delivery × σ :=
  if limit = 0 then (.late, world) else outside.send request limit world

def fetch (job : Job) (request : Remote.Request) (limit : Nat) (world : σ) :
    Except Failure Json × σ :=
  let (delivery, world) := outside.deliver request limit world
  match delivery with
  | .replied reply => (job.readReply reply, world)
  | .lost => (.error (Remote.unanswered request.url), world)
  | .late => (.error (.timeout limit), world)

def runSql (job : Job) (limit : Nat) (world : σ) : Except Failure Json × σ :=
  match outside.runStatement with
  | none => (.error job.refusal, world)
  | some run =>
      let (answer, world) := run job limit world
      (answer.getD (.error (.timeout limit)), world)

def call (job : Job) (limit : Nat) (world : σ) : Except Failure Json × σ :=
  match job.message with
  | .error failure => (.error failure, world)
  | .ok (.web request) => outside.fetch job request limit world
  | .ok .statement => outside.runSql job limit world

end Outside
end Engine
end QueryGateway
