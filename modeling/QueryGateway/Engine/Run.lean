import QueryGateway.Engine.State

/-!
# Executions

An execution moves through stages.  Each step from one stage to the next is
atomic, and between two steps other executions, edits of records and clearing
of caches may take place.  A whole execution is the sequence of its steps with
nothing in between.
-/

namespace QueryGateway
namespace Engine

open Catalog Execution

/-- Where an execution stands: what its next step does. -/
inductive Stage where
  /-- Look for a kept result. -/
  | searching (key : Cache.Key)
  /-- Look again at a kept result that was stale. -/
  | discarding (key : Cache.Key)
  /-- Look in the registry for the system. -/
  | resolving
  /-- Load the system from its store. -/
  | loading
  /-- Remember the system. -/
  | remembering (resolved : Resolved)
  /-- Send a job and wait for the response. -/
  | calling (resolved : Resolved)
  /-- Keep the outcome. -/
  | keeping (outcome : Outcome)
  /-- Log the attempt and tell the caller. -/
  | reporting (outcome : Except Failure Outcome) (cacheHit : Bool)
  | done (result : Result)

namespace Stage

def rank : Stage -> Nat
  | .searching _ => 8
  | .discarding _ => 7
  | .resolving => 6
  | .loading => 5
  | .remembering _ => 4
  | .calling _ => 3
  | .keeping _ => 2
  | .reporting _ _ => 1
  | .done _ => 0

def result? : Stage -> Option Result
  | .done result => some result
  | _ => none

theorem rank_pos_of_result?_eq_none (stage : Stage) (unfinished : stage.result? = none) :
    0 < stage.rank := by
  cases stage with
  | done result => simp [result?] at unfinished
  | _ => simp [rank]

def ofOutcome (lifetime : Option Nat) : Except Failure Outcome -> Stage
  | .ok outcome =>
      match lifetime with
      | some _ => .keeping outcome
      | none => .reporting (.ok outcome) false
  | .error failure => .reporting (.error failure) false

end Stage

/-!
## Results
-/

def failed (failure : Failure) (elapsedMs : Nat) (method : Option String) (date : Timestamp) :
    Result where
  success := false
  data := none
  error := some (.ofFailure failure)
  metadata :=
    { executionTimeMs := .ofNat elapsedMs
      recordCount := 0
      systemName := none
      method
      cacheHit := false
      transformationsApplied := []
      executedAt := date }

def succeeded (outcome : Outcome) (elapsedMs : Nat) (cacheHit : Bool) (date : Timestamp) :
    Result where
  success := true
  data := some outcome.data
  error := none
  metadata :=
    { executionTimeMs := .ofNat elapsedMs
      recordCount := outcome.recordCount
      systemName := some outcome.systemName
      method := some outcome.method
      cacheHit
      transformationsApplied := outcome.transformationsApplied
      executedAt := date }

structure Run where
  request : Request
  userId : Option Uuid
  startedAt : Nat
  stage : Stage

namespace Run

/-- For how many milliseconds the result of a request is kept; none when it is not. -/
def lifetime (request : Request) : Option Nat :=
  (request.cacheTtlSecs.filter fun seconds => 0 < seconds).map fun seconds =>
    1000 * seconds.toNat

def key (policy : Policy) (request : Request) : Cache.Key :=
  Cache.keyOf policy.fingerprint request

def firstStage (policy : Policy) (request : Request) : Stage :=
  if (lifetime request).isSome && !request.forceRefresh then
    .searching (key policy request)
  else
    .resolving

def start (policy : Policy) (request : Request) (userId : Option Uuid) (now : Nat) : Run :=
  ⟨request, userId, now, firstStage policy request⟩

variable {σ : Type}

/-!
## The steps
-/

def entry (run : Run) (id : Uuid) (date : Timestamp) (elapsedMs : Nat)
    (outcome : Except Failure Outcome) (cacheHit : Bool) : LogEntry :=
  let plain := LogEntry.plain id run.request.systemId
    (match outcome with
      | .error _ => .failed
      | .ok _ => if cacheHit then .cached else .completed) date
  let named : LogEntry :=
    { plain with
      queryId := run.request.queryId
      userId := run.userId
      executionTimeMs := .ofNat elapsedMs }
  match outcome with
  | .ok outcome =>
      { named with recordCount := outcome.recordCount, resultSnapshot := some outcome.data }
  | .error failure => { named with errorMessage := some failure.message }

def result (run : Run) (date : Timestamp) (elapsedMs : Nat) (outcome : Except Failure Outcome)
    (cacheHit : Bool) : Result :=
  match outcome with
  | .ok outcome => succeeded outcome elapsedMs cacheHit date
  | .error failure => failed failure elapsedMs run.request.method date

def search (outside : Outside σ) (key : Cache.Key) (state : State) (world : σ) : Stage × State :=
  let finding := state.cache.look (outside.clock world) key
  let state := { state with cache := state.cache.count finding }
  match finding with
  | .fresh outcome => (.reporting (.ok outcome) true, state)
  | .stale => (.discarding key, state)
  | .absent => (.resolving, state)

def perform (policy : Policy) (outside : Outside σ) (request : Request) (resolved : Resolved)
    (world : σ) : Except Failure Outcome × σ :=
  match Job.ofRequest request resolved with
  | .error failure => (.error failure, world)
  | .ok job =>
      let limit := timeLimit request.timeoutMs job.method resolved.system policy.defaultLimitMs
      let (response, world) := outside.call job limit.toNat world
      (response.bind (job.outcome request.transformations), world)

def report (outside : Outside σ) (run : Run) (outcome : Except Failure Outcome)
    (cacheHit : Bool) (state : State) (world : σ) : Stage × State × σ :=
  let (id, world) := outside.newId world
  let date := outside.date world
  let elapsedMs := outside.clock world - run.startedAt
  (.done (run.result date elapsedMs outcome cacheHit),
    state.record (run.entry id date elapsedMs outcome cacheHit), world)

def next (policy : Policy) (outside : Outside σ) (run : Run) (state : State) (world : σ) :
    Stage × State × σ :=
  match run.stage with
  | .searching key =>
      let (stage, state) := search outside key state world
      (stage, state, world)
  | .discarding key =>
      (.resolving, { state with cache := state.cache.dropStale (outside.clock world) key }, world)
  | .resolving =>
      match state.registry.get? run.request.systemId with
      | some resolved => (.calling resolved, state, world)
      | none => (.loading, state, world)
  | .loading =>
      let id := run.request.systemId
      match Registry.vet id (outside.loadSystem id world) with
      | .ok resolved => (.remembering resolved, state, world)
      | .error failure => (.reporting (.error failure) false, state, world)
  | .remembering resolved =>
      let registry := state.registry.set run.request.systemId resolved
      (.calling resolved, { state with registry }, world)
  | .calling resolved =>
      let (outcome, world) := perform policy outside run.request resolved world
      (.ofOutcome (lifetime run.request) outcome, state, world)
  | .keeping outcome =>
      let request := run.request
      let cache := state.cache.insert (outside.clock world) (key policy request) outcome
        ((lifetime request).getD 0) request.systemId request.queryId
      (.reporting (.ok outcome) false, { state with cache }, world)
  | .reporting outcome cacheHit => report outside run outcome cacheHit state world
  | .done result => (.done result, state, world)

def step (policy : Policy) (outside : Outside σ) (run : Run) (state : State) (world : σ) :
    Run × State × σ :=
  let (stage, state, world) := run.next policy outside state world
  ({ run with stage }, state, world)

/-!
## Whole executions
-/

theorem rank_next (policy : Policy) (outside : Outside σ) (run : Run) (state : State) (world : σ)
    (unfinished : 0 < run.stage.rank) :
    (run.next policy outside state world).1.rank < run.stage.rank := by
  unfold next
  split <;> rename_i stage
  · simp only [search, stage]
    split <;> simp [Stage.rank]
  · simp [stage, Stage.rank]
  · split <;> simp [stage, Stage.rank]
  · dsimp only
    split <;> simp [stage, Stage.rank]
  · simp [stage, Stage.rank]
  · simp only [stage, Stage.ofOutcome]
    split
    · split <;> simp [Stage.rank]
    · simp [Stage.rank]
  · simp [stage, Stage.rank]
  · simp [report, stage, Stage.rank]
  · simp [stage, Stage.rank] at unfinished

def complete (policy : Policy) (outside : Outside σ) (run : Run) (state : State) (world : σ) :
    Result × State × σ :=
  match _unfinished : run.stage.result? with
  | some result => (result, state, world)
  | none =>
      let after := run.step policy outside state world
      after.1.complete policy outside after.2.1 after.2.2
termination_by run.stage.rank
decreasing_by exact rank_next _ _ _ _ _ (Stage.rank_pos_of_result?_eq_none _ _unfinished)

end Run
end Engine
end QueryGateway
