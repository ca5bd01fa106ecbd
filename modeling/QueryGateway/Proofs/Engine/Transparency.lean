import QueryGateway.Proofs.Cache.Identity
import QueryGateway.Proofs.Engine.Sources

/-!
# Kept results are not noticed

As long as the definitions of systems stay as they are and the systems answer
the same to the same question, an engine tells what one that remembers nothing
and keeps nothing tells, whatever was executed, dropped or edited before.
-/

namespace QueryGateway
namespace Engine

open Catalog Execution

/-!
# What is told
-/

/-- What a result tells apart from times and from where it was found. -/
structure Seen where
  success : Bool
  data : Option Json
  error : Option ErrorInfo
  recordCount : UInt64
  systemName : Option String
  method : Option String
  transformationsApplied : List String

def Seen.ofResult (result : Result) : Seen :=
  ⟨result.success, result.data, result.error, result.metadata.recordCount,
    result.metadata.systemName, result.metadata.method, result.metadata.transformationsApplied⟩

def Seen.ofOutcome (request : Request) : Except Failure Outcome -> Seen
  | .ok outcome =>
      ⟨true, some outcome.data, none, outcome.recordCount, some outcome.systemName,
        some outcome.method, outcome.transformationsApplied⟩
  | .error failure =>
      ⟨false, none, some (.ofFailure failure), 0, none, request.method, []⟩

theorem seen_result (run : Run) (date : Timestamp) (elapsedMs : Nat)
    (outcome : Except Failure Outcome) (cacheHit : Bool) :
    Seen.ofResult (run.result date elapsedMs outcome cacheHit) =
      Seen.ofOutcome run.request outcome := by
  cases outcome with
  | error failure => rfl
  | ok outcome => rfl

/-!
# A steady world
-/

variable {σ : Type}

/-- Definitions that do not change, and systems that answer the same to the same question. -/
structure Steady (outside : Outside σ) (systems : Uuid -> Registry.Loaded)
    (reply : Remote.Request -> Remote.Delivery) (answer : Job -> StatementAnswer) : Prop where
  loads : forall id world, outside.loadSystem id world = systems id
  replies : forall request limit world, (outside.send request limit world).1 = reply request
  answers : forall run, outside.runStatement = some run ->
    forall job limit world, (run job limit world).1 = answer job

/-- A request whose time limit, for any method it may choose, is not over at once. -/
def Unhurried (policy : Policy) (systems : Uuid -> Registry.Loaded) (request : Request) : Prop :=
  forall resolved job, Registry.vet request.systemId (systems request.systemId) = .ok resolved ->
    Job.ofRequest request resolved = .ok job ->
      timeLimit request.timeoutMs job.method resolved.system policy.defaultLimitMs ≠ 0

section Calls

variable {outside : Outside σ} {systems : Uuid -> Registry.Loaded}
  {reply : Remote.Request -> Remote.Delivery} {answer : Job -> StatementAnswer}

def ofDelivery (job : Job) (request : Remote.Request) (limit : Nat) :
    Remote.Delivery -> Except Failure Json
  | .replied reply => job.readReply reply
  | .lost => .error (Remote.unanswered request.url)
  | .late => .error (.timeout limit)

theorem fetch_fst (hsteady : Steady outside systems reply answer) (job : Job)
    (request : Remote.Request) (limit : Nat) (world : σ) :
    (outside.fetch job request limit world).1 =
      ofDelivery job request limit (if limit = 0 then .late else reply request) := by
  have hdelivery : (outside.deliver request limit world).1 =
      if limit = 0 then .late else reply request := by
    unfold Outside.deliver
    split
    · rfl
    · exact hsteady.replies request limit world
  rw [← hdelivery]
  unfold Outside.fetch
  dsimp only
  cases (outside.deliver request limit world).1 with
  | replied reply => rfl
  | lost => rfl
  | late => rfl

theorem runSql_fst (hsteady : Steady outside systems reply answer) (job : Job) (limit : Nat)
    (world : σ) :
    (outside.runSql job limit world).1 =
      if outside.runStatement.isSome then (answer job).getD (.error (.timeout limit))
      else .error job.refusal := by
  unfold Outside.runSql
  cases hrun : outside.runStatement with
  | none => rfl
  | some run =>
      show ((run job limit world).1).getD _ = _
      rw [hsteady.answers run hrun]
      rfl

theorem call_world (hsteady : Steady outside systems reply answer) (job : Job) (limit : Nat)
    (world world' : σ) : (outside.call job limit world).1 = (outside.call job limit world').1 := by
  unfold Outside.call
  cases job.message with
  | error failure => rfl
  | ok message =>
      cases message with
      | web request => exact (fetch_fst hsteady ..).trans (fetch_fst hsteady ..).symm
      | statement => exact (runSql_fst hsteady ..).trans (runSql_fst hsteady ..).symm

/-- A response does not depend on the time limit, as long as there is time at all. -/
theorem call_limit (hsteady : Steady outside systems reply answer) {job : Job}
    {limit limit' : Nat} {world world' : σ} {response : Json} (hlimit : limit' ≠ 0)
    (hcall : (outside.call job limit world).1 = .ok response) :
    (outside.call job limit' world').1 = .ok response := by
  unfold Outside.call at hcall ⊢
  cases hmessage : job.message with
  | error failure =>
      rw [hmessage] at hcall
      cases hcall
  | ok message =>
      rw [hmessage] at hcall
      cases message with
      | web request =>
          dsimp only at hcall ⊢
          rw [fetch_fst hsteady] at hcall ⊢
          by_cases hzero : limit = 0
          · rw [if_pos hzero] at hcall
            cases hcall
          · rw [if_neg hzero] at hcall
            rw [if_neg hlimit]
            cases hreply : reply request with
            | replied reply =>
                rw [hreply] at hcall
                exact hcall
            | lost =>
                rw [hreply] at hcall
                cases hcall
            | late =>
                rw [hreply] at hcall
                cases hcall
      | statement =>
          dsimp only at hcall ⊢
          rw [runSql_fst hsteady] at hcall ⊢
          cases hanswer : answer job with
          | none =>
              rw [hanswer] at hcall
              split at hcall <;> cases hcall
          | some given =>
              rw [hanswer] at hcall
              exact hcall

theorem perform_world (hsteady : Steady outside systems reply answer) (policy : Policy)
    (request : Request) (resolved : Resolved) (world world' : σ) :
    (Run.perform policy outside request resolved world).1 =
      (Run.perform policy outside request resolved world').1 := by
  unfold Run.perform
  cases Job.ofRequest request resolved with
  | error failure => rfl
  | ok job =>
      dsimp only
      rw [call_world hsteady job _ world world']

theorem ofRequest_congr {a b : Request}
    (hagree : (Cache.Identity.ofRequest a).Agree (.ofRequest b)) (resolved : Resolved) :
    Job.ofRequest a resolved = Job.ofRequest b resolved := by
  have hmethod : a.method.getD "" = b.method.getD "" := hagree.method
  have hquery : a.query = b.query := hagree.query
  have hparameters : a.parameters = b.parameters := hagree.parameters
  unfold Job.ofRequest
  rw [Cache.Identity.chooseMethod_congr resolved.system hmethod, hquery, hparameters]

theorem perform_congr (hsteady : Steady outside systems reply answer) {policy : Policy}
    {a b : Request} {resolved : Resolved} {outcome : Outcome} {world world' : σ}
    (hagree : (Cache.Identity.ofRequest a).Agree (.ofRequest b))
    (hlimit : forall job, Job.ofRequest b resolved = .ok job ->
      timeLimit b.timeoutMs job.method resolved.system policy.defaultLimitMs ≠ 0)
    (houtcome : (Run.perform policy outside a resolved world).1 = .ok outcome) :
    (Run.perform policy outside b resolved world').1 = .ok outcome := by
  have htransformations : a.transformations = b.transformations := hagree.transformations
  unfold Run.perform at houtcome ⊢
  rw [ofRequest_congr hagree] at houtcome
  cases hjob : Job.ofRequest b resolved with
  | error failure =>
      rw [hjob] at houtcome
      cases houtcome
  | ok job =>
      rw [hjob] at houtcome
      dsimp only at houtcome ⊢
      cases hresponse : (outside.call job (timeLimit a.timeoutMs job.method resolved.system
          policy.defaultLimitMs).toNat world).1 with
      | error failure =>
          rw [hresponse] at houtcome
          cases houtcome
      | ok response =>
          have hnonzero : (timeLimit b.timeoutMs job.method resolved.system
              policy.defaultLimitMs).toNat ≠ 0 := by
            intro hzero
            exact hlimit job hjob (UInt64.toNat_inj.mp hzero)
          rw [hresponse, htransformations] at houtcome
          rw [call_limit hsteady hnonzero hresponse]
          exact houtcome

end Calls

/-!
# Ideal outcomes

What an engine that remembers nothing and keeps nothing comes to.
-/

section Ideal

variable {policy : Policy} {outside : Outside σ} {systems : Uuid -> Registry.Loaded}
  {reply : Remote.Request -> Remote.Delivery} {answer : Job -> StatementAnswer}

def ideal (policy : Policy) (outside : Outside σ) (systems : Uuid -> Registry.Loaded)
    (request : Request) (world : σ) : Except Failure Outcome :=
  (Registry.vet request.systemId (systems request.systemId)).bind fun resolved =>
    (Run.perform policy outside request resolved world).1

theorem ideal_of_vet (policy : Policy) (outside : Outside σ) {request : Request}
    {resolved : Resolved}
    (hvet : Registry.vet request.systemId (systems request.systemId) = .ok resolved) (world : σ) :
    ideal policy outside systems request world =
      (Run.perform policy outside request resolved world).1 := by
  unfold ideal
  rw [hvet]
  rfl

theorem ideal_world (hsteady : Steady outside systems reply answer) (request : Request)
    (world world' : σ) :
    ideal policy outside systems request world = ideal policy outside systems request world' := by
  unfold ideal
  cases Registry.vet request.systemId (systems request.systemId) with
  | error failure => rfl
  | ok resolved => exact perform_world hsteady policy request resolved world world'

theorem ideal_congr (hsteady : Steady outside systems reply answer) {a b : Request}
    {outcome : Outcome} {world : σ}
    (hagree : (Cache.Identity.ofRequest a).Agree (.ofRequest b))
    (hunhurried : Unhurried policy systems b)
    (hideal : ideal policy outside systems a world = .ok outcome) :
    ideal policy outside systems b world = .ok outcome := by
  have hsystem : a.systemId = b.systemId := hagree.systemId
  cases hvet : Registry.vet b.systemId (systems b.systemId) with
  | error failure =>
      unfold ideal at hideal
      rw [hsystem, hvet] at hideal
      cases hideal
  | ok resolved =>
      have hvetA : Registry.vet a.systemId (systems a.systemId) = .ok resolved := by
        rw [hsystem]
        exact hvet
      rw [ideal_of_vet policy outside hvetA] at hideal
      rw [ideal_of_vet policy outside hvet]
      exact perform_congr hsteady hagree (fun job => hunhurried resolved job hvet) hideal

/-- What is remembered is what the store has; what is kept is ideal for a request of its key. -/
def idealHoldings (policy : Policy) (outside : Outside σ) (systems : Uuid -> Registry.Loaded) :
    Holdings where
  remembered id resolved := Registry.vet id (systems id) = .ok resolved
  kept key entry := exists request, key = Run.key policy request ∧
    forall world, ideal policy outside systems request world = .ok entry.result

def idealCourse (policy : Policy) (outside : Outside σ) (systems : Uuid -> Registry.Loaded) :
    Course where
  used request resolved :=
    Registry.vet request.systemId (systems request.systemId) = .ok resolved
  pending request outcome :=
    forall world, ideal policy outside systems request world = .ok outcome
  told request
    | .ok outcome => exists other, Run.key policy request = Run.key policy other ∧
        forall world, ideal policy outside systems other world = .ok outcome
    | .error failure => forall world, ideal policy outside systems request world = .error failure

theorem ideal_admits (hsteady : Steady outside systems reply answer) (world : σ) :
    (idealCourse policy outside systems).Admits (idealHoldings policy outside systems) policy
      outside world where
  loaded id resolved hvet := by
    rw [hsteady.loads] at hvet
    exact hvet
  refused request failure hvet := by
    intro world'
    rw [hsteady.loads] at hvet
    unfold ideal
    rw [hvet]
    rfl
  of_remembered request resolved hremembered := hremembered
  answered request resolved hused := by
    have hideal := ideal_of_vet policy outside hused world
    cases houtcome : (Run.perform policy outside request resolved world).1 with
    | error failure =>
        intro world'
        rw [ideal_world hsteady request world' world, hideal, houtcome]
    | ok outcome =>
        refine ⟨request, rfl, ?_⟩
        intro world'
        rw [ideal_world hsteady request world' world, hideal, houtcome]
  performed request resolved outcome hused _ houtcome := by
    intro world'
    rw [ideal_world hsteady request world' world, ideal_of_vet policy outside hused,
      houtcome]
  inserted request outcome lifetime hpending _ := ⟨request, rfl, hpending⟩
  of_pending request outcome hpending := ⟨request, rfl, hpending⟩
  of_kept request entry hkept _ := hkept

theorem told_eq_ideal (hsteady : Steady outside systems reply answer)
    (hinjective : Function.Injective policy.fingerprint) {request : Request}
    (hunhurried : Unhurried policy systems request) {outcome : Except Failure Outcome}
    (htold : (idealCourse policy outside systems).told request outcome) (world : σ) :
    ideal policy outside systems request world = outcome := by
  cases outcome with
  | error failure => exact htold world
  | ok outcome =>
      rcases htold with ⟨other, hkey, hother⟩
      have hagree := Cache.Identity.agree_of_key_eq hinjective hkey.symm
      exact ideal_congr hsteady hagree hunhurried (hother world)

theorem execute_seen (hsteady : Steady outside systems reply answer)
    (hinjective : Function.Injective policy.fingerprint) {request : Request}
    (hunhurried : Unhurried policy systems request) (userId : Option Uuid) {state : State}
    (hstate : (idealHoldings policy outside systems).Hold state) (world : σ) :
    Seen.ofResult (execute policy outside request userId state world).1 =
      Seen.ofOutcome request (ideal policy outside systems request world) := by
  have hcomplete := Course.follows_complete (ideal_admits hsteady) hstate
    (Course.follows_start request userId (outside.clock world)) world
  rcases hcomplete.left with ⟨outcome, date, elapsedMs, cacheHit, htold, hresult⟩
  rw [told_eq_ideal hsteady hinjective hunhurried htold world]
  unfold execute
  rw [hresult]
  exact seen_result _ date elapsedMs outcome cacheHit

theorem hold_execute (hsteady : Steady outside systems reply answer) (request : Request)
    (userId : Option Uuid) {state : State}
    (hstate : (idealHoldings policy outside systems).Hold state) (world : σ) :
    (idealHoldings policy outside systems).Hold
      (execute policy outside request userId state world).2.1 :=
  (Course.follows_complete (ideal_admits hsteady) hstate
    (Course.follows_start request userId (outside.clock world)) world).right

theorem executeSaved_seen (hsteady : Steady outside systems reply answer)
    (hinjective : Function.Injective policy.fingerprint) {queryId : Uuid} {forceRefresh : Bool}
    {world : σ}
    (hunhurried : forall query, loadSaved outside queryId world = .ok query ->
      Unhurried policy systems (.ofSaved query forceRefresh))
    (userId : Option Uuid) {state state' : State}
    (hstate : (idealHoldings policy outside systems).Hold state)
    (hstate' : (idealHoldings policy outside systems).Hold state') :
    Seen.ofResult (executeSaved policy outside queryId userId forceRefresh state world).1 =
      Seen.ofResult (executeSaved policy outside queryId userId forceRefresh state' world).1 := by
  unfold executeSaved
  cases hquery : loadSaved outside queryId world with
  | error failure => rfl
  | ok query =>
      cases hrunnable : checkRunnable query userId with
      | error failure => simp only [hrunnable, refuse]
      | ok allowed =>
          simp only [hrunnable]
          rw [execute_seen hsteady hinjective (hunhurried query hquery) userId hstate,
            execute_seen hsteady hinjective (hunhurried query hquery) userId hstate']

theorem hold_executeSaved (hsteady : Steady outside systems reply answer) (queryId : Uuid)
    (userId : Option Uuid) (forceRefresh : Bool) {state : State}
    (hstate : (idealHoldings policy outside systems).Hold state) (world : σ) :
    (idealHoldings policy outside systems).Hold
      (executeSaved policy outside queryId userId forceRefresh state world).2.1 := by
  unfold executeSaved
  cases loadSaved outside queryId world with
  | error failure => exact hstate
  | ok query =>
      cases hrunnable : checkRunnable query userId with
      | error failure =>
          simp only [hrunnable]
          exact ⟨hstate.registry, hstate.cache⟩
      | ok allowed =>
          simp only [hrunnable]
          exact hold_execute hsteady _ userId hstate world

end Ideal

/-!
# Histories
-/

inductive Action (σ : Type) where
  | execute (request : Request) (userId : Option Uuid)
  | executeSaved (queryId : Uuid) (userId : Option Uuid) (forceRefresh : Bool)
  | clearCache (systemId : Option Uuid)
  | invalidateQuery (queryId : Uuid)
  | purgeExpired
  /-- Time passes, or saved queries are edited. -/
  | outside (change : σ -> σ)

namespace Action

variable {policy : Policy} {outside : Outside σ} {systems : Uuid -> Registry.Loaded}
  {reply : Remote.Request -> Remote.Delivery} {answer : Job -> StatementAnswer}

def apply (policy : Policy) (outside : Outside σ) : Action σ -> State × σ -> State × σ
  | .execute request userId, (state, world) =>
      (Engine.execute policy outside request userId state world).2
  | .executeSaved queryId userId forceRefresh, (state, world) =>
      (Engine.executeSaved policy outside queryId userId forceRefresh state world).2
  | .clearCache systemId, (state, world) => (state.clearCache systemId, world)
  | .invalidateQuery queryId, (state, world) => ((state.invalidateQuery queryId).2, world)
  | .purgeExpired, (state, world) => ((state.purgeExpired (outside.clock world)).2, world)
  | .outside change, (state, world) => (state, change world)

def run (policy : Policy) (outside : Outside σ) (history : List (Action σ))
    (start : State × σ) : State × σ :=
  history.foldl (fun reached action => action.apply policy outside reached) start

theorem hold_apply (hsteady : Steady outside systems reply answer) (action : Action σ)
    {reached : State × σ} (hstate : (idealHoldings policy outside systems).Hold reached.1) :
    (idealHoldings policy outside systems).Hold (action.apply policy outside reached).1 := by
  rcases reached with ⟨state, world⟩
  cases action with
  | execute request userId => exact hold_execute hsteady request userId hstate world
  | executeSaved queryId userId forceRefresh =>
      exact hold_executeSaved hsteady queryId userId forceRefresh hstate world
  | clearCache systemId => exact hstate.clearCache systemId
  | invalidateQuery queryId => exact hstate.invalidateQuery queryId
  | purgeExpired => exact hstate.purgeExpired (outside.clock world)
  | outside change => exact hstate

theorem hold_run (hsteady : Steady outside systems reply answer) (history : List (Action σ))
    {start : State × σ} (hstart : (idealHoldings policy outside systems).Hold start.1) :
    (idealHoldings policy outside systems).Hold (run policy outside history start).1 := by
  induction history generalizing start with
  | nil => exact hstart
  | cons action history ih => exact ih (hold_apply hsteady action hstart)

/--
After any history an execution tells what it tells in an engine that has done
nothing.  That no time limit elapses means that the replies of systems do not
depend on it, and that it is not zero, which elapses at once.
-/
theorem seen_run_eq_seen_initial (hsteady : Steady outside systems reply answer)
    (hinjective : Function.Injective policy.fingerprint) (history : List (Action σ))
    (logCapacity feedCapacity : Nat) (start : σ) :
    let fresh := State.initial logCapacity feedCapacity
    let reached := run policy outside history (fresh, start)
    (forall request userId, Unhurried policy systems request ->
      Seen.ofResult (Engine.execute policy outside request userId reached.1 reached.2).1 =
        Seen.ofResult (Engine.execute policy outside request userId fresh reached.2).1) ∧
      (forall queryId userId forceRefresh,
        (forall query, loadSaved outside queryId reached.2 = .ok query ->
          Unhurried policy systems (.ofSaved query forceRefresh)) ->
        Seen.ofResult
            (Engine.executeSaved policy outside queryId userId forceRefresh reached.1 reached.2).1 =
          Seen.ofResult
            (Engine.executeSaved policy outside queryId userId forceRefresh fresh
              reached.2).1) := by
  intro fresh reached
  have hfresh : (idealHoldings policy outside systems).Hold fresh :=
    Holdings.hold_initial _ logCapacity feedCapacity
  have hreached : (idealHoldings policy outside systems).Hold reached.1 :=
    hold_run hsteady history hfresh
  constructor
  · intro request userId hunhurried
    rw [execute_seen hsteady hinjective hunhurried userId hreached,
      execute_seen hsteady hinjective hunhurried userId hfresh]
  · intro queryId userId forceRefresh hunhurried
    exact executeSaved_seen hsteady hinjective hunhurried userId hreached hfresh

/-- A world that is its clock, with a database that answers with the statement. -/
def echoing (systems : Uuid -> Registry.Loaded) : Outside Nat where
  clock world := world
  date _ := default
  newId world := (default, world)
  loadSystem id _ := systems id
  loadQuery _ _ := .ok none
  writeLogs entries world := (.ok entries.length, world)
  send _ _ world := (.lost, world)
  runStatement := some fun job _ world => (some (.ok (.text job.query)), world)

theorem steady_echoing (systems : Uuid -> Registry.Loaded) :
    Steady (echoing systems) systems (fun _ => .lost) fun job => some (.ok (.text job.query)) where
  loads _ _ := rfl
  replies _ _ _ := rfl
  answers run hrun := by
    intro job limit world
    injection hrun with hrun
    rw [← hrun]

/-- A kept result is asked for again, with another time limit and an empty method name. -/
theorem seen_run_eq_seen_initial_echoing :
    let system : Backend :=
      { Backend.plain (Uuid.ofNat 7) "echo" "http://echo" with
        methods := [Method.plain "ask" .sql ""] }
    let policy : Policy := ⟨30000, id⟩
    let outside := echoing fun _ => .ok (some system)
    let request : Request :=
      { Request.plain (Uuid.ofNat 7) "question" with cacheTtlSecs := some 60 }
    let again : Request := { request with method := some "", timeoutMs := some 5 }
    let fresh := State.initial 10 10
    let reached := run policy outside
      [.execute request none, .outside fun world => world + 1000, .purgeExpired] (fresh, 0)
    Seen.ofResult (Engine.execute policy outside again none reached.1 reached.2).1 =
      Seen.ofResult (Engine.execute policy outside again none fresh reached.2).1 := by
  intro system policy outside request again fresh reached
  have hunhurried : Unhurried policy (fun _ => .ok (some system)) again := by
    intro resolved job _ _
    show (5 : UInt64) ≠ 0
    decide
  exact (seen_run_eq_seen_initial (steady_echoing _) Function.injective_id _ 10 10 0).left
    again none hunhurried

end Action
end Engine
end QueryGateway
