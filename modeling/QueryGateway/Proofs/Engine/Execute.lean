import QueryGateway.Engine.Execute
import QueryGateway.Proofs.Cache.Store

/-!
# Executions step by step

Where an outcome is from, and a whole execution followed through the stages
that it goes through when nothing happens in between.
-/

namespace QueryGateway
namespace Engine

open Catalog Execution

variable {σ : Type} {policy : Policy} {outside : Outside σ}

namespace Job

theorem chosen_of_ofRequest {request : Request} {resolved : Resolved} {job : Job}
    (hjob : Job.ofRequest request resolved = .ok job) :
    resolved.system.chooseMethod request.method = .ok job.method ∧ job.resolved = resolved := by
  unfold Job.ofRequest at hjob
  cases hmethod : resolved.system.chooseMethod request.method with
  | error failure =>
      rw [hmethod] at hjob
      cases hjob
  | ok method =>
      rw [hmethod] at hjob
      cases hjob
      exact ⟨rfl, rfl⟩

theorem resolved_of_ofRequest {request : Request} {resolved : Resolved} {job : Job}
    (hjob : Job.ofRequest request resolved = .ok job) : job.resolved = resolved :=
  (chosen_of_ofRequest hjob).right

theorem systemName_of_outcome {job : Job} {requested : List String} {response : Json}
    {outcome : Outcome} (houtcome : job.outcome requested response = .ok outcome) :
    outcome.systemName = job.resolved.system.name := by
  unfold Job.outcome at houtcome
  cases happlied : Job.applyDeclared job.resolved.system requested (job.payload response) with
  | error failure =>
      rw [happlied] at houtcome
      cases houtcome
  | ok applied =>
      rw [happlied] at houtcome
      cases houtcome
      rfl

end Job

theorem resolve_of_error {load : Uuid -> Registry.Loaded} {id : Uuid} {registry : Registry}
    {failure : Failure} (hfailed : (registry.resolve load id).1 = .error failure) :
    registry.resolve load id = (.error failure, registry) := by
  unfold Registry.resolve at hfailed ⊢
  cases hfound : registry.get? id with
  | some resolved =>
      rw [hfound] at hfailed
      cases hfailed
  | none =>
      rw [hfound] at hfailed
      dsimp only at hfailed ⊢
      cases hvet : Registry.vet id (load id) with
      | ok resolved =>
          rw [hvet] at hfailed
          cases hfailed
      | error other =>
          rw [hvet] at hfailed
          cases hfailed
          rfl

theorem resolve_cases {load : Uuid -> Registry.Loaded} {id : Uuid} {registry : Registry}
    {resolved : Resolved} (hresolved : (registry.resolve load id).1 = .ok resolved) :
    registry.get? id = some resolved ∨
      (registry.get? id = none ∧ Registry.vet id (load id) = .ok resolved) := by
  unfold Registry.resolve at hresolved
  cases hfound : registry.get? id with
  | some remembered =>
      rw [hfound] at hresolved
      cases hresolved
      exact .inl rfl
  | none =>
      rw [hfound] at hresolved
      dsimp only at hresolved
      cases hvet : Registry.vet id (load id) with
      | error failure =>
          rw [hvet] at hresolved
          cases hresolved
      | ok loaded =>
          rw [hvet] at hresolved
          cases hresolved
          exact .inr ⟨rfl, rfl⟩

theorem loaded_of_vet {id : Uuid} {loaded : Registry.Loaded} {resolved : Resolved}
    (hvet : Registry.vet id loaded = .ok resolved) :
    loaded = .ok (some resolved.system) ∧ resolved.system.isActive = true ∧
      Remote.headersOf resolved.system = .ok resolved.headers := by
  cases loaded with
  | error failure => cases hvet
  | ok found =>
      cases found with
      | none => cases hvet
      | some system =>
          cases hactive : system.isActive with
          | false => simp [Registry.vet, bind, Except.bind, hactive, throw, throwThe,
              MonadExceptOf.throw] at hvet
          | true =>
              cases hheaders : Remote.headersOf system with
              | error failure =>
                  simp [Registry.vet, bind, Except.bind, hactive, hheaders] at hvet
              | ok headers =>
                  simp [Registry.vet, bind, Except.bind, hactive, hheaders, pure,
                    Except.pure] at hvet
                  subst hvet
                  exact ⟨rfl, hactive, hheaders⟩

theorem Stage.eq_done_of_result? {stage : Stage} {result : Result}
    (hresult : stage.result? = some result) : stage = .done result := by
  cases stage with
  | done final =>
      injection hresult with hsame
      rw [hsame]
  | _ => cases hresult

namespace Run

theorem exists_job_of_perform {request : Request} {resolved : Resolved} {world : σ}
    {outcome : Outcome}
    (houtcome : (perform policy outside request resolved world).1 = .ok outcome) :
    exists job response, Job.ofRequest request resolved = .ok job ∧
      job.outcome request.transformations response = .ok outcome := by
  unfold perform at houtcome
  cases hjob : Job.ofRequest request resolved with
  | error failure =>
      rw [hjob] at houtcome
      cases houtcome
  | ok job =>
      rw [hjob] at houtcome
      dsimp only at houtcome
      cases hresponse : (outside.call job (timeLimit request.timeoutMs job.method
          resolved.system policy.defaultLimitMs).toNat world).1 with
      | error failure =>
          rw [hresponse] at houtcome
          cases houtcome
      | ok response =>
          rw [hresponse] at houtcome
          exact ⟨job, response, rfl, houtcome⟩

theorem systemName_of_perform {request : Request} {resolved : Resolved} {world : σ}
    {outcome : Outcome}
    (houtcome : (perform policy outside request resolved world).1 = .ok outcome) :
    outcome.systemName = resolved.system.name := by
  rcases exists_job_of_perform houtcome with ⟨job, response, hjob, houtcome⟩
  rw [← Job.resolved_of_ofRequest hjob]
  exact Job.systemName_of_outcome houtcome

theorem complete_of_unfinished {run : Run} (hunfinished : run.stage.result? = none)
    (state : State) (world : σ) :
    run.complete policy outside state world =
      (run.step policy outside state world).1.complete policy outside
        (run.step policy outside state world).2.1 (run.step policy outside state world).2.2 := by
  rw [complete]
  split
  · rename_i result hresult
    rw [hunfinished] at hresult
    cases hresult
  · rfl

theorem complete_of_done {run : Run} {result : Result} (hdone : run.stage.result? = some result)
    (state : State) (world : σ) :
    run.complete policy outside state world = (result, state, world) := by
  rw [complete]
  split
  · rename_i other hother
    rw [hdone] at hother
    injection hother with hsame
    rw [hsame]
  · rename_i hnone
    rw [hdone] at hnone
    cases hnone

theorem lifetime_ne_zero {request : Request} {lifetime : Nat}
    (hlifetime : Run.lifetime request = some lifetime) : lifetime ≠ 0 := by
  unfold Run.lifetime at hlifetime
  rcases Option.map_eq_some_iff.mp hlifetime with ⟨seconds, hseconds, hmillis⟩
  have hpositive : 0 < seconds := by
    simpa using (Option.filter_eq_some_iff.mp hseconds).right
  have hnat : 0 < seconds.toNat := UInt64.lt_iff_toNat_lt.mp hpositive
  omega

/-- The end of an execution: the attempt is logged and the caller is told. -/
def tell (outside : Outside σ) (run : Run) (outcome : Except Failure Outcome) (cacheHit : Bool)
    (state : State) (world : σ) : Result × State × σ :=
  let (id, world) := outside.newId world
  let date := outside.date world
  let elapsedMs := outside.clock world - run.startedAt
  (run.result date elapsedMs outcome cacheHit,
    state.record (run.entry id date elapsedMs outcome cacheHit), world)

/-- The cache when an execution has come to an outcome that is worth keeping. -/
def keep (policy : Policy) (outside : Outside σ) (request : Request)
    (outcome : Except Failure Outcome) (world : σ) (cache : Cache.Store) : Cache.Store :=
  match outcome, lifetime request with
  | .ok outcome, some lifetime =>
      cache.insert (outside.clock world) (key policy request) outcome lifetime request.systemId
        request.queryId
  | _, _ => cache

/-- An execution that has found no result in the cache, from there to its end. -/
def afresh (policy : Policy) (outside : Outside σ) (run : Run) (state : State) (world : σ) :
    Result × State × σ :=
  let request := run.request
  let (resolved, registry) :=
    state.registry.resolve (fun id => outside.loadSystem id world) request.systemId
  match resolved with
  | .error failure => run.tell outside (.error failure) false { state with registry } world
  | .ok resolved =>
      let (outcome, world) := perform policy outside request resolved world
      let cache := keep policy outside request outcome world state.cache
      run.tell outside outcome false { state with registry, cache } world

theorem afresh_of_error {run : Run} {state : State} {world : σ} {failure : Failure}
    (hresolved : (state.registry.resolve (fun id => outside.loadSystem id world)
      run.request.systemId).1 = .error failure) :
    run.afresh policy outside state world =
      run.tell outside (.error failure) false state world := by
  simp only [afresh, resolve_of_error hresolved]

theorem afresh_of_ok {run : Run} {state : State} {world : σ} {resolved : Resolved}
    (hresolved : (state.registry.resolve (fun id => outside.loadSystem id world)
      run.request.systemId).1 = .ok resolved) :
    run.afresh policy outside state world =
      run.tell outside (perform policy outside run.request resolved world).1 false
        { state with
          registry := (state.registry.resolve (fun id => outside.loadSystem id world)
            run.request.systemId).2
          cache := keep policy outside run.request
            (perform policy outside run.request resolved world).1
            (perform policy outside run.request resolved world).2 state.cache }
        (perform policy outside run.request resolved world).2 := by
  simp only [afresh, hresolved]

theorem complete_tell (request : Request)
    (userId : Option Uuid) (startedAt : Nat) (outcome : Except Failure Outcome) (cacheHit : Bool)
    (state : State) (world : σ) :
    complete policy outside ⟨request, userId, startedAt, .reporting outcome cacheHit⟩ state world =
      tell outside ⟨request, userId, startedAt, .resolving⟩ outcome cacheHit state world := by
  rw [complete_of_unfinished rfl]
  exact complete_of_done rfl _ _

theorem complete_calling (request : Request) (userId : Option Uuid) (startedAt : Nat)
    (resolved : Resolved) (state : State) (world : σ) :
    complete policy outside ⟨request, userId, startedAt, .calling resolved⟩ state world =
      tell outside ⟨request, userId, startedAt, .resolving⟩
        (perform policy outside request resolved world).1 false
        { state with
          cache := keep policy outside request (perform policy outside request resolved world).1
            (perform policy outside request resolved world).2 state.cache }
        (perform policy outside request resolved world).2 := by
  rw [complete_of_unfinished rfl]
  simp only [step, next, Stage.ofOutcome]
  cases (perform policy outside request resolved world).1 with
  | error failure => exact complete_tell ..
  | ok outcome =>
      cases hlifetime : lifetime request with
      | none =>
          simp only [keep, hlifetime]
          exact complete_tell ..
      | some lifetime =>
          rw [complete_of_unfinished rfl]
          simp only [step, next, keep, hlifetime, Option.getD_some]
          exact complete_tell ..

theorem complete_resolving (request : Request) (userId : Option Uuid) (startedAt : Nat)
    (state : State) (world : σ) :
    complete policy outside ⟨request, userId, startedAt, .resolving⟩ state world =
      afresh policy outside ⟨request, userId, startedAt, .resolving⟩ state world := by
  rw [complete_of_unfinished rfl]
  simp only [step, next, afresh, Registry.resolve]
  cases state.registry.get? request.systemId with
  | some resolved => exact complete_calling ..
  | none =>
      dsimp only
      rw [complete_of_unfinished rfl]
      simp only [step, next]
      cases Registry.vet request.systemId (outside.loadSystem request.systemId world) with
      | error failure => exact complete_tell ..
      | ok resolved =>
          dsimp only
          rw [complete_of_unfinished rfl]
          exact complete_calling ..

end Run

/-- A whole execution: a search, if the request wants one, and else one from the start. -/
theorem execute_eq (policy : Policy) (outside : Outside σ) (request : Request)
    (userId : Option Uuid) (state : State) (world : σ) :
    execute policy outside request userId state world =
      let run : Run := ⟨request, userId, outside.clock world, .resolving⟩
      if (Run.lifetime request).isSome && !request.forceRefresh then
        let (found, cache) := state.cache.get (outside.clock world) (Run.key policy request)
        match found with
        | some outcome => run.tell outside (.ok outcome) true { state with cache } world
        | none => run.afresh policy outside { state with cache } world
      else run.afresh policy outside state world := by
  unfold execute Run.start Run.firstStage
  cases hlooks : (Run.lifetime request).isSome && !request.forceRefresh with
  | false =>
      simp only [Bool.false_eq_true, if_false]
      exact Run.complete_resolving ..
  | true =>
      simp only [if_true]
      rw [Run.complete_of_unfinished rfl]
      simp only [Run.step, Run.next, Run.search, Cache.Store.get]
      cases state.cache.look (outside.clock world) (Run.key policy request) with
      | fresh outcome => exact Run.complete_tell ..
      | stale =>
          dsimp only
          rw [Run.complete_of_unfinished rfl]
          exact Run.complete_resolving ..
      | absent => exact Run.complete_resolving ..

theorem execute_of_fresh {request : Request} {entry : Cache.Entry} {state : State} {world : σ}
    (hlifetime : (Run.lifetime request).isSome = true) (hforce : request.forceRefresh = false)
    (hentry : state.cache.entries.get? (Run.key policy request) = some entry)
    (hfresh : entry.isFresh (outside.clock world) = true) (userId : Option Uuid) :
    exists date elapsedMs,
      (execute policy outside request userId state world).1 =
        succeeded entry.result elapsedMs true date := by
  have hfound : (state.cache.get (outside.clock world) (Run.key policy request)).1 =
      some entry.result := by
    simp [Cache.Store.get_fst, hentry, Option.filter, hfresh]
  rw [execute_eq]
  simp only [hlifetime, hforce, Bool.not_false, Bool.and_self, if_true, hfound]
  exact ⟨_, _, rfl⟩

theorem execute_of_kept {request : Request} {entry : Cache.Entry} {state : State} {world : σ}
    (hlifetime : (Run.lifetime request).isSome = true) (hforce : request.forceRefresh = false)
    (hentry : state.cache.entries.get? (Run.key policy request) = some entry)
    (hfresh : entry.isFresh (outside.clock world) = true) (userId : Option Uuid) :
    exists date elapsedMs cacheHit,
      (execute policy outside request userId state world).1 =
        (Run.start policy request userId (outside.clock world)).result date elapsedMs
          (.ok entry.result) cacheHit := by
  rcases execute_of_fresh hlifetime hforce hentry hfresh userId with ⟨date, elapsedMs, htold⟩
  exact ⟨date, elapsedMs, true, htold⟩

theorem execute_of_remembered {request : Request} {resolved : Resolved} {state : State} {world : σ}
    (hlifetime : Run.lifetime request = none)
    (hremembered : state.registry.get? request.systemId = some resolved) (userId : Option Uuid) :
    exists date elapsedMs cacheHit,
      (execute policy outside request userId state world).1 =
        (Run.start policy request userId (outside.clock world)).result date elapsedMs
          (Run.perform policy outside request resolved world).1 cacheHit := by
  rw [execute_eq]
  simp only [hlifetime, Option.isSome_none, Bool.false_and, Bool.false_eq_true, if_false,
    Run.afresh, Registry.resolve, hremembered]
  exact ⟨_, _, false, rfl⟩

end Engine
end QueryGateway
