import QueryGateway.Engine.Execute
import QueryGateway.Proofs.Cache.Store

/-!
# Where results come from

What an execution tells comes from a definition that it loaded or found in the
registry, or from a result that it found in the cache.  Conditions that hold of
what is loaded and of what is computed therefore hold of all that is
remembered, kept and told, whatever other executions do between two steps.
-/

namespace QueryGateway
namespace Engine

open Catalog Execution

/-- Conditions on what the registry and the cache hold. -/
structure Holdings where
  remembered : Uuid -> Resolved -> Prop
  kept : Cache.Key -> Cache.Entry -> Prop

/-- Conditions on what an execution uses, is about to keep, and tells. -/
structure Course where
  used : Request -> Resolved -> Prop
  pending : Request -> Outcome -> Prop
  told : Request -> Except Failure Outcome -> Prop

def anyCourse : Course :=
  ⟨fun _ _ => True, fun _ _ => True, fun _ _ => True⟩

structure Holdings.Hold (holdings : Holdings) (state : State) : Prop where
  registry : state.registry.All holdings.remembered
  cache : state.cache.entries.All holdings.kept

/-- What the conditions ask of an execution at each stage. -/
def Course.Follows (course : Course) (holdings : Holdings) (policy : Policy) (run : Run) : Prop :=
  match run.stage with
  | .searching key => key = Run.key policy run.request
  | .discarding _ => True
  | .resolving => True
  | .loading => True
  | .remembering resolved => holdings.remembered run.request.systemId resolved
  | .calling resolved => course.used run.request resolved
  | .keeping outcome => course.pending run.request outcome
  | .reporting outcome _ => course.told run.request outcome
  | .done result =>
      exists outcome date elapsedMs cacheHit, course.told run.request outcome ∧
        result = run.result date elapsedMs outcome cacheHit

variable {σ : Type}

/-- The conditions hold of what is loaded, computed and found in a state of the world. -/
structure Course.Admits (course : Course) (holdings : Holdings) (policy : Policy)
    (outside : Outside σ) (world : σ) : Prop where
  loaded : forall id resolved,
    Registry.vet id (outside.loadSystem id world) = .ok resolved ->
      holdings.remembered id resolved
  refused : forall request failure,
    Registry.vet request.systemId (outside.loadSystem request.systemId world) = .error failure ->
      course.told request (.error failure)
  of_remembered : forall request resolved,
    holdings.remembered request.systemId resolved -> course.used request resolved
  answered : forall request resolved, course.used request resolved ->
    course.told request (Run.perform policy outside request resolved world).1
  performed : forall request resolved outcome, course.used request resolved ->
    Run.lifetime request ≠ none ->
      (Run.perform policy outside request resolved world).1 = .ok outcome ->
        course.pending request outcome
  inserted : forall request outcome lifetime, course.pending request outcome ->
    Run.lifetime request = some lifetime ->
      holdings.kept (Run.key policy request)
        ⟨outcome, outside.clock world, lifetime, request.systemId, request.queryId⟩
  of_pending : forall request outcome, course.pending request outcome ->
    course.told request (.ok outcome)
  of_kept : forall request entry, holdings.kept (Run.key policy request) entry ->
    entry.isFresh (outside.clock world) = true -> course.told request (.ok entry.result)

/-!
# Steps
-/

namespace Holdings

variable {holdings : Holdings}

theorem hold_initial (holdings : Holdings) (logCapacity feedCapacity : Nat) :
    holdings.Hold (State.initial logCapacity feedCapacity) :=
  ⟨Table.all_empty _, Table.all_empty _⟩

namespace Hold

theorem clearCache {state : State} (hstate : holdings.Hold state) (systemId : Option Uuid) :
    holdings.Hold (state.clearCache systemId) := by
  cases systemId with
  | none => exact ⟨Table.all_empty _, Table.all_empty _⟩
  | some id =>
      constructor
      · intro other resolved hmem
        exact (Table.all_erase hstate.registry id other resolved hmem).left
      · intro key entry hmem
        exact (Cache.Store.all_dropWhere hstate.cache _ key entry hmem).left

theorem invalidateQuery {state : State} (hstate : holdings.Hold state) (queryId : Uuid) :
    holdings.Hold (state.invalidateQuery queryId).2 := by
  constructor
  · exact hstate.registry
  · intro key entry hmem
    exact (Cache.Store.all_dropWhere hstate.cache _ key entry hmem).left

theorem purgeExpired {state : State} (hstate : holdings.Hold state) (now : Nat) :
    holdings.Hold (state.purgeExpired now).2 := by
  constructor
  · exact hstate.registry
  · intro key entry hmem
    exact (Cache.Store.all_dropWhere hstate.cache _ key entry hmem).left

end Hold
end Holdings

namespace Course

variable {course : Course} {holdings : Holdings} {policy : Policy} {outside : Outside σ}

theorem follows_start (request : Request) (userId : Option Uuid) (now : Nat) :
    course.Follows holdings policy (Run.start policy request userId now) := by
  unfold Run.start Run.firstStage
  split
  · show Run.key policy request = Run.key policy request
    rfl
  · trivial

/-- A step keeps to the conditions, in the engine and in the execution. -/
theorem follows_step {run : Run} {state : State} {world : σ}
    (hadmits : course.Admits holdings policy outside world) (hstate : holdings.Hold state)
    (hrun : course.Follows holdings policy run) :
    course.Follows holdings policy (run.step policy outside state world).1 ∧
      holdings.Hold (run.step policy outside state world).2.1 := by
  rcases run with ⟨request, userId, startedAt, stage⟩
  cases stage with
  | searching key =>
      have hkey : key = Run.key policy request := hrun
      cases hentry : state.cache.entries.get? key with
      | none =>
          simp only [Run.step, Run.next, Run.search, Cache.Store.look, hentry]
          exact ⟨trivial, hstate.registry, hstate.cache⟩
      | some entry =>
          -- The entry is under the key of the request, so its condition is one on the request.
          have hkept := Table.of_all_get? hstate.cache hentry
          rw [hkey] at hkept
          cases hfresh : entry.isFresh (outside.clock world) with
          | true =>
              simp only [Run.step, Run.next, Run.search, Cache.Store.look, hentry, hfresh, if_true]
              exact ⟨hadmits.of_kept request entry hkept hfresh, hstate.registry, hstate.cache⟩
          | false =>
              simp only [Run.step, Run.next, Run.search, Cache.Store.look, hentry, hfresh,
                Bool.false_eq_true, if_false]
              exact ⟨trivial, hstate.registry, hstate.cache⟩
  | discarding key =>
      exact ⟨trivial, hstate.registry, Cache.Store.all_dropStale hstate.cache _ key⟩
  | resolving =>
      cases hfound : state.registry.get? request.systemId with
      | none =>
          simp only [Run.step, Run.next, hfound]
          exact ⟨trivial, hstate⟩
      | some resolved =>
          have hremembered := Table.of_all_get? hstate.registry hfound
          simp only [Run.step, Run.next, hfound]
          exact ⟨hadmits.of_remembered request resolved hremembered, hstate⟩
  | loading =>
      cases hvet : Registry.vet request.systemId (outside.loadSystem request.systemId world) with
      | error failure =>
          simp only [Run.step, Run.next, hvet]
          exact ⟨hadmits.refused request failure hvet, hstate⟩
      | ok resolved =>
          simp only [Run.step, Run.next, hvet]
          exact ⟨hadmits.loaded request.systemId resolved hvet, hstate⟩
  | remembering resolved =>
      have hremembered : holdings.remembered request.systemId resolved := hrun
      exact ⟨hadmits.of_remembered request resolved hremembered,
        Table.all_set hstate.registry hremembered, hstate.cache⟩
  | calling resolved =>
      have hused : course.used request resolved := hrun
      have hanswered := hadmits.answered request resolved hused
      cases houtcome : (Run.perform policy outside request resolved world).1 with
      | error failure =>
          rw [houtcome] at hanswered
          simp only [Run.step, Run.next, houtcome, Stage.ofOutcome]
          exact ⟨hanswered, hstate⟩
      | ok outcome =>
          rw [houtcome] at hanswered
          cases hlifetime : Run.lifetime request with
          | none =>
              simp only [Run.step, Run.next, houtcome, Stage.ofOutcome, hlifetime]
              exact ⟨hanswered, hstate⟩
          | some lifetime =>
              have hpending := hadmits.performed request resolved outcome hused
                (by simp [hlifetime]) houtcome
              simp only [Run.step, Run.next, houtcome, Stage.ofOutcome, hlifetime]
              exact ⟨hpending, hstate⟩
  | keeping outcome =>
      have hpending : course.pending request outcome := hrun
      refine ⟨hadmits.of_pending request outcome hpending, hstate.registry, ?_⟩
      apply Cache.Store.all_insert hstate.cache
      intro hlifetime
      cases hsome : Run.lifetime request with
      | none =>
          rw [hsome] at hlifetime
          exact absurd rfl hlifetime
      | some lifetime => exact hadmits.inserted request outcome lifetime hpending hsome
  | reporting outcome cacheHit =>
      exact ⟨⟨outcome, _, _, cacheHit, hrun, rfl⟩, hstate.registry, hstate.cache⟩
  | done result => exact ⟨hrun, hstate⟩

theorem follows_complete {run : Run} {state : State}
    (hadmits : forall world, course.Admits holdings policy outside world)
    (hstate : holdings.Hold state) (hrun : course.Follows holdings policy run) (world : σ) :
    (exists outcome date elapsedMs cacheHit, course.told run.request outcome ∧
      (run.complete policy outside state world).1 = run.result date elapsedMs outcome cacheHit) ∧
      holdings.Hold (run.complete policy outside state world).2.1 := by
  fun_induction Run.complete policy outside run state world with
  | case1 run state world result hdone =>
      refine ⟨?_, hstate⟩
      rcases run with ⟨request, userId, startedAt, stage⟩
      cases stage with
      | done final =>
          injection hdone with hsame
          rw [← hsame]
          exact hrun
      | _ => cases hdone
  | case2 run state world hunfinished after ih =>
      rcases follows_step (hadmits world) hstate hrun with ⟨hafter, hstateAfter⟩
      exact ih hstateAfter hafter

end Course
end Engine
end QueryGateway
