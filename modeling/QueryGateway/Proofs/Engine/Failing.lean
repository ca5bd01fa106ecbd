import QueryGateway.Proofs.Engine.Activity

/-!
# Failed executions

An execution that fails, at whatever stage, tells of its failure and leaves
behind what it found: in the cache only a stale result of its own key may be
missing, and a system that could not be resolved is not remembered.
-/

namespace QueryGateway
namespace Engine

open Catalog Execution

variable {σ : Type} {policy : Policy} {outside : Outside σ}

/-- A result that tells of a failure and carries nothing else. -/
structure TellsFailure (result : Result) : Prop where
  success : result.success = false
  error : exists failure, result.error = some (.ofFailure failure)
  data : result.data = none
  recordCount : result.metadata.recordCount = 0
  cacheHit : result.metadata.cacheHit = false
  transformationsApplied : result.metadata.transformationsApplied = []

namespace Run

theorem tellsFailure_tell (run : Run) (failure : Failure) (cacheHit : Bool) (state : State)
    (world : σ) : TellsFailure (run.tell outside (.error failure) cacheHit state world).1 where
  success := rfl
  error := ⟨failure, rfl⟩
  data := rfl
  recordCount := rfl
  cacheHit := rfl
  transformationsApplied := rfl

theorem failure_of_tell {run : Run} {outcome : Except Failure Outcome} {cacheHit : Bool}
    {state : State} {world : σ}
    (hfailed : (run.tell outside outcome cacheHit state world).1.success = false) :
    exists failure, outcome = .error failure := by
  cases outcome with
  | error failure => exact ⟨failure, rfl⟩
  | ok outcome => cases hfailed

theorem afresh_failed {run : Run} {state : State} {world : σ}
    (hfailed : (run.afresh policy outside state world).1.success = false) :
    TellsFailure (run.afresh policy outside state world).1 ∧
      (run.afresh policy outside state world).2.1.cache = state.cache ∧
      forall failure,
        (state.registry.resolve (fun id => outside.loadSystem id world)
            run.request.systemId).1 = .error failure ->
          (run.afresh policy outside state world).2.1.registry = state.registry ∧
            (run.afresh policy outside state world).1.error = some (.ofFailure failure) := by
  cases hresolved : (state.registry.resolve (fun id => outside.loadSystem id world)
      run.request.systemId).1 with
  | error failure =>
      rw [afresh_of_error hresolved]
      refine ⟨tellsFailure_tell run failure false state world, rfl, ?_⟩
      intro other hother
      cases hother
      exact ⟨rfl, rfl⟩
  | ok resolved =>
      rw [afresh_of_ok hresolved] at hfailed ⊢
      rcases failure_of_tell hfailed with ⟨failure, hfailure⟩
      rw [hfailure]
      refine ⟨tellsFailure_tell run failure false _ _, rfl, ?_⟩
      intro other hother
      cases hother

end Run

/-- A failed execution found no result, and its search removed at most a stale one. -/
theorem execute_eq_afresh {request : Request} {userId : Option Uuid} {state : State} {world : σ}
    (hfailed : (execute policy outside request userId state world).1.success = false) :
    exists cache : Cache.Store,
      Cache.Store.Spared (outside.clock world) (Run.key policy request) state.cache.entries
          cache.entries ∧
        (request.forceRefresh = true -> cache = state.cache) ∧
        execute policy outside request userId state world =
          Run.afresh policy outside ⟨request, userId, outside.clock world, .resolving⟩
            { state with cache } world := by
  rw [execute_eq] at hfailed ⊢
  cases hlooks : (Run.lifetime request).isSome && !request.forceRefresh with
  | false =>
      simp only [Bool.false_eq_true, if_false]
      exact ⟨state.cache, .inl rfl, fun _ => rfl, rfl⟩
  | true =>
      simp only [hlooks, if_true] at hfailed ⊢
      cases hfound : (state.cache.get (outside.clock world) (Run.key policy request)).1 with
      | some outcome =>
          simp only [hfound] at hfailed
          cases hfailed
      | none =>
          refine ⟨(state.cache.get (outside.clock world) (Run.key policy request)).2,
            Cache.Store.spared_get _ _ _, ?_, rfl⟩
          intro hforce
          rw [hforce, Bool.not_true, Bool.and_false] at hlooks
          cases hlooks

/--
A failed execution tells of its failure alone.  Of what is kept it removes at
most a stale result of its own key, and it remembers no system that could not
be resolved.  A refresh that fails leaves the kept result in its place: asked
without a refresh, the request is answered with it as long as it is fresh.
-/
theorem execute_failed {request : Request} {userId : Option Uuid} {state : State} {world : σ}
    (hfailed : (execute policy outside request userId state world).1.success = false) :
    let told := (execute policy outside request userId state world).1
    let after := (execute policy outside request userId state world).2.1
    let key := Run.key policy request
    TellsFailure told ∧
      Cache.Store.Spared (outside.clock world) key state.cache.entries after.cache.entries ∧
      (forall other entry, state.cache.entries.get? other = some entry ->
        entry.isFresh (outside.clock world) = true ->
          after.cache.entries.get? other = some entry) ∧
      (forall failure,
        (state.registry.resolve (fun id => outside.loadSystem id world) request.systemId).1 =
            .error failure ->
          after.registry = state.registry ∧ told.error = some (.ofFailure failure)) ∧
      (request.forceRefresh = true ->
        after.cache.entries = state.cache.entries ∧
          forall entry userId' later, (Run.lifetime request).isSome = true ->
            state.cache.entries.get? key = some entry ->
              entry.isFresh (outside.clock later) = true ->
                exists date elapsedMs,
                  (execute policy outside { request with forceRefresh := false } userId' after
                    later).1 = succeeded entry.result elapsedMs true date) := by
  intro told after key
  rcases execute_eq_afresh hfailed with ⟨cache, hspared, hforced, hafresh⟩
  have htold : told = (Run.afresh policy outside ⟨request, userId, outside.clock world, .resolving⟩
      { state with cache } world).1 := congrArg Prod.fst hafresh
  have hafter : after = (Run.afresh policy outside
      ⟨request, userId, outside.clock world, .resolving⟩ { state with cache } world).2.1 :=
    congrArg (fun ended => ended.2.1) hafresh
  rw [hafresh] at hfailed
  rcases Run.afresh_failed hfailed with ⟨htells, hcache, hregistry⟩
  rw [← htold] at htells hregistry
  rw [← hafter] at hcache hregistry
  have hsparedAfter : Cache.Store.Spared (outside.clock world) key state.cache.entries
      after.cache.entries := by
    rw [hcache]
    exact hspared
  refine ⟨htells, hsparedAfter, ?_, hregistry, ?_⟩
  · intro other entry hentry hfresh
    exact hsparedAfter.get?_of_isFresh hentry hfresh
  · intro hforce
    have hentries : after.cache.entries = state.cache.entries := by
      rw [hcache]
      exact congrArg Cache.Store.entries (hforced hforce)
    refine ⟨hentries, ?_⟩
    intro entry userId' later hlifetime hentry hfresh
    have hentryAfter : after.cache.entries.get? key = some entry := by
      rw [hentries]
      exact hentry
    have hlooks : (Run.lifetime { request with forceRefresh := false }).isSome = true := hlifetime
    exact execute_of_fresh hlooks rfl hentryAfter hfresh userId'

/-!
# A database that goes down
-/

namespace Breaking

open Repeating

/-- A database that answers during the first second, and then no more. -/
def breaking : Outside Nat :=
  { Action.echoing fun _ => .ok (some system) with
    runStatement := some fun job _ world =>
      (some (if world < 1000 then .ok (.text job.query) else .error (.store "gone")), world) }

def forced : Request :=
  { question none with forceRefresh := true }

def answered : State :=
  (execute plainKeys breaking (question none) none (.initial 10 10) 0).2.1

theorem forced_fails :
    (execute plainKeys breaking forced none answered 2000).1.success = false ∧
      (answered.cache.entries.get? (Run.key plainKeys forced)).any
        (Cache.Entry.isFresh 59999) = true := by
  unfold answered
  rw [execute_eq, execute_eq]
  decide +kernel

/-- The kept answer outlives a refresh that fails, up to the end of its minute. -/
theorem execute_failed_forced :
    let failing := execute plainKeys breaking forced none answered 2000
    TellsFailure failing.1 ∧
      exists outcome date elapsedMs,
        (execute plainKeys breaking (question none) none failing.2.1 59999).1 =
          succeeded outcome elapsedMs true date := by
  intro failing
  rcases forced_fails with ⟨hfailed, hkept⟩
  rw [Option.any_eq_true] at hkept
  rcases hkept with ⟨entry, hentry, hfresh⟩
  rcases execute_failed hfailed with ⟨htells, _, _, _, hrefresh⟩
  rcases (hrefresh rfl).right entry none 59999 rfl hentry hfresh with ⟨date, elapsedMs, htold⟩
  exact ⟨htells, entry.result, date, elapsedMs, htold⟩

end Breaking
end Engine
end QueryGateway
