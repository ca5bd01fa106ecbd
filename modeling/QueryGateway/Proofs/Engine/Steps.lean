import QueryGateway.Proofs.Engine.Execute

/-!
# What a step does

The stages that may follow each other, and what a step does to the cache, to
the journal and to the feed of news.  What a whole execution does follows.
-/

namespace QueryGateway
namespace Engine

open Catalog Execution

variable {σ : Type}

namespace Stage

def isHit : Stage -> Bool
  | .reporting (.ok _) cacheHit => cacheHit
  | .done result => result.metadata.cacheHit
  | _ => false

def isUnreportedHit : Stage -> Bool
  | .reporting (.ok _) cacheHit => cacheHit
  | _ => false

def isUnfinished (stage : Stage) : Bool :=
  stage.result?.isNone

theorem isUnfinished_of_isUnreportedHit {stage : Stage} (hhit : stage.isUnreportedHit = true) :
    stage.isUnfinished = true := by
  cases stage with
  | done result => cases hhit
  | _ => rfl

end Stage

namespace Run

variable {policy : Policy} {outside : Outside σ}

/-!
# The order of stages
-/

inductive LeadsTo (run : Run) : Stage -> Stage -> Prop where
  | found (key : Cache.Key) (outcome : Outcome) :
      LeadsTo run (.searching key) (.reporting (.ok outcome) true)
  | stale (key : Cache.Key) : LeadsTo run (.searching key) (.discarding key)
  | absent (key : Cache.Key) : LeadsTo run (.searching key) .resolving
  | discarded (key : Cache.Key) : LeadsTo run (.discarding key) .resolving
  | remembered (resolved : Resolved) : LeadsTo run .resolving (.calling resolved)
  | unknown : LeadsTo run .resolving .loading
  | loaded (resolved : Resolved) : LeadsTo run .loading (.remembering resolved)
  | unusable (failure : Failure) : LeadsTo run .loading (.reporting (.error failure) false)
  | known (resolved : Resolved) : LeadsTo run (.remembering resolved) (.calling resolved)
  | unanswered (resolved : Resolved) (failure : Failure) :
      LeadsTo run (.calling resolved) (.reporting (.error failure) false)
  | answered (resolved : Resolved) (outcome : Outcome) :
      LeadsTo run (.calling resolved) (.reporting (.ok outcome) false)
  | worthKeeping (resolved : Resolved) (outcome : Outcome) (lifetime : Nat)
      (hlifetime : Run.lifetime run.request = some lifetime) :
      LeadsTo run (.calling resolved) (.keeping outcome)
  | kept (outcome : Outcome) : LeadsTo run (.keeping outcome) (.reporting (.ok outcome) false)
  | reported (outcome : Except Failure Outcome) (cacheHit : Bool) (date : Timestamp)
      (elapsedMs : Nat) :
      LeadsTo run (.reporting outcome cacheHit)
        (.done (run.result date elapsedMs outcome cacheHit))
  | over (result : Result) : LeadsTo run (.done result) (.done result)

theorem leadsTo_step (policy : Policy) (outside : Outside σ) (run : Run) (state : State)
    (world : σ) :
    run.LeadsTo run.stage (run.step policy outside state world).1.stage := by
  rcases run with ⟨request, userId, startedAt, stage⟩
  cases stage with
  | searching key =>
      simp only [step, next, search]
      cases state.cache.look (outside.clock world) key with
      | fresh outcome => exact .found key outcome
      | stale => exact .stale key
      | absent => exact .absent key
  | discarding key => exact .discarded key
  | resolving =>
      simp only [step, next]
      cases state.registry.get? request.systemId with
      | none => exact .unknown
      | some resolved => exact .remembered resolved
  | loading =>
      simp only [step, next]
      cases Registry.vet request.systemId (outside.loadSystem request.systemId world) with
      | error failure => exact .unusable failure
      | ok resolved => exact .loaded resolved
  | remembering resolved => exact .known resolved
  | calling resolved =>
      simp only [step, next]
      cases (perform policy outside request resolved world).1 with
      | error failure => exact .unanswered resolved failure
      | ok outcome =>
          cases hlifetime : Run.lifetime request with
          | none => exact .answered resolved outcome
          | some lifetime => exact .worthKeeping resolved outcome lifetime hlifetime
  | keeping outcome => exact .kept outcome
  | reporting outcome cacheHit => exact .reported outcome cacheHit _ _
  | done result => exact .over result

theorem not_searching_step (run : Run) (state : State) (world : σ) (searched : Cache.Key) :
    (run.step policy outside state world).1.stage ≠ .searching searched := by
  intro hstage
  have hleads := run.leadsTo_step policy outside state world
  rw [hstage] at hleads
  generalize run.stage = before at hleads
  cases hleads

/-- The keys of an execution are its own, and what it is about to keep has a lifetime. -/
def Proper (policy : Policy) (run : Run) : Prop :=
  match run.stage with
  | .searching searched => searched = key policy run.request
  | .discarding searched => searched = key policy run.request
  | .keeping _ => exists lifetime, Run.lifetime run.request = some lifetime
  | _ => True

theorem proper_start (policy : Policy) (request : Request) (userId : Option Uuid) (now : Nat) :
    (start policy request userId now).Proper policy := by
  unfold start firstStage
  split
  · show key policy request = key policy request
    rfl
  · trivial

theorem proper_step {run : Run} (hproper : run.Proper policy) (state : State) (world : σ) :
    (run.step policy outside state world).1.Proper policy := by
  have hleads := run.leadsTo_step policy outside state world
  have hrequest : (run.step policy outside state world).1.request = run.request := rfl
  unfold Proper at hproper ⊢
  rw [hrequest]
  generalize run.stage = before at hleads hproper
  generalize (run.step policy outside state world).1.stage = after at hleads ⊢
  cases hleads with
  | stale key => exact hproper
  | worthKeeping resolved outcome lifetime hlifetime => exact ⟨lifetime, hlifetime⟩
  | _ => trivial

theorem isHit_start (policy : Policy) (request : Request) (userId : Option Uuid) (now : Nat) :
    (start policy request userId now).stage.isHit = false := by
  unfold start firstStage
  split
  · rfl
  · rfl

theorem isHit_step {run : Run} (hstage : forall searched, run.stage ≠ .searching searched)
    (state : State) (world : σ) :
    (run.step policy outside state world).1.stage.isHit = run.stage.isHit := by
  have hleads := run.leadsTo_step policy outside state world
  generalize run.stage = before at hleads hstage ⊢
  generalize (run.step policy outside state world).1.stage = after at hleads ⊢
  cases hleads with
  | found key outcome => exact absurd rfl (hstage key)
  | stale key => exact absurd rfl (hstage key)
  | absent key => exact absurd rfl (hstage key)
  | reported outcome cacheHit date elapsedMs =>
      cases outcome with
      | error failure => rfl
      | ok outcome => rfl
  | _ => rfl

theorem isUnreportedHit_step (policy : Policy) (outside : Outside σ) {run : Run}
    (hsearch : forall searched, run.stage ≠ .searching searched)
    (hreport : forall outcome cacheHit, run.stage ≠ .reporting outcome cacheHit) (state : State)
    (world : σ) :
    run.stage.isUnreportedHit = false ∧
      (run.step policy outside state world).1.stage.isUnreportedHit = false := by
  have hleads := run.leadsTo_step policy outside state world
  generalize run.stage = before at hleads hsearch hreport ⊢
  generalize (run.step policy outside state world).1.stage = after at hleads ⊢
  cases hleads with
  | found key outcome => exact absurd rfl (hsearch key)
  | reported outcome cacheHit date elapsedMs => exact absurd rfl (hreport outcome cacheHit)
  | _ => exact ⟨rfl, rfl⟩

theorem isUnfinished_step {run : Run}
    (hstage : forall outcome cacheHit, run.stage ≠ .reporting outcome cacheHit) (state : State)
    (world : σ) :
    (run.step policy outside state world).1.stage.isUnfinished = run.stage.isUnfinished := by
  have hleads := run.leadsTo_step policy outside state world
  generalize run.stage = before at hleads hstage ⊢
  generalize (run.step policy outside state world).1.stage = after at hleads ⊢
  cases hleads with
  | reported outcome cacheHit date elapsedMs => exact absurd rfl (hstage outcome cacheHit)
  | _ => rfl

/-!
# The cache
-/

def cacheAfter (policy : Policy) (outside : Outside σ) (run : Run) (cache : Cache.Store)
    (world : σ) : Cache.Store :=
  match run.stage with
  | .searching key => cache.count (cache.look (outside.clock world) key)
  | .discarding key => cache.dropStale (outside.clock world) key
  | .keeping outcome =>
      cache.insert (outside.clock world) (key policy run.request) outcome
        ((lifetime run.request).getD 0) run.request.systemId run.request.queryId
  | _ => cache

theorem cache_step (run : Run) (state : State) (world : σ) :
    (run.step policy outside state world).2.1.cache =
      run.cacheAfter policy outside state.cache world := by
  rcases run with ⟨request, userId, startedAt, stage⟩
  cases stage with
  | searching key =>
      simp only [step, next, search, cacheAfter]
      cases state.cache.look (outside.clock world) key with
      | fresh outcome => rfl
      | stale => rfl
      | absent => rfl
  | resolving =>
      simp only [step, next, cacheAfter]
      cases state.registry.get? request.systemId with
      | none => rfl
      | some resolved => rfl
  | loading =>
      simp only [step, next, cacheAfter]
      cases Registry.vet request.systemId (outside.loadSystem request.systemId world) with
      | error failure => rfl
      | ok resolved => rfl
  | _ => rfl

theorem hits_step_of_not_searching {run : Run}
    (hstage : forall searched, run.stage ≠ .searching searched) (state : State) (world : σ) :
    (run.step policy outside state world).2.1.cache.hits = state.cache.hits := by
  rw [cache_step]
  unfold cacheAfter
  split
  · rename_i key hsearching
    exact absurd hsearching (hstage key)
  · exact Cache.Store.hits_dropStale _ _ _
  · exact Cache.Store.hits_insert _ _ _ _ _ _ _
  · rfl

theorem unique_step {state : State} (hunique : state.cache.entries.Unique) (run : Run)
    (world : σ) : (run.step policy outside state world).2.1.cache.entries.Unique := by
  rw [cache_step]
  unfold cacheAfter
  split
  · rw [Cache.Store.entries_count]
    exact hunique
  · exact Cache.Store.unique_dropStale _ _ _ hunique
  · exact Cache.Store.unique_insert _ _ _ _ _ _ _ hunique
  · exact hunique

/-- An entry that is there after a step was there before, or it is the one that was kept. -/
theorem get?_of_step {run : Run} {state : State} {world : σ} {other : Cache.Key}
    {entry : Cache.Entry}
    (hentry : (run.step policy outside state world).2.1.cache.entries.get? other = some entry) :
    state.cache.entries.get? other = some entry ∨
      (exists outcome, run.stage = .keeping outcome) ∧ key policy run.request = other ∧
        entry.systemId = run.request.systemId ∧ entry.queryId = run.request.queryId := by
  rw [cache_step] at hentry
  unfold cacheAfter at hentry
  split at hentry
  · rw [Cache.Store.entries_count] at hentry
    exact Or.inl hentry
  · rw [Cache.Store.get?_dropStale] at hentry
    split at hentry
    · exact Or.inl (Option.filter_eq_some_iff.mp hentry).left
    · exact Or.inl hentry
  · rename_i outcome hstage
    rw [Cache.Store.get?_insert] at hentry
    split at hentry
    · rename_i hkept
      cases hentry
      exact Or.inr ⟨⟨outcome, hstage⟩, hkept.left, rfl, rfl⟩
    · exact Or.inl hentry
  · exact Or.inl hentry

theorem get?_step_keeping {run : Run} {outcome : Outcome} {lifetime : Nat}
    (hstage : run.stage = .keeping outcome) (hlifetime : Run.lifetime run.request = some lifetime)
    (state : State) (world : σ) (other : Cache.Key) :
    (run.step policy outside state world).2.1.cache.entries.get? other =
      if key policy run.request = other then
        some ⟨outcome, outside.clock world, lifetime, run.request.systemId, run.request.queryId⟩
      else state.cache.entries.get? other := by
  have hnonzero : lifetime ≠ 0 := lifetime_ne_zero hlifetime
  rw [cache_step]
  simp only [cacheAfter, hstage, hlifetime, Option.getD_some, Cache.Store.get?_insert, hnonzero,
    ne_eq, not_false_eq_true, and_true]

theorem get?_step_of_ne {run : Run} (hproper : run.Proper policy) {other : Cache.Key}
    (hother : key policy run.request ≠ other) (state : State) (world : σ) :
    (run.step policy outside state world).2.1.cache.entries.get? other =
      state.cache.entries.get? other := by
  rw [cache_step]
  unfold cacheAfter
  split
  · rw [Cache.Store.entries_count]
  · rename_i searched hstage
    have hsearched : searched = key policy run.request := by
      simpa only [Proper, hstage] using hproper
    rw [Cache.Store.get?_dropStale, hsearched, if_neg hother]
  · rw [Cache.Store.get?_insert, if_neg fun hkept => hother hkept.left]
  · rfl

theorem get?_complete_of_ne {run : Run} (hproper : run.Proper policy) {other : Cache.Key}
    (hother : key policy run.request ≠ other) (state : State) (world : σ) :
    (run.complete policy outside state world).2.1.cache.entries.get? other =
      state.cache.entries.get? other := by
  fun_induction complete policy outside run state world with
  | case1 run state world result hdone => rfl
  | case2 run state world hunfinished after ih =>
      rw [ih (proper_step hproper state world) hother]
      exact get?_step_of_ne hproper hother state world

theorem unique_complete {state : State} (hunique : state.cache.entries.Unique) (run : Run)
    (world : σ) : (run.complete policy outside state world).2.1.cache.entries.Unique := by
  fun_induction complete policy outside run state world with
  | case1 run state world result hdone => exact hunique
  | case2 run state world hunfinished after ih => exact ih (unique_step hunique run world)

theorem isHit_step_searching {run : Run} {searched : Cache.Key}
    (hstage : run.stage = .searching searched) (state : State) (world : σ) :
    (run.step policy outside state world).1.stage.isHit =
      (state.cache.entries.get? searched).any (Cache.Entry.isFresh (outside.clock world)) := by
  simp only [step, next, hstage, search, Cache.Store.look]
  cases state.cache.entries.get? searched with
  | none => rfl
  | some entry =>
      cases hfresh : entry.isFresh (outside.clock world) with
      | true => simp only [hfresh, if_true, Stage.isHit, Option.any_some]
      | false =>
          simp only [hfresh, Bool.false_eq_true, if_false, Stage.isHit, Option.any_some]

theorem cacheHit_complete {run : Run}
    (hstage : forall searched, run.stage ≠ .searching searched) (state : State) (world : σ) :
    (run.complete policy outside state world).1.metadata.cacheHit = run.stage.isHit := by
  fun_induction complete policy outside run state world with
  | case1 run state world result hdone =>
      rw [Stage.eq_done_of_result? hdone]
      rfl
  | case2 run state world hunfinished after ih =>
      rw [ih (not_searching_step run state world)]
      exact isHit_step hstage state world

/-!
# The journal
-/

def logged? (outside : Outside σ) (run : Run) (world : σ) : Option LogEntry :=
  match run.stage with
  | .reporting outcome cacheHit =>
      let (id, world) := outside.newId world
      some (run.entry id (outside.date world) (outside.clock world - run.startedAt) outcome
        cacheHit)
  | _ => none

/-- What operators see of a state in which an entry has been recorded, if there is one. -/
def Records (logged? : Option LogEntry) (before after : State) : Prop :=
  let recorded := logged?.elim before before.record
  after.journal = recorded.journal ∧ after.feed = recorded.feed

theorem records_step (policy : Policy) (outside : Outside σ) (run : Run) (state : State)
    (world : σ) :
    Records (run.logged? outside world) state (run.step policy outside state world).2.1 := by
  rcases run with ⟨request, userId, startedAt, stage⟩
  cases stage with
  | searching key =>
      simp only [step, next, search]
      cases state.cache.look (outside.clock world) key with
      | fresh outcome => exact ⟨rfl, rfl⟩
      | stale => exact ⟨rfl, rfl⟩
      | absent => exact ⟨rfl, rfl⟩
  | resolving =>
      simp only [step, next]
      cases state.registry.get? request.systemId with
      | none => exact ⟨rfl, rfl⟩
      | some resolved => exact ⟨rfl, rfl⟩
  | loading =>
      simp only [step, next]
      cases Registry.vet request.systemId (outside.loadSystem request.systemId world) with
      | error failure => exact ⟨rfl, rfl⟩
      | ok resolved => exact ⟨rfl, rfl⟩
  | _ => exact ⟨rfl, rfl⟩

theorem logged?_eq_none {run : Run}
    (hstage : forall outcome cacheHit, run.stage ≠ .reporting outcome cacheHit) (world : σ) :
    run.logged? outside world = none := by
  unfold logged?
  split
  · rename_i outcome cacheHit hreporting
    exact absurd hreporting (hstage outcome cacheHit)
  · rfl

theorem records_complete (policy : Policy) (outside : Outside σ) {run : Run}
    (hunfinished : run.stage.result? = none) (state : State) (world : σ) :
    exists id date elapsedMs outcome cacheHit,
      (run.complete policy outside state world).1 = run.result date elapsedMs outcome cacheHit ∧
        Records (some (run.entry id date elapsedMs outcome cacheHit)) state
          (run.complete policy outside state world).2.1 := by
  fun_induction complete policy outside run state world with
  | case1 run state world result hdone =>
      rw [hunfinished] at hdone
      cases hdone
  | case2 run state world _ after ih =>
      have hrecords : Records (run.logged? outside world) state after.2.1 :=
        records_step policy outside run state world
      by_cases hreports : exists outcome cacheHit, run.stage = .reporting outcome cacheHit
      · rcases hreports with ⟨outcome, cacheHit, hstage⟩
        rcases run with ⟨request, userId, startedAt, stage⟩
        cases hstage
        rw [complete_of_done rfl]
        exact ⟨_, _, _, outcome, cacheHit, rfl, hrecords⟩
      · have hstage : forall outcome cacheHit, run.stage ≠ .reporting outcome cacheHit := by
          intro outcome cacheHit hreporting
          exact hreports ⟨outcome, cacheHit, hreporting⟩
        have hlasts : after.1.stage.isUnfinished = run.stage.isUnfinished :=
          isUnfinished_step hstage state world
        have hafter : after.1.stage.result? = none := by
          apply Option.isNone_iff_eq_none.mp
          exact hlasts.trans (Option.isNone_iff_eq_none.mpr hunfinished)
        rcases ih hafter with ⟨id, date, elapsedMs, outcome, cacheHit, hresult, hrest⟩
        refine ⟨id, date, elapsedMs, outcome, cacheHit, hresult, ?_⟩
        -- Nothing was recorded before, and the entry depends on nothing that a step changes.
        rw [logged?_eq_none hstage world] at hrecords
        rcases hrecords with ⟨hjournal, hfeed⟩
        unfold Records at hrest ⊢
        simp only [Option.elim_some, State.record, hjournal, hfeed] at hrest ⊢
        exact hrest

end Run

theorem cacheHit_execute (policy : Policy) (outside : Outside σ) (request : Request)
    (userId : Option Uuid) (state : State) (world : σ) :
    (execute policy outside request userId state world).1.metadata.cacheHit =
      ((Run.lifetime request).isSome && !request.forceRefresh &&
        (state.cache.entries.get? (Run.key policy request)).any
          (Cache.Entry.isFresh (outside.clock world))) := by
  unfold execute
  cases hlooks : (Run.lifetime request).isSome && !request.forceRefresh with
  | false =>
      have hstart : Run.start policy request userId (outside.clock world) =
          ⟨request, userId, outside.clock world, .resolving⟩ := by
        simp only [Run.start, Run.firstStage, hlooks, Bool.false_eq_true, if_false]
      rw [hstart, Run.cacheHit_complete]
      · rfl
      · intro searched hstage
        cases hstage
  | true =>
      have hstart : Run.start policy request userId (outside.clock world) =
          ⟨request, userId, outside.clock world, .searching (Run.key policy request)⟩ := by
        simp only [Run.start, Run.firstStage, hlooks, if_true]
      rw [hstart, Run.complete_of_unfinished rfl,
        Run.cacheHit_complete (Run.not_searching_step _ state world),
        Run.isHit_step_searching rfl, Bool.true_and]

end Engine
end QueryGateway
