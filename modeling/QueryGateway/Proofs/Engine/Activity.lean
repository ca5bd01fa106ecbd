import QueryGateway.Proofs.Engine.Steps
import QueryGateway.Proofs.Engine.Transparency

/-!
# Whose results are kept

Executions take their steps among each other, while calls of other kinds take
effect and records are edited.  Of each execution it is noted what it was begun
for, and for each key of the cache, which execution was the last to keep a
result under it.  A result found in the cache can so be traced to the execution
that kept it.
-/

namespace QueryGateway
namespace Engine

open Catalog Execution

variable {σ : Type}

/-!
# What is executed
-/

namespace Action

def request? (outside : Outside σ) (world : σ) : Action σ -> Option Request
  | .execute request _ => some request
  | .executeSaved queryId userId forceRefresh =>
      match loadSaved outside queryId world with
      | .error _ => none
      | .ok query =>
          match checkRunnable query userId with
          | .error _ => none
          | .ok () => some (.ofSaved query forceRefresh)
  | _ => none

def userId : Action σ -> Option Uuid
  | .execute _ userId => userId
  | .executeSaved _ userId _ => userId
  | _ => none

variable {policy : Policy} {outside : Outside σ}

/-- The saved query behind an execution was loaded, and the user was allowed to run it. -/
theorem saved_of_request? {queryId : Uuid} {userId : Option Uuid} {forceRefresh : Bool}
    {world : σ} {request : Request}
    (hrequest : (Action.executeSaved queryId userId forceRefresh).request? outside world =
      some request) :
    exists query, loadSaved outside queryId world = .ok query ∧
      checkRunnable query userId = .ok () ∧ request = .ofSaved query forceRefresh := by
  cases hquery : loadSaved outside queryId world with
  | error failure =>
      simp only [request?, hquery] at hrequest
      cases hrequest
  | ok query =>
      cases hrunnable : checkRunnable query userId with
      | error failure =>
          simp only [request?, hquery, hrunnable] at hrequest
          cases hrequest
      | ok allowed =>
          simp only [request?, hquery, hrunnable] at hrequest
          cases hrequest
          exact ⟨query, rfl, hrunnable, rfl⟩

def result? (policy : Policy) (outside : Outside σ) (reached : State × σ) :
    Action σ -> Option Result
  | .execute request userId =>
      some (Engine.execute policy outside request userId reached.1 reached.2).1
  | .executeSaved queryId userId forceRefresh =>
      some (Engine.executeSaved policy outside queryId userId forceRefresh reached.1 reached.2).1
  | _ => none

/-- An action that comes to an execution is the execution of its request. -/
theorem execute_of_request? (policy : Policy) {action : Action σ} {reached : State × σ}
    {request : Request} (hrequest : action.request? outside reached.2 = some request) :
    let executed := Engine.execute policy outside request action.userId reached.1 reached.2
    action.apply policy outside reached = executed.2 ∧
      action.result? policy outside reached = some executed.1 := by
  rcases reached with ⟨state, world⟩
  cases action with
  | execute other userId =>
      cases hrequest
      exact ⟨rfl, rfl⟩
  | executeSaved queryId userId forceRefresh =>
      rcases saved_of_request? hrequest with ⟨query, hquery, hrunnable, hsame⟩
      subst hsame
      simp only [apply, result?, Engine.executeSaved, hquery, hrunnable, Action.userId, and_self]
  | _ => cases hrequest

theorem get?_apply_of_request? {policy : Policy} {action : Action σ} {reached : State × σ}
    {request : Request} {key : Cache.Key}
    (hrequest : action.request? outside reached.2 = some request)
    (hother : Run.key policy request ≠ key) :
    (action.apply policy outside reached).1.cache.entries.get? key =
      reached.1.cache.entries.get? key := by
  rw [(execute_of_request? policy hrequest).left]
  exact Run.get?_complete_of_ne
    (Run.proper_start policy request action.userId (outside.clock reached.2)) hother
    reached.1 reached.2

theorem cacheHit_of_request?_eq_none (policy : Policy) {action : Action σ} {reached : State × σ}
    {result : Result} (hnone : action.request? outside reached.2 = none)
    (hresult : action.result? policy outside reached = some result) :
    result.metadata.cacheHit = false := by
  rcases reached with ⟨state, world⟩
  cases action with
  | execute request userId => cases hnone
  | executeSaved queryId userId forceRefresh =>
      cases hquery : loadSaved outside queryId world with
      | error failure =>
          simp only [result?, Engine.executeSaved, hquery] at hresult
          cases hresult
          rfl
      | ok query =>
          cases hrunnable : checkRunnable query userId with
          | error failure =>
              simp only [result?, Engine.executeSaved, hquery, hrunnable] at hresult
              cases hresult
              rfl
          | ok allowed =>
              simp only [request?, hquery, hrunnable] at hnone
              cases hnone
  | _ => cases hresult

theorem cache_executeSaved_of_none (policy : Policy) {queryId : Uuid} {userId : Option Uuid}
    {forceRefresh : Bool} {world : σ}
    (hrequest : (Action.executeSaved queryId userId forceRefresh).request? outside world = none)
    (state : State) :
    (Engine.executeSaved policy outside queryId userId forceRefresh state world).2.1.cache =
      state.cache := by
  cases hquery : loadSaved outside queryId world with
  | error failure => simp only [Engine.executeSaved, hquery]
  | ok query =>
      cases hrunnable : checkRunnable query userId with
      | error failure => simp only [Engine.executeSaved, hquery, hrunnable, refuse, State.record]
      | ok allowed =>
          simp only [request?, hquery, hrunnable] at hrequest
          cases hrequest

end Action

/-!
# Activities
-/

/-- What an execution was begun for, and the world at that moment. -/
structure Origin (σ : Type) where
  action : Action σ
  moment : σ
  request : Request

/-- An execution, and whose result it found if it found one in the cache. -/
structure Attempt (σ : Type) where
  origin : Origin σ
  run : Run
  source : Option (Origin σ)

/--
The engine, the world, the executions so far in the order of their start, and
for each key the last of them to keep a result under it.
-/
structure Activity (σ : Type) where
  state : State
  world : σ
  attempts : List (Attempt σ)
  keepers : Table Cache.Key (Origin σ)

inductive Happening (σ : Type) where
  | act (action : Action σ)
  | advance (index : Nat)
  /-- A test of a connection has loaded a system that was not remembered. -/
  | remember (systemId : Uuid) (resolved : Resolved)
  /-- Log entries are written. -/
  | flush (max : Nat)

namespace Activity

def initial (logCapacity feedCapacity : Nat) (world : σ) : Activity σ :=
  ⟨.initial logCapacity feedCapacity, world, [], ∅⟩

def origins (activity : Activity σ) : List (Origin σ) :=
  activity.attempts.map Attempt.origin

/-- An action begins an execution, or else it takes effect at once. -/
def act (policy : Policy) (outside : Outside σ) (action : Action σ) (activity : Activity σ) :
    Activity σ :=
  match action.request? outside activity.world with
  | some request =>
      let run := Run.start policy request action.userId (outside.clock activity.world)
      { activity with
        attempts := activity.attempts ++ [⟨⟨action, activity.world, request⟩, run, none⟩] }
  | none =>
      let (state, world) := action.apply policy outside (activity.state, activity.world)
      { activity with state, world }

/-- Who kept what is found, when a step is a search. -/
def sourceAfter (keepers : Table Cache.Key (Origin σ)) (attempt : Attempt σ) :
    Option (Origin σ) :=
  match attempt.run.stage with
  | .searching key => keepers.get? key
  | _ => attempt.source

def keepersAfter (policy : Policy) (keepers : Table Cache.Key (Origin σ)) (attempt : Attempt σ) :
    Table Cache.Key (Origin σ) :=
  match attempt.run.stage with
  | .keeping _ => keepers.set (Run.key policy attempt.run.request) attempt.origin
  | _ => keepers

def advance (policy : Policy) (outside : Outside σ) (index : Nat) (activity : Activity σ) :
    Activity σ :=
  match activity.attempts[index]? with
  | none => activity
  | some attempt =>
      let (run, state, world) := attempt.run.step policy outside activity.state activity.world
      let source := sourceAfter activity.keepers attempt
      ⟨state, world, activity.attempts.set index { attempt with run, source },
        keepersAfter policy activity.keepers attempt⟩

end Activity

namespace Happening

def apply (policy : Policy) (outside : Outside σ) (activity : Activity σ) :
    Happening σ -> Activity σ
  | .act action => activity.act policy outside action
  | .advance index => activity.advance policy outside index
  | .remember systemId resolved =>
      let registry := activity.state.registry.set systemId resolved
      { activity with state := { activity.state with registry } }
  | .flush max =>
      let (_, state, world) := activity.state.flush outside max activity.world
      { activity with state, world }

def play (policy : Policy) (outside : Outside σ) (happenings : List (Happening σ))
    (activity : Activity σ) : Activity σ :=
  happenings.foldl (apply policy outside) activity

theorem play_cons (policy : Policy) (outside : Outside σ) (happening : Happening σ)
    (rest : List (Happening σ)) (activity : Activity σ) :
    play policy outside (happening :: rest) activity =
      play policy outside rest (apply policy outside activity happening) :=
  rfl

theorem play_append {policy : Policy} {outside : Outside σ} {start : Activity σ}
    (happenings more : List (Happening σ)) :
    play policy outside (happenings ++ more) start =
      play policy outside more (play policy outside happenings start) :=
  List.foldl_append

end Happening

/-!
# An action with nothing in between
-/

section Uninterrupted

variable {policy : Policy} {outside : Outside σ}

theorem Activity.advance_of_attempt {index : Nat} {activity : Activity σ} {attempt : Attempt σ}
    (hattempt : activity.attempts[index]? = some attempt) :
    activity.advance policy outside index =
      ⟨(attempt.run.step policy outside activity.state activity.world).2.1,
        (attempt.run.step policy outside activity.state activity.world).2.2,
        activity.attempts.set index
          ⟨attempt.origin, (attempt.run.step policy outside activity.state activity.world).1,
            sourceAfter activity.keepers attempt⟩,
        keepersAfter policy activity.keepers attempt⟩ := by
  unfold advance
  rw [hattempt]

theorem Activity.act_of_some {action : Action σ} {activity : Activity σ} {request : Request}
    (hrequest : action.request? outside activity.world = some request) :
    activity.act policy outside action =
      { activity with
        attempts := activity.attempts ++
          [⟨⟨action, activity.world, request⟩,
            Run.start policy request action.userId (outside.clock activity.world), none⟩] } := by
  unfold act
  rw [hrequest]

theorem Activity.act_of_none {action : Action σ} {activity : Activity σ}
    (hrequest : action.request? outside activity.world = none) :
    activity.act policy outside action =
      { activity with
        state := (action.apply policy outside (activity.state, activity.world)).1
        world := (action.apply policy outside (activity.state, activity.world)).2 } := by
  unfold act
  rw [hrequest]

theorem Activity.sourceAfter_of_not_searching {keepers : Table Cache.Key (Origin σ)}
    {attempt : Attempt σ}
    (hnone : forall searched, attempt.run.stage ≠ .searching searched) :
    sourceAfter keepers attempt = attempt.source := by
  unfold sourceAfter
  split
  · rename_i searched hstage
    exact absurd hstage (hnone searched)
  · rfl

/-- A result that is found has been kept by someone before the execution began. -/
theorem Activity.get?_of_sourceAfter {keepers : Table Cache.Key (Origin σ)} {attempt : Attempt σ}
    (hnone : attempt.source = none) {source : Origin σ}
    (hsource : sourceAfter keepers attempt = some source) :
    exists key, keepers.get? key = some source := by
  unfold sourceAfter at hsource
  split at hsource
  · exact ⟨_, hsource⟩
  · rw [hnone] at hsource
    cases hsource

theorem Happening.play_uninterrupted (earlier : List (Attempt σ)) (attempt : Attempt σ)
    (state : State) (world : σ) (keepers : Table Cache.Key (Origin σ)) :
    exists count final keepers',
      play policy outside (List.replicate count (.advance earlier.length))
          ⟨state, world, earlier ++ [attempt], keepers⟩ =
        ⟨(attempt.run.complete policy outside state world).2.1,
          (attempt.run.complete policy outside state world).2.2, earlier ++ [final], keepers'⟩ ∧
      final.origin = attempt.origin ∧
      final.run.stage = .done (attempt.run.complete policy outside state world).1 ∧
      final.source = Activity.sourceAfter keepers attempt := by
  rcases attempt with ⟨origin, run, source⟩
  show exists count final keepers', _ = Activity.mk
      (run.complete policy outside state world).2.1
      (run.complete policy outside state world).2.2 (earlier ++ [final]) keepers' ∧
    final.origin = origin ∧ final.run.stage = .done (run.complete policy outside state world).1 ∧
    final.source = Activity.sourceAfter keepers ⟨origin, run, source⟩
  -- The recursion is on the steps that are left, and each of them changes what is noted.
  fun_induction Run.complete policy outside run state world generalizing source keepers with
  | case1 run state world result hdone =>
      have hstage : run.stage = .done result := Stage.eq_done_of_result? hdone
      refine ⟨0, ⟨origin, run, source⟩, keepers, rfl, rfl, hstage, ?_⟩
      simp only [Activity.sourceAfter, hstage]
  | case2 run state world hunfinished after ih =>
      have hattempt : (earlier ++ [Attempt.mk origin run source])[earlier.length]? =
          some ⟨origin, run, source⟩ := List.getElem?_concat_length
      rcases ih (Activity.keepersAfter policy keepers ⟨origin, run, source⟩)
        (Activity.sourceAfter keepers ⟨origin, run, source⟩) with
        ⟨count, final, keepers', hplay, horigin, hstage, hsource⟩
      refine ⟨count + 1, final, keepers', ?_, horigin, hstage, ?_⟩
      · rw [List.replicate_succ, play_cons]
        show play policy outside _ (Activity.advance policy outside earlier.length _) = _
        rw [Activity.advance_of_attempt hattempt]
        simp only [List.set_append_right _ _ (Nat.le_refl earlier.length), Nat.sub_self,
          List.set_cons_zero]
        exact hplay
      · -- Nothing is looked for after the first step.
        rw [hsource]
        exact Activity.sourceAfter_of_not_searching (Run.not_searching_step run state world)

/-- An action whose steps are taken with nothing in between has its whole effect. -/
theorem Happening.play_act (action : Action σ) (activity : Activity σ) :
    exists count,
      let after := play policy outside
        (.act action :: List.replicate count (.advance activity.attempts.length)) activity
      (after.state, after.world) =
          action.apply policy outside (activity.state, activity.world) ∧
        (action.request? outside activity.world = none ->
          after.attempts = activity.attempts) ∧
        forall request, action.request? outside activity.world = some request ->
          exists final result, after.attempts = activity.attempts ++ [final] ∧
            final.origin = ⟨action, activity.world, request⟩ ∧ final.run.stage = .done result ∧
            (forall source, final.source = some source ->
              exists key, activity.keepers.get? key = some source) ∧
            action.result? policy outside (activity.state, activity.world) = some result := by
  rcases activity with ⟨state, world, attempts, keepers⟩
  cases hrequest : action.request? outside world with
  | none =>
      have hact : play policy outside [.act action] ⟨state, world, attempts, keepers⟩ = _ :=
        Activity.act_of_none hrequest
      refine ⟨0, ?_⟩
      intro after
      have hsame : after = _ := hact
      rw [hsame]
      refine ⟨rfl, fun _ => rfl, ?_⟩
      intro request hsome
      cases hsome
  | some request =>
      have hreached : action.request? outside (state, world).2 = some request := hrequest
      rcases Action.execute_of_request? policy hreached with ⟨happly, hresult⟩
      let run := Run.start policy request action.userId (outside.clock world)
      rcases play_uninterrupted attempts ⟨⟨action, world, request⟩, run, none⟩ state world keepers
        with ⟨count, final, keepers', hplay, horigin, hstage, hsource⟩
      have hafter : play policy outside
          (.act action :: List.replicate count (.advance attempts.length))
          ⟨state, world, attempts, keepers⟩ =
            ⟨(run.complete policy outside state world).2.1,
              (run.complete policy outside state world).2.2, attempts ++ [final], keepers'⟩ := by
        rw [play_cons]
        show play policy outside _ (Activity.act policy outside action _) = _
        rw [Activity.act_of_some hrequest]
        exact hplay
      refine ⟨count, ?_⟩
      intro after
      have hsame : after = _ := hafter
      rw [hsame]
      refine ⟨happly.symm, ?_, ?_⟩
      · intro hnone
        cases hnone
      · intro other hother
        cases hother
        refine ⟨final, _, rfl, horigin, hstage, ?_, hresult⟩
        intro source hfound
        rw [hsource] at hfound
        exact Activity.get?_of_sourceAfter rfl hfound

end Uninterrupted

/-!
# What is noted is true
-/

section Sound

variable {policy : Policy} {outside : Outside σ}

/--
Executions are of the requests they were begun for.  Each entry of the cache
was kept by the execution that is noted as its keeper, and each result that was
found there is one of an execution for the same key.
-/
structure Activity.Sound (policy : Policy) (outside : Outside σ) (activity : Activity σ) :
    Prop where
  unique : activity.state.cache.entries.Unique
  begun : forall origin, origin ∈ activity.origins ->
    origin.action.request? outside origin.moment = some origin.request
  requests : forall attempt, attempt ∈ activity.attempts ->
    attempt.run.request = attempt.origin.request
  proper : forall attempt, attempt ∈ activity.attempts -> attempt.run.Proper policy
  keepers : forall key keeper, activity.keepers.get? key = some keeper ->
    keeper ∈ activity.origins ∧ Run.key policy keeper.request = key
  kept : forall key entry, activity.state.cache.entries.get? key = some entry ->
    exists keeper, activity.keepers.get? key = some keeper ∧
      entry.systemId = keeper.request.systemId ∧ entry.queryId = keeper.request.queryId
  sources : forall attempt, attempt ∈ activity.attempts ->
    attempt.run.stage.isHit = true ->
      exists source, attempt.source = some source ∧ source ∈ activity.origins ∧
        Run.key policy source.request = Run.key policy attempt.origin.request

namespace Activity

theorem sound_initial (logCapacity feedCapacity : Nat) (world : σ) :
    (initial logCapacity feedCapacity world).Sound policy outside where
  unique := Table.unique_empty
  begun := by
    intro origin hmem
    cases hmem
  requests := by
    intro attempt hmem
    cases hmem
  proper := by
    intro attempt hmem
    cases hmem
  keepers := by
    intro key keeper hkeeper
    cases hkeeper
  kept := by
    intro key entry hentry
    cases hentry
  sources := by
    intro attempt hmem
    cases hmem

/-- Whatever only drops entries leaves true what is noted. -/
theorem Sound.of_subset {activity : Activity σ} (hsound : activity.Sound policy outside)
    {state : State} (hunique : state.cache.entries.Unique)
    (hsubset : forall key entry, state.cache.entries.get? key = some entry ->
      activity.state.cache.entries.get? key = some entry) (world : σ) :
    ({ activity with state, world } : Activity σ).Sound policy outside :=
  { hsound with
    unique := hunique
    kept := fun key entry hentry => hsound.kept key entry (hsubset key entry hentry) }

end Activity

theorem Action.subset_apply (policy : Policy) {action : Action σ} {reached : State × σ}
    (hrequest : action.request? outside reached.2 = none)
    (hunique : reached.1.cache.entries.Unique) :
    (action.apply policy outside reached).1.cache.entries.Unique ∧
      forall key entry,
        (action.apply policy outside reached).1.cache.entries.get? key = some entry ->
          reached.1.cache.entries.get? key = some entry := by
  rcases reached with ⟨state, world⟩
  have hdropped (condition : Cache.Entry -> Bool) :
      (state.cache.dropWhere condition).2.entries.Unique ∧
        forall key entry, (state.cache.dropWhere condition).2.entries.get? key = some entry ->
          state.cache.entries.get? key = some entry := by
    refine ⟨Cache.Store.unique_dropWhere condition state.cache hunique, ?_⟩
    intro key entry hentry
    rw [Cache.Store.get?_dropWhere condition key state.cache hunique] at hentry
    exact (Option.filter_eq_some_iff.mp hentry).left
  cases action with
  | execute request userId => cases hrequest
  | executeSaved queryId userId forceRefresh =>
      have hcache := cache_executeSaved_of_none policy hrequest state
      simp only [apply, hcache]
      exact ⟨hunique, fun key entry hentry => hentry⟩
  | clearCache systemId =>
      cases systemId with
      | none =>
          refine ⟨Table.unique_empty, ?_⟩
          intro key entry hentry
          cases hentry
      | some id => exact hdropped _
  | invalidateQuery queryId => exact hdropped _
  | purgeExpired => exact hdropped _
  | outside change => exact ⟨hunique, fun key entry hentry => hentry⟩

namespace Activity

theorem sound_act (action : Action σ) {activity : Activity σ}
    (hsound : activity.Sound policy outside) :
    (activity.act policy outside action).Sound policy outside := by
  rcases activity with ⟨state, world, attempts, keepers⟩
  cases hrequest : action.request? outside world with
  | none =>
      rw [act_of_none hrequest]
      have hunique : (state, world).1.cache.entries.Unique := hsound.unique
      rcases Action.subset_apply policy hrequest hunique with ⟨huniqueAfter, hsubset⟩
      exact hsound.of_subset huniqueAfter hsubset _
  | some request =>
      rw [act_of_some hrequest]
      let run := Run.start policy request action.userId (outside.clock world)
      have horigins : (Activity.mk state world (attempts ++ [⟨⟨action, world, request⟩, run, none⟩])
          keepers).origins = attempts.map Attempt.origin ++ [⟨action, world, request⟩] :=
        List.map_append
      -- The new execution is the last one; it has kept nothing yet, and found nothing.
      constructor
      · exact hsound.unique
      · intro origin hmem
        rw [horigins] at hmem
        rcases List.mem_append.mp hmem with hearlier | hlast
        · exact hsound.begun origin hearlier
        · rw [List.mem_singleton.mp hlast]
          exact hrequest
      · intro attempt hmem
        rcases List.mem_append.mp hmem with hearlier | hlast
        · exact hsound.requests attempt hearlier
        · rw [List.mem_singleton.mp hlast]
          rfl
      · intro attempt hmem
        rcases List.mem_append.mp hmem with hearlier | hlast
        · exact hsound.proper attempt hearlier
        · rw [List.mem_singleton.mp hlast]
          exact Run.proper_start policy request action.userId (outside.clock world)
      · intro key keeper hkeeper
        rcases hsound.keepers key keeper hkeeper with ⟨hmem, hkey⟩
        rw [horigins]
        exact ⟨List.mem_append_left _ hmem, hkey⟩
      · exact hsound.kept
      · intro attempt hmem hhit
        rcases List.mem_append.mp hmem with hearlier | hlast
        · rcases hsound.sources attempt hearlier hhit with ⟨source, hsource, hsourceMem, hkey⟩
          rw [horigins]
          exact ⟨source, hsource, List.mem_append_left _ hsourceMem, hkey⟩
        · rw [List.mem_singleton.mp hlast] at hhit
          rw [Run.isHit_start] at hhit
          cases hhit

theorem origins_set {attempts : List (Attempt σ)} {index : Nat} {attempt : Attempt σ}
    (hattempt : attempts[index]? = some attempt) (run : Run) (source : Option (Origin σ)) :
    (attempts.set index ⟨attempt.origin, run, source⟩).map Attempt.origin =
      attempts.map Attempt.origin := by
  have horigin : (attempts.map Attempt.origin)[index]? = some attempt.origin := by
    rw [List.getElem?_map, hattempt]
    rfl
  rcases List.getElem?_eq_some_iff.mp horigin with ⟨hbound, hget⟩
  rw [List.map_set, ← hget, List.set_getElem_self]

theorem keepersAfter_of_keeping {attempt : Attempt σ} {outcome : Outcome}
    (hstage : attempt.run.stage = .keeping outcome) (keepers : Table Cache.Key (Origin σ)) :
    keepersAfter policy keepers attempt =
      keepers.set (Run.key policy attempt.run.request) attempt.origin := by
  simp only [keepersAfter, hstage]

theorem keepersAfter_of_not_keeping {attempt : Attempt σ}
    (hstage : ¬ exists outcome, attempt.run.stage = .keeping outcome)
    (keepers : Table Cache.Key (Origin σ)) : keepersAfter policy keepers attempt = keepers := by
  unfold keepersAfter
  split
  · rename_i outcome hkeeping
    exact absurd ⟨outcome, hkeeping⟩ hstage
  · rfl

theorem get?_keepersAfter_of_ne {attempt : Attempt σ} {key : Cache.Key}
    (hother : Run.key policy attempt.run.request ≠ key) (keepers : Table Cache.Key (Origin σ)) :
    (keepersAfter policy keepers attempt).get? key = keepers.get? key := by
  unfold keepersAfter
  split
  · rw [Table.get?_set, if_neg hother]
  · rfl

theorem kept_step {activity : Activity σ} (hsound : activity.Sound policy outside)
    {attempt : Attempt σ} (hmem : attempt ∈ activity.attempts) {key : Cache.Key}
    {entry : Cache.Entry}
    (hentry : (attempt.run.step policy outside activity.state
      activity.world).2.1.cache.entries.get? key = some entry) :
    exists keeper, (keepersAfter policy activity.keepers attempt).get? key = some keeper ∧
      entry.systemId = keeper.request.systemId ∧ entry.queryId = keeper.request.queryId := by
  by_cases hkeeping : exists outcome, attempt.run.stage = .keeping outcome
  · rcases hkeeping with ⟨outcome, hstage⟩
    have hproper := hsound.proper attempt hmem
    simp only [Run.Proper, hstage] at hproper
    rcases hproper with ⟨lifetime, hlifetime⟩
    rw [Run.get?_step_keeping hstage hlifetime] at hentry
    rw [keepersAfter_of_keeping hstage, Table.get?_set]
    by_cases hown : Run.key policy attempt.run.request = key
    · rw [if_pos hown] at hentry
      rw [if_pos hown]
      cases hentry
      have hrequest := hsound.requests attempt hmem
      exact ⟨attempt.origin, rfl, congrArg Request.systemId hrequest,
        congrArg Request.queryId hrequest⟩
    · rw [if_neg hown] at hentry
      rw [if_neg hown]
      exact hsound.kept key entry hentry
  · rw [keepersAfter_of_not_keeping hkeeping]
    rcases Run.get?_of_step hentry with hbefore | ⟨hstage, _⟩
    · exact hsound.kept key entry hbefore
    · exact absurd hstage hkeeping

/-- After a step a hit still has a source, which a search has found just now. -/
theorem source_step {activity : Activity σ} (hsound : activity.Sound policy outside)
    {attempt : Attempt σ} (hmem : attempt ∈ activity.attempts)
    (hhit : (attempt.run.step policy outside activity.state activity.world).1.stage.isHit =
      true) :
    exists source, sourceAfter activity.keepers attempt = some source ∧
      source ∈ activity.origins ∧
        Run.key policy source.request = Run.key policy attempt.origin.request := by
  by_cases hsearching : exists searched, attempt.run.stage = .searching searched
  · rcases hsearching with ⟨searched, hstage⟩
    have hsearched := hsound.proper attempt hmem
    simp only [Run.Proper, hstage, hsound.requests attempt hmem] at hsearched
    rw [Run.isHit_step_searching hstage, Option.any_eq_true] at hhit
    rcases hhit with ⟨entry, hentry, _⟩
    rcases hsound.kept searched entry hentry with ⟨keeper, hkeeper, _⟩
    rcases hsound.keepers searched keeper hkeeper with ⟨horigin, hkey⟩
    refine ⟨keeper, ?_, horigin, hkey.trans hsearched⟩
    simp only [sourceAfter, hstage]
    exact hkeeper
  · have hnone : forall searched, attempt.run.stage ≠ .searching searched := by
      intro searched hstage
      exact hsearching ⟨searched, hstage⟩
    rw [Run.isHit_step hnone] at hhit
    rw [sourceAfter_of_not_searching hnone]
    exact hsound.sources attempt hmem hhit

theorem keeper_step {activity : Activity σ} (hsound : activity.Sound policy outside)
    {attempt : Attempt σ} (hmem : attempt ∈ activity.attempts) {key : Cache.Key}
    {keeper : Origin σ}
    (hkeeper : (keepersAfter policy activity.keepers attempt).get? key = some keeper) :
    keeper ∈ activity.origins ∧ Run.key policy keeper.request = key := by
  by_cases hkeeping : exists outcome, attempt.run.stage = .keeping outcome
  · rcases hkeeping with ⟨outcome, hstage⟩
    rw [keepersAfter_of_keeping hstage, Table.get?_set] at hkeeper
    split at hkeeper
    · rename_i hown
      cases hkeeper
      rw [← hsound.requests attempt hmem]
      exact ⟨List.mem_map_of_mem hmem, hown⟩
    · exact hsound.keepers key keeper hkeeper
  · rw [keepersAfter_of_not_keeping hkeeping] at hkeeper
    exact hsound.keepers key keeper hkeeper

theorem sound_advance (index : Nat) {activity : Activity σ}
    (hsound : activity.Sound policy outside) :
    (activity.advance policy outside index).Sound policy outside := by
  cases hattempt : activity.attempts[index]? with
  | none =>
      unfold advance
      rw [hattempt]
      exact hsound
  | some attempt =>
      have hmem : attempt ∈ activity.attempts := List.mem_of_getElem? hattempt
      -- Nobody's origin changes, so that only the execution that steps has to be looked at.
      have horigins := origins_set hattempt
        (attempt.run.step policy outside activity.state activity.world).1
        (sourceAfter activity.keepers attempt)
      rw [advance_of_attempt hattempt]
      constructor
      · exact Run.unique_step hsound.unique attempt.run activity.world
      · intro origin horigin
        unfold origins at horigin
        rw [horigins] at horigin
        exact hsound.begun origin horigin
      · intro other hother
        rcases List.mem_or_eq_of_mem_set hother with hbefore | hstepped
        · exact hsound.requests other hbefore
        · rw [hstepped]
          exact hsound.requests attempt hmem
      · intro other hother
        rcases List.mem_or_eq_of_mem_set hother with hbefore | hstepped
        · exact hsound.proper other hbefore
        · rw [hstepped]
          exact Run.proper_step (hsound.proper attempt hmem) activity.state activity.world
      · intro key keeper hkeeper
        unfold origins
        rw [horigins]
        exact keeper_step hsound hmem hkeeper
      · intro key entry hentry
        exact kept_step hsound hmem hentry
      · intro other hother hhit
        unfold origins
        rw [horigins]
        rcases List.mem_or_eq_of_mem_set hother with hbefore | hstepped
        · exact hsound.sources other hbefore hhit
        · rw [hstepped] at hhit ⊢
          exact source_step hsound hmem hhit

end Activity

namespace Happening

theorem sound_apply (happening : Happening σ) {activity : Activity σ}
    (hsound : activity.Sound policy outside) :
    (apply policy outside activity happening).Sound policy outside := by
  cases happening with
  | act action => exact Activity.sound_act action hsound
  | advance index => exact Activity.sound_advance index hsound
  | remember systemId resolved =>
      refine hsound.of_subset ?_ ?_ activity.world
      · exact hsound.unique
      · intro key entry hentry
        exact hentry
  | flush max =>
      refine hsound.of_subset ?_ ?_ _
      · exact hsound.unique
      · intro key entry hentry
        exact hentry

theorem sound_play (happenings : List (Happening σ)) {activity : Activity σ}
    (hsound : activity.Sound policy outside) :
    (play policy outside happenings activity).Sound policy outside := by
  induction happenings generalizing activity with
  | nil => exact hsound
  | cons happening happenings ih => exact ih (sound_apply happening hsound)

theorem origins_apply {happening : Happening σ} {activity : Activity σ}
    {origin : Origin σ} (hmem : origin ∈ (apply policy outside activity happening).origins) :
    origin ∈ activity.origins ∨ happening = .act origin.action := by
  cases happening with
  | act action =>
      cases hrequest : action.request? outside activity.world with
      | none =>
          rw [apply, Activity.act_of_none hrequest] at hmem
          exact Or.inl hmem
      | some request =>
          rw [apply, Activity.act_of_some hrequest] at hmem
          rcases List.mem_map.mp hmem with ⟨attempt, hattempt, horigin⟩
          rcases List.mem_append.mp hattempt with hearlier | hlast
          · rw [← horigin]
            exact Or.inl (List.mem_map_of_mem hearlier)
          · rw [List.mem_singleton.mp hlast] at horigin
            rw [← horigin]
            exact Or.inr rfl
  | advance index =>
      cases hattempt : activity.attempts[index]? with
      | none =>
          rw [apply, Activity.advance, hattempt] at hmem
          exact Or.inl hmem
      | some attempt =>
          rw [apply, Activity.advance_of_attempt hattempt, Activity.origins,
            Activity.origins_set hattempt] at hmem
          exact Or.inl hmem
  | remember systemId resolved => exact Or.inl hmem
  | flush max => exact Or.inl hmem

theorem origins_play {happenings : List (Happening σ)} {activity : Activity σ}
    {origin : Origin σ} (hmem : origin ∈ (play policy outside happenings activity).origins) :
    origin ∈ activity.origins ∨ .act origin.action ∈ happenings := by
  induction happenings generalizing activity with
  | nil => exact Or.inl hmem
  | cons happening happenings ih =>
      rcases ih hmem with happlied | hlater
      · rcases origins_apply happlied with hbefore | hnow
        · exact Or.inl hbefore
        · rw [hnow]
          exact Or.inr List.mem_cons_self
      · exact Or.inr (List.mem_cons_of_mem _ hlater)

end Happening
end Sound

/-!
# Conditions on all executions
-/

section Conditions

variable {policy : Policy} {outside : Outside σ} {course : Course} {holdings : Holdings}

structure Activity.Keeps (course : Course) (holdings : Holdings) (policy : Policy)
    (activity : Activity σ) : Prop where
  state : holdings.Hold activity.state
  runs : forall attempt, attempt ∈ activity.attempts -> course.Follows holdings policy attempt.run

theorem Action.hold_apply_of_none {action : Action σ} {reached : State × σ}
    (hrequest : action.request? outside reached.2 = none) (hstate : holdings.Hold reached.1) :
    holdings.Hold (action.apply policy outside reached).1 := by
  rcases reached with ⟨state, world⟩
  cases action with
  | execute request userId => cases hrequest
  | executeSaved queryId userId forceRefresh =>
      cases hquery : loadSaved outside queryId world with
      | error failure =>
          simp only [apply, Engine.executeSaved, hquery]
          exact hstate
      | ok query =>
          cases hrunnable : checkRunnable query userId with
          | error failure =>
              simp only [apply, Engine.executeSaved, hquery, hrunnable, refuse]
              exact ⟨hstate.registry, hstate.cache⟩
          | ok allowed =>
              simp only [request?, hquery, hrunnable] at hrequest
              cases hrequest
  | clearCache systemId => exact hstate.clearCache systemId
  | invalidateQuery queryId => exact hstate.invalidateQuery queryId
  | purgeExpired => exact hstate.purgeExpired (outside.clock world)
  | outside change => exact hstate

theorem Activity.keeps_initial (logCapacity feedCapacity : Nat) (world : σ) :
    (initial logCapacity feedCapacity world).Keeps course holdings policy where
  state := Holdings.hold_initial holdings logCapacity feedCapacity
  runs := by
    intro attempt hmem
    cases hmem

theorem Happening.keeps_apply (hadmits : forall world, course.Admits holdings policy outside world)
    {happening : Happening σ} {activity : Activity σ}
    (hremembers : forall systemId resolved, happening = .remember systemId resolved ->
      holdings.remembered systemId resolved)
    (hkeeps : activity.Keeps course holdings policy) :
    (apply policy outside activity happening).Keeps course holdings policy := by
  cases happening with
  | act action =>
      cases hrequest : action.request? outside activity.world with
      | none =>
          rw [apply, Activity.act_of_none hrequest]
          have hstate : holdings.Hold (activity.state, activity.world).1 := hkeeps.state
          exact ⟨Action.hold_apply_of_none hrequest hstate, hkeeps.runs⟩
      | some request =>
          rw [apply, Activity.act_of_some hrequest]
          refine ⟨hkeeps.state, ?_⟩
          intro attempt hmem
          rcases List.mem_append.mp hmem with hearlier | hlast
          · exact hkeeps.runs attempt hearlier
          · rw [List.mem_singleton.mp hlast]
            exact Course.follows_start request action.userId _
  | advance index =>
      cases hattempt : activity.attempts[index]? with
      | none =>
          rw [apply, Activity.advance, hattempt]
          exact hkeeps
      | some attempt =>
          have hfollows := hkeeps.runs attempt (List.mem_of_getElem? hattempt)
          rcases Course.follows_step (hadmits activity.world) hkeeps.state hfollows with
            ⟨hrun, hstate⟩
          rw [apply, Activity.advance_of_attempt hattempt]
          refine ⟨hstate, ?_⟩
          intro other hother
          rcases List.mem_or_eq_of_mem_set hother with hbefore | hstepped
          · exact hkeeps.runs other hbefore
          · rw [hstepped]
            exact hrun
  | remember systemId resolved =>
      have hremembered := hremembers systemId resolved rfl
      exact ⟨⟨Table.all_set hkeeps.state.registry hremembered, hkeeps.state.cache⟩, hkeeps.runs⟩
  | flush max => exact ⟨⟨hkeeps.state.registry, hkeeps.state.cache⟩, hkeeps.runs⟩

end Conditions

/-!
# A system that repeats statements
-/

namespace Repeating

/-- Keys that are the texts of what they identify. -/
def plainKeys : Policy :=
  ⟨30000, id⟩

def system : Backend :=
  { Backend.plain (Uuid.ofNat 7) "echo" "http://echo" with methods := [Method.plain "ask" .sql ""] }

/-- A request whose result is kept for a minute, for a saved query or for none. -/
def question (queryId : Option Uuid) : Request :=
  { Request.plain (Uuid.ofNat 7) "question" with cacheTtlSecs := some 60, queryId }

/-- An execution from its start to its result, in so many steps. -/
def whole (action : Action Nat) (index count : Nat) : List (Happening Nat) :=
  .act action :: List.replicate count (.advance index)

end Repeating
end Engine
end QueryGateway
