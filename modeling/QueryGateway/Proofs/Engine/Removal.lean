import QueryGateway.Proofs.Engine.Activity

/-!
# Dropping what was kept

The owners that an entry of the cache names are those of every request with its
key.  Dropping the results of a system or of a saved query therefore drops what
was kept for it, and nothing else.
-/

namespace QueryGateway
namespace Engine

open Catalog Execution

section Owners

variable {σ : Type} {policy : Policy} {outside : Outside σ}

/-!
# Owners
-/

namespace Activity

def isKeptFor (property : Request -> Bool) (activity : Activity σ) (key : Cache.Key) : Bool :=
  (activity.keepers.get? key).any fun keeper => property keeper.request

theorem owners_of_key (hinjective : Function.Injective policy.fingerprint)
    {activity : Activity σ} (hsound : activity.Sound policy outside) {request : Request}
    {entry : Cache.Entry}
    (hentry : activity.state.cache.entries.get? (Run.key policy request) = some entry) :
    entry.systemId = request.systemId ∧ entry.queryId = request.queryId := by
  rcases hsound.kept _ entry hentry with ⟨keeper, hkeeper, hsystem, hquery⟩
  have hagree := Cache.Identity.agree_of_key_eq hinjective (hsound.keepers _ keeper hkeeper).right
  exact ⟨hsystem.trans hagree.systemId, hquery.trans hagree.queryId⟩

/-- Dropping entries by their owners drops what was kept for requests with these owners. -/
theorem dropWhere_eq {activity : Activity σ} (hsound : activity.Sound policy outside)
    (condition : Cache.Entry -> Bool) (property : Request -> Bool)
    (hagree : forall (entry : Cache.Entry) (request : Request),
      entry.systemId = request.systemId -> entry.queryId = request.queryId ->
        condition entry = property request) :
    activity.state.cache.dropWhere condition =
      (activity.state.cache.entries.entries.countP fun e => activity.isKeptFor property e.1,
        { activity.state.cache with
          entries := activity.state.cache.entries.filter fun key _ =>
            !activity.isKeptFor property key }) := by
  -- The owners in an entry are those of the request that it was kept for.
  have hsame : forall e, e ∈ activity.state.cache.entries.entries ->
      condition e.2 = activity.isKeptFor property e.1 := by
    intro e hmem
    rcases hsound.kept e.1 e.2 (Table.get?_of_mem hsound.unique hmem) with
      ⟨keeper, hkeeper, hsystem, hquery⟩
    rw [isKeptFor, hkeeper, Option.any_some]
    exact hagree e.2 keeper.request hsystem hquery
  apply Prod.ext
  · rw [Cache.Store.dropWhere_fst]
    apply List.countP_congr
    intro e hmem
    rw [hsame e hmem]
  · have hfilter : (activity.state.cache.entries.filter fun _ entry => !condition entry) =
        activity.state.cache.entries.filter fun key _ => !activity.isKeptFor property key := by
      apply congrArg Table.mk
      apply List.filter_congr
      intro e hmem
      exact congrArg Bool.not (hsame e hmem)
    show ({ activity.state.cache with
      entries := activity.state.cache.entries.filter fun _ entry => !condition entry } :
        Cache.Store) = _
    rw [hfilter]

theorem invalidateQuery_eq {activity : Activity σ} (hsound : activity.Sound policy outside)
    (queryId : Uuid) :
    let isAffected := activity.isKeptFor fun request => request.queryId = some queryId
    activity.state.invalidateQuery queryId =
      (activity.state.cache.entries.entries.countP fun e => isAffected e.1,
        { activity.state with
          cache := { activity.state.cache with
            entries := activity.state.cache.entries.filter fun key _ => !isAffected key } }) := by
  intro isAffected
  have hdropped := dropWhere_eq hsound (fun entry => entry.queryId = some queryId)
    (fun request => request.queryId = some queryId) fun entry request _ hquery => by rw [hquery]
  unfold State.invalidateQuery Cache.Store.invalidateQuery
  rw [hdropped]

theorem clearSystem_eq {activity : Activity σ} (hsound : activity.Sound policy outside)
    (systemId : Uuid) :
    let isAffected := activity.isKeptFor fun request => request.systemId = systemId
    activity.state.clearCache (some systemId) =
      { activity.state with
        registry := activity.state.registry.erase systemId
        cache := { activity.state.cache with
          entries := activity.state.cache.entries.filter fun key _ => !isAffected key } } := by
  intro isAffected
  have hdropped := dropWhere_eq hsound (fun entry => entry.systemId = systemId)
    (fun request => request.systemId = systemId) fun entry request hsystem _ => by rw [hsystem]
  unfold State.clearCache Cache.Store.invalidateSystem
  simp only [hdropped]
  rfl

end Activity

/-!
# What a history does to one key
-/

namespace Action

def Removes (request : Request) : Action σ -> Prop
  | .clearCache none => True
  | .clearCache (some systemId) => request.systemId = systemId
  | .invalidateQuery queryId => request.queryId = some queryId
  | _ => False

def Avoids (policy : Policy) (outside : Outside σ) (key : Cache.Key) (world : σ)
    (action : Action σ) : Prop :=
  forall request, action.request? outside world = some request -> Run.key policy request ≠ key

def steps (policy : Policy) (outside : Outside σ) :
    List (Action σ) -> State × σ -> List (Action σ × (State × σ))
  | [], _ => []
  | action :: history, reached =>
      (action, reached) :: steps policy outside history (action.apply policy outside reached)

theorem run_cons (action : Action σ) (history : List (Action σ)) (reached : State × σ) :
    run policy outside (action :: history) reached =
      run policy outside history (action.apply policy outside reached) :=
  rfl

theorem unique_apply {reached : State × σ} (hunique : reached.1.cache.entries.Unique)
    (action : Action σ) : (action.apply policy outside reached).1.cache.entries.Unique := by
  cases hrequest : action.request? outside reached.2 with
  | none => exact (subset_apply policy hrequest hunique).left
  | some request =>
      rw [(execute_of_request? policy hrequest).left]
      exact Run.unique_complete hunique _ reached.2

theorem get?_apply_eq_none {action : Action σ} {reached : State × σ} {key : Cache.Key}
    (hunique : reached.1.cache.entries.Unique)
    (havoids : action.Avoids policy outside key reached.2)
    (hnone : reached.1.cache.entries.get? key = none) :
    (action.apply policy outside reached).1.cache.entries.get? key = none := by
  cases hrequest : action.request? outside reached.2 with
  | none =>
      cases hentry : (action.apply policy outside reached).1.cache.entries.get? key with
      | none => rfl
      | some entry =>
          rw [(subset_apply policy hrequest hunique).right key entry hentry] at hnone
          cases hnone
  | some request => rw [get?_apply_of_request? hrequest (havoids request hrequest), hnone]

theorem get?_apply_eq_some {action : Action σ} {reached : State × σ} {request : Request}
    {entry : Cache.Entry} (hunique : reached.1.cache.entries.Unique)
    (howners : entry.systemId = request.systemId ∧ entry.queryId = request.queryId)
    (havoids : action.Avoids policy outside (Run.key policy request) reached.2)
    (hspares : ¬ action.Removes request) (hfresh : entry.isFresh (outside.clock reached.2) = true)
    (hentry : reached.1.cache.entries.get? (Run.key policy request) = some entry) :
    (action.apply policy outside reached).1.cache.entries.get? (Run.key policy request) =
      some entry := by
  cases hexecuted : action.request? outside reached.2 with
  | some other => rw [get?_apply_of_request? hexecuted (havoids other hexecuted), hentry]
  | none =>
      rcases reached with ⟨state, world⟩
      have hkept (condition : Cache.Entry -> Bool) (hcondition : condition entry = false) :
          (state.cache.dropWhere condition).2.entries.get? (Run.key policy request) =
            some entry := by
        rw [Cache.Store.get?_dropWhere condition _ _ hunique, hentry, Option.filter_some,
          hcondition]
        rfl
      cases action with
      | execute other userId => cases hexecuted
      | executeSaved queryId userId forceRefresh =>
          simp only [apply, cache_executeSaved_of_none policy hexecuted state]
          exact hentry
      | clearCache systemId =>
          cases systemId with
          | none => exact absurd trivial hspares
          | some id =>
              apply hkept
              rw [howners.left]
              exact decide_eq_false hspares
      | invalidateQuery queryId =>
          apply hkept
          rw [howners.right]
          exact decide_eq_false hspares
      | purgeExpired =>
          apply hkept
          rw [hfresh]
          rfl
      | outside change => exact hentry

theorem unique_run {reached : State × σ} (hunique : reached.1.cache.entries.Unique)
    (history : List (Action σ)) :
    (run policy outside history reached).1.cache.entries.Unique := by
  induction history generalizing reached with
  | nil => exact hunique
  | cons action history ih => exact ih (unique_apply hunique action)

theorem get?_run_eq_none {reached : State × σ} {key : Cache.Key}
    (hunique : reached.1.cache.entries.Unique) (history : List (Action σ))
    (havoids : forall step, step ∈ steps policy outside history reached ->
      step.1.Avoids policy outside key step.2.2)
    (hnone : reached.1.cache.entries.get? key = none) :
    (run policy outside history reached).1.cache.entries.get? key = none := by
  induction history generalizing reached with
  | nil => exact hnone
  | cons action history ih =>
      apply ih (unique_apply hunique action)
      · intro step hmem
        exact havoids step (List.mem_cons_of_mem _ hmem)
      · exact get?_apply_eq_none hunique (havoids (action, reached) List.mem_cons_self) hnone

/-- A step of a history that leaves alone an entry for a request, while it is fresh. -/
def Spares (policy : Policy) (outside : Outside σ) (request : Request) (entry : Cache.Entry)
    (step : Action σ × (State × σ)) : Prop :=
  step.1.Avoids policy outside (Run.key policy request) step.2.2 ∧ ¬ step.1.Removes request ∧
    entry.isFresh (outside.clock step.2.2) = true

theorem get?_run_eq_some {reached : State × σ} {request : Request} {entry : Cache.Entry}
    (hunique : reached.1.cache.entries.Unique)
    (howners : entry.systemId = request.systemId ∧ entry.queryId = request.queryId)
    (history : List (Action σ))
    (hspares : forall step, step ∈ steps policy outside history reached ->
      Spares policy outside request entry step)
    (hentry : reached.1.cache.entries.get? (Run.key policy request) = some entry) :
    (run policy outside history reached).1.cache.entries.get? (Run.key policy request) =
      some entry := by
  induction history generalizing reached with
  | nil => exact hentry
  | cons action history ih =>
      rcases hspares (action, reached) List.mem_cons_self with ⟨havoids, hremoves, hfresh⟩
      apply ih (unique_apply hunique action)
      · intro step hmem
        exact hspares step (List.mem_cons_of_mem _ hmem)
      · exact get?_apply_eq_some hunique howners havoids hremoves hfresh hentry

end Action

/-!
# Removal
-/

namespace Activity

theorem get?_removal (hinjective : Function.Injective policy.fingerprint)
    {activity : Activity σ} (hsound : activity.Sound policy outside) {removal : Action σ}
    {request : Request} (hremoves : removal.Removes request) :
    (removal.apply policy outside (activity.state, activity.world)).1.cache.entries.get?
      (Run.key policy request) = none := by
  have hdropped (condition : Cache.Entry -> Bool)
      (hcondition : forall entry : Cache.Entry, entry.systemId = request.systemId ->
        entry.queryId = request.queryId -> condition entry = true) :
      (activity.state.cache.dropWhere condition).2.entries.get? (Run.key policy request) =
        none := by
    rw [Cache.Store.get?_dropWhere condition _ _ hsound.unique]
    cases hentry : activity.state.cache.entries.get? (Run.key policy request) with
    | none => rfl
    | some entry =>
        rcases owners_of_key hinjective hsound hentry with ⟨hsystem, hquery⟩
        rw [Option.filter_some, hcondition entry hsystem hquery]
        rfl
  cases removal with
  | clearCache target =>
      cases target with
      | none => rfl
      | some systemId =>
          apply hdropped
          intro entry hsystem _
          exact decide_eq_true (hsystem.trans hremoves)
  | invalidateQuery queryId =>
      apply hdropped
      intro entry _ hquery
      exact decide_eq_true (hquery.trans hremoves)
  | _ => exact hremoves.elim

theorem missed_after_removal (hinjective : Function.Injective policy.fingerprint)
    {activity : Activity σ} (hsound : activity.Sound policy outside) {removal : Action σ}
    {request : Request} (hremoves : removal.Removes request) {between : List (Action σ)}
    {execution : Action σ} {removed later : State × σ}
    (hremoved : removed = removal.apply policy outside (activity.state, activity.world))
    (hlater : later = Action.run policy outside between removed)
    (havoids : forall step, step ∈ Action.steps policy outside between removed ->
      step.1.Avoids policy outside (Run.key policy request) step.2.2)
    (hexecution : execution.request? outside later.2 = some request) :
    exists result, execution.result? policy outside later = some result ∧
      result.metadata.cacheHit = false := by
  have hunique : removed.1.cache.entries.Unique := by
    rw [hremoved]
    exact Action.unique_apply hsound.unique removal
  have hnone : removed.1.cache.entries.get? (Run.key policy request) = none := by
    rw [hremoved]
    exact get?_removal hinjective hsound hremoves
  have habsent : later.1.cache.entries.get? (Run.key policy request) = none := by
    rw [hlater]
    exact Action.get?_run_eq_none hunique between havoids hnone
  refine ⟨_, (Action.execute_of_request? policy hexecution).right, ?_⟩
  rw [cacheHit_execute, habsent, Option.any_none, Bool.and_false]

/-- What is kept for a request is told as long as nothing removes it or lets it be replaced. -/
theorem told_unless_removed (hinjective : Function.Injective policy.fingerprint)
    {activity : Activity σ} (hsound : activity.Sound policy outside) {request : Request}
    {entry : Cache.Entry} {history : List (Action σ)} {execution : Action σ} {later : State × σ}
    (hlater : later = Action.run policy outside history (activity.state, activity.world))
    (hentry : activity.state.cache.entries.get? (Run.key policy request) = some entry)
    (hspares : forall step,
      step ∈ Action.steps policy outside history (activity.state, activity.world) ->
        Action.Spares policy outside request entry step)
    (hfresh : entry.isFresh (outside.clock later.2) = true)
    (hexecution : execution.request? outside later.2 = some request)
    (hlifetime : (Run.lifetime request).isSome = true) (hforce : request.forceRefresh = false) :
    exists result, execution.result? policy outside later = some result ∧
      result.metadata.cacheHit = true ∧
        Seen.ofResult result = Seen.ofOutcome request (.ok entry.result) := by
  have hkept : later.1.cache.entries.get? (Run.key policy request) = some entry := by
    rw [hlater]
    exact Action.get?_run_eq_some hsound.unique (owners_of_key hinjective hsound hentry) history
      hspares hentry
  refine ⟨_, (Action.execute_of_request? policy hexecution).right, ?_, ?_⟩
  · rw [cacheHit_execute, hkept, Option.any_some, hlifetime, hforce, hfresh]
    rfl
  · rcases execute_of_kept hlifetime hforce hkept hfresh execution.userId with
      ⟨date, elapsedMs, cacheHit, hresult⟩
    rw [hresult]
    exact seen_result _ date elapsedMs _ cacheHit

/--
Whatever has happened, the entries of the cache name the owners of the requests
that they answer.  Invalidating a saved query and clearing a system drop what
was kept for it and nothing else.  After a removal the first execution of a
request that it concerns makes no hit, and as long as a fresh entry is neither
removed nor replaced it goes on being told.
-/
theorem removal_exact (hinjective : Function.Injective policy.fingerprint)
    (logCapacity feedCapacity : Nat) (start : σ) (happenings : List (Happening σ)) :
    let activity := Happening.play policy outside happenings
      (.initial logCapacity feedCapacity start)
    let entries := activity.state.cache.entries
    let reached := (activity.state, activity.world)
    (forall key entry, entries.get? key = some entry ->
        (exists keeper, keeper ∈ activity.origins ∧ activity.keepers.get? key = some keeper ∧
          Run.key policy keeper.request = key) ∧
        forall request, Run.key policy request = key ->
          entry.systemId = request.systemId ∧ entry.queryId = request.queryId) ∧
      (forall queryId,
        let isAffected := activity.isKeptFor fun request => request.queryId = some queryId
        activity.state.invalidateQuery queryId =
          (entries.entries.countP fun e => isAffected e.1,
            { activity.state with
              cache := { activity.state.cache with
                entries := entries.filter fun key _ => !isAffected key } })) ∧
      (forall systemId,
        let isAffected := activity.isKeptFor fun request => request.systemId = systemId
        activity.state.clearCache (some systemId) =
          { activity.state with
            registry := activity.state.registry.erase systemId
            cache := { activity.state.cache with
              entries := entries.filter fun key _ => !isAffected key } }) ∧
      (forall (removal execution : Action σ) (between : List (Action σ)) (request : Request),
        let removed := removal.apply policy outside reached
        let later := Action.run policy outside between removed
        removal.Removes request ->
          (forall step, step ∈ Action.steps policy outside between removed ->
            step.1.Avoids policy outside (Run.key policy request) step.2.2) ->
          execution.request? outside later.2 = some request ->
            exists result, execution.result? policy outside later = some result ∧
              result.metadata.cacheHit = false) ∧
      forall (execution : Action σ) (history : List (Action σ)) (request : Request)
        (entry : Cache.Entry),
        let later := Action.run policy outside history reached
        entries.get? (Run.key policy request) = some entry ->
          (forall step, step ∈ Action.steps policy outside history reached ->
            Action.Spares policy outside request entry step) ->
          entry.isFresh (outside.clock later.2) = true ->
          execution.request? outside later.2 = some request ->
          (Run.lifetime request).isSome = true -> request.forceRefresh = false ->
            exists result, execution.result? policy outside later = some result ∧
              result.metadata.cacheHit = true ∧
                Seen.ofResult result = Seen.ofOutcome request (.ok entry.result) := by
  intro activity entries reached
  have hsound : activity.Sound policy outside :=
    Happening.sound_play happenings (sound_initial logCapacity feedCapacity start)
  refine ⟨?_, invalidateQuery_eq hsound, clearSystem_eq hsound, ?_, ?_⟩
  · intro key entry hentry
    constructor
    · rcases hsound.kept key entry hentry with ⟨keeper, hkeeper, _⟩
      rcases hsound.keepers key keeper hkeeper with ⟨horigin, hkey⟩
      exact ⟨keeper, horigin, hkeeper, hkey⟩
    · intro request hkey
      rw [← hkey] at hentry
      exact owners_of_key hinjective hsound hentry
  · intro removal execution between request removed later hremoves havoids hexecution
    exact missed_after_removal hinjective hsound hremoves rfl rfl havoids hexecution
  · intro execution history request entry later hentry hspares hfresh hexecution hlifetime hforce
    exact told_unless_removed hinjective hsound rfl hentry hspares hfresh hexecution hlifetime
      hforce

end Activity

end Owners

/-!
# Two requests
-/

namespace Dropping

open Repeating

def echo : Outside Nat :=
  Action.echoing fun _ => .ok (some system)

def asked : List (Happening Nat) :=
  whole (.execute (question (some (Uuid.ofNat 3))) none) 0 7 ++
    whole (.execute (question none) none) 1 7

theorem kept_after_asked :
    let activity := Happening.play plainKeys echo asked (.initial 10 10 0)
    activity.world = 0 ∧ (activity.state.invalidateQuery (Uuid.ofNat 3)).1 = 1 ∧
      (activity.state.cache.entries.get? (Run.key plainKeys (question none))).any
        (Cache.Entry.isFresh 1000) = true := by
  decide +kernel

/-- The saved query is executed anew once it has been invalidated, and the other request is not. -/
theorem removal_exact_asked :
    let activity := Happening.play plainKeys echo asked (.initial 10 10 0)
    let removal : Action Nat := .invalidateQuery (Uuid.ofNat 3)
    let pause : Action Nat := .outside fun world => world + 1000
    let later := Action.run plainKeys echo [removal, pause] (activity.state, activity.world)
    (activity.state.cache.entries.entries.countP fun e =>
        activity.isKeptFor (fun request => request.queryId = some (Uuid.ofNat 3)) e.1) = 1 ∧
      (exists result,
        (Action.execute (question (some (Uuid.ofNat 3))) none).result? plainKeys echo later =
          some result ∧ result.metadata.cacheHit = false) ∧
      exists result, (Action.execute (question none) none).result? plainKeys echo later =
        some result ∧ result.metadata.cacheHit = true := by
  have hexact := @Activity.removal_exact Nat plainKeys echo Function.injective_id 10 10 0 asked
  have hafter := kept_after_asked
  generalize Happening.play plainKeys echo asked (.initial 10 10 0) = activity at hexact hafter ⊢
  intro _ removal pause later
  rcases hafter with ⟨hworld, hcount, hkept⟩
  rcases hexact with ⟨_, hinvalidated, _, hmissed, htold⟩
  rw [Option.any_eq_true] at hkept
  rcases hkept with ⟨entry, hentry, hfresh⟩
  refine ⟨?_, ?_, ?_⟩
  · rw [← hcount]
    exact (congrArg Prod.fst (hinvalidated (Uuid.ofNat 3))).symm
  · have hremoves : removal.Removes (question (some (Uuid.ofNat 3))) := Eq.refl (some _)
    have havoids : forall step,
        step ∈ Action.steps plainKeys echo [pause]
          (removal.apply plainKeys echo (activity.state, activity.world)) ->
          step.1.Avoids plainKeys echo
            (Run.key plainKeys (question (some (Uuid.ofNat 3)))) step.2.2 := by
      intro step hmem request hrequest
      rw [List.mem_singleton.mp hmem] at hrequest
      cases hrequest
    have hmiss := hmissed removal (.execute (question (some (Uuid.ofNat 3))) none) [pause]
      (question (some (Uuid.ofNat 3))) hremoves havoids rfl
    rw [← Action.run_cons] at hmiss
    exact hmiss
  · have hspares : forall step,
        step ∈ Action.steps plainKeys echo [removal, pause] (activity.state, activity.world) ->
          Action.Spares plainKeys echo (question none) entry step := by
      intro step hmem
      have hnow : entry.isFresh (echo.clock activity.world) = true := by
        apply Cache.Entry.isFresh_of_le _ hfresh
        rw [hworld]
        exact Nat.zero_le 1000
      rcases List.mem_cons.mp hmem with hfirst | hsecond
      · rw [hfirst]
        refine ⟨?_, ?_, hnow⟩
        · intro request hrequest
          cases hrequest
        · intro hremoves
          cases hremoves
      · rw [List.mem_singleton.mp hsecond]
        refine ⟨?_, ?_, hnow⟩
        · intro request hrequest
          cases hrequest
        · exact id
    have hlater : entry.isFresh (echo.clock later.2) = true := by
      show entry.isFresh (activity.world + 1000) = true
      rw [hworld]
      exact hfresh
    have hlifetime : (Run.lifetime (question none)).isSome = true := by
      decide
    rcases htold (.execute (question none) none) [removal, pause] (question none) entry hentry
      hspares hlater rfl hlifetime rfl with ⟨result, hresult, hhit, _⟩
    exact ⟨result, hresult, hhit⟩

end Dropping
end Engine
end QueryGateway
