import QueryGateway.Proofs.Service.Occurrence

/-!
# Who is told what was kept for saved queries

The key of what is kept for a saved query names the query, and what comes with
a call never does.  A result that was kept for a saved query is therefore told
only to executions of the same query, and these have been found to be allowed
before they look for anything.
-/

namespace QueryGateway
namespace Engine

open Catalog Execution

variable {σ : Type}

/-!
# Executions and saved queries
-/

theorem queryId_of_key {policy : Policy} (hinjective : Function.Injective policy.fingerprint)
    {first second : Request} (hkey : Run.key policy first = Run.key policy second) :
    first.queryId = second.queryId :=
  (Cache.Identity.agree_of_key_eq hinjective hkey).queryId

theorem loadQuery_of_loadSaved {outside : Outside σ} {asked : Uuid} {world : σ}
    {query : SavedQuery} (hquery : loadSaved outside asked world = .ok query) :
    outside.loadQuery asked world = .ok (some query) := by
  unfold loadSaved at hquery
  cases hloaded : outside.loadQuery asked world with
  | error failure =>
      rw [hloaded] at hquery
      cases hquery
  | ok found =>
      rw [hloaded] at hquery
      cases found with
      | none => cases hquery
      | some loaded =>
          cases hquery
          rfl

theorem allowed_of_checkRunnable {query : SavedQuery} {userId : Option Uuid}
    (hrunnable : checkRunnable query userId = .ok ()) :
    query.isActive = true ∧ (query.visibility = .everyone ∨ userId = some query.ownerId) := by
  unfold checkRunnable at hrunnable
  split at hrunnable
  · cases hrunnable
  · rename_i hactive
    split at hrunnable
    · cases hrunnable
    · rename_i hopen
      constructor
      · cases hstate : query.isActive with
        | true => rfl
        | false =>
            rw [hstate] at hactive
            exact absurd rfl hactive
      · cases hvisibility : query.visibility with
        | everyone => exact Or.inl rfl
        | ownerOnly =>
            apply Or.inr
            by_contra hother
            exact hopen ⟨hvisibility, hother⟩

namespace Origin

def IsAdHoc (origin : Origin σ) : Prop :=
  exists request userId, origin.action = .execute request userId

/--
What is executed is a saved query, and at the moment of the call it is active
and either public or owned by the user.
-/
def RunsSaved (outside : Outside σ) (queryId : Uuid) (origin : Origin σ) : Prop :=
  exists asked userId forceRefresh query,
    origin.action = .executeSaved asked userId forceRefresh ∧
      loadSaved outside asked origin.moment = .ok query ∧ query.id = queryId ∧
        query.isActive = true ∧ (query.visibility = .everyone ∨ userId = some query.ownerId)

/-- The request names the saved query that is executed, and none if none is. -/
def NamesQuery (outside : Outside σ) (origin : Origin σ) : Prop :=
  (origin.IsAdHoc ∧ origin.request.queryId = none) ∨
    exists queryId, origin.RunsSaved outside queryId ∧ origin.request.queryId = some queryId

variable {outside : Outside σ} {origin : Origin σ}

theorem namesQuery_of_executeSaved {asked : Uuid} {userId : Option Uuid} {forceRefresh : Bool}
    (hbegun : origin.action.request? outside origin.moment = some origin.request)
    (haction : origin.action = .executeSaved asked userId forceRefresh) :
    origin.NamesQuery outside := by
  rw [haction] at hbegun
  rcases Action.saved_of_request? hbegun with ⟨query, hquery, hrunnable, hrequest⟩
  refine Or.inr ⟨query.id, ?_, ?_⟩
  · exact ⟨asked, userId, forceRefresh, query, haction, hquery, rfl,
      allowed_of_checkRunnable hrunnable⟩
  · rw [hrequest]
    rfl

theorem queryId_of_runsSaved {queryId : Uuid}
    (hbegun : origin.action.request? outside origin.moment = some origin.request)
    (hruns : origin.RunsSaved outside queryId) : origin.request.queryId = some queryId := by
  rcases hruns with ⟨asked, userId, forceRefresh, query, haction, hquery, hid, _⟩
  rw [haction] at hbegun
  rcases Action.saved_of_request? hbegun with ⟨loaded, hloaded, _, hrequest⟩
  rw [hquery] at hloaded
  cases hloaded
  rw [hrequest, ← hid]
  rfl

theorem runsSaved_iff {queryId : Uuid}
    (hbegun : origin.action.request? outside origin.moment = some origin.request)
    (hnames : origin.NamesQuery outside) :
    origin.RunsSaved outside queryId ↔ origin.request.queryId = some queryId := by
  constructor
  · exact queryId_of_runsSaved hbegun
  · intro hquery
    rcases hnames with ⟨_, hnone⟩ | ⟨named, hruns, hnamed⟩
    · rw [hquery] at hnone
      cases hnone
    · rw [hquery] at hnamed
      cases hnamed
      exact hruns

theorem isAdHoc_iff (hnames : origin.NamesQuery outside) :
    origin.IsAdHoc ↔ origin.request.queryId = none := by
  rcases hnames with ⟨hadHoc, hnone⟩ | ⟨queryId, hruns, hquery⟩
  · exact ⟨fun _ => hnone, fun _ => hadHoc⟩
  · constructor
    · intro hadHoc
      rcases hadHoc with ⟨request, userId, hexecute⟩
      rcases hruns with ⟨asked, runner, forceRefresh, query, hsaved, _⟩
      rw [hexecute] at hsaved
      cases hsaved
    · intro hnone
      rw [hquery] at hnone
      cases hnone

theorem asked_of_runsSaved
    (hkeyed : forall asked world query,
      outside.loadQuery asked world = .ok (some query) -> query.id = asked)
    {queryId : Uuid} (hruns : origin.RunsSaved outside queryId) :
    exists userId forceRefresh, origin.action = .executeSaved queryId userId forceRefresh := by
  rcases hruns with ⟨asked, userId, forceRefresh, query, haction, hquery, hid, _⟩
  refine ⟨userId, forceRefresh, ?_⟩
  rw [haction, ← hid, hkeyed asked origin.moment query (loadQuery_of_loadSaved hquery)]

end Origin

namespace Activity

variable {policy : Policy} {outside : Outside σ} {activity : Activity σ}

theorem source_of_hit (hinjective : Function.Injective policy.fingerprint)
    (hsound : activity.Sound policy outside)
    (hnames : forall origin, origin ∈ activity.origins -> origin.NamesQuery outside)
    {attempt : Attempt σ} (hmem : attempt ∈ activity.attempts)
    (hhit : attempt.run.stage.isHit = true) :
    exists source, attempt.source = some source ∧ source ∈ activity.origins ∧
      (source.IsAdHoc ↔ attempt.origin.IsAdHoc) ∧
      forall queryId, source.RunsSaved outside queryId ↔
        attempt.origin.RunsSaved outside queryId := by
  have horigin : attempt.origin ∈ activity.origins := List.mem_map_of_mem hmem
  have hnamed := hnames attempt.origin horigin
  rcases hsound.sources attempt hmem hhit with ⟨source, hsource, hsourceMem, hkey⟩
  have hquery := queryId_of_key hinjective hkey
  refine ⟨source, hsource, hsourceMem, ?_, ?_⟩
  · rw [Origin.isAdHoc_iff (hnames source hsourceMem), Origin.isAdHoc_iff hnamed, hquery]
  · intro queryId
    rw [Origin.runsSaved_iff (hsound.begun source hsourceMem) (hnames source hsourceMem),
      Origin.runsSaved_iff (hsound.begun attempt.origin horigin) hnamed, hquery]

theorem spared_of_isAdHoc (hinjective : Function.Injective policy.fingerprint)
    (hsound : activity.Sound policy outside)
    (hnames : forall origin, origin ∈ activity.origins -> origin.NamesQuery outside)
    {index : Nat} {attempt : Attempt σ} (hattempt : activity.attempts[index]? = some attempt)
    (hadHoc : attempt.origin.IsAdHoc) {key : Cache.Key} {keeper : Origin σ} {queryId : Uuid}
    (hkeeper : activity.keepers.get? key = some keeper)
    (hruns : keeper.RunsSaved outside queryId) :
    (activity.advance policy outside index).keepers.get? key = some keeper ∧
      (activity.advance policy outside index).state.cache.entries.get? key =
        activity.state.cache.entries.get? key := by
  have hmem : attempt ∈ activity.attempts := List.mem_of_getElem? hattempt
  have hnone : attempt.origin.request.queryId = none :=
    (Origin.isAdHoc_iff (hnames attempt.origin (List.mem_map_of_mem hmem))).mp hadHoc
  rcases hsound.keepers key keeper hkeeper with ⟨hkeeperMem, hkey⟩
  have hquery : keeper.request.queryId = some queryId :=
    Origin.queryId_of_runsSaved (hsound.begun keeper hkeeperMem) hruns
  -- One of the two keys names a saved query and the other one does not.
  have hother : Run.key policy attempt.run.request ≠ key := by
    intro hsame
    rw [← hkey, hsound.requests attempt hmem] at hsame
    rw [queryId_of_key hinjective hsame, hquery] at hnone
    cases hnone
  rw [advance_of_attempt hattempt]
  constructor
  · rw [← hkeeper]
    exact get?_keepersAfter_of_ne hother activity.keepers
  · exact Run.get?_step_of_ne (hsound.proper attempt hmem) hother activity.state activity.world

end Activity
end Engine

/-!
# Isolation
-/

namespace Service

open Engine

variable {σ : Type} {policy : Policy} {outside : Outside σ}

theorem Occurrence.exists_call {occurrences : List (Occurrence σ)} {origin : Origin σ}
    (hbegun : origin.action.request? outside origin.moment = some origin.request)
    (hmem : .act origin.action ∈ occurrences.filterMap happening?) :
    exists received, .call received ∈ occurrences ∧ received.action? = some origin.action := by
  rcases origin with ⟨action, moment, request⟩
  rcases List.mem_filterMap.mp hmem with ⟨occurrence, hoccurrence, hact⟩
  cases occurrence with
  | call received =>
      rcases Option.map_eq_some_iff.mp hact with ⟨asked, haction, hsame⟩
      cases hsame
      exact ⟨received, hoccurrence, haction⟩
  | purge =>
      cases hact
      cases hbegun
  | edit change =>
      cases hact
      cases hbegun
  | _ => cases hact

theorem Call.namesQuery {call : Call} {origin : Origin σ}
    (hbegun : origin.action.request? outside origin.moment = some origin.request)
    (haction : call.action? = some origin.action) :
    userOf call = .ok origin.action.userId ∧ origin.NamesQuery outside := by
  rcases action?_cases haction with ⟨id, body, user, huser, hexecute⟩ |
    ⟨asked, user, forceRefresh, huser, hsaved⟩ | hnothing
  · constructor
    · rw [huser, hexecute]
      rfl
    · rw [hexecute] at hbegun
      refine Or.inl ⟨⟨body.toRequest id, user, hexecute⟩, ?_⟩
      rw [← Option.some.inj hbegun]
      rfl
  · constructor
    · rw [huser, hsaved]
      rfl
    · exact Origin.namesQuery_of_executeSaved hbegun hsaved
  · rw [hnothing] at hbegun
    cases hbegun

/--
Executions come from calls, on behalf of the users that these name, and a saved
query is executed only while it is active and open to the user.  What is told
from the cache was kept by an execution of the same saved query, or by one of
none if none is executed.  An execution of none never touches what was kept for
a saved query.  Saved queries are known by the identifiers of their records,
which are those that calls name if records are found by them.
-/
theorem saved_results_isolated (hinjective : Function.Injective policy.fingerprint)
    (logCapacity feedCapacity : Nat) (start : σ) (occurrences : List (Occurrence σ)) :
    let activity := Occurrence.play policy outside occurrences
      (.initial logCapacity feedCapacity start)
    (forall origin, origin ∈ activity.origins ->
        (exists call, .call call ∈ occurrences ∧ call.action? = some origin.action ∧
          userOf call = .ok origin.action.userId) ∧
        (origin.IsAdHoc ∨ exists queryId, origin.RunsSaved outside queryId)) ∧
      (forall attempt result, attempt ∈ activity.attempts ->
        attempt.run.stage = .done result -> result.metadata.cacheHit = true ->
          exists source, attempt.source = some source ∧ source ∈ activity.origins ∧
            (source.IsAdHoc ↔ attempt.origin.IsAdHoc) ∧
            forall queryId, source.RunsSaved outside queryId ↔
              attempt.origin.RunsSaved outside queryId) ∧
      (forall index attempt, activity.attempts[index]? = some attempt ->
        attempt.origin.IsAdHoc ->
          let after := activity.advance policy outside index
          forall key keeper queryId, activity.keepers.get? key = some keeper ->
            keeper.RunsSaved outside queryId ->
              after.keepers.get? key = some keeper ∧
                after.state.cache.entries.get? key =
                  activity.state.cache.entries.get? key) ∧
      ((forall asked world query,
          outside.loadQuery asked world = .ok (some query) -> query.id = asked) ->
        forall (origin : Origin σ) queryId, origin.RunsSaved outside queryId ->
          exists userId forceRefresh,
            origin.action = .executeSaved queryId userId forceRefresh) := by
  intro activity
  have hsound : activity.Sound policy outside :=
    Happening.sound_play _ (Activity.sound_initial logCapacity feedCapacity start)
  have hcalled : forall origin, origin ∈ activity.origins ->
      exists call, .call call ∈ occurrences ∧ call.action? = some origin.action := by
    intro origin hmem
    rcases Happening.origins_play hmem with hbefore | hact
    · cases hbefore
    · exact Occurrence.exists_call (hsound.begun origin hmem) hact
  have hnames : forall origin, origin ∈ activity.origins -> origin.NamesQuery outside := by
    intro origin hmem
    rcases hcalled origin hmem with ⟨call, _, haction⟩
    exact (Call.namesQuery (hsound.begun origin hmem) haction).right
  refine ⟨?_, ?_, ?_, ?_⟩
  · intro origin hmem
    rcases hcalled origin hmem with ⟨call, hcall, haction⟩
    rcases Call.namesQuery (hsound.begun origin hmem) haction with ⟨huser, hnamed⟩
    refine ⟨⟨call, hcall, haction, huser⟩, ?_⟩
    rcases hnamed with ⟨hadHoc, _⟩ | ⟨queryId, hruns, _⟩
    · exact Or.inl hadHoc
    · exact Or.inr ⟨queryId, hruns⟩
  · intro attempt result hmem hstage hhit
    have hfound : attempt.run.stage.isHit = true := by
      rw [hstage]
      exact hhit
    exact Activity.source_of_hit hinjective hsound hnames hmem hfound
  · intro index attempt hattempt hadHoc after key keeper queryId hkeeper hruns
    exact Activity.spared_of_isAdHoc hinjective hsound hnames hattempt hadHoc hkeeper hruns
  · intro hkeyed origin queryId hruns
    exact Origin.asked_of_runsSaved hkeyed hruns

/-!
# A saved query that is public at first
-/

namespace Sharing

open Catalog Repeating

def saved (visibility : Visibility) : SavedQuery :=
  ⟨Uuid.ofNat 3, Uuid.ofNat 5, Uuid.ofNat 7, none, "question", [], [], 60, true, visibility, [],
    true⟩

/-- The saved query is public as long as no time has passed. -/
def echo : Outside Nat :=
  { Action.echoing fun _ => .ok (some system) with
    loadQuery := fun _ world => .ok (some (saved (if world = 0 then .everyone else .ownerOnly))) }

def calling (digit : String) : Call where
  verb := "POST"
  path := "/api/v1/queries/00000000-0000-0000-0000-000000000003/execute"
  query := none
  headers := [("X-User-Id", "00000000-0000-0000-0000-00000000000" ++ digit)]
  body := []

/-- A stranger asks before and after the saved query is hidden, and then its owner asks. -/
def asked : List (Occurrence Nat) :=
  .call (calling "9") :: List.replicate 7 (.advance 0) ++
    .edit (fun _ => 1) :: .call (calling "9") ::
    .call (calling "5") :: List.replicate 2 (.advance 1)

def isToldOwner (attempt : Attempt Nat) : Bool :=
  match attempt.origin.action, attempt.run.stage with
  | .executeSaved _ userId _, .done result =>
      result.metadata.cacheHit && userId = some (Uuid.ofNat 5)
  | _, _ => false

theorem told_after_asked :
    (Occurrence.play plainKeys echo asked (.initial 10 10 0)).attempts.any isToldOwner = true := by
  decide +kernel

/-- What was kept for the stranger is told to the owner, as a result of the same saved query. -/
theorem saved_results_isolated_asked :
    let activity := Occurrence.play plainKeys echo asked (.initial 10 10 0)
    exists attempt source queryId, attempt ∈ activity.attempts ∧
      attempt.origin.action.userId = some (Uuid.ofNat 5) ∧ attempt.source = some source ∧
        source.RunsSaved echo queryId ∧ attempt.origin.RunsSaved echo queryId := by
  have hisolated := @saved_results_isolated Nat plainKeys echo Function.injective_id 10 10 0 asked
  have hafter := told_after_asked
  generalize Occurrence.play plainKeys echo asked (.initial 10 10 0) = activity
    at hisolated hafter ⊢
  intro _
  rcases List.any_eq_true.mp hafter with ⟨attempt, hmem, htold⟩
  unfold isToldOwner at htold
  split at htold
  · rename_i queryId userId forceRefresh result haction hstage
    rw [Bool.and_eq_true, decide_eq_true_eq] at htold
    rcases htold with ⟨hhit, huser⟩
    rcases hisolated with ⟨hserved, hshared, _⟩
    rcases hshared attempt result hmem hstage hhit with ⟨source, hsource, _, _, hsame⟩
    rcases (hserved attempt.origin (List.mem_map_of_mem hmem)).right with hadHoc | ⟨saved, hruns⟩
    · rcases hadHoc with ⟨request, caller, hexecute⟩
      rw [haction] at hexecute
      cases hexecute
    · refine ⟨attempt, source, saved, hmem, ?_, hsource, (hsame saved).mpr hruns, hruns⟩
      rw [haction]
      exact huser
  · cases htold

end Sharing

/-!
# Calls that are answered one after another

A service that answers each call before anything else happens goes through some
of what may happen, so that the same holds of its answers.
-/

namespace Occurrence

theorem Began.namesQuery {surroundings : Surroundings σ} {occurrences : List (Occurrence σ)}
    {start : Gateway × σ} {origin : Origin σ}
    (hbegan : Began policy surroundings occurrences start origin)
    (hbegun : origin.action.request? outside origin.moment = some origin.request) :
    origin.NamesQuery outside := by
  rcases hbegan with ⟨_, call, _, _, haction, _⟩
  exact (Call.namesQuery hbegun haction).right

theorem exists_sound (policy : Policy) (surroundings : Surroundings σ)
    (logCapacity feedCapacity : Nat) (start : σ) (occurrences : List (Occurrence σ)) :
    let first := (Gateway.initial logCapacity feedCapacity, start)
    let reached := attended policy surroundings occurrences first
    exists activity : Activity σ, activity.Sound policy surroundings.outside ∧
      activity.state = reached.1.engine ∧ activity.world = reached.2 ∧
        forall origin, origin ∈ activity.origins ->
          Began policy surroundings occurrences first origin := by
  intro first reached
  let fresh : Activity σ := .initial logCapacity feedCapacity start
  have hfresh : fresh.state = (Gateway.initial logCapacity feedCapacity).engine := rfl
  rcases attended_play policy surroundings occurrences hfresh with ⟨played, hreached, horigins⟩
  rcases Prod.mk.inj hreached with ⟨hstate, hworld⟩
  refine ⟨play policy surroundings.outside played fresh, ?_, hstate, hworld, ?_⟩
  · exact Happening.sound_play _ (Activity.sound_initial logCapacity feedCapacity start)
  · intro origin hmem
    rcases horigins origin hmem with hbefore | hbegan
    · cases hbefore
    · exact hbegan

/-- What is told from the cache was kept at an earlier call for the same saved query. -/
theorem answer_isolated (hinjective : Function.Injective policy.fingerprint)
    (surroundings : Surroundings σ) (logCapacity feedCapacity : Nat) (start : σ)
    (occurrences : List (Occurrence σ)) {call : Call} {action : Action σ}
    (haction : call.action? = some action) {result : Execution.Result} :
    let first := (Gateway.initial logCapacity feedCapacity, start)
    let reached := attended policy surroundings occurrences first
    action.result? policy surroundings.outside (reached.1.engine, reached.2) = some result ->
      (reached.1.handle policy surroundings call reached.2).1 = .json 200 result.toJson ∧
        (result.metadata.cacheHit = true ->
          exists request source,
            action.request? surroundings.outside reached.2 = some request ∧
              Began policy surroundings occurrences first source ∧
              let asking : Origin σ := ⟨action, reached.2, request⟩
              (source.IsAdHoc ↔ asking.IsAdHoc) ∧
                forall queryId, source.RunsSaved surroundings.outside queryId ↔
                  asking.RunsSaved surroundings.outside queryId) := by
  intro first reached
  have hexists := exists_sound policy surroundings logCapacity feedCapacity start occurrences
  rcases hexists with ⟨before, hsound, hengine, hworld, hbegan⟩
  change before.state = reached.1.engine at hengine
  change before.world = reached.2 at hworld
  rcases Gateway.handle_play policy surroundings call hengine with
    ⟨others, -, -, haccounted⟩
  have hplayed : (play policy surroundings.outside (.call call :: others) before).Sound policy
      surroundings.outside := Happening.sound_play _ hsound
  generalize play policy surroundings.outside (.call call :: others) before = after
    at haccounted hplayed
  rw [← hengine, ← hworld]
  intro hresult
  refine ⟨haccounted.told action haction result hresult, ?_⟩
  intro hhit
  cases hrequest : action.request? surroundings.outside before.world with
  | none =>
      rw [Action.cacheHit_of_request?_eq_none policy hrequest hresult] at hhit
      cases hhit
  | some request =>
      rcases haccounted.executed action haction request hrequest with
        ⟨final, told, hattempts, horigin, hstage, hsource, htold⟩
      rw [hresult] at htold
      cases htold
      have hnames : forall origin, origin ∈ after.origins ->
          origin.NamesQuery surroundings.outside := by
        intro origin hmem
        have hbegun := hplayed.begun origin hmem
        rcases haccounted.origins hmem with hearlier | ⟨hnow, -⟩
        · exact (hbegan origin hearlier).namesQuery hbegun
        · exact (Call.namesQuery hbegun hnow).right
      have hfinal : final ∈ after.attempts := by
        rw [hattempts]
        exact List.mem_append_right _ (List.mem_singleton_self final)
      have hfound : final.run.stage.isHit = true := by
        rw [hstage]
        exact hhit
      rcases Activity.source_of_hit hinjective hplayed hnames hfinal hfound with
        ⟨source, hnoted, -, hadHoc, hruns⟩
      -- The search noted who had kept the result, and only earlier calls had kept any by then.
      rcases hsource source hnoted with ⟨key, hkeeper⟩
      rw [horigin] at hadHoc hruns
      refine ⟨request, source, rfl, ?_, hadHoc, hruns⟩
      exact hbegan source (hsound.keepers key source hkeeper).left

/-- A call for what is no saved query leaves alone what was kept for one. -/
theorem kept_spared_of_isAdHoc (hinjective : Function.Injective policy.fingerprint)
    (surroundings : Surroundings σ) (logCapacity feedCapacity : Nat) (start : σ)
    (occurrences : List (Occurrence σ)) {call : Call} {request : Execution.Request}
    {userId : Option Uuid}
    (haction : call.action? = some (.execute request userId : Action σ)) :
    let first := (Gateway.initial logCapacity feedCapacity, start)
    let reached := attended policy surroundings occurrences first
    let handled := reached.1.handle policy surroundings call reached.2
    forall key entry, reached.1.engine.cache.entries.get? key = some entry ->
      entry.queryId.isSome = true -> handled.2.1.engine.cache.entries.get? key = some entry := by
  intro first reached handled key entry hentry hsaved
  have hexists := exists_sound policy surroundings logCapacity feedCapacity start occurrences
  rcases hexists with ⟨activity, hsound, hengine, -, -⟩
  have hobeys : reached.1.Obeys policy surroundings.outside reached.2 call.action? handled :=
    Gateway.obeys_handle surroundings call
  rw [haction] at hobeys
  have hafter : handled.2.1.engine = _ := congrArg Prod.fst hobeys.left
  have hadHoc : request.queryId = none := by
    rcases Call.action?_cases haction with ⟨id, body, user, -, hexecute⟩ |
      ⟨asked, user, forceRefresh, -, hexecute⟩ | hnothing
    · cases hexecute
      rfl
    · cases hexecute
    · cases hnothing surroundings.outside reached.2
  have hother : Run.key policy request ≠ key := by
    intro hsame
    rcases hsound.kept key entry (hengine ▸ hentry) with ⟨keeper, hkeeper, -, hquery⟩
    rw [← (hsound.keepers key keeper hkeeper).right] at hsame
    rw [hquery, ← queryId_of_key hinjective hsame, hadHoc] at hsaved
    cases hsaved
  rw [hafter, Action.get?_apply_of_request? rfl hother]
  exact hentry

end Occurrence
end Service
end QueryGateway
