import QueryGateway.Proofs.Engine.Activity
import QueryGateway.Proofs.Journal.Balance

/-!
# Every attempt is logged once

The log entry of an attempt agrees with the result that its caller is told, and
the counts of entries agree with the hits of the cache and with the calls.
-/

namespace QueryGateway
namespace Engine

open Catalog Execution
open Journal (recorded_tally)

section Logging

variable {σ : Type} {policy : Policy} {outside : Outside σ}

/-!
# Entries and results
-/

structure Corresponds (systemId : Uuid) (queryId userId : Option Uuid) (result : Result)
    (entry : LogEntry) : Prop where
  systemId : entry.systemId = systemId
  queryId : entry.queryId = queryId
  userId : entry.userId = userId
  failed : entry.status = .failed ↔ result.success = false
  cached : entry.status = .cached ↔ result.metadata.cacheHit = true
  completed : entry.status = .completed ↔
    result.success = true ∧ result.metadata.cacheHit = false
  of_success : result.success = true ->
    result.data.isSome = true ∧ entry.resultSnapshot = result.data ∧
      entry.recordCount = result.metadata.recordCount
  of_failure : result.success = false ->
    exists info, result.error = some info ∧ entry.errorMessage = some info.message ∧
      entry.resultSnapshot = none

theorem corresponds_entry (run : Run) (id : Uuid) (date : Timestamp) (elapsedMs : Nat)
    (outcome : Except Failure Outcome) (cacheHit : Bool) :
    Corresponds run.request.systemId run.request.queryId run.userId
      (run.result date elapsedMs outcome cacheHit)
      (run.entry id date elapsedMs outcome cacheHit) := by
  cases outcome with
  | error failure =>
      constructor
      case of_failure =>
        intro _
        exact ⟨_, rfl, rfl, rfl⟩
      all_goals simp [Run.entry, Run.result, Engine.failed, LogEntry.plain]
  | ok outcome =>
      cases cacheHit with
      | true =>
          constructor
          all_goals simp [Run.entry, Run.result, succeeded, LogEntry.plain]
      | false =>
          constructor
          all_goals simp [Run.entry, Run.result, succeeded, LogEntry.plain]

theorem corresponds_refusalEntry (query : SavedQuery) (userId : Option Uuid) (failure : Failure)
    (id : Uuid) (date : Timestamp) (elapsedMs : Nat) (method : Option String) :
    Corresponds query.systemId (some query.id) userId
      (Engine.failed failure elapsedMs method date)
      (refusalEntry query userId failure id date elapsedMs) := by
  constructor
  case of_failure =>
    intro _
    exact ⟨_, rfl, rfl, rfl⟩
  all_goals simp [refusalEntry, Engine.failed, LogEntry.plain]

theorem isUnfinished_start (policy : Policy) (request : Request) (userId : Option Uuid)
    (now : Nat) : (Run.start policy request userId now).stage.isUnfinished = true := by
  unfold Run.start Run.firstStage
  split
  · rfl
  · rfl

theorem execute_recorded (policy : Policy) (outside : Outside σ) (request : Request)
    (userId : Option Uuid) (state : State) (world : σ) :
    exists entry,
      Corresponds request.systemId request.queryId userId
        (execute policy outside request userId state world).1 entry ∧
      Run.Records (some entry) state (execute policy outside request userId state world).2.1 := by
  let run := Run.start policy request userId (outside.clock world)
  have hunfinished : run.stage.result? = none :=
    Option.isNone_iff_eq_none.mp (isUnfinished_start policy request userId (outside.clock world))
  rcases Run.records_complete policy outside hunfinished state world with
    ⟨id, date, elapsedMs, outcome, cacheHit, hresult, hrecords⟩
  refine ⟨run.entry id date elapsedMs outcome cacheHit, ?_, hrecords⟩
  have hsame : (execute policy outside request userId state world).1 =
      run.result date elapsedMs outcome cacheHit := hresult
  rw [hsame]
  exact corresponds_entry run id date elapsedMs outcome cacheHit

theorem executeSaved_recorded {policy : Policy} {outside : Outside σ} {queryId : Uuid}
    {world : σ} {query : SavedQuery} (hquery : loadSaved outside queryId world = .ok query)
    (userId : Option Uuid) (forceRefresh : Bool) (state : State) :
    exists entry,
      Corresponds query.systemId (some query.id) userId
        (executeSaved policy outside queryId userId forceRefresh state world).1 entry ∧
      Run.Records (some entry) state
        (executeSaved policy outside queryId userId forceRefresh state world).2.1 := by
  cases hrunnable : checkRunnable query userId with
  | error failure =>
      simp only [executeSaved, hquery, hrunnable, refuse]
      exact ⟨_, corresponds_refusalEntry query userId failure _ _ _ _, rfl, rfl⟩
  | ok allowed =>
      simp only [executeSaved, hquery, hrunnable]
      exact execute_recorded policy outside (.ofSaved query forceRefresh) userId state world

/-!
# Counters
-/

theorem cached_tally (status : Status) (counters : Counters) :
    (counters.tally status).cached = counters.cached + if status = .cached then 1 else 0 := by
  cases status with
  | completed => rfl
  | failed => rfl
  | cached => rfl

theorem recorded_record (entry : LogEntry) (journal : Journal) :
    (journal.record entry).2.counters.recorded = journal.counters.recorded + 1 := by
  rcases Journal.record_cases entry journal with hwaits | hdrops
  · rw [hwaits]
    exact recorded_tally entry.status journal.counters
  · rw [hdrops]
    exact recorded_tally entry.status journal.counters

theorem cached_record (entry : LogEntry) (journal : Journal) :
    (journal.record entry).2.counters.cached =
      journal.counters.cached + if entry.status = .cached then 1 else 0 := by
  rcases Journal.record_cases entry journal with hwaits | hdrops
  · rw [hwaits]
    exact cached_tally entry.status journal.counters
  · rw [hdrops]
    exact cached_tally entry.status journal.counters

theorem counters_flush (write : List LogEntry -> σ -> Journal.Written × σ) (max : Nat)
    (journal : Journal) (store : σ) :
    (journal.flush write max store).journal.counters.recorded = journal.counters.recorded ∧
      (journal.flush write max store).journal.counters.cached = journal.counters.cached := by
  cases hempty : (journal.pending.take max).isEmpty with
  | true =>
      rw [Journal.flush_of_isEmpty hempty]
      exact ⟨rfl, rfl⟩
  | false =>
      cases hanswer : (write (journal.pending.take max) store).1 with
      | ok written =>
          rw [Journal.flush_of_ok hempty hanswer]
          exact ⟨rfl, rfl⟩
      | error failure =>
          rw [Journal.flush_of_error hempty hanswer]
          exact ⟨rfl, rfl⟩

/-!
# Counters along a step
-/

theorem status_entry (run : Run) (id : Uuid) (date : Timestamp) (elapsedMs : Nat)
    (outcome : Except Failure Outcome) (cacheHit : Bool) :
    (run.entry id date elapsedMs outcome cacheHit).status = .cached ↔
      (Stage.reporting outcome cacheHit).isUnreportedHit = true := by
  cases outcome with
  | error failure => simp [Run.entry, LogEntry.plain, Stage.isUnreportedHit]
  | ok outcome => simp [Run.entry, LogEntry.plain, Stage.isUnreportedHit]

theorem journal_step (policy : Policy) (outside : Outside σ) {run : Run}
    (hstage : forall outcome cacheHit, run.stage ≠ .reporting outcome cacheHit) (state : State)
    (world : σ) :
    (run.step policy outside state world).2.1.journal = state.journal := by
  have hrecords := run.records_step policy outside state world
  rw [Run.logged?_eq_none hstage world] at hrecords
  exact hrecords.left

theorem recorded_step (policy : Policy) (outside : Outside σ) (run : Run) (state : State)
    (world : σ) :
    (run.step policy outside state world).2.1.journal.counters.recorded +
        (run.step policy outside state world).1.stage.isUnfinished.toNat =
      state.journal.counters.recorded + run.stage.isUnfinished.toNat := by
  by_cases hreports : exists outcome cacheHit, run.stage = .reporting outcome cacheHit
  · rcases hreports with ⟨outcome, cacheHit, hstage⟩
    rcases run with ⟨request, userId, startedAt, stage⟩
    cases hstage
    exact recorded_record _ _
  · have hstage : forall outcome cacheHit, run.stage ≠ .reporting outcome cacheHit := by
      intro outcome cacheHit hreporting
      exact hreports ⟨outcome, cacheHit, hreporting⟩
    rw [journal_step policy outside hstage, Run.isUnfinished_step hstage]

theorem hits_step (policy : Policy) (outside : Outside σ) (run : Run) (state : State)
    (world : σ) :
    (run.step policy outside state world).2.1.cache.hits + state.journal.counters.cached +
        run.stage.isUnreportedHit.toNat =
      state.cache.hits + (run.step policy outside state world).2.1.journal.counters.cached +
        (run.step policy outside state world).1.stage.isUnreportedHit.toNat := by
  -- A report moves the count of entries, a search that of hits, and no other step moves any.
  by_cases hreports : exists outcome cacheHit, run.stage = .reporting outcome cacheHit
  · rcases hreports with ⟨outcome, cacheHit, hstage⟩
    rcases run with ⟨request, userId, startedAt, stage⟩
    cases hstage
    let entry := Run.entry ⟨request, userId, startedAt, .reporting outcome cacheHit⟩
      (outside.newId world).1 (outside.date (outside.newId world).2)
      (outside.clock (outside.newId world).2 - startedAt) outcome cacheHit
    have hstatus : entry.status = .cached ↔
        (Stage.reporting outcome cacheHit).isUnreportedHit = true := status_entry ..
    show state.cache.hits + state.journal.counters.cached +
        (Stage.reporting outcome cacheHit).isUnreportedHit.toNat =
      state.cache.hits + (state.journal.record entry).2.counters.cached + 0
    rw [cached_record]
    cases hhit : (Stage.reporting outcome cacheHit).isUnreportedHit with
    | true =>
        rw [if_pos (hstatus.mpr hhit), Bool.toNat_true]
        omega
    | false =>
        have hother : entry.status ≠ .cached := by
          intro hcached
          rw [hstatus.mp hcached] at hhit
          cases hhit
        rw [if_neg hother, Bool.toNat_false]
        omega
  · have hreport : forall outcome cacheHit, run.stage ≠ .reporting outcome cacheHit := by
      intro outcome cacheHit hreporting
      exact hreports ⟨outcome, cacheHit, hreporting⟩
    rw [journal_step policy outside hreport]
    by_cases hsearches : exists searched, run.stage = .searching searched
    · rcases hsearches with ⟨searched, hstage⟩
      simp only [Run.step, Run.next, hstage, Run.search]
      cases state.cache.look (outside.clock world) searched with
      | fresh outcome =>
          simp only [Cache.Store.count, Stage.isUnreportedHit, Bool.toNat_true, Bool.toNat_false]
          omega
      | stale => rfl
      | absent => rfl
    · have hsearch : forall searched, run.stage ≠ .searching searched := by
        intro searched hsearching
        exact hsearches ⟨searched, hsearching⟩
      rcases Run.isUnreportedHit_step policy outside hsearch hreport state world with
        ⟨hbefore, hafter⟩
      rw [Run.hits_step_of_not_searching hsearch, hbefore, hafter]

/-!
# Counters along a run
-/

namespace Activity

def unfinished (activity : Activity σ) : Nat :=
  activity.attempts.countP fun attempt => attempt.run.stage.isUnfinished

/-- How many executions have found a result in the cache that they have not reported yet. -/
def unreportedHits (activity : Activity σ) : Nat :=
  activity.attempts.countP fun attempt => attempt.run.stage.isUnreportedHit

end Activity

/-- A call that is to be logged: an execution, of a saved query if that can be loaded. -/
def Action.isLogged (outside : Outside σ) (world : σ) : Action σ -> Bool
  | .execute _ _ => true
  | .executeSaved queryId _ _ =>
      match loadSaved outside queryId world with
      | .error _ => false
      | .ok _ => true
  | _ => false

def Happening.logged (policy : Policy) (outside : Outside σ) :
    List (Happening σ) -> Activity σ -> Nat
  | [], _ => 0
  | happening :: happenings, activity =>
      (match happening with
        | .act action => (action.isLogged outside activity.world).toNat
        | _ => 0) +
        logged policy outside happenings (apply policy outside activity happening)

/-- A step of one among many changes what is counted by what it changes in that one. -/
theorem countP_set_add {α : Type} (p : α -> Bool) {items : List α} {index : Nat} {item : α}
    (hitem : items[index]? = some item) (after : α) :
    (items.set index after).countP p + (p item).toNat = items.countP p + (p after).toNat := by
  induction items generalizing index with
  | nil => cases hitem
  | cons first items ih =>
      cases index with
      | zero =>
          cases hitem
          rw [List.set_cons_zero, List.countP_cons, List.countP_cons]
          cases p item <;> cases p after <;> simp
      | succ index =>
          have hrest := ih hitem
          rw [List.set_cons_succ, List.countP_cons, List.countP_cons]
          omega

theorem Action.isLogged_of_request? {action : Action σ} {world : σ} {request : Request}
    (hrequest : action.request? outside world = some request) :
    action.isLogged outside world = true := by
  cases action with
  | execute other userId => rfl
  | executeSaved queryId userId forceRefresh =>
      rcases Action.saved_of_request? hrequest with ⟨query, hquery, _, _⟩
      simp only [isLogged, hquery]
  | _ => cases hrequest

theorem Action.counters_apply (policy : Policy) (reached : State × σ) {action : Action σ}
    (hrequest : action.request? outside reached.2 = none) :
    let after := (action.apply policy outside reached).1
    after.cache.hits = reached.1.cache.hits ∧
      after.journal.counters.cached = reached.1.journal.counters.cached ∧
      after.journal.counters.recorded =
        reached.1.journal.counters.recorded + (action.isLogged outside reached.2).toNat := by
  rcases reached with ⟨state, world⟩
  cases action with
  | execute request userId => cases hrequest
  | executeSaved queryId userId forceRefresh =>
      cases hquery : loadSaved outside queryId world with
      | error failure =>
          simp [apply, Engine.executeSaved, isLogged, hquery]
      | ok query =>
          cases hrunnable : checkRunnable query userId with
          | error failure =>
              simp only [apply, Engine.executeSaved, isLogged, hquery, hrunnable, refuse]
              exact ⟨rfl, cached_record _ _, recorded_record _ _⟩
          | ok allowed =>
              simp only [request?, hquery, hrunnable] at hrequest
              cases hrequest
  | clearCache target =>
      cases target with
      | none => exact ⟨rfl, rfl, rfl⟩
      | some systemId => exact ⟨rfl, rfl, rfl⟩
  | _ => exact ⟨rfl, rfl, rfl⟩

/-- What the counters say of an activity, when so many calls were to be logged. -/
structure Activity.Accounted (count : Nat) (activity : Activity σ) : Prop where
  hits : activity.state.cache.hits =
    activity.state.journal.counters.cached + activity.unreportedHits
  recorded : activity.state.journal.counters.recorded + activity.unfinished = count

namespace Activity

theorem accounted_initial (logCapacity feedCapacity : Nat) (world : σ) :
    (initial logCapacity feedCapacity world).Accounted 0 :=
  ⟨rfl, rfl⟩

theorem isUnreportedHit_start (policy : Policy) (request : Request) (userId : Option Uuid)
    (now : Nat) : (Run.start policy request userId now).stage.isUnreportedHit = false := by
  unfold Run.start Run.firstStage
  split
  · rfl
  · rfl

theorem accounted_act {count : Nat} (action : Action σ) {activity : Activity σ}
    (haccounted : activity.Accounted count) :
    (activity.act policy outside action).Accounted
      (count + (action.isLogged outside activity.world).toNat) := by
  rcases haccounted with ⟨hhits, hrecorded⟩
  cases hrequest : action.request? outside activity.world with
  | none =>
      rcases Action.counters_apply policy (activity.state, activity.world) hrequest with
        ⟨hhitsAfter, hcachedAfter, hrecordedAfter⟩
      rw [act_of_none hrequest]
      constructor
      · show _ = _ + activity.unreportedHits
        rw [hhitsAfter, hcachedAfter]
        exact hhits
      · show _ + activity.unfinished = _
        rw [hrecordedAfter]
        dsimp only
        omega
  | some request =>
      rw [act_of_some hrequest, Action.isLogged_of_request? hrequest]
      constructor
      · simp only [unreportedHits, List.countP_append, List.countP_singleton,
          isUnreportedHit_start, Bool.false_eq_true, if_false, Nat.add_zero]
        exact hhits
      · simp only [unfinished, List.countP_append, List.countP_singleton, isUnfinished_start,
          if_true, Bool.toNat_true]
        rw [← hrecorded]
        exact (Nat.add_assoc _ _ _).symm

theorem accounted_advance {count : Nat} (index : Nat) {activity : Activity σ}
    (haccounted : activity.Accounted count) :
    (activity.advance policy outside index).Accounted count := by
  rcases haccounted with ⟨hhits, hrecorded⟩
  cases hattempt : activity.attempts[index]? with
  | none =>
      unfold advance
      rw [hattempt]
      exact ⟨hhits, hrecorded⟩
  | some attempt =>
      let after : Attempt σ :=
        ⟨attempt.origin, (attempt.run.step policy outside activity.state activity.world).1,
          sourceAfter activity.keepers attempt⟩
      have hstepHits := hits_step policy outside attempt.run activity.state activity.world
      have hstepRecorded := recorded_step policy outside attempt.run activity.state activity.world
      have hsetHits := countP_set_add (fun attempt => attempt.run.stage.isUnreportedHit) hattempt
        after
      have hsetUnfinished := countP_set_add (fun attempt => attempt.run.stage.isUnfinished)
        hattempt after
      rw [advance_of_attempt hattempt]
      unfold unreportedHits at hhits
      unfold unfinished at hrecorded
      constructor
      · unfold unreportedHits
        dsimp only [after] at hsetHits ⊢
        omega
      · unfold unfinished
        dsimp only [after] at hsetUnfinished ⊢
        omega

end Activity

namespace Happening

theorem accounted_play (policy : Policy) (outside : Outside σ) {count : Nat}
    (happenings : List (Happening σ)) {activity : Activity σ}
    (haccounted : activity.Accounted count) :
    (play policy outside happenings activity).Accounted
      (count + logged policy outside happenings activity) := by
  induction happenings generalizing count activity with
  | nil => exact haccounted
  | cons happening happenings ih =>
      unfold logged
      rw [← Nat.add_assoc]
      apply ih
      cases happening with
      | act action => exact Activity.accounted_act action haccounted
      | advance index => exact Activity.accounted_advance index haccounted
      | remember systemId resolved => exact ⟨haccounted.hits, haccounted.recorded⟩
      | flush max =>
          rcases counters_flush outside.writeLogs max activity.state.journal activity.world with
            ⟨hrecorded, hcached⟩
          constructor
          · show activity.state.cache.hits =
              (activity.state.journal.flush outside.writeLogs max
                activity.world).journal.counters.cached + activity.unreportedHits
            rw [hcached]
            exact haccounted.hits
          · show (activity.state.journal.flush outside.writeLogs max
              activity.world).journal.counters.recorded + activity.unfinished = count
            rw [hrecorded]
            exact haccounted.recorded

end Happening

/--
Executing a request records one entry, which agrees with the result.  So does
executing a saved query that can be loaded, even if it is refused; one that
cannot be loaded leaves the engine as it was.  Hits that are reported are
counted as cached, and calls that are over as completed, failed or cached.
All this is said of calls that return.
-/
theorem attempts_logged_once (policy : Policy) (outside : Outside σ) :
    (forall request userId state world,
        let after := execute policy outside request userId state world
        exists entry, Corresponds request.systemId request.queryId userId after.1 entry ∧
          Run.Records (some entry) state after.2.1) ∧
      (forall queryId userId forceRefresh state world,
        let after := executeSaved policy outside queryId userId forceRefresh state world
        (forall failure, loadSaved outside queryId world = .error failure ->
            after.2.1 = state) ∧
          forall query, loadSaved outside queryId world = .ok query ->
            exists entry, Corresponds query.systemId (some query.id) userId after.1 entry ∧
              Run.Records (some entry) state after.2.1) ∧
      forall logCapacity feedCapacity start (happenings : List (Happening σ)),
        let fresh := Activity.initial logCapacity feedCapacity start
        let activity := Happening.play policy outside happenings fresh
        let counters := activity.state.journal.counters
        activity.state.cache.hits = counters.cached + activity.unreportedHits ∧
          counters.recorded + activity.unfinished =
            Happening.logged policy outside happenings fresh ∧
          ((forall attempt, attempt ∈ activity.attempts ->
              attempt.run.stage.isUnfinished = false) ->
            counters.cached = activity.state.cache.hits ∧
              counters.completed + counters.failed + counters.cached =
                Happening.logged policy outside happenings fresh) := by
  refine ⟨execute_recorded policy outside, ?_, ?_⟩
  · intro queryId userId forceRefresh state world after
    constructor
    · intro failure hquery
      simp only [after, executeSaved, hquery]
    · intro query hquery
      exact executeSaved_recorded hquery userId forceRefresh state
  · intro logCapacity feedCapacity start happenings fresh activity counters
    have haccounted : activity.Accounted (Happening.logged policy outside happenings fresh) := by
      have hplay := Happening.accounted_play policy outside happenings
        (Activity.accounted_initial logCapacity feedCapacity start)
      rw [Nat.zero_add] at hplay
      exact hplay
    refine ⟨haccounted.hits, haccounted.recorded, ?_⟩
    intro hdone
    have hunfinished : activity.unfinished = 0 := by
      apply List.countP_eq_zero.mpr
      intro attempt hmem hunfinished
      rw [hdone attempt hmem] at hunfinished
      cases hunfinished
    have hreported : activity.unreportedHits = 0 := by
      apply List.countP_eq_zero.mpr
      intro attempt hmem hunreported
      have hover := hdone attempt hmem
      rw [Stage.isUnfinished_of_isUnreportedHit hunreported] at hover
      cases hover
    constructor
    · rw [haccounted.hits, hreported, Nat.add_zero]
    · have hrecorded := haccounted.recorded
      rw [hunfinished, Nat.add_zero] at hrecorded
      exact hrecorded

end Logging

/-!
# Three calls
-/

namespace Counting

open Repeating

def saved : SavedQuery :=
  ⟨Uuid.ofNat 3, Uuid.ofNat 5, Uuid.ofNat 7, none, "question", [], [], 60, true, .everyone, [],
    true⟩

def echo : Outside Nat :=
  { Action.echoing fun _ => .ok (some system) with loadQuery := fun _ _ => .ok (some saved) }

/-- A saved query that is run twice, and the same question without it. -/
def calls : List (Happening Nat) :=
  whole (.executeSaved saved.id none false) 0 7 ++ whole (.executeSaved saved.id none false) 1 2 ++
    whole (.execute (question none) none) 2 7

theorem counters_after_calls :
    let activity := Happening.play plainKeys echo calls (.initial 10 10 0)
    activity.attempts.all (fun attempt => !attempt.run.stage.isUnfinished) = true ∧
      activity.state.journal.counters = ⟨2, 0, 1, 0, 0, 0⟩ := by
  decide +kernel

/-- One answer was found in the cache, and each of the three calls was logged. -/
theorem attempts_logged_once_calls :
    let activity := Happening.play plainKeys echo calls (.initial 10 10 0)
    let counters := activity.state.journal.counters
    (forall attempt, attempt ∈ activity.attempts -> attempt.run.stage.isUnfinished = false) ∧
      counters.cached = activity.state.cache.hits ∧ counters.cached = 1 ∧
      counters.completed + counters.failed + counters.cached =
        Happening.logged plainKeys echo calls (.initial 10 10 0) ∧
      counters.completed + counters.failed + counters.cached = 3 := by
  have haccounts := (attempts_logged_once plainKeys echo).right.right 10 10 0 calls
  have hafter := counters_after_calls
  dsimp only at haccounts
  generalize Happening.logged plainKeys echo calls (.initial 10 10 0) = count at haccounts ⊢
  generalize Happening.play plainKeys echo calls (.initial 10 10 0) = activity
    at haccounts hafter ⊢
  intro _ counters
  rcases hafter with ⟨hall, hcounters⟩
  have hdone : forall attempt, attempt ∈ activity.attempts ->
      attempt.run.stage.isUnfinished = false := by
    intro attempt hmem
    exact (Bool.not_eq_true' _).mp (List.all_eq_true.mp hall attempt hmem)
  rcases haccounts.right.right hdone with ⟨hcached, hlogged⟩
  have hcount : counters = ⟨2, 0, 1, 0, 0, 0⟩ := hcounters
  refine ⟨hdone, hcached, ?_, hlogged, ?_⟩
  · rw [hcount]
  · rw [hcount]
    rfl

end Counting
end Engine
end QueryGateway
