import QueryGateway.Proofs.Engine.Activity
import QueryGateway.Proofs.Journal.Balance
import QueryGateway.Proofs.Rows.Pipeline

/-!
# Numbers of records that are told

The number of records in a result and in a log entry is the number of rows that
a further step would take from the data, wherever the result comes from and
whatever happens among the executions.
-/

namespace QueryGateway
namespace Engine

open Catalog Execution

/-- An outcome that tells how many rows there are in its data. -/
def Counted (outcome : Outcome) : Prop :=
  outcome.recordCount = .ofNat (Rows.coerce outcome.data).length

def CountedEntry (entry : LogEntry) : Prop :=
  forall data, entry.resultSnapshot = some data ->
    entry.recordCount = .ofNat (Rows.coerce data).length

/-!
# Outcomes
-/

theorem Job.counted_of_outcome {job : Job} {requested : List String} {response : Json}
    {outcome : Outcome} (houtcome : job.outcome requested response = .ok outcome) :
    Counted outcome := by
  unfold Job.outcome at houtcome
  cases happlied : Job.applyDeclared job.resolved.system requested (job.payload response) with
  | error failure =>
      rw [happlied] at houtcome
      cases houtcome
  | ok applied =>
      rw [happlied] at houtcome
      cases houtcome
      exact congrArg UInt64.ofNat (Rows.recordCount_eq applied.1)

variable {σ : Type} {policy : Policy} {outside : Outside σ}

theorem Run.counted_of_perform {request : Request} {resolved : Resolved} {world : σ}
    {outcome : Outcome}
    (houtcome : (Run.perform policy outside request resolved world).1 = .ok outcome) :
    Counted outcome := by
  rcases exists_job_of_perform houtcome with ⟨job, response, _, houtcome⟩
  exact Job.counted_of_outcome houtcome

def countedHoldings : Holdings :=
  ⟨fun _ _ => True, fun _ entry => Counted entry.result⟩

def countedCourse : Course :=
  ⟨fun _ _ => True, fun _ outcome => Counted outcome,
    fun _ told => forall outcome, told = .ok outcome -> Counted outcome⟩

theorem admits_counted (policy : Policy) (outside : Outside σ) (world : σ) :
    countedCourse.Admits countedHoldings policy outside world where
  loaded _ _ _ := trivial
  refused _ _ _ := nofun
  of_remembered _ _ _ := trivial
  answered _ _ _ _ houtcome := Run.counted_of_perform houtcome
  performed _ _ _ _ _ houtcome := Run.counted_of_perform houtcome
  inserted _ _ _ hpending _ := hpending
  of_pending request outcome hpending other hother := by
    cases hother
    exact hpending
  of_kept request entry hkept _ other hother := by
    cases hother
    exact hkept

/-!
# Log entries
-/

def LogCounted (state : State) : Prop :=
  forall entry, entry ∈ state.journal.pending -> CountedEntry entry

theorem countedEntry_entry {run : Run} {outcome : Except Failure Outcome}
    (hcounted : forall counted, outcome = .ok counted -> Counted counted) (id : Uuid)
    (date : Timestamp) (elapsedMs : Nat) (cacheHit : Bool) :
    CountedEntry (run.entry id date elapsedMs outcome cacheHit) := by
  cases outcome with
  | error failure => exact nofun
  | ok outcome =>
      intro data hdata
      cases hdata
      exact hcounted outcome rfl

theorem logCounted_record {state : State} (hstate : LogCounted state) {entry : LogEntry}
    (hentry : CountedEntry entry) : LogCounted (state.record entry) := by
  intro other hmem
  have hrecorded : other ∈ (state.journal.record entry).2.pending := hmem
  rcases Journal.record_cases entry state.journal with hwaits | hdrops
  · rw [hwaits] at hrecorded
    rcases List.mem_append.mp hrecorded with hbefore | hlast
    · exact hstate other hbefore
    · rw [List.mem_singleton.mp hlast]
      exact hentry
  · rw [hdrops] at hrecorded
    exact hstate other hrecorded

theorem logCounted_step {run : Run} {state : State} (hstate : LogCounted state)
    (hrun : countedCourse.Follows countedHoldings policy run) (world : σ) :
    LogCounted (run.step policy outside state world).2.1 := by
  rcases run.records_step policy outside state world with ⟨hjournal, _⟩
  intro entry hmem
  rw [hjournal] at hmem
  cases hlogged : run.logged? outside world with
  | none =>
      rw [hlogged] at hmem
      exact hstate entry hmem
  | some logged =>
      rw [hlogged] at hmem
      refine logCounted_record hstate ?_ entry hmem
      unfold Run.logged? at hlogged
      split at hlogged
      · rename_i outcome cacheHit hstage
        cases hlogged
        simp only [Course.Follows, hstage] at hrun
        exact countedEntry_entry hrun _ _ _ _
      · cases hlogged

theorem logCounted_apply_of_none {action : Action σ} {reached : State × σ}
    (hrequest : action.request? outside reached.2 = none) (hstate : LogCounted reached.1) :
    LogCounted (action.apply policy outside reached).1 := by
  rcases reached with ⟨state, world⟩
  cases action with
  | execute request userId => cases hrequest
  | executeSaved queryId userId forceRefresh =>
      cases hquery : loadSaved outside queryId world with
      | error failure =>
          simp only [Action.apply, executeSaved, hquery]
          exact hstate
      | ok query =>
          cases hrunnable : checkRunnable query userId with
          | error failure =>
              simp only [Action.apply, executeSaved, hquery, hrunnable, refuse]
              apply logCounted_record hstate
              intro data hdata
              cases hdata
          | ok allowed =>
              simp only [Action.request?, hquery, hrunnable] at hrequest
              cases hrequest
  | _ => exact hstate

/-!
# Among other happenings
-/

structure Activity.Counts (policy : Policy) (activity : Activity σ) : Prop where
  keeps : activity.Keeps countedCourse countedHoldings policy
  log : LogCounted activity.state

theorem Activity.counts_initial (policy : Policy) (logCapacity feedCapacity : Nat) (world : σ) :
    (initial logCapacity feedCapacity world).Counts policy where
  keeps := keeps_initial logCapacity feedCapacity world
  log := nofun

theorem Happening.counts_apply (happening : Happening σ) {activity : Activity σ}
    (hcounts : activity.Counts policy) :
    (apply policy outside activity happening).Counts policy := by
  refine ⟨keeps_apply (admits_counted policy outside) (fun _ _ _ => trivial) hcounts.keeps, ?_⟩
  cases happening with
  | act action =>
      cases hrequest : action.request? outside activity.world with
      | none =>
          rw [apply, Activity.act_of_none hrequest]
          have hstate : LogCounted (activity.state, activity.world).1 := hcounts.log
          exact logCounted_apply_of_none hrequest hstate
      | some request =>
          rw [apply, Activity.act_of_some hrequest]
          exact hcounts.log
  | advance index =>
      cases hattempt : activity.attempts[index]? with
      | none =>
          rw [apply, Activity.advance, hattempt]
          exact hcounts.log
      | some attempt =>
          rw [apply, Activity.advance_of_attempt hattempt]
          exact logCounted_step hcounts.log
            (hcounts.keeps.runs attempt (List.mem_of_getElem? hattempt)) activity.world
  | remember systemId resolved => exact hcounts.log
  | flush max =>
      intro entry hmem
      have hdropped : entry ∈ (activity.state.journal.flush outside.writeLogs max
          activity.world).journal.pending := hmem
      rw [Journal.flush_pending] at hdropped
      exact hcounts.log entry (List.mem_of_mem_drop hdropped)

theorem Happening.counts_play (happenings : List (Happening σ)) {activity : Activity σ}
    (hcounts : activity.Counts policy) :
    (play policy outside happenings activity).Counts policy := by
  induction happenings generalizing activity with
  | nil => exact hcounts
  | cons happening happenings ih => exact ih (counts_apply happening hcounts)

theorem Activity.Counts.told {activity : Activity σ} (hcounts : activity.Counts policy)
    {attempt : Attempt σ} (hmem : attempt ∈ activity.attempts) {result : Result} {data : Json}
    (hdone : attempt.run.stage = .done result) (hdata : result.data = some data) :
    result.metadata.recordCount = .ofNat (Rows.coerce data).length := by
  have hfollows := hcounts.keeps.runs attempt hmem
  simp only [Course.Follows, hdone] at hfollows
  rcases hfollows with ⟨outcome, date, elapsedMs, cacheHit, htold, rfl⟩
  cases outcome with
  | error failure => cases hdata
  | ok outcome =>
      cases hdata
      exact htold outcome rfl

/--
The number of records of a value is the number of its rows, which are all that a step
takes from it.  Each step keeps account of it, a mapping and a sorting do not change
it, and a filter does not raise it.  So the number that an execution tells and logs is
the number of rows that a further step would be given, whatever happens besides.
-/
theorem records_told_are_rows :
    (forall value, Rows.recordCount value = (Rows.coerce value).length) ∧
      (forall (step : Rows.Transform) before after, step.apply before = .ok after ->
        step.Recounts before after) ∧
      (forall steps input data, Rows.applyAll steps input = .ok data ->
        forall next,
          Rows.applyAll (steps ++ [next]) input = next.apply (.array (Rows.coerce data))) ∧
      forall (policy : Policy) (outside : Outside σ) logCapacity feedCapacity start happenings,
        let activity :=
          Happening.play policy outside happenings (.initial logCapacity feedCapacity start)
        (forall attempt result data, attempt ∈ activity.attempts ->
          attempt.run.stage = .done result -> result.data = some data ->
            result.metadata.recordCount = .ofNat (Rows.coerce data).length) ∧
          forall entry data, entry ∈ activity.state.journal.pending ->
            entry.resultSnapshot = some data ->
              entry.recordCount = .ofNat (Rows.coerce data).length := by
  refine ⟨Rows.recordCount_eq, fun _ _ _ => Rows.Transform.recounts_apply, ?_, ?_⟩
  · intro steps input data happly next
    rw [Rows.applyAll_append, happly, Rows.Transform.apply_rows]
    exact bind_pure _
  · intro policy outside logCapacity feedCapacity start happenings activity
    have hstart := Activity.counts_initial policy logCapacity feedCapacity start
    have hcounts : activity.Counts policy := Happening.counts_play happenings hstart
    constructor
    · intro attempt result data hmem hdone hdata
      exact hcounts.told hmem hdone hdata
    · intro entry data hmem hdata
      exact hcounts.log entry hmem data hdata

/-!
# A system with two issues
-/

namespace Tallying

open Repeating

/-- The issues are the rows, although there are results as well. -/
def found : Json :=
  .object [("issues", .array [.text "first", .text "second"]), ("results", .text "2 of 2")]

def tracker : Outside Nat :=
  { Action.echoing fun _ => .ok (some system) with
    runStatement := some fun _ _ world => (some (.ok found), world) }

theorem records_told_are_rows_tracker :
    let activity := Happening.play plainKeys tracker (whole (.execute (question none) none) 0 7)
      (.initial 10 10 0)
    (exists attempt result, attempt ∈ activity.attempts ∧ attempt.run.stage = .done result ∧
        result.metadata.recordCount = 2) ∧
      exists entry, entry ∈ activity.state.journal.pending ∧ entry.recordCount = 2 := by
  intro activity
  have htold : (activity.attempts[0]?.bind fun attempt => attempt.run.stage.result?.bind
      fun result => result.data.map fun data => (Rows.coerce data).length) = some 2 := by
    decide +kernel
  have hlogged : (activity.state.journal.pending[0]?.bind fun entry =>
      entry.resultSnapshot.map fun data => (Rows.coerce data).length) = some 2 := by
    decide +kernel
  rcases records_told_are_rows.right.right.right plainKeys tracker 10 10 0
    (whole (.execute (question none) none) 0 7) with ⟨hresults, hentries⟩
  constructor
  · rcases Option.bind_eq_some_iff.mp htold with ⟨attempt, hattempt, htold⟩
    rcases Option.bind_eq_some_iff.mp htold with ⟨result, hresult, htold⟩
    rcases Option.map_eq_some_iff.mp htold with ⟨data, hdata, hlength⟩
    have hmem := List.mem_of_getElem? hattempt
    have hdone := Stage.eq_done_of_result? hresult
    have hcount := hresults attempt result data hmem hdone hdata
    rw [hlength] at hcount
    exact ⟨attempt, result, hmem, hdone, hcount⟩
  · rcases Option.bind_eq_some_iff.mp hlogged with ⟨entry, hentry, hlogged⟩
    rcases Option.map_eq_some_iff.mp hlogged with ⟨data, hdata, hlength⟩
    have hmem := List.mem_of_getElem? hentry
    have hcount := hentries entry data hmem hdata
    rw [hlength] at hcount
    exact ⟨entry, hmem, hcount⟩

end Tallying
end Engine
end QueryGateway
