import QueryGateway.Proofs.Engine.Activity
import QueryGateway.Service.Gateway

/-!
# Counting calls

Calls for an execution and for a test of a connection are counted, each of them
once: as accepted if it is understood, and as refused if the user, the body or
the query string cannot be read, which is all that happens then.  A call with no
identifier in its path is answered before anything is counted, and it is counted
neither as accepted nor as refused.
-/

namespace QueryGateway
namespace Service

open Engine

variable {σ : Type}

/-!
# Verdicts
-/

inductive Verdict where
  | accepted
  | refused (refusal : Refusal)
  /-- There is no identifier in the path, and that is what the answer says. -/
  | overlooked (text : String)
deriving DecidableEq

namespace Verdict

/-- The identifier in the path is looked at before what else the call brings along. -/
def judge {α : Type} (name segment : String) (input : Except Refusal α) : Verdict :=
  match pathId name segment with
  | .error text => .overlooked text
  | .ok _ =>
      match input with
      | .error refusal => .refused refusal
      | .ok _ => .accepted

def isAccepted : Verdict -> Bool
  | .accepted => true
  | _ => false

def isRefused : Verdict -> Bool
  | .refused _ => true
  | _ => false

def isOverlooked : Verdict -> Bool
  | .overlooked _ => true
  | _ => false

theorem kinds_eq_one (verdict : Verdict) :
    (if verdict.isAccepted then 1 else 0) + (if verdict.isRefused then 1 else 0) +
      (if verdict.isOverlooked then 1 else 0) = 1 := by
  cases verdict with
  | accepted => rfl
  | refused refusal => rfl
  | overlooked text => rfl

theorem length_eq (verdicts : List Verdict) :
    verdicts.length =
      verdicts.countP isAccepted + verdicts.countP isRefused +
        verdicts.countP isOverlooked := by
  induction verdicts with
  | nil => rfl
  | cons verdict rest ih =>
      have hkinds := kinds_eq_one verdict
      rw [List.length_cons, List.countP_cons, List.countP_cons, List.countP_cons, ih]
      omega

end Verdict

def Route.verdict? (call : Call) : Route -> Option Verdict
  | .execute segment => some (.judge "system_id" segment (Gateway.executionInput call))
  | .executeSaved segment => some (.judge "query_id" segment (Gateway.savedInput call))
  | .test segment => some (.judge "system_id" segment (.ok ()))
  | _ => none

/-- The calls that ought to be counted are those that post to such a route. -/
def Call.verdict? (call : Call) : Option Verdict :=
  match Route.ofPath call.path with
  | none => none
  | some route => if call.verb = "POST" then route.verdict? call else none

theorem Route.verb_of_verdict? {route : Route} {call : Call} {verdict : Verdict}
    (hverdict : route.verdict? call = some verdict) : route.verb = "POST" := by
  cases route with
  | execute segment => rfl
  | executeSaved segment => rfl
  | test segment => rfl
  | _ => cases hverdict

/-!
# What a call changes
-/

namespace Gateway

/-- A call is counted, answered and acted upon as its verdict says. -/
def Heeds (gateway : Gateway) (world : σ) (verdict : Option Verdict)
    (answered : Answer × Gateway × σ) : Prop :=
  match verdict with
  | none => answered.2.1.metrics = gateway.metrics
  | some .accepted => answered.1.status = 200 ∧ answered.2.1.metrics = gateway.accept.metrics
  | some (.refused refusal) =>
      answered.1 = refusal.answer ∧ answered.1.status = 400 ∧
        answered.2 = (gateway.reject, world)
  | some (.overlooked text) => answered.1 = .text 400 text ∧ answered.2 = (gateway, world)

variable {gateway : Gateway} {world : σ} {name segment : String}

theorem heeds_withId {α : Type} {input : Except Refusal α} {act : Uuid -> Answer × Gateway × σ}
    (hrefused : forall id refusal, input = .error refusal ->
      act id = (refusal.answer, gateway.reject, world))
    (haccepted : forall id value, input = .ok value ->
      (act id).1.status = 200 ∧ (act id).2.1.metrics = gateway.accept.metrics) :
    gateway.Heeds world (some (.judge name segment input))
      (gateway.withId name segment world act) := by
  unfold Verdict.judge withId
  cases pathId name segment with
  | error text => exact ⟨rfl, rfl⟩
  | ok id =>
      cases hinput : input with
      | error refusal =>
          have hact : act id = (refusal.answer, gateway.reject, world) := hrefused id refusal hinput
          exact ⟨congrArg Prod.fst hact, congrArg (fun answered => answered.1.status) hact,
            congrArg Prod.snd hact⟩
      | ok value => exact haccepted id value hinput

theorem metrics_withId {act : Uuid -> Answer × Gateway × σ}
    (hact : forall id, (act id).2.1.metrics = gateway.metrics) :
    (gateway.withId name segment world act).2.1.metrics = gateway.metrics := by
  unfold withId
  cases pathId name segment with
  | error text => rfl
  | ok id => exact hact id

theorem heeds_serve (policy : Policy) (surroundings : Surroundings σ) (route : Route)
    (call : Call) :
    gateway.Heeds world (route.verdict? call)
      (gateway.serve policy surroundings route call world) := by
  cases route with
  | execute segment =>
      apply heeds_withId
      · intro id refusal hinput
        unfold execute
        rw [hinput]
      · intro id value hinput
        unfold execute
        rw [hinput]
        exact ⟨rfl, rfl⟩
  | executeSaved segment =>
      apply heeds_withId
      · intro id refusal hinput
        unfold executeSaved
        rw [hinput]
      · intro id value hinput
        unfold executeSaved
        rw [hinput]
        exact ⟨rfl, rfl⟩
  | test segment =>
      apply heeds_withId
      · intro id refusal hinput
        cases hinput
      · intro id value hinput
        exact ⟨rfl, rfl⟩
  | clearSystem segment =>
      apply metrics_withId
      intro id
      rfl
  | invalidateQuery segment =>
      apply metrics_withId
      intro id
      rfl
  | _ => rfl

theorem heeds_handle (policy : Policy) (surroundings : Surroundings σ) (call : Call)
    (gateway : Gateway) (world : σ) :
    gateway.Heeds world call.verdict? (gateway.handle policy surroundings call world) := by
  unfold Call.verdict? handle
  cases Route.ofPath call.path with
  | none => exact rfl
  | some route =>
      dsimp only
      have hserved : gateway.Heeds world (route.verdict? call)
          (gateway.serve policy surroundings route call world) :=
        heeds_serve policy surroundings route call
      by_cases hpost : call.verb = "POST"
      · have hread : call.verb ≠ "HEAD" := by
          rw [hpost]
          decide
        rw [if_pos hpost, if_neg hread]
        cases hverdict : route.verdict? call with
        | none =>
            rw [hverdict] at hserved
            split
            · exact hserved
            · exact rfl
        | some verdict =>
            have hanswers : route.answersTo call.verb = true := by
              rw [Route.answersTo, Route.verb_of_verdict? hverdict, hpost]
              rfl
            rw [if_pos hanswers, ← hverdict]
            exact hserved
      · rw [if_neg hpost]
        split
        · rename_i hanswers
          cases hverdict : route.verdict? call with
          | none =>
              rw [hverdict] at hserved
              exact hserved
          | some verdict =>
              -- Such a route answers to nothing but the verb of the call, which is another.
              have hverb : route.verb = "POST" := Route.verb_of_verdict? hverdict
              rw [Route.answersTo, Route.isRead, hverb] at hanswers
              simp at hanswers
              exact absurd hanswers.symm hpost
        · exact rfl

end Gateway

/-!
# Calls one after another
-/

/-- What may come next: a call, or anything that the engine and its outside do meanwhile. -/
inductive Incident (σ : Type) where
  | call (received : Call)
  | meanwhile (change : State × σ -> State × σ)

namespace Incident

def apply (policy : Policy) (surroundings : Surroundings σ) :
    Incident σ -> Gateway × σ -> Gateway × σ
  | .call received, (gateway, world) =>
      (gateway.handle policy surroundings received world).2
  | .meanwhile change, (gateway, world) =>
      let (engine, later) := change (gateway.engine, world)
      ({ gateway with engine }, later)

def run (policy : Policy) (surroundings : Surroundings σ) (incidents : List (Incident σ))
    (before : Gateway × σ) : Gateway × σ :=
  incidents.foldl (fun reached incident => incident.apply policy surroundings reached) before

def verdict? : Incident σ -> Option Verdict
  | .call received => received.verdict?
  | .meanwhile _ => none

def Counts (before after : Metrics) (verdicts : List Verdict) : Prop :=
  after.requestsTotal = before.requestsTotal + verdicts.countP Verdict.isAccepted ∧
    after.rejectedTotal = before.rejectedTotal + verdicts.countP Verdict.isRefused

theorem counts_of_heeds {gateway : Gateway} {world : σ} {verdict : Option Verdict}
    {answered : Answer × Gateway × σ} (hheeds : gateway.Heeds world verdict answered) :
    Counts gateway.metrics answered.2.1.metrics verdict.toList := by
  cases verdict with
  | none =>
      have hsame : answered.2.1.metrics = gateway.metrics := hheeds
      rw [hsame]
      exact ⟨rfl, rfl⟩
  | some verdict =>
      cases verdict with
      | accepted =>
          rw [hheeds.right]
          exact ⟨rfl, rfl⟩
      | refused refusal =>
          rw [hheeds.right.right]
          exact ⟨rfl, rfl⟩
      | overlooked text =>
          rw [hheeds.right]
          exact ⟨rfl, rfl⟩

theorem counts_apply (policy : Policy) (surroundings : Surroundings σ) (incident : Incident σ)
    (before : Gateway × σ) :
    Counts before.1.metrics (incident.apply policy surroundings before).1.metrics
      incident.verdict?.toList := by
  cases incident with
  | call received => exact counts_of_heeds (Gateway.heeds_handle policy surroundings received _ _)
  | meanwhile change => exact ⟨rfl, rfl⟩

theorem Counts.trans {first second third : Metrics} {front back : List Verdict}
    (hfront : Counts first second front) (hback : Counts second third back) :
    Counts first third (front ++ back) := by
  rcases hfront with ⟨hrequests, hrejected⟩
  rcases hback with ⟨hrequests', hrejected'⟩
  constructor
  · rw [List.countP_append, hrequests', hrequests, Nat.add_assoc]
  · rw [List.countP_append, hrejected', hrejected, Nat.add_assoc]

theorem counts_run (policy : Policy) (surroundings : Surroundings σ)
    (incidents : List (Incident σ)) (before : Gateway × σ) :
    Counts before.1.metrics (run policy surroundings incidents before).1.metrics
      (incidents.filterMap verdict?) := by
  induction incidents generalizing before with
  | nil => exact ⟨rfl, rfl⟩
  | cons incident rest ih =>
      have hstep := counts_apply policy surroundings incident before
      have hrest := ih (incident.apply policy surroundings before)
      have hverdicts : (incident :: rest).filterMap verdict? =
          incident.verdict?.toList ++ rest.filterMap verdict? := by
        cases hverdict : incident.verdict? with
        | none => exact List.filterMap_cons_none hverdict
        | some verdict => exact List.filterMap_cons_some hverdict
      rw [hverdicts]
      exact hstep.trans hrest

/--
Of the calls that ought to be counted, those that are accepted and those that
are refused are counted, each by one; a refused call is answered with status 400
and leaves all else as it was.  The counts add up to the number of these calls
exactly if there is an identifier in the path of each.  A call that has none is
answered with status 400 as well, but changes nothing at all.
-/
theorem accounting (policy : Policy) (surroundings : Surroundings σ)
    (incidents : List (Incident σ)) (gateway : Gateway) (world : σ) :
    let before := gateway.metrics
    let after := (run policy surroundings incidents (gateway, world)).1.metrics
    let verdicts := incidents.filterMap verdict?
    after.requestsTotal = before.requestsTotal + verdicts.countP Verdict.isAccepted ∧
      after.rejectedTotal = before.rejectedTotal + verdicts.countP Verdict.isRefused ∧
      (after.requestsTotal + after.rejectedTotal =
          before.requestsTotal + before.rejectedTotal + verdicts.length ↔
        verdicts.any Verdict.isOverlooked = false) ∧
      forall (call : Call) (gateway : Gateway) (world : σ),
        gateway.Heeds world call.verdict? (gateway.handle policy surroundings call world) := by
  intro before after verdicts
  have hcounts : Counts before after verdicts :=
    counts_run policy surroundings incidents (gateway, world)
  rcases hcounts with ⟨hrequests, hrejected⟩
  refine ⟨hrequests, hrejected, ?_, Gateway.heeds_handle policy surroundings⟩
  have hlength : verdicts.length = _ := Verdict.length_eq verdicts
  have hnone : verdicts.countP Verdict.isOverlooked = 0 ↔
      verdicts.any Verdict.isOverlooked = false := by
    rw [List.countP_eq_zero, List.any_eq_false]
  rw [← hnone, hrequests, hrejected, hlength]
  omega

end Incident

/-!
# A call that is not counted
-/

namespace Misaddressed

open Repeating

def surroundings : Surroundings Nat :=
  ⟨Action.echoing fun _ => .ok (some system), fun _ => none⟩

/-- An execution is called for on a system whose identifier is none. -/
def calling : Call where
  verb := "POST"
  path := "/api/v1/systems/not-a-uuid/execute"
  query := none
  headers := [("content-type", "application/json")]
  body := Text.utf8 "\x7b\"query\":\"q\"\x7d"

/-- The call is answered with status 400, and neither of the two counts tells of it. -/
theorem calling_uncounted :
    let handled := (Gateway.initial 10 10).handle plainKeys surroundings calling 0
    calling.verb = "POST" ∧ Route.ofPath calling.path = some (.execute "not-a-uuid") ∧
      handled.1.status = 400 ∧
      handled.2.1.metrics.requestsTotal + handled.2.1.metrics.rejectedTotal ≠
        (Gateway.initial 10 10).metrics.requestsTotal +
          (Gateway.initial 10 10).metrics.rejectedTotal + 1 := by
  decide +kernel

end Misaddressed
end Service
end QueryGateway
