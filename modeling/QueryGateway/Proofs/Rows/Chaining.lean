import QueryGateway.Proofs.Dictionary
import QueryGateway.Proofs.Rows.Columns
import QueryGateway.Rows.Pipeline

/-!
# Aggregations in a chain

An aggregation looks for its rows where another one puts them, so a chain of
aggregations hands the rows on.  A filter before an aggregation selects the rows that
the aggregation would select itself, if it had the predicates of the filter in front of
its own; only the number of rows that it is given is another one then.
-/

namespace QueryGateway
namespace Rows

/-!
# Rows that are handed on
-/

/-- To look for the name and then for the list under it comes to the same list. -/
theorem nestedRows?_eq (members : Members) :
    nestedRows? members =
      ((nestedName? members).bind (Dictionary.find? members)).bind items? := by
  unfold nestedName? nestedRows?
  induction nestedNames with
  | nil => rfl
  | cons name names ih =>
      rw [List.find?_cons, List.findSome?_cons]
      cases hfound : Dictionary.find? members name with
      | none => exact ih
      | some value =>
          cases value with
          | array items =>
              show some items = (Dictionary.find? members name).bind items?
              rw [hfound]
              rfl
          | _ => exact ih

theorem coerce_object (members : Members) :
    coerce (.object members) = (nestedRows? members).getD [.object members] := by
  rw [nestedRows?_eq]
  rfl

theorem nestedRows?_of_last {members : Members} {items : List Json}
    (hresults : Dictionary.find? members "results" = none)
    (hissues : Dictionary.find? members "issues" = none)
    (hdata : Dictionary.find? members "data" = some (.array items)) :
    nestedRows? members = some items := by
  unfold nestedRows? nestedNames
  simp only [List.findSome?_cons, hresults, hissues, hdata, Option.bind_none, Option.bind_some,
    items?]

theorem coerce_toJson (out : Aggregated) : coerce out.toJson = out.rows := by
  have hnested : forall account,
      nestedRows? (Dictionary.ofList [("data", .array out.rows), ("metadata", account)]) =
        some out.rows := by
    intro account
    apply nestedRows?_of_last
    · rw [Dictionary.find?_ofList]
      rfl
    · rw [Dictionary.find?_ofList]
      rfl
    · rw [Dictionary.find?_ofList]
      rfl
  unfold Aggregated.toJson Json.ofMembers
  rw [coerce_object, hnested]
  rfl

theorem sortRows_nil (rows : List Json) : sortRows [] rows = rows :=
  sortRows_of_ordered (List.pairwise_of_forall fun _ _ => rfl)

theorem filterRows_nil (rows : List Json) : filterRows [] rows = rows :=
  List.filter_eq_self.mpr fun _ _ => rfl

theorem filterRows_append (front back : List Predicate) (rows : List Json) :
    filterRows (front ++ back) rows = filterRows back (filterRows front rows) := by
  unfold filterRows
  rw [List.filter_filter]
  apply List.filter_congr
  intro row _
  unfold satisfiesAll
  rw [List.all_append, Bool.and_comm]

namespace Aggregation

variable {a : Aggregation}

theorem fault?_eq_none (hgroup : a.groupBy = []) (hmetrics : a.metrics = []) :
    a.fault? = none := by
  unfold fault?
  rw [hgroup, hmetrics]
  rfl

/-- Without columns of its own an aggregation filters, sorts and cuts the rows. -/
theorem table_of_passThrough (hgroup : a.groupBy = []) (hmetrics : a.metrics = [])
    (input : Json) : a.table input = sortRows a.sort (filterRows a.filters (coerce input)) := by
  unfold table summaries isPassThrough
  rw [hgroup, hmetrics]
  rfl

/-!
# Predicates that are moved into an aggregation
-/

def guarded (conditions : List Predicate) (a : Aggregation) : Aggregation :=
  { a with filters := conditions ++ a.filters }

def recounted (count : Nat) (out : Aggregated) : Aggregated :=
  { out with countBefore := count }

theorem apply_of_filtered {conditions : List Predicate} {input value : Json}
    (hvalue : coerce value = filterRows conditions (coerce input)) :
    a.apply value =
      ((a.guarded conditions).apply input).map
        (recounted (filterRows conditions (coerce input)).length) := by
  have htable : a.table value = (a.guarded conditions).table input := by
    unfold table guarded
    rw [filterRows_append, ← hvalue]
    rfl
  cases hfault : a.fault? with
  | some failure =>
      have hguarded : (a.guarded conditions).fault? = some failure := hfault
      unfold apply
      rw [hfault, hguarded]
      rfl
  | none =>
      have hguarded : (a.guarded conditions).fault? = none := hfault
      rw [apply_of_valid hfault, apply_of_valid hguarded, htable, hvalue]
      rfl

end Aggregation

theorem applyAll_filters (conditions : List (List Predicate)) (input : Json) :
    exists value, applyAll (conditions.map .filter) input = .ok value ∧
      coerce value = filterRows conditions.flatten (coerce input) := by
  induction conditions generalizing input with
  | nil => exact ⟨input, rfl, (filterRows_nil _).symm⟩
  | cons first rest ih =>
      rcases ih (.array (filterRows first (coerce input))) with ⟨value, happly, hrows⟩
      refine ⟨value, happly, ?_⟩
      rw [hrows, List.flatten_cons, filterRows_append]
      rfl

theorem applyAll_append (steps further : List Transform) (input : Json) :
    applyAll (steps ++ further) input = (applyAll steps input).bind (applyAll further) :=
  List.foldlM_append

theorem applyAll_aggregate (a : Aggregation) (input : Json) :
    applyAll [.aggregate a] input = (a.apply input).map Aggregated.toJson := by
  unfold applyAll
  rw [List.foldlM_cons]
  exact bind_pure _

/-- Filters before an aggregation are moved into it, all of them. -/
theorem applyAll_filters_aggregate (conditions : List (List Predicate)) (a : Aggregation)
    (input : Json) :
    applyAll (conditions.map .filter ++ [.aggregate a]) input =
      ((a.guarded conditions.flatten).apply input).map fun out =>
        (Aggregation.recounted (filterRows conditions.flatten (coerce input)).length out).toJson := by
  rcases applyAll_filters conditions input with ⟨value, happly, hrows⟩
  rw [applyAll_append, happly]
  show applyAll [.aggregate a] value = _
  rw [applyAll_aggregate, Aggregation.apply_of_filtered hrows]
  cases (a.guarded conditions.flatten).apply input with
  | error failure => rfl
  | ok out => rfl

/-!
# Chains
-/

theorem processedCount_of_apply {a : Aggregation} {input : Json} {out : Aggregated}
    (happly : a.apply input = .ok out) : out.processedCount = out.rows.length := by
  unfold Aggregation.apply at happly
  split at happly
  · cases happly
  · injection happly with hout
    rw [← hout]

theorem cutTo_of_none {limit : Option UInt64} (hlimit : limit = none) (rows : List Json) :
    cutTo limit rows = rows := by
  rw [hlimit]
  rfl

theorem cutTo_of_some {limit : Option UInt64} {count : UInt64} (hlimit : limit = some count)
    (rows : List Json) : cutTo limit rows = rows.take count.toNat := by
  rw [hlimit]
  rfl

theorem apply_handed_on {first second : Aggregation} {input : Json} {out : Aggregated}
    (hfirst : first.apply input = .ok out) (hgroup : second.groupBy = [])
    (hmetrics : second.metrics = []) :
    let sorted := sortRows second.sort (filterRows second.filters out.rows)
    exists again, second.apply out.toJson = .ok again ∧
      again.countBefore = out.processedCount ∧
      (second.limit = none -> again.rows = sorted) ∧
      forall count, second.limit = some count -> again.rows = sorted.take count.toNat := by
  intro sorted
  have hvalid := Aggregation.fault?_eq_none hgroup hmetrics
  have htable : second.table out.toJson = sorted := by
    rw [Aggregation.table_of_passThrough hgroup hmetrics, coerce_toJson]
  refine ⟨_, Aggregation.apply_of_valid hvalid out.toJson, ?_, ?_, ?_⟩
  · show (coerce out.toJson).length = out.processedCount
    rw [coerce_toJson, processedCount_of_apply hfirst]
  · intro hlimit
    show cutTo second.limit (second.table out.toJson) = sorted
    rw [htable, cutTo_of_none hlimit]
  · intro count hlimit
    show cutTo second.limit (second.table out.toJson) = sorted.take count.toNat
    rw [htable, cutTo_of_some hlimit]

def Aggregation.empty : Aggregation :=
  ⟨[], [], [], [], none⟩

/--
An aggregation without columns filters and sorts the rows of the one before it, and
takes the first of them up to its limit, or all without one; if it declares nothing
at all, it leaves them as they are.  A filter before an aggregation comes to the same
as its predicates in front of those of the aggregation, up to the number of rows that
this one is given.
-/
theorem aggregations_compose (input : Json) :
    (forall (first : Aggregation) (out : Aggregated), first.apply input = .ok out ->
      (forall second : Aggregation, second.groupBy = [] -> second.metrics = [] ->
        let sorted := sortRows second.sort (filterRows second.filters out.rows)
        exists again, second.apply out.toJson = .ok again ∧
          again.countBefore = out.processedCount ∧
          (second.limit = none -> again.rows = sorted) ∧
          forall count, second.limit = some count -> again.rows = sorted.take count.toNat) ∧
      exists again, Aggregation.empty.apply out.toJson = .ok again ∧ again.rows = out.rows) ∧
    forall (conditions : List Predicate) (a : Aggregation),
      applyAll [.filter conditions, .aggregate a] input =
        ((a.guarded conditions).apply input).map fun out =>
          (Aggregation.recounted (filterRows conditions (coerce input)).length out).toJson := by
  constructor
  · intro first out hfirst
    refine ⟨fun second hgroup hmetrics => apply_handed_on hfirst hgroup hmetrics, ?_⟩
    rcases @apply_handed_on first Aggregation.empty input out hfirst rfl rfl with
      ⟨again, happly, _, hrows, _⟩
    refine ⟨again, happly, ?_⟩
    rw [hrows rfl]
    show sortRows [] (filterRows [] out.rows) = out.rows
    rw [sortRows_nil, filterRows_nil]
  · intro conditions a
    have hchain := applyAll_filters_aggregate [conditions] a input
    rw [List.flatten_singleton] at hchain
    exact hchain

namespace Dashboard

def issue (status : String) : Json :=
  .object [("status", .text status)]

def issues : Json :=
  .array
    [issue "open", issue "closed", issue "blocked", issue "closed", issue "open", issue "closed"]

def byStatus : Aggregation :=
  ⟨["status"], [⟨none, .count, none, none⟩], [], [], none⟩

/-- The most frequent of the states that more than one issue is in. -/
def mostFrequent : Aggregation :=
  ⟨[], [], [⟨"count", .greaterThan, .number (.integer 1)⟩], [⟨"count", .descending⟩], some 1⟩

def states (rows : List Json) : List String :=
  rows.map fun row => asText (fieldOf row "status")

/-- One state is filtered out, and of the other two the later one is put first and taken. -/
theorem aggregations_compose_mostFrequent :
    exists out again, byStatus.apply issues = .ok out ∧ mostFrequent.groupBy = [] ∧
      mostFrequent.metrics = [] ∧ mostFrequent.apply out.toJson = .ok again ∧
      again.countBefore = 3 ∧
      states (filterRows mostFrequent.filters out.rows) = ["open", "closed"] ∧
      states again.rows = ["closed"] := by
  have hfirst := byStatus.apply_of_valid rfl issues
  rcases ((aggregations_compose issues).left _ _ hfirst).left mostFrequent rfl rfl with
    ⟨again, happly, hcount, _, hrows⟩
  refine ⟨_, again, hfirst, rfl, rfl, happly, ?_, ?_, ?_⟩
  · rw [hcount]
    decide +kernel
  · decide +kernel
  · rw [hrows 1 rfl]
    decide +kernel

end Dashboard

end Rows
end QueryGateway
