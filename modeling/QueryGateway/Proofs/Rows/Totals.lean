import QueryGateway.Proofs.Rows.Metrics

/-!
# Totals of integers

Numbers are added as binary64 numbers, which drop digits of large results.  Where all
numbers at a field are integers and their distances from zero come to less than 2^53,
no partial sum does: the total is the integer that it should be, in whatever order the
rows are.
-/

namespace QueryGateway
namespace Rows

def integerOf? : Json -> Option Int
  | .number (.integer n) => some n
  | _ => none

def integersAt (rows : List Json) (field : String) : List Int :=
  rows.filterMap fun row => (row.lookup field).bind integerOf?

/-- No value at a field counts as a number but the integers. -/
def OnlyIntegersAt (rows : List Json) (field : String) : Prop :=
  forall value, value ∈ rows.filterMap (fun row => row.lookup field) ->
    (asNumber value).isSome = true -> (integerOf? value).isSome = true

instance (rows : List Json) (field : String) : Decidable (OnlyIntegersAt rows field) :=
  inferInstanceAs (Decidable (forall value, value ∈ _ -> _))

theorem asNumber_eq_of_integerOf? {value : Json}
    (hinteger : (asNumber value).isSome = true -> (integerOf? value).isSome = true) :
    asNumber value = (integerOf? value).map Binary64.ofInt := by
  cases hvalue : integerOf? value with
  | none =>
      cases hnumber : asNumber value with
      | none => rfl
      | some x =>
          rw [hvalue, hnumber] at hinteger
          cases hinteger rfl
  | some n =>
      unfold integerOf? at hvalue
      split at hvalue
      · injection hvalue with hn
        rw [← hn]
        rfl
      · cases hvalue

theorem numbersAt_eq_map {rows : List Json} {field : String} (honly : OnlyIntegersAt rows field) :
    numbersAt rows field = (integersAt rows field).map Binary64.ofInt := by
  unfold numbersAt integersAt
  rw [List.map_filterMap]
  apply List.filterMap_congr
  intro row hmem
  cases hvalue : row.lookup field with
  | none => rfl
  | some value =>
      have hat : value ∈ rows.filterMap (fun row => row.lookup field) :=
        List.mem_filterMap.mpr ⟨row, hmem, hvalue⟩
      exact asNumber_eq_of_integerOf? (honly value hat)

theorem total_ofInt {integers : List Int}
    (hsmall : (integers.map Int.natAbs).sum ≤ 2 ^ 53) :
    Binary64.IsInteger (total (integers.map Binary64.ofInt)) integers.sum := by
  have hbound : (0 : Int).natAbs + (integers.map Int.natAbs).sum ≤ 2 ^ 53 := by
    rw [Int.natAbs_zero, Nat.zero_add]
    exact hsmall
  have hsum := Binary64.isInteger_foldl_add (Binary64.isInteger_zero true) hbound
  rw [Int.zero_add] at hsum
  exact hsum

theorem natAbs_sum_le (integers : List Int) :
    integers.sum.natAbs ≤ (integers.map Int.natAbs).sum := by
  induction integers with
  | nil => exact Nat.le_refl 0
  | cons n rest ih =>
      rw [List.sum_cons, List.map_cons, List.sum_cons]
      exact Nat.le_trans (Int.natAbs_add_le n rest.sum) (Nat.add_le_add_left ih _)

theorem integersAt_perm {rows rows' : List Json} (hperm : rows.Perm rows') (field : String) :
    (integersAt rows field).Perm (integersAt rows' field) :=
  hperm.filterMap _

theorem onlyIntegersAt_perm {rows rows' : List Json} (hperm : rows.Perm rows') {field : String}
    (honly : OnlyIntegersAt rows field) : OnlyIntegersAt rows' field :=
  fun value hmem => honly value ((hperm.filterMap _).mem_iff.mpr hmem)

theorem compute_sum {metric : Metric} (hfunction : metric.function = .sum) (rows : List Json) :
    metric.compute rows = numberJson (total (numbersAt rows (metric.field.getD ""))) := by
  unfold Metric.compute
  rw [hfunction]

/-- The sum of integers is exact where their distances from zero come to less than 2^53. -/
theorem sum_of_integers {metric : Metric} {rows rows' : List Json}
    (hfunction : metric.function = .sum) (honly : OnlyIntegersAt rows (metric.field.getD ""))
    (hsmall : ((integersAt rows (metric.field.getD "")).map Int.natAbs).sum ≤ 2 ^ 53 - 1)
    (hperm : rows.Perm rows') :
    metric.compute rows' = .number (.integer (integersAt rows (metric.field.getD "")).sum) := by
  have hintegers := integersAt_perm hperm (metric.field.getD "")
  have hnumbers := numbersAt_eq_map (onlyIntegersAt_perm hperm honly)
  rw [(hintegers.map Int.natAbs).sum_eq] at hsmall
  rw [compute_sum hfunction, hnumbers, hintegers.sum_eq]
  apply numberJson_of_isInteger
  · apply total_ofInt
    omega
  · exact Nat.le_trans (natAbs_sum_le _) hsmall

/-!
# Points at the end of the range
-/

namespace Points

def row (points : Json) : Json :=
  .object [("points", points)]

def sprint : List Json :=
  [row (.number (.integer (2 ^ 52))), row .null, .object [], row (.text "none"),
   row (.number (.integer (5 - 2 ^ 52)))]

def totalPoints : Metric :=
  ⟨some "points", .sum, none, none⟩

theorem sum_of_integers_sprint :
    totalPoints.function = .sum ∧ OnlyIntegersAt sprint "points" ∧
      ((integersAt sprint "points").map Int.natAbs).sum ≤ 2 ^ 53 - 1 ∧
      sprint.Perm sprint.reverse ∧ integersAt sprint "points" = [2 ^ 52, 5 - 2 ^ 52] ∧
      totalPoints.compute sprint.reverse = .number (.integer 5) := by
  have honly : OnlyIntegersAt sprint "points" := by
    decide +kernel
  have hsmall : ((integersAt sprint "points").map Int.natAbs).sum ≤ 2 ^ 53 - 1 := by
    decide +kernel
  have hintegers : integersAt sprint "points" = [2 ^ 52, 5 - 2 ^ 52] := by
    decide +kernel
  have hperm : sprint.Perm sprint.reverse := (List.reverse_perm sprint).symm
  have hsum : (integersAt sprint "points").sum = 5 := by
    rw [hintegers]
    decide
  refine ⟨rfl, honly, hsmall, hperm, hintegers, ?_⟩
  rw [← hsum]
  exact sum_of_integers rfl honly hsmall hperm

end Points

end Rows
end QueryGateway
