import QueryGateway.Proofs.Rows.Sorting
import QueryGateway.Rows.Filter

/-!
# The stable order of rows

Sorting leaves rows that compare equal in the order in which they came.  There is
only one list of the same rows that is in order and does that, so it makes no
difference whether rows are filtered before or after they are sorted.
-/

namespace QueryGateway
namespace Rows

variable {keys : List SortKey}

/-!
# Rows that compare equal
-/

def tied (keys : List SortKey) (a b : Json) : Bool :=
  compareRows keys a b == .eq

/-- The rows of a list in their order, and those that compare equal as they came. -/
structure SortedStably (keys : List SortKey) (rows sorted : List Json) : Prop where
  perm : sorted.Perm rows
  ordered : sorted.Pairwise fun earlier later => compareRows keys earlier later ≠ .gt
  ties : forall row, row ∈ rows -> sorted.filter (tied keys row) = rows.filter (tied keys row)

theorem tied_self (keys : List SortKey) (row : Json) : tied keys row row = true := by
  have horiented := oriented_compareRows keys
  exact beq_iff_eq.mpr Std.ReflCmp.compare_self

theorem tied_of_ne_gt {a b : Json} (hab : compareRows keys a b ≠ .gt)
    (hba : compareRows keys b a ≠ .gt) : tied keys a b = true := by
  have horiented := oriented_compareRows keys
  have hswap : compareRows keys b a = (compareRows keys a b).swap := Std.OrientedCmp.eq_swap
  unfold tied
  cases hcompare : compareRows keys a b with
  | lt =>
      rw [hcompare] at hswap
      exact absurd hswap hba
  | eq => rfl
  | gt => exact absurd hcompare hab

theorem ne_gt_of_isLE {order : Ordering} (hle : order.isLE = true) : order ≠ .gt := by
  intro hgt
  rw [hgt] at hle
  cases hle

/-!
# Only one list is sorted stably
-/

theorem eq_of_ordered_of_ties : forall {first second : List Json}, first.Perm second ->
    first.Pairwise (fun earlier later => compareRows keys earlier later ≠ .gt) ->
    second.Pairwise (fun earlier later => compareRows keys earlier later ≠ .gt) ->
    (forall row, row ∈ first -> first.filter (tied keys row) = second.filter (tied keys row)) ->
      first = second
  | [], second, hperm, _, _, _ => (List.nil_perm.mp hperm).symm
  | a :: first, [], hperm, _, _, _ => absurd hperm.length_eq (Nat.succ_ne_zero _)
  | a :: first, b :: second, hperm, hfirst, hsecond, hties => by
      rcases List.pairwise_cons.mp hfirst with ⟨hafter, hfirstRest⟩
      rcases List.pairwise_cons.mp hsecond with ⟨hbefore, hsecondRest⟩
      have htied : tied keys a b = true := by
        rcases List.mem_cons.mp (hperm.mem_iff.mp List.mem_cons_self) with hsame | hamem
        · rw [hsame]
          exact tied_self keys b
        · rcases List.mem_cons.mp (hperm.mem_iff.mpr List.mem_cons_self) with hsame | hbmem
          · rw [hsame]
            exact tied_self keys a
          · exact tied_of_ne_gt (hafter b hbmem) (hbefore a hamem)
      have hheads := hties a List.mem_cons_self
      rw [List.filter_cons_of_pos (tied_self keys a), List.filter_cons_of_pos htied] at hheads
      injection hheads with hsame _
      subst hsame
      refine congrArg (a :: ·) (eq_of_ordered_of_ties hperm.cons_inv hfirstRest hsecondRest ?_)
      intro row hmem
      have hrow := hties row (List.mem_cons_of_mem a hmem)
      rw [List.filter_cons, List.filter_cons] at hrow
      split at hrow
      · injection hrow
      · exact hrow

namespace SortedStably

variable {rows sorted other : List Json}

theorem unique (hsorted : SortedStably keys rows sorted) (hother : SortedStably keys rows other) :
    sorted = other := by
  apply eq_of_ordered_of_ties (hsorted.perm.trans hother.perm.symm) hsorted.ordered hother.ordered
  intro row hmem
  have hrow : row ∈ rows := hsorted.perm.mem_iff.mp hmem
  exact (hsorted.ties row hrow).trans (hother.ties row hrow).symm

theorem filter (hsorted : SortedStably keys rows sorted) (keep : Json -> Bool) :
    SortedStably keys (rows.filter keep) (sorted.filter keep) where
  perm := hsorted.perm.filter keep
  ordered := hsorted.ordered.filter keep
  ties := by
    intro row hmem
    rw [List.filter_comm, hsorted.ties row (List.mem_of_mem_filter hmem), List.filter_comm]

theorem of_ordered (hordered : rows.Pairwise fun earlier later =>
    compareRows keys earlier later ≠ .gt) : SortedStably keys rows rows where
  perm := List.Perm.refl rows
  ordered := hordered
  ties := fun _ _ => rfl

end SortedStably

/-!
# Sorting is stable
-/

theorem TransitiveOn.of_subset {rows others : List Json} (htransitive : TransitiveOn keys rows)
    (hsubset : others ⊆ rows) : TransitiveOn keys others := by
  intro a b c ha hb hc
  exact htransitive a b c (hsubset ha) (hsubset hb) (hsubset hc)

/-- A row moves past those it precedes only, and none of these is tied with what is tied with it. -/
theorem not_tied_of_precedes {rows : List Json} (htransitive : TransitiveOn keys rows)
    {row last other : Json} (hrow : row ∈ rows) (hlast : last ∈ rows) (hother : other ∈ rows)
    (hbefore : precedes keys row last = true) (htied : tied keys other last = true) :
    tied keys other row = false := by
  have horiented := oriented_compareRows keys
  rw [← Bool.not_eq_true]
  intro hsame
  have hback : (compareRows keys last other).isLE = true := by
    have hswap : compareRows keys last other = (compareRows keys other last).swap :=
      Std.OrientedCmp.eq_swap
    rw [hswap, beq_iff_eq.mp htied]
    rfl
  have hforth : (compareRows keys other row).isLE = true := by
    rw [beq_iff_eq.mp hsame]
    rfl
  have hle := htransitive last other row hlast hother hrow hback hforth
  exact Std.OrientedCmp.not_isLE_of_lt (beq_iff_eq.mp hbefore) hle

theorem filter_tied_place {rows : List Json} (htransitive : TransitiveOn keys rows)
    {row other : Json} (hrow : row ∈ rows) (hother : other ∈ rows) :
    forall {placed : List Json}, placed ⊆ rows ->
      (place (precedes keys) row placed).filter (tied keys other) =
        (row :: placed).filter (tied keys other)
  | [], _ => rfl
  | last :: rest, hsubset => by
      have hlast : last ∈ rows := hsubset List.mem_cons_self
      have hrest : rest ⊆ rows := fun _ hmem => hsubset (List.mem_cons_of_mem last hmem)
      unfold place
      split
      · next hbefore =>
          rw [List.filter_cons, filter_tied_place htransitive hrow hother hrest]
          split
          · next htied =>
              have hnot := not_tied_of_precedes htransitive hrow hlast hother hbefore htied
              rw [List.filter_cons_of_neg (by rw [hnot]; exact Bool.false_ne_true),
                List.filter_cons_of_neg (by rw [hnot]; exact Bool.false_ne_true),
                List.filter_cons_of_pos htied]
          · next htied =>
              rw [List.filter_cons, List.filter_cons, List.filter_cons_of_neg htied]
      · rfl

theorem filter_tied_placeAll {rows : List Json} (htransitive : TransitiveOn keys rows)
    {other : Json} (hother : other ∈ rows) :
    forall {coming placed : List Json}, coming ⊆ rows -> placed ⊆ rows ->
      (coming.foldl (fun placed row => place (precedes keys) row placed) placed).filter
          (tied keys other) =
        (coming.reverse ++ placed).filter (tied keys other)
  | [], _, _, _ => rfl
  | row :: coming, placed, hcoming, hplaced => by
      have hrow : row ∈ rows := hcoming List.mem_cons_self
      have hrest : coming ⊆ rows := fun _ hmem => hcoming (List.mem_cons_of_mem row hmem)
      have hmore : place (precedes keys) row placed ⊆ rows := by
        intro moved hmem
        rcases List.mem_cons.mp ((perm_place _ row placed).mem_iff.mp hmem) with hsame | hmem
        · rw [hsame]
          exact hrow
        · exact hplaced hmem
      rw [List.foldl_cons, filter_tied_placeAll htransitive hother hrest hmore, List.filter_append,
        filter_tied_place htransitive hrow hother hplaced, ← List.filter_append,
        List.reverse_cons, List.append_assoc]
      rfl

theorem sortedStably_sortRows {rows : List Json} (htransitive : TransitiveOn keys rows) :
    SortedStably keys rows (sortRows keys rows) where
  perm := perm_sortRows keys rows
  ordered := (pairwise_sortRows htransitive).imp ne_gt_of_isLE
  ties := by
    intro row hmem
    rw [sortRows_eq, List.filter_reverse,
      filter_tied_placeAll htransitive hmem (List.Subset.refl rows) (List.nil_subset rows),
      List.append_nil, List.filter_reverse, List.reverse_reverse]

/--
If under each key there are no numbers beside other values than null, sorting
gives the one list of the same rows that is in order and keeps the order of rows
that compare equal.  To sort it again changes nothing, and it may be filtered
before it is sorted as well as after that.
-/
theorem sortRows_of_oneKind {rows : List Json} (hkinds : forall key, key ∈ keys ->
      OneKind (rows.map fun row => fieldOf row key.field)) :
    SortedStably keys rows (sortRows keys rows) ∧
      (forall sorted, SortedStably keys rows sorted -> sorted = sortRows keys rows) ∧
      sortRows keys (sortRows keys rows) = sortRows keys rows ∧
      forall predicates,
        filterRows predicates (sortRows keys rows) = sortRows keys (filterRows predicates rows) := by
  have htransitive : TransitiveOn keys rows :=
    transitiveOn_of_straight fun key hmem => straight_of_oneKind (hkinds key hmem)
  have hsorted : SortedStably keys rows (sortRows keys rows) := sortedStably_sortRows htransitive
  refine ⟨hsorted, fun _ hother => hother.unique hsorted, ?_, ?_⟩
  · have hagain : TransitiveOn keys (sortRows keys rows) :=
      htransitive.of_subset hsorted.perm.subset
    exact (sortedStably_sortRows hagain).unique (SortedStably.of_ordered hsorted.ordered)
  · intro predicates
    have hfiltered : TransitiveOn keys (filterRows predicates rows) :=
      htransitive.of_subset (List.filter_subset_self rows)
    exact (hsorted.filter _).unique (sortedStably_sortRows hfiltered)

/-!
# Issues by points
-/

instance (value : Json) : Decidable (value = .null) :=
  decidable_of_iff (value.isNull = true) (by cases value <;> simp [Json.isNull])

instance (values : List Json) : Decidable (OneKind values) :=
  inferInstanceAs (Decidable (_ ∨ _))

namespace Backlog

def issue (id : Nat) (name : String) (points : Json) : Json :=
  .object [("id", Json.ofNat id), ("name", .text name), ("points", points)]

def issues : List Json :=
  [issue 1 "b" (Json.ofNat 3), issue 2 "z" (Json.ofNat 10), issue 3 "c" .null,
   issue 4 "a" (Json.ofNat 3), issue 5 "b" (Json.ofNat 3)]

def byPoints : List SortKey :=
  [⟨"points", .descending⟩, ⟨"name", .ascending⟩]

def pointed : List Predicate :=
  [⟨"points", .isNotNull, .null⟩]

theorem sortRows_of_oneKind_points :
    (forall key, key ∈ byPoints -> OneKind (issues.map fun row => fieldOf row key.field)) ∧
      (sortRows byPoints issues).map (fun row => asText (fieldOf row "id")) =
        ["2", "4", "1", "5", "3"] ∧
      SortedStably byPoints issues (sortRows byPoints issues) ∧
      filterRows pointed (sortRows byPoints issues) =
        sortRows byPoints (filterRows pointed issues) := by
  have hkinds : forall key, key ∈ byPoints ->
      OneKind (issues.map fun row => fieldOf row key.field) := by
    decide +kernel
  have hids : (sortRows byPoints issues).map (fun row => asText (fieldOf row "id")) =
      ["2", "4", "1", "5", "3"] := by
    decide +kernel
  obtain ⟨hsorted, _, _, hfiltered⟩ := sortRows_of_oneKind hkinds
  exact ⟨hkinds, hids, hsorted, hfiltered pointed⟩

end Backlog

end Rows
end QueryGateway
