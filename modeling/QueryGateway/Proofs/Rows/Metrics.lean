import Mathlib.Data.List.Sort
import QueryGateway.Proofs.Binary64.Addition
import QueryGateway.Proofs.Rows.Grouping

/-!
# Metrics whatever the order of the rows

Counts are lengths, and the least, the greatest and the middle ones of some numbers
are determined by how often each number occurs.  Where two numbers are equal without
being the same, that is for the zeros, the order of the rows may decide which of them
comes out; as a metric both are the integer zero.
-/

namespace QueryGateway
namespace Binary64

/-!
# Numbers of one rank
-/

theorem natAbs_rank (x : Binary64) : x.rank.natAbs = x.unsignedWord := by
  unfold rank
  split
  · rw [Int.natAbs_neg, Int.natAbs_natCast]
  · exact Int.natAbs_natCast _

theorem negative_eq_of_rank {x : Binary64} (hne : x.rank ≠ 0) :
    x.negative = decide (x.rank < 0) := by
  unfold rank at hne ⊢
  cases hsign : x.negative with
  | false => simp
  | true =>
      rw [hsign, if_pos rfl] at hne
      rw [if_pos rfl, eq_comm, decide_eq_true_eq]
      omega

theorem eq_or_isZero_of_rank {x y : Binary64} (hrank : x.rank = y.rank) :
    x = y ∨ (x.isZero = true ∧ y.isZero = true) := by
  have hword : x.unsignedWord = y.unsignedWord := by
    rw [← natAbs_rank, ← natAbs_rank, hrank]
  by_cases hzero : x.rank = 0
  · right
    have hnone : x.unsignedWord = 0 := by
      rw [← natAbs_rank, hzero]
      rfl
    exact ⟨beq_iff_eq.mpr hnone, beq_iff_eq.mpr (hword.symm.trans hnone)⟩
  · left
    apply eq_of_unsignedWord _ hword
    rw [negative_eq_of_rank hzero, negative_eq_of_rank (hrank ▸ hzero), hrank]

theorem eq_of_totalRank {x y : Binary64} (hrank : x.totalRank = y.totalRank) : x = y := by
  have hsign : forall z : Binary64, z.negative = decide (z.totalRank < 0) := by
    intro z
    unfold totalRank
    cases z.negative with
    | false => simp
    | true =>
        rw [if_pos rfl, eq_comm, decide_eq_true_eq]
        omega
  have hsame : x.negative = y.negative := by
    rw [hsign x, hsign y, hrank]
  apply eq_of_unsignedWord hsame
  unfold totalRank at hrank
  rw [hsame] at hrank
  split at hrank <;> omega

theorem eq_zero_of_isZero {x : Binary64} (hzero : x.isZero = true) : x = zero x.negative := by
  apply eq_of_unsignedWord
  · exact (negative_ofWord x.negative (by decide)).symm
  · rw [zero, unsignedWord_ofWord x.negative (by decide)]
    exact beq_iff_eq.mp hzero

end Binary64

namespace Rows

theorem numberJson_of_isInteger {x : Binary64} {n : Int} (hx : x.IsInteger n)
    (hsmall : n.natAbs ≤ integerLimit) : numberJson x = .number (.integer n) := by
  unfold numberJson
  rw [Binary64.toInt?_of_isInteger hx]
  exact if_pos hsmall

theorem numberJson_of_rank {x y : Binary64} (hrank : x.rank = y.rank) :
    numberJson x = numberJson y := by
  rcases Binary64.eq_or_isZero_of_rank hrank with hsame | ⟨hx, hy⟩
  · rw [hsame]
  · have hzero : forall negative, numberJson (Binary64.zero negative) = .number (.integer 0) :=
      fun negative => numberJson_of_isInteger (Binary64.isInteger_zero negative) (Nat.zero_le _)
    rw [Binary64.eq_zero_of_isZero hx, Binary64.eq_zero_of_isZero hy, hzero, hzero]

/-!
# Counts
-/

section Reordered

variable {rows rows' : List Json}

theorem numbersAt_perm (hperm : rows.Perm rows') (field : String) :
    (numbersAt rows field).Perm (numbersAt rows' field) :=
  hperm.filterMap _

theorem presentAt_perm (hperm : rows.Perm rows') (field : String) :
    (presentAt rows field).Perm (presentAt rows' field) :=
  (hperm.filterMap _).filter _

theorem distinct_perm {texts texts' : List String} (hperm : texts.Perm texts') :
    (distinct texts).Perm (distinct texts') := by
  rw [List.perm_ext_iff_of_nodup (nodup_distinct texts) (nodup_distinct texts')]
  intro text
  rw [mem_distinct, mem_distinct]
  exact hperm.mem_iff

/-!
# The least and the greatest
-/

/-- A choice between two numbers of a kind that gives one of the kind with the smaller key. -/
def Picks (kind : Binary64 -> Prop) (key : Binary64 -> Int)
    (choose : Binary64 -> Binary64 -> Binary64) : Prop :=
  forall x y, kind x -> kind y -> kind (choose x y) ∧ key (choose x y) = Min.min (key x) (key y)

/-- A choice of the lesser one of two finite numbers; of two zeros it may give either. -/
def PicksLesser (choose : Binary64 -> Binary64 -> Binary64) : Prop :=
  Picks (fun x => x.isFinite = true) Binary64.rank choose

def PicksGreater (choose : Binary64 -> Binary64 -> Binary64) : Prop :=
  Picks (fun x => x.isFinite = true) (fun x => -x.rank) choose

theorem picks_min : Picks (fun _ => True) Binary64.rank Binary64.min := by
  intro x y _ _
  refine ⟨trivial, ?_⟩
  unfold Binary64.min
  split <;> omega

theorem picks_max : Picks (fun _ => True) (fun x => -x.rank) Binary64.max := by
  intro x y _ _
  refine ⟨trivial, ?_⟩
  unfold Binary64.max
  dsimp only
  split <;> omega

section Extreme

variable {kind : Binary64 -> Prop} {key : Binary64 -> Int}
  {choose : Binary64 -> Binary64 -> Binary64}

theorem key_foldl (hpicks : Picks kind key choose) {values : List Binary64}
    (hvalues : forall x, x ∈ values -> kind x) {first : Binary64} (hfirst : kind first) :
    key (values.foldl choose first) = (values.map key).foldl Min.min (key first) := by
  induction values generalizing first with
  | nil => rfl
  | cons x rest ih =>
      rcases List.forall_mem_cons.mp hvalues with ⟨hx, hrest⟩
      rcases hpicks first x hfirst hx with ⟨hchosen, hkey⟩
      rw [List.foldl_cons, List.map_cons, List.foldl_cons, ← hkey]
      exact ih hrest hchosen

theorem key_extreme (hpicks : Picks kind key choose) {values : List Binary64}
    (hvalues : forall x, x ∈ values -> kind x) :
    (extreme choose values).map key = (values.map key).min? := by
  cases values with
  | nil => rfl
  | cons x rest =>
      rcases List.forall_mem_cons.mp hvalues with ⟨hx, hrest⟩
      exact congrArg some (key_foldl hpicks hrest hx)

end Extreme

theorem min?_perm {keys keys' : List Int} (hperm : keys.Perm keys') : keys.min? = keys'.min? := by
  apply Option.ext
  intro least
  rw [List.min?_eq_some_iff, List.min?_eq_some_iff, hperm.mem_iff]
  simp only [hperm.mem_iff]

theorem optionalNumber_of_key {key : Binary64 -> Int}
    (hrank : forall x y, key x = key y -> x.rank = y.rank) {x y : Option Binary64}
    (hkeys : x.map key = y.map key) : optionalNumber x = optionalNumber y := by
  cases x with
  | none =>
      cases y with
      | none => rfl
      | some y => cases hkeys
  | some x =>
      cases y with
      | none => cases hkeys
      | some y => exact numberJson_of_rank (hrank x y (Option.some.inj hkeys))

/-- What is chosen from some numbers depends on the key only, not on their order or the choice. -/
theorem optionalNumber_extreme {kind kind' : Binary64 -> Prop} {key : Binary64 -> Int}
    {choose choose' : Binary64 -> Binary64 -> Binary64} {values values' : List Binary64}
    (hrank : forall x y, key x = key y -> x.rank = y.rank) (hpicks : Picks kind key choose)
    (hpicks' : Picks kind' key choose') (hperm : values.Perm values')
    (hvalues : forall x, x ∈ values -> kind x) (hvalues' : forall x, x ∈ values' -> kind' x) :
    optionalNumber (extreme choose values) = optionalNumber (extreme choose' values') := by
  apply optionalNumber_of_key hrank
  rw [key_extreme hpicks hvalues, key_extreme hpicks' hvalues', min?_perm (hperm.map key)]

/-!
# The middle ones
-/

def rankLE (x y : Binary64) : Prop :=
  x.totalRank ≤ y.totalRank

instance : DecidableRel rankLE :=
  fun x y => inferInstanceAs (Decidable (x.totalRank ≤ y.totalRank))

instance : Std.Total rankLE where
  total x y := Int.le_total x.totalRank y.totalRank

instance : IsTrans Binary64 rankLE where
  trans _ _ _ := Int.le_trans

instance : Std.Antisymm rankLE where
  antisymm _ _ hle hge := Binary64.eq_of_totalRank (Int.le_antisymm hle hge)

theorem insertByRank_eq (x : Binary64) (values : List Binary64) :
    insertByRank x values = values.orderedInsert rankLE x := by
  induction values with
  | nil => rfl
  | cons y rest ih =>
      rw [insertByRank, List.orderedInsert, ih]
      rfl

theorem sortByRank_eq (values : List Binary64) :
    sortByRank values = values.insertionSort rankLE := by
  induction values with
  | nil => rfl
  | cons x rest ih => rw [sortByRank, ih, insertByRank_eq, List.insertionSort_cons]

theorem sortByRank_perm {values values' : List Binary64} (hperm : values.Perm values') :
    sortByRank values = sortByRank values' := by
  rw [sortByRank_eq, sortByRank_eq]
  have hsorted : (values.insertionSort rankLE).Perm (values'.insertionSort rankLE) :=
    (List.perm_insertionSort rankLE values).trans
      (hperm.trans (List.perm_insertionSort rankLE values').symm)
  exact hsorted.eq_of_pairwise' (List.pairwise_insertionSort rankLE values)
    (List.pairwise_insertionSort rankLE values')

theorem median_perm {values values' : List Binary64} (hperm : values.Perm values') :
    median values = median values' := by
  unfold median
  rw [sortByRank_perm hperm]

/-!
# All of them
-/

/-- A function whose value is what a choice by a key gives of the numbers at the field. -/
structure Extremal (function : MetricFunction) (own : Binary64 -> Binary64 -> Binary64)
    (key : Binary64 -> Int) : Prop where
  compute : forall (metric : Metric) (rows : List Json), metric.function = function ->
    metric.compute rows = optionalNumber (extreme own (numbersAt rows (metric.field.getD "")))
  picks : Picks (fun _ => True) key own
  rank : forall x y, key x = key y -> x.rank = y.rank

theorem extremal_min : Extremal .min Binary64.min Binary64.rank where
  compute metric rows hfunction := by
    unfold Metric.compute
    rw [hfunction]
  picks := picks_min
  rank _ _ hrank := hrank

theorem extremal_max : Extremal .max Binary64.max (fun x => -x.rank) where
  compute metric rows hfunction := by
    unfold Metric.compute
    rw [hfunction]
  picks := picks_max
  rank _ _ hrank := Int.neg_inj.mp hrank

theorem compute_count_perm {metric : Metric} (hfunction : metric.function = .count)
    (hperm : rows.Perm rows') : metric.compute rows = metric.compute rows' := by
  unfold Metric.compute
  rw [hfunction]
  dsimp only
  rw [hperm.length_eq, (presentAt_perm hperm _).length_eq]

theorem compute_countDistinct_perm {metric : Metric} (hfunction : metric.function = .countDistinct)
    (hperm : rows.Perm rows') : metric.compute rows = metric.compute rows' := by
  unfold Metric.compute
  rw [hfunction]
  dsimp only
  rw [(distinct_perm ((presentAt_perm hperm _).map Json.render)).length_eq]

theorem compute_median_perm {metric : Metric} (hfunction : metric.function = .median)
    (hperm : rows.Perm rows') : metric.compute rows = metric.compute rows' := by
  unfold Metric.compute
  rw [hfunction]
  dsimp only
  rw [median_perm (numbersAt_perm hperm _)]

theorem Extremal.compute_of_picks {function : MetricFunction}
    {own : Binary64 -> Binary64 -> Binary64} {key : Binary64 -> Int}
    (hextremal : Extremal function own key) {metric : Metric}
    (hfunction : metric.function = function) (hperm : rows.Perm rows') {kind : Binary64 -> Prop}
    {choose : Binary64 -> Binary64 -> Binary64} (hpicks : Picks kind key choose)
    (hvalues : forall x, x ∈ numbersAt rows' (metric.field.getD "") -> kind x) :
    metric.compute rows =
      optionalNumber (extreme choose (numbersAt rows' (metric.field.getD ""))) := by
  rw [hextremal.compute metric rows hfunction]
  exact optionalNumber_extreme hextremal.rank hextremal.picks hpicks (numbersAt_perm hperm _)
    (fun _ _ => trivial) hvalues

theorem Extremal.compute_perm {function : MetricFunction}
    {own : Binary64 -> Binary64 -> Binary64} {key : Binary64 -> Int}
    (hextremal : Extremal function own key) {metric : Metric}
    (hfunction : metric.function = function) (hperm : rows.Perm rows') :
    metric.compute rows = metric.compute rows' := by
  rw [hextremal.compute metric rows' hfunction]
  exact hextremal.compute_of_picks hfunction hperm hextremal.picks fun _ _ => trivial

/--
Counts, extremes and medians are the same for all orders of the rows.  For the extremes
of finite numbers it does not even matter which zero is taken for the lesser or the
greater one.
-/
theorem compute_reordered {metric : Metric} {rows rows' : List Json}
    (hfunction : metric.function ∈ [.count, .countDistinct, .min, .max, .median])
    (hperm : rows.Perm rows') :
    let values := numbersAt rows' (metric.field.getD "")
    metric.compute rows = metric.compute rows' ∧
      ((forall x, x ∈ values -> x.isFinite = true) ->
        (metric.function = .min -> forall choose, PicksLesser choose ->
          metric.compute rows = optionalNumber (extreme choose values)) ∧
        (metric.function = .max -> forall choose, PicksGreater choose ->
          metric.compute rows = optionalNumber (extreme choose values))) := by
  intro values
  constructor
  · simp only [List.mem_cons, List.not_mem_nil, or_false] at hfunction
    rcases hfunction with hcount | hdistinct | hmin | hmax | hmedian
    · exact compute_count_perm hcount hperm
    · exact compute_countDistinct_perm hdistinct hperm
    · exact extremal_min.compute_perm hmin hperm
    · exact extremal_max.compute_perm hmax hperm
    · exact compute_median_perm hmedian hperm
  · intro hfinite
    constructor
    · intro hmin choose hpicks
      exact extremal_min.compute_of_picks hmin hperm hpicks hfinite
    · intro hmax choose hpicks
      exact extremal_max.compute_of_picks hmax hperm hpicks hfinite

end Reordered

/-!
# Readings at the freezing point
-/

namespace Readings

def reading (celsius : Json) : Json :=
  .object [("celsius", celsius)]

def day : List Json :=
  [reading (.number (.integer 0)), reading .null,
   reading (.number (.real (Binary64.zero true) rfl)), reading (.text " 4.5 ")]

def coldest : Metric :=
  ⟨some "celsius", .min, none, none⟩

def secondOfEqual (x y : Binary64) : Binary64 :=
  if y.rank ≤ x.rank then y else x

/-- Backwards the zero with the sign comes first, and one may take either for the least. -/
theorem compute_reordered_zeros :
    coldest.function ∈ [.count, .countDistinct, .min, .max, .median] ∧ day.Perm day.reverse ∧
      (forall x, x ∈ numbersAt day.reverse "celsius" -> x.isFinite = true) ∧
      PicksLesser secondOfEqual ∧ coldest.compute day = coldest.compute day.reverse ∧
      coldest.compute day =
        optionalNumber (extreme secondOfEqual (numbersAt day.reverse "celsius")) := by
  have hfunction : coldest.function ∈ [.count, .countDistinct, .min, .max, .median] := by
    decide
  have hperm : day.Perm day.reverse := (List.reverse_perm day).symm
  have hfinite : forall x, x ∈ numbersAt day.reverse "celsius" -> x.isFinite = true := by
    decide +kernel
  have hpicks : PicksLesser secondOfEqual := by
    intro x y hx hy
    unfold secondOfEqual
    split
    · exact ⟨hy, by omega⟩
    · exact ⟨hx, by omega⟩
  have hsame := compute_reordered hfunction hperm
  exact ⟨hfunction, hperm, hfinite, hpicks, hsame.left,
    (hsame.right hfinite).left rfl secondOfEqual hpicks⟩

end Readings

end Rows
end QueryGateway
