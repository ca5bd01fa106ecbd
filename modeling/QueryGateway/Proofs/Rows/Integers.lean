import QueryGateway.Proofs.Binary64.Integers
import QueryGateway.Proofs.Rows.Order
import QueryGateway.Rows.Filter

/-!
# Comparing integers

Predicates and sort keys compare integers by their nearest binary64 numbers.  So
the order of integers is never reversed, but beyond 2^53 neighbours are taken to
be equal when they have the same nearest number.
-/

namespace QueryGateway
namespace Rows

open Binary64 (Distinguished)

def integer (n : Int) : Json :=
  .number (.integer n)

def seenOrder (m n : Int) : Ordering :=
  compare (Binary64.ofInt m).rank (Binary64.ofInt n).rank

def Operator.onOrder? : Operator -> Option (Ordering -> Bool)
  | .equals => some fun order => order == .eq
  | .notEquals => some fun order => order != .eq
  | .greaterThan => some fun order => order == .gt
  | .lessThan => some fun order => order == .lt
  | .greaterEqual => some fun order => order != .lt
  | .lessEqual => some fun order => order != .gt
  | .member => some fun order => order == .eq
  | .notMember => some fun order => order != .eq
  | _ => none

/-!
# What is compared
-/

theorem toBinary64_integer (n : Int) : (Number.integer n).toBinary64 = Binary64.ofInt n := by
  rw [Number.toBinary64]

theorem compare?_integers (m n : Int) :
    (Number.integer m).toBinary64.compare? (Number.integer n).toBinary64 =
      some (seenOrder m n) := by
  rw [compare?_numbers, toBinary64_integer, toBinary64_integer, seenOrder]

theorem looselyEqual_integers (m n : Int) :
    looselyEqual (integer m) (integer n) = (seenOrder m n == .eq) := by
  show ((Number.integer m).toBinary64.compare? (Number.integer n).toBinary64 == some .eq) = _
  rw [compare?_integers]
  generalize seenOrder m n = order
  cases order with
  | _ => rfl

theorem order?_integers (m n : Int) : order? (integer m) (integer n) = some (seenOrder m n) := by
  show (Number.integer m).toBinary64.compare? (Number.integer n).toBinary64 = _
  exact compare?_integers m n

theorem compareValues_integers (m n : Int) :
    compareValues (integer m) (integer n) = seenOrder m n := by
  show ((Number.integer m).toBinary64.compare? (Number.integer n).toBinary64).getD .eq = _
  rw [compare?_integers, Option.getD_some]

theorem memberOf_integers (m : Int) (candidates : List Int) :
    memberOf (integer m) (.array (candidates.map integer)) =
      candidates.any fun n => seenOrder m n == .eq := by
  rw [memberOf, List.any_map]
  simp only [Function.comp_def, looselyEqual_integers]

/-- Two values of which order and equality are known, the second one no list. -/
theorem test_of_order {left right : Json} {order : Ordering}
    (hsingle : memberOf left right = looselyEqual left right)
    (hequal : looselyEqual left right = (order == .eq)) (horder : order? left right = some order)
    {operator : Operator} {accepts : Ordering -> Bool}
    (hoperator : operator.onOrder? = some accepts) :
    operator.test left right = accepts order := by
  cases operator with
  | equals =>
      injection hoperator with haccepts
      rw [← haccepts]
      exact hequal
  | notEquals =>
      injection hoperator with haccepts
      rw [← haccepts]
      exact congrArg not hequal
  | member =>
      injection hoperator with haccepts
      rw [← haccepts]
      exact hsingle.trans hequal
  | notMember =>
      injection hoperator with haccepts
      rw [← haccepts]
      exact congrArg not (hsingle.trans hequal)
  | greaterThan =>
      injection hoperator with haccepts
      show (order? left right == some .gt) = _
      rw [← haccepts, horder]
      rfl
  | lessThan =>
      injection hoperator with haccepts
      show (order? left right == some .lt) = _
      rw [← haccepts, horder]
      rfl
  | greaterEqual =>
      injection hoperator with haccepts
      show (order? left right == some .gt || order? left right == some .eq) = _
      rw [← haccepts, horder]
      cases order with
      | _ => rfl
  | lessEqual =>
      injection hoperator with haccepts
      show (order? left right == some .lt || order? left right == some .eq) = _
      rw [← haccepts, horder]
      cases order with
      | _ => rfl
  | contains => cases hoperator
  | startsWith => cases hoperator
  | endsWith => cases hoperator
  | isNull => cases hoperator
  | isNotNull => cases hoperator

theorem test_integers {operator : Operator} {accepts : Ordering -> Bool}
    (hoperator : operator.onOrder? = some accepts) (m n : Int) :
    operator.test (integer m) (integer n) = accepts (seenOrder m n) := by
  apply test_of_order _ (looselyEqual_integers m n) (order?_integers m n) hoperator
  rw [integer, integer, memberOf]
  exact nofun

/-!
# The order that is seen
-/

theorem seenOrder_ne_gt {m n : Int} (hle : m ≤ n) : seenOrder m n ≠ .gt := by
  intro hgt
  have hrank := Binary64.rank_ofInt_mono hle
  exact Int.not_lt.mpr hrank (Int.compare_eq_gt.mp hgt)

theorem seenOrder_ne_lt {m n : Int} (hle : n ≤ m) : seenOrder m n ≠ .lt := by
  intro hlt
  have hrank := Binary64.rank_ofInt_mono hle
  exact Int.not_lt.mpr hrank (Int.compare_eq_lt.mp hlt)

theorem seenOrder_eq_iff (m n : Int) :
    seenOrder m n = .eq ↔ Binary64.ofInt m = Binary64.ofInt n := by
  constructor
  · intro heq
    exact Binary64.ofInt_eq_of_rank (Int.compare_eq_eq.mp heq)
  · intro hsame
    unfold seenOrder
    rw [hsame]
    exact Int.compare_eq_eq.mpr rfl

/-- Only different integers with one nearest number are not seen as they are. -/
theorem seenOrder_exact_iff (m n : Int) :
    seenOrder m n = compare m n ↔ m = n ∨ Binary64.ofInt m ≠ Binary64.ofInt n := by
  rcases Int.lt_trichotomy m n with hlt | hsame | hgt
  · have hnot := seenOrder_ne_gt (Int.le_of_lt hlt)
    have hiff := seenOrder_eq_iff m n
    rw [Int.compare_eq_lt.mpr hlt]
    cases hseen : seenOrder m n with
    | lt => simp [← hiff, hseen]
    | eq => simp [← hiff, hseen, Int.ne_of_lt hlt]
    | gt => exact absurd hseen hnot
  · subst hsame
    simp [(seenOrder_eq_iff m m).mpr rfl]
  · have hnot := seenOrder_ne_lt (Int.le_of_lt hgt)
    have hiff := seenOrder_eq_iff m n
    rw [Int.compare_eq_gt.mpr hgt]
    cases hseen : seenOrder m n with
    | lt => exact absurd hseen hnot
    | eq => simp [← hiff, hseen, Int.ne_of_gt hgt]
    | gt => simp [← hiff, hseen]

/-- The integers that a payload can hold. -/
def Held (n : Int) : Prop :=
  -2 ^ 63 ≤ n ∧ n < 2 ^ 64

instance (n : Int) : Decidable (Held n) :=
  inferInstanceAs (Decidable (_ ∧ _))

theorem Held.natAbs_lt {n : Int} (hn : Held n) : n.natAbs < 2 ^ 64 := by
  rcases hn with ⟨hlow, hhigh⟩
  omega

theorem seenOrder_of_distinguished {m n : Int} (hm : Held m) (hn : Held n)
    (hapart : Distinguished m n) : seenOrder m n = compare m n := by
  rw [seenOrder_exact_iff]
  rcases eq_or_ne m n with hsame | hne
  · exact Or.inl hsame
  · exact Or.inr (Binary64.ofInt_ne_of_distinguished hm.natAbs_lt hn.natAbs_lt hne hapart)

/--
Whatever compares the integer at a field of a row, with an integer, with the
members of a list or with the integer of another row, goes by the order in which
the two are seen.  That order is never the reverse of the order they have, and it
differs from it exactly for different integers with one nearest number.
-/
theorem integers_compared {row other : Json} {field : String} {m n : Int} (hm : Held m)
    (hn : Held n) (hrow : fieldOf row field = integer m)
    (hother : fieldOf other field = integer n) :
    (forall operator accepts, operator.onOrder? = some accepts ->
      Predicate.holds ⟨field, operator, integer n⟩ row = accepts (seenOrder m n)) ∧
    (forall candidates : List Int,
      Predicate.holds ⟨field, .member, .array (candidates.map integer)⟩ row =
          candidates.any (fun candidate => seenOrder m candidate == .eq) ∧
        Predicate.holds ⟨field, .notMember, .array (candidates.map integer)⟩ row =
          !candidates.any (fun candidate => seenOrder m candidate == .eq)) ∧
    SortKey.compare ⟨field, .ascending⟩ row other = seenOrder m n ∧
    SortKey.compare ⟨field, .descending⟩ row other = (seenOrder m n).swap ∧
    (m ≤ n -> seenOrder m n ≠ .gt) ∧ (n ≤ m -> seenOrder m n ≠ .lt) ∧
    (seenOrder m n = compare m n ↔ m = n ∨ Binary64.ofInt m ≠ Binary64.ofInt n) ∧
    (Distinguished m n -> seenOrder m n = compare m n) := by
  refine ⟨?_, ?_, ?_, ?_, seenOrder_ne_gt, seenOrder_ne_lt, seenOrder_exact_iff m n,
    seenOrder_of_distinguished hm hn⟩
  · intro operator accepts hoperator
    show operator.test (fieldOf row field) (integer n) = _
    rw [hrow]
    exact test_integers hoperator m n
  · intro candidates
    have hmember := memberOf_integers m candidates
    constructor
    · show memberOf (fieldOf row field) (.array (candidates.map integer)) = _
      rw [hrow, hmember]
    · show (!memberOf (fieldOf row field) (.array (candidates.map integer))) = _
      rw [hrow, hmember]
  · show compareValues (fieldOf row field) (fieldOf other field) = _
    rw [hrow, hother, compareValues_integers]
  · show compareValues (fieldOf other field) (fieldOf row field) = _
    rw [hrow, hother, compareValues_swap, compareValues_integers]

/-!
# Large identifiers
-/

namespace Neighbours

def record (id : Int) : Json :=
  .object [("id", integer id)]

theorem fieldOf_record (id : Int) : fieldOf (record id) "id" = integer id :=
  rfl

/-- Beyond 2^63 identifiers are told apart when they are more than 2^11 away from each other. -/
theorem integers_compared_afar :
    let m : Int := 2 ^ 63
    let n : Int := 2 ^ 63 + 2 ^ 12
    Held m ∧ Held n ∧ fieldOf (record m) "id" = integer m ∧ fieldOf (record n) "id" = integer n ∧
      Predicate.holds ⟨"id", .lessThan, integer n⟩ (record m) = true := by
  intro m n
  have hm : Held m := by decide
  have hn : Held n := by decide
  have hapart : Distinguished m n := by decide
  obtain ⟨hoperators, _, _, _, _, _, _, hexact⟩ :=
    integers_compared hm hn (fieldOf_record m) (fieldOf_record n)
  refine ⟨hm, hn, fieldOf_record m, fieldOf_record n, ?_⟩
  rw [hoperators .lessThan _ rfl, hexact hapart]
  decide

/-- An identifier is taken for the one before it, by a predicate and by a sort key. -/
theorem identifiers_conflated :
    Predicate.holds ⟨"id", .equals, integer (2 ^ 53)⟩ (record (2 ^ 53 + 1)) = true ∧
      Predicate.holds ⟨"id", .greaterThan, integer (2 ^ 53)⟩ (record (2 ^ 53 + 1)) = false ∧
      compareValues (integer (2 ^ 53 + 1)) (integer (2 ^ 53)) = .eq ∧
      compare (2 ^ 53 + 1 : Int) (2 ^ 53) = .gt := by
  decide +kernel

end Neighbours

end Rows
end QueryGateway
