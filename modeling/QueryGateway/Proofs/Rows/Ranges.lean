import QueryGateway.Proofs.Rows.Integers
import QueryGateway.Proofs.Rows.Numerals

/-!
# Range predicates

Two values that count as numbers are in the order of these numbers, and two other
texts in their order without regard to case.  Equality, which goes by the texts as
soon as one of two values is a text, agrees with that order but for two spellings
of one number.  Thresholds that are in order select more and more rows but where
one text does not count as a number and the other two values are in another order
as numbers than as texts.
-/

namespace QueryGateway
namespace Rows

def isText : Json -> Bool
  | .text _ => true
  | _ => false

def textOrder? (left right : Json) : Option Ordering :=
  match left, right with
  | .text a, .text b => some (compare (Text.lower a) (Text.lower b))
  | _, _ => none

/-- Two values on which range predicates are defined. -/
def Ranged (x v : Json) : Prop :=
  ((asNumber x).isSome = true ∧ (asNumber v).isSome = true) ∨ (isText x = true ∧ isText v = true)

instance (x v : Json) : Decidable (Ranged x v) :=
  inferInstanceAs (Decidable (_ ∨ _))

def sameNumber (x v : Json) : Bool :=
  match asNumber x, asNumber v with
  | some a, some b => a.equal b
  | _, _ => false

/-- One number written in two ways, at least once as a text. -/
def Respelled (x v : Json) : Prop :=
  sameNumber x v = true ∧ ¬ (isNumber x = true ∧ isNumber v = true) ∧
    loweredText x ≠ loweredText v

instance (x v : Json) : Decidable (Respelled x v) :=
  inferInstanceAs (Decidable (_ ∧ _ ∧ _))

/-!
# The order of two values
-/

theorem isNaN_of_asNumber {x : Json} {a : Binary64} (hnumber : asNumber x = some a) :
    a.isNaN = false := by
  cases x with
  | number n =>
      injection hnumber with ha
      rw [← ha]
      exact n.isNaN_toBinary64
  | text s =>
      rw [asNumber_text, Option.filter_eq_some_iff] at hnumber
      exact Number.isNaN_toBinary64 (.real a hnumber.right)
  | null => cases hnumber
  | bool b => cases hnumber
  | array items => cases hnumber
  | object members => cases hnumber

theorem order?_eq_compare? {x v : Json} {a b : Binary64} (hx : asNumber x = some a)
    (hv : asNumber v = some b) : order? x v = a.compare? b := by
  unfold order?
  rw [hx, hv]

theorem order?_of_numbers {x v : Json} {a b : Binary64} (hx : asNumber x = some a)
    (hv : asNumber v = some b) : order? x v = some (compare a.rank b.rank) := by
  rw [order?_eq_compare? hx hv, Binary64.compare?, isNaN_of_asNumber hx, isNaN_of_asNumber hv]
  rfl

theorem order?_of_not_number {x v : Json} (hnone : asNumber x = none ∨ asNumber v = none) :
    order? x v = textOrder? x v := by
  unfold order? textOrder?
  generalize asNumber x = left at hnone ⊢
  generalize asNumber v = right at hnone ⊢
  rcases hnone with hleft | hright
  · subst hleft
    rfl
  · subst hright
    cases left with
    | none => rfl
    | some a => rfl

theorem numbers_or_not_number (x v : Json) :
    (exists a b, asNumber x = some a ∧ asNumber v = some b) ∨
      (asNumber x = none ∨ asNumber v = none) := by
  cases hx : asNumber x with
  | none => exact Or.inr (Or.inl rfl)
  | some a =>
      cases hv : asNumber v with
      | none => exact Or.inr (Or.inr rfl)
      | some b => exact Or.inl ⟨a, b, rfl, rfl⟩

theorem textOrder?_of_isText {x v : Json} (hx : isText x = true) (hv : isText v = true) :
    textOrder? x v = some (compareOn loweredText x v) := by
  cases x with
  | text s =>
      cases v with
      | text t => rfl
      | _ => cases hv
  | _ => cases hx

theorem isText_of_textOrder? {x v : Json} (hsome : (textOrder? x v).isSome = true) :
    isText x = true ∧ isText v = true := by
  cases x with
  | text s =>
      cases v with
      | text t => exact ⟨rfl, rfl⟩
      | _ => cases hsome
  | _ => cases hsome

theorem isSome_order?_iff (x v : Json) : (order? x v).isSome = true ↔ Ranged x v := by
  rcases numbers_or_not_number x v with ⟨a, b, hx, hv⟩ | hnone
  · unfold Ranged
    simp [order?_of_numbers hx hv, hx, hv]
  · rw [order?_of_not_number hnone]
    constructor
    · intro hsome
      exact Or.inr (isText_of_textOrder? hsome)
    · intro hranged
      rcases hranged with hnumbers | htexts
      · rcases hnone with hx | hv
        · rw [hx] at hnumbers
          cases hnumbers.left
        · rw [hv] at hnumbers
          cases hnumbers.right
      · rw [textOrder?_of_isText htexts.left htexts.right]
        rfl

/-!
# Equality beside the order
-/

theorem isNumber_or_isText_of_asNumber {x : Json} (hnumber : (asNumber x).isSome = true) :
    isNumber x = true ∨ isText x = true := by
  cases x with
  | number n => exact Or.inl rfl
  | text s => exact Or.inr rfl
  | _ => cases hnumber

theorem Ranged.kinds {x v : Json} (hranged : Ranged x v) :
    (isNumber x = true ∨ isText x = true) ∧ (isNumber v = true ∨ isText v = true) := by
  rcases hranged with ⟨hx, hv⟩ | ⟨hx, hv⟩
  · exact ⟨isNumber_or_isText_of_asNumber hx, isNumber_or_isText_of_asNumber hv⟩
  · exact ⟨Or.inr hx, Or.inr hv⟩

theorem looselyEqual_eq_of_text {x v : Json}
    (hkinds : (isNumber x = true ∨ isText x = true) ∧ (isNumber v = true ∨ isText v = true))
    (htext : ¬ (isNumber x = true ∧ isNumber v = true)) :
    looselyEqual x v = (loweredText x == loweredText v) := by
  cases x with
  | number n =>
      cases v with
      | number m => exact absurd ⟨rfl, rfl⟩ htext
      | text t => rfl
      | _ => simp [isNumber, isText] at hkinds
  | text s =>
      cases v with
      | number m => rfl
      | text t => rfl
      | _ => simp [isNumber, isText] at hkinds
  | _ => simp [isNumber, isText] at hkinds

/-- The lowered text of a value counts as the number that the value counts as, or as none. -/
theorem asNumber_loweredText {x : Json} (hkind : isNumber x = true ∨ isText x = true)
    {a : Binary64} (hnumber : asNumber (.text (loweredText x)) = some a) :
    asNumber x = some a := by
  unfold loweredText at hnumber
  rw [asNumber_lower] at hnumber
  cases x with
  | number n => rw [eq_of_asNumber_asText hnumber, asNumber]
  | text s => exact hnumber
  | _ => simp [isNumber, isText] at hkind

theorem asNumber_loweredText_of_isText {x : Json} (hx : isText x = true) :
    asNumber (.text (loweredText x)) = asNumber x := by
  cases x with
  | text s => exact asNumber_lower s
  | _ => cases hx

theorem asNumber_of_loweredText_eq {x v : Json} (hkind : isNumber x = true ∨ isText x = true)
    (hv : isText v = true) (hsame : loweredText x = loweredText v) {b : Binary64}
    (hnumber : asNumber v = some b) : asNumber x = some b := by
  rw [← asNumber_loweredText_of_isText hv, ← hsame] at hnumber
  exact asNumber_loweredText hkind hnumber

theorem order?_of_loweredText_eq {x v : Json} (hranged : Ranged x v)
    (htext : ¬ (isNumber x = true ∧ isNumber v = true)) (hsame : loweredText x = loweredText v) :
    order? x v = some .eq := by
  have hkinds := hranged.kinds
  rcases numbers_or_not_number x v with ⟨a, b, hx, hv⟩ | hnone
  · have heq : a = b := by
      rcases hkinds.right with hnumber | hvtext
      · have hxtext : isText x = true :=
          hkinds.left.resolve_left fun hxnumber => htext ⟨hxnumber, hnumber⟩
        have hboth := asNumber_of_loweredText_eq hkinds.right hxtext hsame.symm hx
        exact Option.some.inj (hboth.symm.trans hv)
      · have hboth := asNumber_of_loweredText_eq hkinds.left hvtext hsame hv
        exact Option.some.inj (hx.symm.trans hboth)
    rw [order?_of_numbers hx hv, heq]
    exact congrArg some Std.ReflCmp.compare_self
  · have hsome := (isSome_order?_iff x v).mpr hranged
    rw [order?_of_not_number hnone] at hsome ⊢
    have htexts := isText_of_textOrder? hsome
    rw [textOrder?_of_isText htexts.left htexts.right, compareOn, hsame]
    exact congrArg some Std.ReflCmp.compare_self

theorem order?_of_looselyEqual {x v : Json} (hranged : Ranged x v)
    (hequal : looselyEqual x v = true) : order? x v = some .eq := by
  by_cases hnumbers : isNumber x = true ∧ isNumber v = true
  · cases x with
    | number n =>
        cases v with
        | number m => exact beq_iff_eq.mp hequal
        | _ => cases hnumbers.right
    | _ => cases hnumbers.left
  · rw [looselyEqual_eq_of_text hranged.kinds hnumbers, beq_iff_eq] at hequal
    exact order?_of_loweredText_eq hranged hnumbers hequal

theorem not_looselyEqual_of_respelled {x v : Json} (hranged : Ranged x v)
    (hrespelled : Respelled x v) : looselyEqual x v = false := by
  rcases hrespelled with ⟨_, htext, hdiffer⟩
  rw [looselyEqual_eq_of_text hranged.kinds htext, beq_eq_false_iff_ne]
  exact hdiffer

theorem order?_of_sameNumber {x v : Json} (hsame : sameNumber x v = true) :
    order? x v = some .eq := by
  unfold sameNumber at hsame
  rcases numbers_or_not_number x v with ⟨a, b, hx, hv⟩ | hnone
  · rw [hx, hv] at hsame
    rw [order?_eq_compare? hx hv]
    exact beq_iff_eq.mp hsame
  · rcases hnone with hx | hv
    · rw [hx] at hsame
      cases hsame
    · rw [hv] at hsame
      split at hsame
      · next heq => cases heq
      · cases hsame

theorem looselyEqual_or_respelled {x v : Json} (hranged : Ranged x v)
    (horder : order? x v = some .eq) : looselyEqual x v = true ∨ Respelled x v := by
  by_cases hnumbers : isNumber x = true ∧ isNumber v = true
  · left
    cases x with
    | number n =>
        cases v with
        | number m => exact beq_iff_eq.mpr horder
        | _ => cases hnumbers.right
    | _ => cases hnumbers.left
  · rw [looselyEqual_eq_of_text hranged.kinds hnumbers, beq_iff_eq]
    by_cases hsame : loweredText x = loweredText v
    · exact Or.inl hsame
    · right
      refine ⟨?_, hnumbers, hsame⟩
      rcases numbers_or_not_number x v with ⟨a, b, hx, hv⟩ | hnone
      · rw [order?_eq_compare? hx hv] at horder
        unfold sameNumber
        rw [hx, hv]
        exact beq_iff_eq.mpr horder
      · have hsome : (order? x v).isSome = true := by
          rw [horder]
          rfl
        rw [order?_of_not_number hnone] at hsome horder
        have htexts := isText_of_textOrder? hsome
        rw [textOrder?_of_isText htexts.left htexts.right] at horder
        have hlowered : compare (loweredText x) (loweredText v) = .eq :=
          Option.some.inj horder
        exact absurd (Std.LawfulEqCmp.eq_of_compare hlowered) hsame

theorem memberOf_of_ranged {x v : Json} (hranged : Ranged x v) :
    memberOf x v = looselyEqual x v := by
  have hkind := hranged.kinds.right
  cases v with
  | array items => simp [isNumber, isText] at hkind
  | _ => rfl

/--
On two values on which range predicates are defined, exactly one of the operators
for less, equal and greater holds, and the other two range operators are what these
come to.  Two spellings of one number are neither less, equal nor greater, and yet
at least and at most as great.
-/
theorem range_operators_agree {row : Json} {field : String} {v : Json}
    (hranged : Ranged (fieldOf row field) v) :
    let passes := fun operator => Predicate.holds ⟨field, operator, v⟩ row
    (¬ Respelled (fieldOf row field) v ->
      [.lessThan, .equals, .greaterThan].countP passes = 1 ∧
        passes .greaterEqual = (passes .greaterThan || passes .equals) ∧
        passes .lessEqual = (passes .lessThan || passes .equals)) ∧
    (Respelled (fieldOf row field) v ->
      [.lessThan, .equals, .greaterThan].countP passes = 0 ∧
        passes .greaterEqual = true ∧ passes .lessEqual = true) := by
  intro passes
  have htest : forall operator, passes operator = operator.test (fieldOf row field) v :=
    fun _ => rfl
  generalize fieldOf row field = x at hranged htest ⊢
  rcases Option.isSome_iff_exists.mp ((isSome_order?_iff x v).mpr hranged) with ⟨order, horder⟩
  constructor
  · intro hspelled
    have hequal : looselyEqual x v = (order == .eq) := by
      rw [Bool.eq_iff_iff, beq_iff_eq]
      constructor
      · intro hequal
        exact Option.some.inj (horder.symm.trans (order?_of_looselyEqual hranged hequal))
      · intro heq
        rw [heq] at horder
        exact (looselyEqual_or_respelled hranged horder).resolve_right hspelled
    have hall : forall operator accepts, operator.onOrder? = some accepts ->
        passes operator = accepts order := by
      intro operator accepts hoperator
      rw [htest]
      exact test_of_order (memberOf_of_ranged hranged) hequal horder hoperator
    have hless := hall .lessThan _ rfl
    have hsame := hall .equals _ rfl
    have hgreater := hall .greaterThan _ rfl
    have hleast := hall .greaterEqual _ rfl
    have hmost := hall .lessEqual _ rfl
    simp only [List.countP_cons, List.countP_nil, hless, hsame, hgreater, hleast, hmost]
    cases order with
    | lt => decide
    | eq => decide
    | gt => decide
  · intro hrespelled
    have hequal := not_looselyEqual_of_respelled hranged hrespelled
    have heq := order?_of_sameNumber hrespelled.left
    simp only [List.countP_cons, List.countP_nil, htest, Operator.test, hequal, heq]
    decide

/-!
# Thresholds in order
-/

def atMost (x v : Json) : Bool :=
  Operator.lessEqual.test x v

def Unreadable (x : Json) : Prop :=
  isText x = true ∧ asNumber x = none

instance (x : Json) : Decidable (Unreadable x) :=
  inferInstanceAs (Decidable (_ ∧ _))

/--
A text that does not count as a number beside two values that do: either these are
not both texts, or it is between them as texts, and as numbers they are equal or in
the opposite order.
-/
def Severed (p q y : Json) : Prop :=
  ((asNumber p).isSome = true ∧ (asNumber q).isSome = true ∧ Unreadable y) ∧
    (¬ (isText p = true ∧ isText q = true) ∨
      (atMost p q = true ∧ atMost q y = true ∧ atMost y p = true) ∨
      (atMost q p = true ∧ atMost p y = true ∧ atMost y q = true))

instance (p q y : Json) : Decidable (Severed p q y) :=
  inferInstanceAs (Decidable (_ ∧ _))

/-- One of three values severs the other two. -/
def Split (x y z : Json) : Prop :=
  Severed x y z ∨ Severed y z x ∨ Severed x z y

instance (x y z : Json) : Decidable (Split x y z) :=
  inferInstanceAs (Decidable (_ ∨ _))

theorem Severed.symm {p q y : Json} (hsevered : Severed p q y) : Severed q p y := by
  rcases hsevered with ⟨⟨hp, hq, hy⟩, hgap | hforth | hback⟩
  · exact ⟨⟨hq, hp, hy⟩, Or.inl fun htexts => hgap htexts.symm⟩
  · exact ⟨⟨hq, hp, hy⟩, Or.inr (Or.inr hforth)⟩
  · exact ⟨⟨hq, hp, hy⟩, Or.inr (Or.inl hback)⟩

theorem split_rotate {x y z : Json} : Split x y z ↔ Split y z x := by
  constructor
  · rintro (hxy | hyz | hxz)
    · exact Or.inr (Or.inr hxy.symm)
    · exact Or.inl hyz
    · exact Or.inr (Or.inl hxz.symm)
  · rintro (hyz | hzx | hyx)
    · exact Or.inr (Or.inl hyz)
    · exact Or.inr (Or.inr hzx.symm)
    · exact Or.inl hyx.symm

theorem atMost_iff (x v : Json) :
    atMost x v = true ↔ order? x v = some .lt ∨ order? x v = some .eq := by
  unfold atMost Operator.test
  rw [Bool.or_eq_true, beq_iff_eq, beq_iff_eq]

theorem atMost_iff_isLE {x v : Json} {order : Ordering} (horder : order? x v = some order) :
    atMost x v = true ↔ order.isLE = true := by
  rw [atMost_iff, horder]
  cases order with
  | lt => simp
  | eq => simp
  | gt => simp

theorem ranged_of_atMost {x v : Json} (hle : atMost x v = true) : Ranged x v := by
  rw [← isSome_order?_iff]
  rcases (atMost_iff x v).mp hle with hlt | heq
  · rw [hlt]
    rfl
  · rw [heq]
    rfl

theorem ranged_of_order? {x v : Json} {order : Ordering} (horder : order? x v = some order) :
    Ranged x v := by
  rw [← isSome_order?_iff, horder]
  rfl

theorem atMost_of_lt {x v : Json} (hlt : order? x v = some .lt) : atMost x v = true :=
  (atMost_iff x v).mpr (Or.inl hlt)

theorem order?_swap (x v : Json) : order? v x = (order? x v).map Ordering.swap := by
  rcases numbers_or_not_number x v with ⟨a, b, hx, hv⟩ | hnone
  · rw [order?_of_numbers hx hv, order?_of_numbers hv hx, Option.map_some]
    exact congrArg some Std.OrientedCmp.eq_swap
  · rw [order?_of_not_number hnone, order?_of_not_number hnone.symm]
    by_cases htexts : isText x = true ∧ isText v = true
    · rw [textOrder?_of_isText htexts.left htexts.right,
        textOrder?_of_isText htexts.right htexts.left, Option.map_some]
      exact congrArg some Std.OrientedCmp.eq_swap
    · have hforth : textOrder? x v = none := by
        rw [← Option.not_isSome_iff_eq_none]
        exact fun hsome => htexts (isText_of_textOrder? hsome)
      have hback : textOrder? v x = none := by
        rw [← Option.not_isSome_iff_eq_none]
        exact fun hsome => htexts (isText_of_textOrder? hsome).symm
      rw [hforth, hback]
      rfl

theorem atMost_swap_iff {x v : Json} (hranged : Ranged x v) :
    atMost v x = true ↔ order? x v ≠ some .lt := by
  rcases Option.isSome_iff_exists.mp ((isSome_order?_iff x v).mpr hranged) with ⟨order, horder⟩
  have hback : order? v x = some order.swap := by
    rw [order?_swap, horder, Option.map_some]
  rw [atMost_iff_isLE hback, horder]
  cases order with
  | lt => simp
  | eq => simp
  | gt => simp

theorem Ranged.symm {x v : Json} (hranged : Ranged x v) : Ranged v x := by
  rcases hranged with hnumbers | htexts
  · exact Or.inl hnumbers.symm
  · exact Or.inr htexts.symm

theorem Ranged.isText_left {x v : Json} (hranged : Ranged x v) (hnone : asNumber v = none) :
    isText x = true ∧ isText v = true := by
  rcases hranged with hnumbers | htexts
  · rw [hnone] at hnumbers
    cases hnumbers.right
  · exact htexts

theorem Ranged.isText_right {x v : Json} (hranged : Ranged x v) (hnone : asNumber x = none) :
    isText x = true ∧ isText v = true := by
  rcases hranged with hnumbers | htexts
  · rw [hnone] at hnumbers
    cases hnumbers.left
  · exact htexts

/-!
# Three values in a row

Three numbers are compared by one order, and so are three texts of which no two
count as numbers.
-/

section Chain

variable {a b c : Json}

theorem order?_lt_of_compared {compared : Json -> Json -> Ordering} [Std.TransCmp compared]
    (hab : order? a b = some (compared a b)) (hbc : order? b c = some (compared b c))
    (hac : order? a c = some (compared a c)) (hleft : atMost a b = true)
    (hright : atMost b c = true) (hstrict : order? a b = some .lt ∨ order? b c = some .lt) :
    order? a c = some .lt := by
  rw [atMost_iff_isLE hab] at hleft
  rw [atMost_iff_isLE hbc] at hright
  rw [hac]
  rcases hstrict with hlt | hlt
  · have hcompared : compared a b = .lt := Option.some.inj (hab.symm.trans hlt)
    rw [Std.TransCmp.lt_of_lt_of_isLE hcompared hright]
  · have hcompared : compared b c = .lt := Option.some.inj (hbc.symm.trans hlt)
    rw [Std.TransCmp.lt_of_isLE_of_lt hleft hcompared]

def numberRank (x : Json) : Int :=
  ((asNumber x).map Binary64.rank).getD 0

theorem order?_eq_compareOn_numberRank (ha : (asNumber a).isSome = true)
    (hb : (asNumber b).isSome = true) : order? a b = some (compareOn numberRank a b) := by
  rcases Option.isSome_iff_exists.mp ha with ⟨x, hx⟩
  rcases Option.isSome_iff_exists.mp hb with ⟨y, hy⟩
  rw [order?_of_numbers hx hy, compareOn, numberRank, numberRank, hx, hy]
  rfl

theorem order?_eq_compareOn_loweredText (htexts : isText a = true ∧ isText b = true)
    (hnone : asNumber a = none ∨ asNumber b = none) :
    order? a b = some (compareOn loweredText a b) := by
  rw [order?_of_not_number hnone, textOrder?_of_isText htexts.left htexts.right]

theorem order?_lt_of_numbers (ha : (asNumber a).isSome = true) (hb : (asNumber b).isSome = true)
    (hc : (asNumber c).isSome = true) (hleft : atMost a b = true) (hright : atMost b c = true)
    (hstrict : order? a b = some .lt ∨ order? b c = some .lt) : order? a c = some .lt :=
  order?_lt_of_compared (order?_eq_compareOn_numberRank ha hb)
    (order?_eq_compareOn_numberRank hb hc) (order?_eq_compareOn_numberRank ha hc) hleft hright
    hstrict

theorem order?_lt_of_texts (hab : asNumber a = none ∨ asNumber b = none)
    (hbc : asNumber b = none ∨ asNumber c = none) (hac : asNumber a = none ∨ asNumber c = none)
    (hleft : atMost a b = true) (hright : atMost b c = true)
    (hstrict : order? a b = some .lt ∨ order? b c = some .lt) : order? a c = some .lt := by
  have hfirst : isText a = true ∧ isText b = true := by
    rcases hab with hnone | hnone
    · exact (ranged_of_atMost hleft).isText_right hnone
    · exact (ranged_of_atMost hleft).isText_left hnone
  have hsecond : isText b = true ∧ isText c = true := by
    rcases hbc with hnone | hnone
    · exact (ranged_of_atMost hright).isText_right hnone
    · exact (ranged_of_atMost hright).isText_left hnone
  exact order?_lt_of_compared (order?_eq_compareOn_loweredText hfirst hab)
    (order?_eq_compareOn_loweredText hsecond hbc)
    (order?_eq_compareOn_loweredText ⟨hfirst.left, hsecond.right⟩ hac) hleft hright hstrict

/-- Values that are in order, while the first is not less than the last, go round in a circle. -/
theorem severed_first (ha : asNumber a = none) (hb : (asNumber b).isSome = true)
    (hc : (asNumber c).isSome = true) (hleft : atMost a b = true) (hright : atMost b c = true)
    (hnot : order? a c ≠ some .lt) : Severed b c a := by
  have htexts := (ranged_of_atMost hleft).isText_right ha
  refine ⟨⟨hb, hc, htexts.left, ha⟩, ?_⟩
  by_cases hctext : isText c = true
  · have hranged : Ranged a c := Or.inr ⟨htexts.left, hctext⟩
    exact Or.inr (Or.inl ⟨hright, (atMost_swap_iff hranged).mpr hnot, hleft⟩)
  · exact Or.inl fun hboth => hctext hboth.right

theorem severed_middle (ha : (asNumber a).isSome = true) (hb : asNumber b = none)
    (hc : (asNumber c).isSome = true) (hleft : atMost a b = true) (hright : atMost b c = true)
    (hnot : order? a c ≠ some .lt) : Severed a c b := by
  have htexts := (ranged_of_atMost hleft).isText_left hb
  have hranged : Ranged a c := Or.inl ⟨ha, hc⟩
  exact ⟨⟨ha, hc, htexts.right, hb⟩,
    Or.inr (Or.inr ⟨(atMost_swap_iff hranged).mpr hnot, hleft, hright⟩)⟩

theorem severed_last (ha : (asNumber a).isSome = true) (hb : (asNumber b).isSome = true)
    (hc : asNumber c = none) (hleft : atMost a b = true) (hright : atMost b c = true)
    (hnot : order? a c ≠ some .lt) : Severed a b c := by
  have htexts := (ranged_of_atMost hright).isText_left hc
  refine ⟨⟨ha, hb, htexts.right, hc⟩, ?_⟩
  by_cases hatext : isText a = true
  · have hranged : Ranged a c := Or.inr ⟨hatext, htexts.right⟩
    exact Or.inr (Or.inl ⟨hleft, hright, (atMost_swap_iff hranged).mpr hnot⟩)
  · exact Or.inl fun hboth => hatext hboth.left

theorem order?_lt_or_split (hleft : atMost a b = true) (hright : atMost b c = true)
    (hstrict : order? a b = some .lt ∨ order? b c = some .lt) :
    order? a c = some .lt ∨ Split a b c := by
  by_cases hlt : order? a c = some .lt
  · exact Or.inl hlt
  · have hcases : forall x : Json, asNumber x = none ∨ (asNumber x).isSome = true := by
      intro x
      cases asNumber x with
      | none => exact Or.inl rfl
      | some n => exact Or.inr rfl
    -- a single text that is no number severs the other two, which compare as numbers
    rcases hcases a with ha | ha
    · rcases hcases b with hb | hb
      · exact Or.inl (order?_lt_of_texts (Or.inl ha) (Or.inl hb) (Or.inl ha) hleft hright hstrict)
      · rcases hcases c with hc | hc
        · exact Or.inl
            (order?_lt_of_texts (Or.inl ha) (Or.inr hc) (Or.inl ha) hleft hright hstrict)
        · exact Or.inr (Or.inr (Or.inl (severed_first ha hb hc hleft hright hlt)))
    · rcases hcases b with hb | hb
      · rcases hcases c with hc | hc
        · exact Or.inl
            (order?_lt_of_texts (Or.inr hb) (Or.inl hb) (Or.inr hc) hleft hright hstrict)
        · exact Or.inr (Or.inr (Or.inr (severed_middle ha hb hc hleft hright hlt)))
      · rcases hcases c with hc | hc
        · exact Or.inr (Or.inl (severed_last ha hb hc hleft hright hlt))
        · exact Or.inl (order?_lt_of_numbers ha hb hc hleft hright hstrict)

/-- A text with which two values are compared severs them only by being between them. -/
theorem not_severed_of_ranged (hac : Ranged a c) (hbc : Ranged b c)
    (hforth : ¬ (atMost a b = true ∧ atMost b c = true ∧ atMost c a = true))
    (hback : ¬ (atMost b a = true ∧ atMost a c = true ∧ atMost c b = true)) :
    ¬ Severed a b c := by
  rintro ⟨⟨_, _, _, hc⟩, hgap | hcycle | hcycle⟩
  · exact hgap ⟨(hac.isText_left hc).left, (hbc.isText_left hc).left⟩
  · exact hforth hcycle
  · exact hback hcycle

theorem not_split_of_lt (hleft : atMost a b = true) (hright : atMost b c = true)
    (hstrict : order? a b = some .lt ∨ order? b c = some .lt) (hlt : order? a c = some .lt) :
    ¬ Split a b c := by
  have hab := ranged_of_atMost hleft
  have hbc := ranged_of_atMost hright
  have hac := ranged_of_order? hlt
  have hround : ¬ atMost c a = true := by
    rw [atMost_swap_iff hac]
    exact fun hnot => hnot hlt
  have hreverse : ¬ (atMost b a = true ∧ atMost c b = true) := by
    rw [atMost_swap_iff hab, atMost_swap_iff hbc]
    rintro ⟨hnotLeft, hnotRight⟩
    rcases hstrict with hlt | hlt
    · exact hnotLeft hlt
    · exact hnotRight hlt
  rintro (hsevered | hsevered | hsevered)
  · apply not_severed_of_ranged hac hbc _ _ hsevered
    · exact fun hcycle => hround hcycle.right.right
    · exact fun hcycle => hreverse ⟨hcycle.left, hcycle.right.right⟩
  · apply not_severed_of_ranged hab.symm hac.symm _ _ hsevered
    · exact fun hcycle => hround hcycle.right.left
    · exact fun hcycle => hreverse ⟨hcycle.right.left, hcycle.left⟩
  · apply not_severed_of_ranged hab hbc.symm _ _ hsevered
    · exact fun hcycle => hreverse ⟨hcycle.right.right, hcycle.right.left⟩
    · exact fun hcycle => hround hcycle.left

theorem order?_lt_iff_not_split (hleft : atMost a b = true) (hright : atMost b c = true)
    (hstrict : order? a b = some .lt ∨ order? b c = some .lt) :
    order? a c = some .lt ↔ ¬ Split a b c := by
  constructor
  · exact not_split_of_lt hleft hright hstrict
  · intro hwhole
    exact (order?_lt_or_split hleft hright hstrict).resolve_right hwhole

end Chain

/-!
# Widened ranges
-/

theorem order?_gt_iff (x v : Json) : order? x v = some .gt ↔ order? v x = some .lt := by
  rw [order?_swap x v]
  cases order? x v with
  | none => simp
  | some order =>
      cases order with
      | lt => simp
      | eq => simp
      | gt => simp

theorem filterRows_sublist {p q : Predicate} {rows : List Json}
    (himplies : forall row, row ∈ rows -> p.holds row = true -> q.holds row = true) :
    (filterRows [p] rows).Sublist (filterRows [q] rows) := by
  have hboth : filterRows [p] rows = filterRows [p] (filterRows [q] rows) := by
    unfold filterRows
    rw [List.filter_filter]
    apply List.filter_congr
    intro row hmem
    have hrow := himplies row hmem
    simp only [satisfiesAll, List.all_cons, List.all_nil, Bool.and_true]
    cases hp : p.holds row with
    | false => rfl
    | true =>
        rw [hrow hp]
        rfl
  rw [hboth]
  exact List.filter_sublist

/--
A row that passes under the lower of two thresholds passes under the higher one, and
one that passes over the higher passes over the lower one, exactly if it is not split
with the two.  So a range that is widened keeps all rows, if none of them is.
-/
theorem thresholds_monotone {field : String} {v w : Json}
    (hle : Operator.lessEqual.test v w = true) :
    (forall row,
      (Predicate.holds ⟨field, .lessThan, v⟩ row = true ->
        (Predicate.holds ⟨field, .lessThan, w⟩ row = true ↔ ¬ Split (fieldOf row field) v w)) ∧
      (Predicate.holds ⟨field, .greaterThan, w⟩ row = true ->
        (Predicate.holds ⟨field, .greaterThan, v⟩ row = true ↔
          ¬ Split (fieldOf row field) v w))) ∧
    forall rows, (forall row, row ∈ rows -> ¬ Split (fieldOf row field) v w) ->
      (filterRows [⟨field, .lessThan, v⟩] rows).Sublist
          (filterRows [⟨field, .lessThan, w⟩] rows) ∧
        (filterRows [⟨field, .greaterThan, w⟩] rows).Sublist
          (filterRows [⟨field, .greaterThan, v⟩] rows) := by
  have hless : forall row v, Predicate.holds ⟨field, .lessThan, v⟩ row = true ↔
      order? (fieldOf row field) v = some .lt :=
    fun _ _ => beq_iff_eq
  have hgreater : forall row v, Predicate.holds ⟨field, .greaterThan, v⟩ row = true ↔
      order? v (fieldOf row field) = some .lt :=
    fun row v => beq_iff_eq.trans (order?_gt_iff (fieldOf row field) v)
  have hbelow : forall row, Predicate.holds ⟨field, .lessThan, v⟩ row = true ->
      (Predicate.holds ⟨field, .lessThan, w⟩ row = true ↔ ¬ Split (fieldOf row field) v w) := by
    intro row hpasses
    rw [hless] at hpasses ⊢
    exact order?_lt_iff_not_split (atMost_of_lt hpasses) hle (Or.inl hpasses)
  have habove : forall row, Predicate.holds ⟨field, .greaterThan, w⟩ row = true ->
      (Predicate.holds ⟨field, .greaterThan, v⟩ row = true ↔
        ¬ Split (fieldOf row field) v w) := by
    intro row hpasses
    rw [hgreater] at hpasses ⊢
    rw [split_rotate]
    exact order?_lt_iff_not_split hle (atMost_of_lt hpasses) (Or.inr hpasses)
  refine ⟨fun row => ⟨hbelow row, habove row⟩, ?_⟩
  intro rows hwhole
  constructor
  · apply filterRows_sublist
    intro row hmem hpasses
    exact (hbelow row hpasses).mpr (hwhole row hmem)
  · apply filterRows_sublist
    intro row hmem hpasses
    exact (habove row hpasses).mpr (hwhole row hmem)

/-!
# Estimates written in several ways
-/

namespace Estimates

def issue (estimate : Json) : Json :=
  .object [("estimate", estimate)]

/-- An exponent in upper case is that in lower case. -/
theorem range_operators_agree_case :
    let row := issue (.text "1E1")
    Ranged (fieldOf row "estimate") (.text "1e1") ∧
      ¬ Respelled (fieldOf row "estimate") (.text "1e1") ∧
      [Operator.lessThan, .equals, .greaterThan].countP
        (fun operator => Predicate.holds ⟨"estimate", operator, .text "1e1"⟩ row) = 1 := by
  intro row
  have hranged : Ranged (fieldOf row "estimate") (.text "1e1") := by
    decide +kernel
  have hspelled : ¬ Respelled (fieldOf row "estimate") (.text "1e1") := by
    decide +kernel
  exact ⟨hranged, hspelled, ((range_operators_agree hranged).left hspelled).left⟩

/-- Eight with a fraction is neither less than eight, equal to it nor greater. -/
theorem eight_between_operators :
    let row := issue (.text "8.0")
    let eight : Json := .number (.integer 8)
    Ranged (fieldOf row "estimate") eight ∧
      [Operator.lessThan, .equals, .greaterThan].countP
        (fun operator => Predicate.holds ⟨"estimate", operator, eight⟩ row) = 0 ∧
      Predicate.holds ⟨"estimate", .greaterEqual, eight⟩ row = true ∧
      Predicate.holds ⟨"estimate", .lessEqual, eight⟩ row = true := by
  decide +kernel

/-- Texts that are no numbers are in the way of others only if they are between them. -/
theorem thresholds_monotone_apart :
    let rows := [issue (.text "9"), issue (.text "8x"), issue .null, issue (.number (.integer 3))]
    Operator.lessEqual.test (.text "10") (.text "20") = true ∧
      (forall row, row ∈ rows -> ¬ Split (fieldOf row "estimate") (.text "10") (.text "20")) ∧
      (filterRows [⟨"estimate", .lessThan, .text "10"⟩] rows).Sublist
        (filterRows [⟨"estimate", .lessThan, .text "20"⟩] rows) := by
  intro rows
  have hle : Operator.lessEqual.test (.text "10") (.text "20") = true := by
    decide +kernel
  have hwhole : forall row, row ∈ rows ->
      ¬ Split (fieldOf row "estimate") (.text "10") (.text "20") := by
    decide +kernel
  exact ⟨hle, hwhole, ((thresholds_monotone hle).right rows hwhole).left⟩

/-- Ten is before the text `5x`, and that is before nine, but ten is not less than nine. -/
theorem ten_dropped :
    Operator.lessEqual.test (.text "5x") (.text "9") = true ∧
      Predicate.holds ⟨"estimate", .lessThan, .text "5x"⟩ (issue (.text "10")) = true ∧
      Predicate.holds ⟨"estimate", .lessThan, .text "9"⟩ (issue (.text "10")) = false := by
  decide +kernel

end Estimates

end Rows
end QueryGateway
