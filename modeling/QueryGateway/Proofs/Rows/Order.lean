import QueryGateway.Proofs.Binary64.Rounding
import QueryGateway.Proofs.Json.Text
import QueryGateway.Rows.Sort

/-!
# The order of rows

Two numbers compare by their values, and a number and a text by their texts.
These orders need not agree: `10` is before `"9"` and `"9"` is as good as `9`,
but `10` comes after `9`.  Two rows compare alike from either side, but rows have
an order only as long as no such text is between two numbers.
-/

namespace QueryGateway
namespace Rows

/-!
# Comparing values
-/

def isNumber : Json -> Bool
  | .number _ => true
  | _ => false

def isWorded : Json -> Bool
  | .null => false
  | .number _ => false
  | _ => true

def compareTexts (a b : Json) : Ordering :=
  compare (asText a) (asText b)

instance : Std.TransCmp compareTexts :=
  inferInstanceAs (Std.TransCmp (compareOn asText))

theorem ne_null_of_isNumber {a : Json} (ha : isNumber a = true) : a ≠ .null := by
  intro hnull
  rw [hnull] at ha
  cases ha

theorem number_or_isWorded {a : Json} (ha : a ≠ .null) :
    (exists x, a = .number x) ∨ isWorded a = true := by
  cases a with
  | null => exact absurd rfl ha
  | number x => exact Or.inl ⟨x, rfl⟩
  | _ => exact Or.inr rfl

theorem compare?_numbers (x y : Number) :
    x.toBinary64.compare? y.toBinary64 =
      some (compare x.toBinary64.rank y.toBinary64.rank) := by
  unfold Binary64.compare?
  rw [x.isNaN_toBinary64, y.isNaN_toBinary64]
  rfl

theorem compareValues_numbers (x y : Number) :
    compareValues (.number x) (.number y) = compare x.toBinary64.rank y.toBinary64.rank := by
  show (x.toBinary64.compare? y.toBinary64).getD .eq = _
  rw [compare?_numbers]
  rfl

theorem compareValues_null_right {a : Json} (ha : a ≠ .null) : compareValues a .null = .gt := by
  cases a with
  | null => exact absurd rfl ha
  | _ => rfl

theorem isLE_compareValues_null (b : Json) : (compareValues .null b).isLE = true := by
  cases b with
  | _ => rfl

theorem compareValues_of_isWorded_left {a b : Json} (ha : isWorded a = true) (hb : b ≠ .null) :
    compareValues a b = compareTexts a b := by
  cases a with
  | null => cases ha
  | number x => cases ha
  | _ =>
      cases b with
      | null => exact absurd rfl hb
      | _ => rfl

theorem compareValues_of_isWorded_right {a b : Json} (ha : a ≠ .null) (hb : isWorded b = true) :
    compareValues a b = compareTexts a b := by
  cases b with
  | null => cases hb
  | number x => cases hb
  | _ =>
      cases a with
      | null => exact absurd rfl ha
      | _ => rfl

theorem ne_null_of_isLE {a b : Json} (hle : (compareValues a b).isLE = true) (ha : a ≠ .null) :
    b ≠ .null := by
  intro hb
  rw [hb, compareValues_null_right ha] at hle
  cases hle

theorem compareValues_swap (a b : Json) : compareValues a b = (compareValues b a).swap := by
  rcases eq_or_ne a .null with ha | ha
  · rw [ha]
    cases b with
    | _ => rfl
  · rcases eq_or_ne b .null with hb | hb
    · rw [hb, compareValues_null_right ha]
      cases a with
      | null => exact absurd rfl ha
      | _ => rfl
    · rcases number_or_isWorded ha with ⟨x, hx⟩ | hworded
      · rcases number_or_isWorded hb with ⟨y, hy⟩ | hworded
        · rw [hx, hy, compareValues_numbers, compareValues_numbers]
          exact Std.OrientedCmp.eq_swap
        · rw [compareValues_of_isWorded_right ha hworded,
            compareValues_of_isWorded_left hworded ha]
          exact Std.OrientedCmp.eq_swap
      · rw [compareValues_of_isWorded_left hworded hb, compareValues_of_isWorded_right hb hworded]
        exact Std.OrientedCmp.eq_swap

instance : Std.OrientedCmp compareValues where
  eq_swap := compareValues_swap _ _

theorem eq_of_compareTexts {x y : Number}
    (hsame : compareTexts (.number x) (.number y) = .eq) : x = y := by
  have htexts : asText (.number x) = asText (.number y) :=
    Std.LawfulEqCmp.eq_of_compare hsame
  injection Json.render_injective htexts

/-!
# Texts between numbers
-/

/-- A text is between two numbers that are in order by their texts, but not by their values. -/
def Torn (a b c : Json) : Prop :=
  (isNumber a = true ∧ isWorded b = true ∧ isNumber c = true) ∧
    (compareTexts a b).isLE = true ∧ (compareTexts b c).isLE = true ∧
      compareTexts a c = .lt ∧ compareValues a c ≠ .lt

instance (a b c : Json) : Decidable (Torn a b c) :=
  inferInstanceAs (Decidable ((_ ∧ _) ∧ _))

theorem lt_or_eq_of_not_torn {x y : Number} {b : Json} (hb : isWorded b = true)
    (hleft : (compareTexts (.number x) b).isLE = true)
    (hright : (compareTexts b (.number y)).isLE = true)
    (hnot : ¬ Torn (.number x) b (.number y)) :
    compareValues (.number x) (.number y) = .lt ∨ x = y := by
  have hle : (compareTexts (.number x) (.number y)).isLE = true :=
    Std.TransCmp.isLE_trans hleft hright
  rcases Ordering.isLE_iff_eq_lt_or_eq_eq.mp hle with hlt | heq
  · left
    by_contra hvalue
    exact hnot ⟨⟨rfl, hb, rfl⟩, hleft, hright, hlt, hvalue⟩
  · exact Or.inr (eq_of_compareTexts heq)

theorem isLE_numbers_of_between {x z : Number} {b : Json} (hb : isWorded b = true)
    (hxb : (compareTexts (.number x) b).isLE = true)
    (hbz : (compareTexts b (.number z)).isLE = true)
    (hnot : ¬ Torn (.number x) b (.number z)) :
    (compareValues (.number x) (.number z)).isLE = true := by
  rcases lt_or_eq_of_not_torn hb hxb hbz hnot with hlt | hsame
  · exact Ordering.isLE_of_eq_lt hlt
  · rw [hsame]
    exact Std.ReflCmp.isLE_rfl

/-- A text before the smaller number would be between the two. -/
theorem isLE_text_after {x y : Number} {c : Json} (hc : isWorded c = true)
    (hxy : (compareValues (.number x) (.number y)).isLE = true)
    (hyc : (compareTexts (.number y) c).isLE = true)
    (hnot : ¬ Torn (.number y) c (.number x)) : (compareTexts (.number x) c).isLE = true := by
  by_contra hgt
  have hlt : compareTexts c (.number x) = .lt := Std.OrientedCmp.lt_of_not_isLE hgt
  rcases lt_or_eq_of_not_torn hc hyc (Ordering.isLE_of_eq_lt hlt) hnot with hvalue | hsame
  · exact Std.OrientedCmp.not_isLE_of_lt hvalue hxy
  · rw [← hsame] at hgt
    exact hgt hyc

theorem isLE_text_before {y z : Number} {a : Json} (ha : isWorded a = true)
    (hay : (compareTexts a (.number y)).isLE = true)
    (hyz : (compareValues (.number y) (.number z)).isLE = true)
    (hnot : ¬ Torn (.number z) a (.number y)) : (compareTexts a (.number z)).isLE = true := by
  by_contra hgt
  have hlt : compareTexts (.number z) a = .lt := Std.OrientedCmp.lt_of_not_isLE hgt
  rcases lt_or_eq_of_not_torn ha (Ordering.isLE_of_eq_lt hlt) hay hnot with hvalue | hsame
  · exact Std.OrientedCmp.not_isLE_of_lt hvalue hyz
  · rw [hsame] at hgt
    exact hgt hay

theorem isLE_compareValues_trans {a b c : Json} (hab : (compareValues a b).isLE = true)
    (hbc : (compareValues b c).isLE = true) (hbetween : ¬ Torn a b c) (hafter : ¬ Torn b c a)
    (hbefore : ¬ Torn c a b) : (compareValues a c).isLE = true := by
  rcases eq_or_ne a .null with hnull | ha
  · rw [hnull]
    exact isLE_compareValues_null c
  · have hb : b ≠ .null := ne_null_of_isLE hab ha
    have hc : c ≠ .null := ne_null_of_isLE hbc hb
    rcases number_or_isWorded hb with ⟨y, rfl⟩ | hbworded
    · rcases number_or_isWorded ha with ⟨x, rfl⟩ | haworded
      · rcases number_or_isWorded hc with ⟨z, rfl⟩ | hcworded
        · rw [compareValues_numbers] at hab hbc ⊢
          exact Std.TransCmp.isLE_trans hab hbc
        · rw [compareValues_of_isWorded_right hb hcworded] at hbc
          rw [compareValues_of_isWorded_right ha hcworded]
          exact isLE_text_after hcworded hab hbc hafter
      · rw [compareValues_of_isWorded_left haworded hb] at hab
        rw [compareValues_of_isWorded_left haworded hc]
        rcases number_or_isWorded hc with ⟨z, rfl⟩ | hcworded
        · exact isLE_text_before haworded hab hbc hbefore
        · rw [compareValues_of_isWorded_right hb hcworded] at hbc
          exact Std.TransCmp.isLE_trans hab hbc
    · rw [compareValues_of_isWorded_right ha hbworded] at hab
      rw [compareValues_of_isWorded_left hbworded hc] at hbc
      have hac : (compareTexts a c).isLE = true := Std.TransCmp.isLE_trans hab hbc
      rcases number_or_isWorded ha with ⟨x, rfl⟩ | haworded
      · rcases number_or_isWorded hc with ⟨z, rfl⟩ | hcworded
        · exact isLE_numbers_of_between hbworded hab hbc hbetween
        · rw [compareValues_of_isWorded_right ha hcworded]
          exact hac
      · rw [compareValues_of_isWorded_left haworded hc]
        exact hac

/-- What is torn is not in order: if it were, all three values would have the same text. -/
theorem not_trans_of_torn {a b c : Json} (htorn : Torn a b c)
    (hba : (compareValues b c).isLE = true -> (compareValues c a).isLE = true ->
      (compareValues b a).isLE = true)
    (hcb : (compareValues c a).isLE = true -> (compareValues a b).isLE = true ->
      (compareValues c b).isLE = true) : False := by
  rcases htorn with ⟨⟨ha, hb, hc⟩, hab, hbc, hlt, hvalue⟩
  have hca : (compareValues c a).isLE = true := by
    by_contra hnot
    exact hvalue (Std.OrientedCmp.lt_of_not_isLE hnot)
  have hanull : a ≠ .null := ne_null_of_isNumber ha
  have hcnull : c ≠ .null := ne_null_of_isNumber hc
  rw [compareValues_of_isWorded_left hb hanull, compareValues_of_isWorded_left hb hcnull] at hba
  rw [compareValues_of_isWorded_right hanull hb, compareValues_of_isWorded_right hcnull hb] at hcb
  have htexts : (compareTexts c a).isLE = true :=
    Std.TransCmp.isLE_trans (hcb hca hab) (hba hbc hca)
  exact Std.OrientedCmp.not_isLE_of_lt hlt htexts

/-!
# Comparing rows
-/

/-- No three rows of a list have values under a key that are torn. -/
def SortKey.Straight (key : SortKey) (rows : List Json) : Prop :=
  forall a, a ∈ rows -> forall b, b ∈ rows -> forall c, c ∈ rows ->
    ¬ Torn (fieldOf a key.field) (fieldOf b key.field) (fieldOf c key.field)

instance (key : SortKey) (rows : List Json) : Decidable (key.Straight rows) :=
  inferInstanceAs (Decidable (forall a, a ∈ rows -> _))

def among (rows : List Json) (compared : Json -> Json -> Ordering) (a b : {row // row ∈ rows}) :
    Ordering :=
  compared a b

instance (key : SortKey) : Std.OrientedCmp key.compare where
  eq_swap := by
    intro a b
    unfold SortKey.compare
    cases key.direction with
    | ascending => exact compareValues_swap _ _
    | descending => exact compareValues_swap _ _

theorem oriented_compareRows (keys : List SortKey) : Std.OrientedCmp (compareRows keys) := by
  induction keys with
  | nil => exact ⟨rfl⟩
  | cons key keys ih => exact inferInstanceAs (Std.OrientedCmp (compareLex key.compare _))

theorem trans_compare {key : SortKey} {rows : List Json} (hstraight : key.Straight rows) :
    Std.TransCmp (among rows key.compare) where
  eq_swap := by
    intro a b
    exact @Std.OrientedCmp.eq_swap _ key.compare _ a.val b.val
  isLE_trans := by
    rintro ⟨a, ha⟩ ⟨b, hb⟩ ⟨c, hc⟩ hab hbc
    unfold among SortKey.compare at hab hbc ⊢
    cases hdirection : key.direction with
    | ascending =>
        rw [hdirection] at hab hbc
        exact isLE_compareValues_trans hab hbc (hstraight a ha b hb c hc)
          (hstraight b hb c hc a ha) (hstraight c hc a ha b hb)
    | descending =>
        rw [hdirection] at hab hbc
        exact isLE_compareValues_trans hbc hab (hstraight c hc b hb a ha)
          (hstraight b hb a ha c hc) (hstraight a ha c hc b hb)

theorem trans_compareRows {keys : List SortKey} {rows : List Json}
    (hstraight : forall key, key ∈ keys -> key.Straight rows) :
    Std.TransCmp (among rows (compareRows keys)) := by
  induction keys with
  | nil => exact { eq_swap := rfl, isLE_trans := fun _ _ => rfl }
  | cons key keys ih =>
      have hkey : Std.TransCmp (among rows key.compare) :=
        trans_compare (hstraight key List.mem_cons_self)
      have hkeys : Std.TransCmp (among rows (compareRows keys)) :=
        ih fun other hmem => hstraight other (List.mem_cons_of_mem key hmem)
      exact inferInstanceAs
        (Std.TransCmp (compareLex (among rows key.compare) (among rows (compareRows keys))))

def TransitiveOn (keys : List SortKey) (rows : List Json) : Prop :=
  forall a b c, a ∈ rows -> b ∈ rows -> c ∈ rows ->
    (compareRows keys a b).isLE = true -> (compareRows keys b c).isLE = true ->
      (compareRows keys a c).isLE = true

theorem transitiveOn_of_straight {keys : List SortKey} {rows : List Json}
    (hstraight : forall key, key ∈ keys -> key.Straight rows) : TransitiveOn keys rows := by
  intro a b c ha hb hc hab hbc
  have htrans := trans_compareRows hstraight
  exact @Std.TransCmp.isLE_trans _ _ htrans ⟨a, ha⟩ ⟨b, hb⟩ ⟨c, hc⟩ hab hbc

theorem compareRows_singleton (key : SortKey) (a b : Json) :
    compareRows [key] a b = key.compare a b :=
  Ordering.then_eq

theorem isLE_fields_trans {key : SortKey} {rows : List Json}
    (htransitive : TransitiveOn [key] rows) {a b c : Json} (ha : a ∈ rows) (hb : b ∈ rows)
    (hc : c ∈ rows)
    (hab : (compareValues (fieldOf a key.field) (fieldOf b key.field)).isLE = true)
    (hbc : (compareValues (fieldOf b key.field) (fieldOf c key.field)).isLE = true) :
    (compareValues (fieldOf a key.field) (fieldOf c key.field)).isLE = true := by
  have hforth := htransitive a b c ha hb hc
  have hback := htransitive c b a hc hb ha
  rw [compareRows_singleton, compareRows_singleton, compareRows_singleton] at hforth hback
  unfold SortKey.compare at hforth hback
  cases hdirection : key.direction with
  | ascending =>
      rw [hdirection] at hforth
      exact hforth hab hbc
  | descending =>
      rw [hdirection] at hback
      exact hback hbc hab

theorem straight_of_transitiveOn {key : SortKey} {rows : List Json}
    (htransitive : TransitiveOn [key] rows) : key.Straight rows := by
  intro a ha b hb c hc htorn
  exact not_trans_of_torn htorn (isLE_fields_trans htransitive hb hc ha)
    (isLE_fields_trans htransitive hc ha hb)

/--
Comparing two rows the other way round gives the reverse.  On the rows of a list
the comparison is transitive if its keys are straight for them, and with a
single key only then.
-/
theorem compareRows_preorder (keys : List SortKey) (rows : List Json) :
    (forall a b, compareRows keys a b = (compareRows keys b a).swap) ∧
      ((forall key, key ∈ keys -> key.Straight rows) -> TransitiveOn keys rows) ∧
      forall key : SortKey, TransitiveOn [key] rows ↔ key.Straight rows := by
  have horiented := oriented_compareRows keys
  refine ⟨fun a b => Std.OrientedCmp.eq_swap, transitiveOn_of_straight, ?_⟩
  intro key
  constructor
  · exact straight_of_transitiveOn
  · intro hstraight
    apply transitiveOn_of_straight
    intro other hmem
    rw [List.mem_singleton.mp hmem]
    exact hstraight

/-!
# A column of numbers and texts
-/

namespace Mixed

def byN : List SortKey :=
  [⟨"n", .ascending⟩]

def row (value : Json) : Json :=
  .object [("n", value)]

def ten : Json :=
  row (.number (.integer 10))

def nine : Json :=
  row (.number (.integer 9))

def nineText : Json :=
  row (.text "9")

/-- A text after both numbers is in nobody's way. -/
theorem compareRows_preorder_apart :
    let rows := [nine, .null, row (.text "x"), ten]
    (forall key, key ∈ byN -> key.Straight rows) ∧ TransitiveOn byN rows := by
  intro rows
  have hstraight : forall key, key ∈ byN -> key.Straight rows := by
    decide +kernel
  exact ⟨hstraight, (compareRows_preorder byN rows).right.left hstraight⟩

/-- Ten is before the text `9`, which is as good as nine, but ten is after nine. -/
theorem compareRows_cyclic :
    compareRows byN ten nineText = .lt ∧ compareRows byN nineText nine = .eq ∧
      compareRows byN ten nine = .gt := by
  decide +kernel

/-- So ten may be left before nine, and apart from another ten. -/
example :
    (sortRows byN [ten, nineText, nine, ten]).map (fun sorted => asText (fieldOf sorted "n")) =
      ["10", "9", "9", "10"] := by
  decide +kernel

end Mixed

end Rows
end QueryGateway
