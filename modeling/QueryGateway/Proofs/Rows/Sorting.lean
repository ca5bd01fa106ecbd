import QueryGateway.Proofs.Rows.Order

/-!
# Sorted rows

Sorting keeps the rows and puts them in order, provided that the comparison is
transitive on them.
-/

namespace QueryGateway
namespace Rows

variable {keys : List SortKey}

/-!
# Placing one row
-/

def precedes (keys : List SortKey) (a b : Json) : Bool :=
  compareRows keys a b == .lt

theorem perm_place (before : Json -> Json -> Bool) (row : Json) :
    forall placed : List Json, (place before row placed).Perm (row :: placed)
  | [] => List.Perm.refl _
  | last :: rest => by
      unfold place
      split
      · exact ((perm_place before row rest).cons last).trans (List.Perm.swap row last rest)
      · exact List.Perm.refl _

/-- The rows placed so far, last one first: none is greater than one placed before it. -/
def Placed (keys : List SortKey) (placed : List Json) : Prop :=
  placed.Pairwise fun later earlier => (compareRows keys earlier later).isLE = true

theorem isLE_of_precedes {a b : Json} (hbefore : precedes keys a b = true) :
    (compareRows keys a b).isLE = true :=
  Ordering.isLE_of_eq_lt (beq_iff_eq.mp hbefore)

theorem isLE_of_not_precedes {a b : Json} (hnot : ¬ precedes keys a b = true) :
    (compareRows keys b a).isLE = true := by
  have horiented := oriented_compareRows keys
  by_contra hgt
  exact hnot (beq_iff_eq.mpr (Std.OrientedCmp.lt_of_not_isLE hgt))

theorem placed_place {rows : List Json} (htransitive : TransitiveOn keys rows) {row : Json}
    (hrow : row ∈ rows) : forall {placed : List Json}, placed ⊆ rows -> Placed keys placed ->
      Placed keys (place (precedes keys) row placed)
  | [], _, _ => List.pairwise_singleton _ row
  | last :: rest, hsubset, hplaced => by
      rcases List.pairwise_cons.mp hplaced with ⟨hlast, hrest⟩
      have hlastmem : last ∈ rows := hsubset List.mem_cons_self
      have hrestmem : rest ⊆ rows := fun _ hmem => hsubset (List.mem_cons_of_mem last hmem)
      unfold place
      split
      · next hbefore =>
          refine List.pairwise_cons.mpr ⟨?_, placed_place htransitive hrow hrestmem hrest⟩
          intro earlier hmem
          rcases List.mem_cons.mp ((perm_place _ row rest).mem_iff.mp hmem) with hsame | hmem
          · rw [hsame]
            exact isLE_of_precedes hbefore
          · exact hlast earlier hmem
      · next hnot =>
          have hle : (compareRows keys last row).isLE = true := isLE_of_not_precedes hnot
          refine List.pairwise_cons.mpr ⟨?_, hplaced⟩
          intro earlier hmem
          rcases List.mem_cons.mp hmem with hsame | hmem
          · rw [hsame]
            exact hle
          · have hbelow : (compareRows keys earlier last).isLE = true := hlast earlier hmem
            exact htransitive earlier last row (hrestmem hmem) hlastmem hrow hbelow hle

/-!
# Placing all rows
-/

theorem sortRows_eq (keys : List SortKey) (rows : List Json) :
    sortRows keys rows =
      (rows.foldl (fun placed row => place (precedes keys) row placed) []).reverse :=
  rfl

theorem perm_placeAll (before : Json -> Json -> Bool) :
    forall rows placed : List Json,
      (rows.foldl (fun placed row => place before row placed) placed).Perm (rows ++ placed)
  | [], _ => List.Perm.refl _
  | row :: rows, placed => by
      have hrest := perm_placeAll before rows (place before row placed)
      have hplace := (perm_place before row placed).append_left rows
      exact (hrest.trans hplace).trans List.perm_middle

theorem perm_sortRows (keys : List SortKey) (rows : List Json) :
    (sortRows keys rows).Perm rows := by
  have hperm := perm_placeAll (precedes keys) rows []
  rw [List.append_nil] at hperm
  rw [sortRows_eq]
  exact (List.reverse_perm _).trans hperm

theorem mem_sortRows {rows : List Json} {row : Json} : row ∈ sortRows keys rows ↔ row ∈ rows :=
  (perm_sortRows keys rows).mem_iff

theorem placed_placeAll {rows : List Json} (htransitive : TransitiveOn keys rows) :
    forall {coming placed : List Json}, coming ⊆ rows -> placed ⊆ rows -> Placed keys placed ->
      Placed keys (coming.foldl (fun placed row => place (precedes keys) row placed) placed)
  | [], _, _, _, hplaced => hplaced
  | row :: coming, placed, hcoming, hsubset, hplaced => by
      have hrow : row ∈ rows := hcoming List.mem_cons_self
      have hrest : coming ⊆ rows := fun _ hmem => hcoming (List.mem_cons_of_mem row hmem)
      have hmore : place (precedes keys) row placed ⊆ rows := by
        intro other hmem
        rcases List.mem_cons.mp ((perm_place _ row placed).mem_iff.mp hmem) with hsame | hmem
        · rw [hsame]
          exact hrow
        · exact hsubset hmem
      rw [List.foldl_cons]
      exact placed_placeAll htransitive hrest hmore (placed_place htransitive hrow hsubset hplaced)

theorem pairwise_sortRows {rows : List Json} (htransitive : TransitiveOn keys rows) :
    (sortRows keys rows).Pairwise fun a b => (compareRows keys a b).isLE = true := by
  rw [sortRows_eq, List.pairwise_reverse]
  exact placed_placeAll htransitive (List.Subset.refl rows) (List.nil_subset rows)
    List.Pairwise.nil

theorem placeAll_of_ordered {before : Json -> Json -> Bool} :
    forall {coming placed : List Json},
      (placed.reverse ++ coming).Pairwise (fun a b => before b a = false) ->
      coming.foldl (fun placed row => place before row placed) placed = coming.reverse ++ placed
  | [], _, _ => rfl
  | row :: coming, placed, hordered => by
      have hplace : place before row placed = row :: placed := by
        cases placed with
        | nil => rfl
        | cons last rest =>
            have hapart := (List.pairwise_append.mp hordered).right.right
            have hlast : before row last = false :=
              hapart last (List.mem_reverse.mpr List.mem_cons_self) row List.mem_cons_self
            unfold place
            rw [hlast, if_neg Bool.false_ne_true]
      have hrest : ((row :: placed).reverse ++ coming).Pairwise
          (fun a b => before b a = false) := by
        rwa [List.reverse_cons, List.append_assoc]
      rw [List.foldl_cons, hplace, placeAll_of_ordered hrest, List.reverse_cons, List.append_assoc]
      rfl

theorem sortRows_of_ordered {rows : List Json}
    (hordered : rows.Pairwise fun a b => precedes keys b a = false) :
    sortRows keys rows = rows := by
  rw [sortRows_eq, @placeAll_of_ordered _ rows [] hordered, List.append_nil, List.reverse_reverse]

/-!
# Values of one kind
-/

/-- No number stands beside a value that is compared with it by its text. -/
def OneKind (values : List Json) : Prop :=
  (forall value, value ∈ values -> value = .null ∨ isNumber value = true) ∨
    forall value, value ∈ values -> isNumber value = false

theorem SortKey.Straight.of_subset {key : SortKey} {rows others : List Json}
    (hstraight : key.Straight rows) (hsubset : others ⊆ rows) : key.Straight others := by
  intro a ha b hb c hc
  exact hstraight a (hsubset ha) b (hsubset hb) c (hsubset hc)

theorem straight_of_oneKind {key : SortKey} {rows : List Json}
    (hkind : OneKind (rows.map fun row => fieldOf row key.field)) : key.Straight rows := by
  intro a ha b hb c _ htorn
  rcases htorn with ⟨⟨hnumber, hworded, _⟩, _⟩
  rcases hkind with hnumbers | hnone
  · rcases hnumbers _ (List.mem_map.mpr ⟨b, hb, rfl⟩) with hnull | hnumber'
    · rw [hnull] at hworded
      cases hworded
    · cases hvalue : fieldOf b key.field with
      | number x =>
          rw [hvalue] at hworded
          cases hworded
      | _ =>
          rw [hvalue] at hnumber'
          cases hnumber'
  · rw [hnone _ (List.mem_map.mpr ⟨a, ha, rfl⟩)] at hnumber
    cases hnumber

end Rows
end QueryGateway
