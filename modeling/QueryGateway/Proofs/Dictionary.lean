import Mathlib.Data.List.Perm.Subperm
import QueryGateway.Dictionary

/-!
# Dictionaries as maps

Setting entries keeps the names in ascending order, and a dictionary with its
names in that order is determined by what it finds under each name.
-/

namespace QueryGateway
namespace Dictionary

variable {α : Type}

/-!
# Looking up
-/

@[simp]
theorem find?_nil (name : String) : find? ([] : Dictionary α) name = none :=
  rfl

theorem find?_cons (first : String) (value : α) (rest : Dictionary α) (name : String) :
    find? ((first, value) :: rest) name =
      if first = name then some value else find? rest name := by
  unfold find?
  by_cases hname : first = name
  · simp [hname]
  · simp [hname]

theorem find?_insert (name : String) (value : α) (entries : Dictionary α) (other : String) :
    find? (insert name value entries) other =
      if name = other then some value else find? entries other := by
  induction entries with
  | nil => simp [insert, find?_cons]
  | cons entry rest ih =>
      rcases entry with ⟨first, v⟩
      unfold insert
      by_cases hbefore : name < first
      · rw [if_pos hbefore, find?_cons]
      · rw [if_neg hbefore]
        by_cases hsame : name = first
        · rw [if_pos hsame, find?_cons, find?_cons, hsame]
          by_cases hother : first = other
          · simp [hother]
          · simp [hother]
        · rw [if_neg hsame, find?_cons, find?_cons, ih]
          by_cases hfirst : first = other
          · have hne : name ≠ other := by
              rw [← hfirst]
              exact hsame
            simp [hfirst, hne]
          · simp [hfirst]

theorem mem_of_find? {entries : Dictionary α} {name : String} {value : α}
    (hfound : find? entries name = some value) : (name, value) ∈ entries := by
  induction entries with
  | nil => cases hfound
  | cons entry rest ih =>
      rcases entry with ⟨first, v⟩
      rw [find?_cons] at hfound
      by_cases hname : first = name
      · rw [if_pos hname] at hfound
        injection hfound with hvalue
        rw [hname, hvalue]
        exact List.mem_cons_self
      · rw [if_neg hname] at hfound
        exact List.mem_cons_of_mem _ (ih hfound)

theorem find?_append (xs ys : Dictionary α) (name : String) :
    find? (xs ++ ys) name = (find? xs name).or (find? ys name) := by
  unfold find?
  rw [List.find?_append, Option.map_or]

theorem find?_filter {name : String} {names : List String} (hfresh : name ∉ names)
    (entries : Dictionary α) :
    find? (entries.filter fun entry => entry.1 ∉ names) name = find? entries name := by
  unfold find?
  rw [List.find?_filter]
  congr 2
  funext entry
  by_cases hname : entry.1 = name
  · simp [hname, hfresh]
  · simp [hname]

/-- Of several entries under one name the last one counts. -/
theorem find?_insertAll (entries : List (String × α)) (base : Dictionary α) (name : String) :
    find? (insertAll entries base) name = (find? entries.reverse name).or (find? base name) := by
  induction entries generalizing base with
  | nil => rfl
  | cons entry rest ih =>
      have hstep : insertAll (entry :: rest) base = insertAll rest (insert entry.1 entry.2 base) :=
        rfl
      rw [hstep, ih, find?_insert, List.reverse_cons, find?_append, find?_cons, find?_nil,
        Option.or_assoc]
      split
      · rfl
      · rfl

theorem find?_ofList (entries : List (String × α)) (name : String) :
    find? (ofList entries) name = find? entries.reverse name := by
  unfold ofList
  rw [find?_insertAll, find?_nil, Option.or_none]

theorem isSome_find?_iff (entries : Dictionary α) (name : String) :
    (find? entries name).isSome = true ↔ name ∈ entries.map Prod.fst := by
  induction entries with
  | nil => simp
  | cons entry rest ih =>
      rcases entry with ⟨first, value⟩
      rw [find?_cons, List.map_cons, List.mem_cons, ← ih]
      by_cases hname : first = name
      · simp [hname]
      · have hother : name ≠ first := fun hsame => hname hsame.symm
        simp [hname, hother]

theorem isSome_find?_ofList_iff (entries : List (String × α)) (name : String) :
    (find? (ofList entries) name).isSome = true ↔ name ∈ entries.map Prod.fst := by
  rw [find?_ofList, isSome_find?_iff, List.map_reverse, List.mem_reverse]

theorem find?_of_mem {entries : Dictionary α} (hnodup : (entries.map Prod.fst).Nodup)
    {name : String} {value : α} (hmem : (name, value) ∈ entries) :
    find? entries name = some value := by
  induction entries with
  | nil => cases hmem
  | cons entry rest ih =>
      rcases entry with ⟨first, other⟩
      rcases List.nodup_cons.mp hnodup with ⟨hfirst, hrest⟩
      rw [find?_cons]
      rcases List.mem_cons.mp hmem with hsame | hmem
      · injection hsame with hname hvalue
        rw [if_pos hname.symm, hvalue]
      · have hne : first ≠ name := by
          intro hsame
          rw [hsame] at hfirst
          exact hfirst (List.mem_map.mpr ⟨_, hmem, rfl⟩)
        rw [if_neg hne]
        exact ih hrest hmem

/-!
# Names in order
-/

theorem sorted_nil : Sorted ([] : Dictionary α) :=
  List.Pairwise.nil

theorem lt_of_not_lt_of_ne {a b : String} (hnot : ¬ a < b) (hne : a ≠ b) : b < a := by
  rcases Classical.em (b < a) with hlt | hnot'
  · exact hlt
  · exact absurd (String.le_antisymm (String.not_lt.mp hnot') (String.not_lt.mp hnot)) hne

theorem mem_insert {name : String} {value : α} {entries : Dictionary α} {entry : String × α}
    (hmem : entry ∈ insert name value entries) : entry = (name, value) ∨ entry ∈ entries := by
  induction entries with
  | nil => exact Or.inl (List.mem_singleton.mp hmem)
  | cons first rest ih =>
      unfold insert at hmem
      split at hmem
      · exact List.mem_cons.mp hmem
      · split at hmem
        · rcases List.mem_cons.mp hmem with heq | hrest
          · exact Or.inl heq
          · exact Or.inr (List.mem_cons_of_mem _ hrest)
        · rcases List.mem_cons.mp hmem with heq | hrest
          · exact Or.inr (List.mem_cons.mpr (Or.inl heq))
          · rcases ih hrest with heq | hrest
            · exact Or.inl heq
            · exact Or.inr (List.mem_cons_of_mem _ hrest)

theorem sorted_insert (name : String) (value : α) {entries : Dictionary α}
    (hsorted : Sorted entries) : Sorted (insert name value entries) := by
  induction entries with
  | nil => exact List.pairwise_singleton _ _
  | cons entry rest ih =>
      rcases entry with ⟨first, v⟩
      rcases List.pairwise_cons.mp hsorted with ⟨hfirst, hrest⟩
      unfold insert
      by_cases hbefore : name < first
      · rw [if_pos hbefore]
        refine List.pairwise_cons.mpr ⟨?_, hsorted⟩
        intro entry hmem
        rcases List.mem_cons.mp hmem with heq | hmem
        · rw [heq]
          exact hbefore
        · exact String.lt_trans hbefore (hfirst entry hmem)
      · rw [if_neg hbefore]
        by_cases hsame : name = first
        · rw [if_pos hsame, hsame]
          exact List.pairwise_cons.mpr ⟨hfirst, hrest⟩
        · rw [if_neg hsame]
          refine List.pairwise_cons.mpr ⟨?_, ih hrest⟩
          intro entry hmem
          rcases mem_insert hmem with heq | hmem
          · rw [heq]
            exact lt_of_not_lt_of_ne hbefore hsame
          · exact hfirst entry hmem

theorem sorted_insertAll (entries : List (String × α)) {base : Dictionary α}
    (hsorted : Sorted base) : Sorted (insertAll entries base) := by
  induction entries generalizing base with
  | nil => exact hsorted
  | cons entry rest ih => exact ih (sorted_insert entry.1 entry.2 hsorted)

theorem sorted_ofList (entries : List (String × α)) : Sorted (ofList entries) :=
  sorted_insertAll entries sorted_nil

theorem mem_insertAll {entries : List (String × α)} {base : Dictionary α} {entry : String × α}
    (hmem : entry ∈ insertAll entries base) : entry ∈ entries ∨ entry ∈ base := by
  induction entries generalizing base with
  | nil => exact Or.inr hmem
  | cons first rest ih =>
      rcases ih hmem with hrest | hbase
      · exact Or.inl (List.mem_cons_of_mem _ hrest)
      · rcases mem_insert hbase with heq | hbase
        · exact Or.inl (List.mem_cons.mpr (Or.inl heq))
        · exact Or.inr hbase

theorem mem_ofList {entries : List (String × α)} {entry : String × α}
    (hmem : entry ∈ ofList entries) : entry ∈ entries := by
  rcases mem_insertAll hmem with hentries | hnil
  · exact hentries
  · cases hnil

/-!
# Extensionality
-/

theorem find?_eq_none_of_lt {entries : Dictionary α} {name : String}
    (hafter : forall entry, entry ∈ entries -> name < entry.1) : find? entries name = none := by
  cases hfound : find? entries name with
  | none => rfl
  | some value => exact absurd (hafter _ (mem_of_find? hfound)) (String.lt_irrefl name)

theorem find?_head (first : String) (value : α) (rest : Dictionary α) :
    find? ((first, value) :: rest) first = some value := by
  rw [find?_cons, if_pos rfl]

theorem not_lt_head {first first' : String} {value value' : α} {rest rest' : Dictionary α}
    (hsorted : Sorted ((first', value') :: rest'))
    (hfind : forall name,
      find? ((first, value) :: rest) name = find? ((first', value') :: rest') name) :
    ¬ first < first' := by
  intro hlt
  have hnone : find? ((first', value') :: rest') first = none := by
    apply find?_eq_none_of_lt
    intro entry hmem
    rcases List.mem_cons.mp hmem with heq | hmem
    · rw [heq]
      exact hlt
    · exact String.lt_trans hlt ((List.pairwise_cons.mp hsorted).left entry hmem)
  rw [← hfind first, find?_head] at hnone
  cases hnone

theorem ext_of_find? : forall {xs ys : Dictionary α}, Sorted xs -> Sorted ys ->
    (forall name, find? xs name = find? ys name) -> xs = ys
  | [], [], _, _, _ => rfl
  | [], (name, y) :: ys, _, _, hfind => by
      have hfound := hfind name
      rw [find?_head, find?_nil] at hfound
      cases hfound
  | (name, x) :: xs, [], _, _, hfind => by
      have hfound := hfind name
      rw [find?_head, find?_nil] at hfound
      cases hfound
  | (name, x) :: xs, (name', y) :: ys, hxs, hys, hfind => by
      have hname : name = name' := by
        have hright := String.not_lt.mp (not_lt_head hys hfind)
        have hleft := String.not_lt.mp (not_lt_head hxs fun other => (hfind other).symm)
        exact String.le_antisymm hleft hright
      subst hname
      have hvalue := hfind name
      rw [find?_head, find?_head] at hvalue
      injection hvalue with hvalue
      subst hvalue
      rcases List.pairwise_cons.mp hxs with ⟨hfirstX, hxs⟩
      rcases List.pairwise_cons.mp hys with ⟨hfirstY, hys⟩
      have htail : xs = ys := by
        apply ext_of_find? hxs hys
        intro other
        by_cases hother : name = other
        · subst hother
          rw [find?_eq_none_of_lt hfirstX, find?_eq_none_of_lt hfirstY]
        · have hfound := hfind other
          rw [find?_cons, find?_cons, if_neg hother, if_neg hother] at hfound
          exact hfound
      rw [htail]

/-!
# Setting entries of different names
-/

theorem insert_perm {name : String} {entries : Dictionary α}
    (hfresh : forall entry, entry ∈ entries -> entry.1 ≠ name) (value : α) :
    (insert name value entries).Perm ((name, value) :: entries) := by
  induction entries with
  | nil => exact List.Perm.refl _
  | cons entry rest ih =>
      rcases entry with ⟨first, v⟩
      have hfirst : name ≠ first := fun hsame => hfresh _ List.mem_cons_self hsame.symm
      unfold insert
      by_cases hbefore : name < first
      · rw [if_pos hbefore]
      · rw [if_neg hbefore, if_neg hfirst]
        have hrest := ih fun entry hmem => hfresh entry (List.mem_cons_of_mem _ hmem)
        exact (hrest.cons _).trans (List.Perm.swap _ _ _)

theorem insertAll_perm {entries : List (String × α)} {base : Dictionary α}
    (hnodup : (entries.map Prod.fst).Nodup)
    (hfresh : forall entry, entry ∈ base -> entry.1 ∉ entries.map Prod.fst) :
    (insertAll entries base).Perm (entries ++ base) := by
  induction entries generalizing base with
  | nil => exact List.Perm.refl _
  | cons entry rest ih =>
      rcases entry with ⟨name, value⟩
      rcases List.nodup_cons.mp hnodup with ⟨hname, hrest⟩
      have hbase : (insert name value base).Perm ((name, value) :: base) := by
        apply insert_perm
        intro entry hmem hsame
        apply hfresh entry hmem
        rw [hsame]
        exact List.mem_cons_self
      have hall : (insertAll rest (insert name value base)).Perm
          (rest ++ insert name value base) := by
        apply ih hrest
        intro entry hmem hrepeated
        rcases mem_insert hmem with heq | hmem
        · rw [heq] at hrepeated
          exact hname hrepeated
        · exact hfresh entry hmem (List.mem_cons_of_mem _ hrepeated)
      exact hall.trans ((hbase.append_left rest).trans List.perm_middle)

theorem insertAll_perm_append_filter {entries : List (String × α)} {base : Dictionary α}
    (hnodup : (entries.map Prod.fst).Nodup) (hsorted : Sorted base) :
    (insertAll entries base).Perm
      (entries ++ base.filter fun entry => entry.1 ∉ entries.map Prod.fst) := by
  have hleft : Sorted (base.filter fun entry => entry.1 ∉ entries.map Prod.fst) :=
    hsorted.filter _
  have hsame : insertAll entries base =
      insertAll entries (base.filter fun entry => entry.1 ∉ entries.map Prod.fst) := by
    apply ext_of_find? (sorted_insertAll entries hsorted) (sorted_insertAll entries hleft)
    intro name
    rw [find?_insertAll, find?_insertAll]
    cases hset : find? entries.reverse name with
    | some value => rfl
    | none =>
        have hfresh : name ∉ entries.map Prod.fst := by
          rw [← List.mem_reverse, ← List.map_reverse, ← isSome_find?_iff, hset]
          nofun
        rw [find?_filter hfresh]
  rw [hsame]
  apply insertAll_perm hnodup
  intro entry hmem
  exact of_decide_eq_true (List.mem_filter.mp hmem).right

theorem ofList_perm {entries : List (String × α)} (hnodup : (entries.map Prod.fst).Nodup) :
    (ofList entries).Perm entries := by
  have hperm : (insertAll entries []).Perm (entries ++ []) := insertAll_perm hnodup nofun
  rwa [List.append_nil] at hperm

theorem nodup_of_sorted {entries : Dictionary α} (hsorted : Sorted entries) :
    (entries.map Prod.fst).Nodup := by
  rw [List.nodup_iff_pairwise_ne, List.pairwise_map]
  apply List.Pairwise.imp _ hsorted
  intro a b hlt hsame
  rw [hsame] at hlt
  exact String.lt_irrefl _ hlt

theorem find?_eq_some_iff {entries : Dictionary α} (hsorted : Sorted entries) (name : String)
    (value : α) : find? entries name = some value ↔ (name, value) ∈ entries :=
  ⟨mem_of_find?, find?_of_mem (nodup_of_sorted hsorted)⟩

theorem find?_ofList_of_mem {entries : List (String × α)} (hnodup : (entries.map Prod.fst).Nodup)
    {name : String} {value : α} (hmem : (name, value) ∈ entries) :
    find? (ofList entries) name = some value :=
  find?_of_mem (nodup_of_sorted (sorted_ofList entries)) ((ofList_perm hnodup).mem_iff.mpr hmem)

theorem length_ofList_eq_iff (entries : List (String × α)) :
    (ofList entries).length = entries.length ↔ (entries.map Prod.fst).Nodup := by
  constructor
  · intro hlength
    have hnames : ((ofList entries).map Prod.fst).Nodup := nodup_of_sorted (sorted_ofList entries)
    have hsubset : (ofList entries).map Prod.fst ⊆ entries.map Prod.fst := by
      intro name hmem
      rwa [← isSome_find?_iff, isSome_find?_ofList_iff] at hmem
    have hsame : (entries.map Prod.fst).length = ((ofList entries).map Prod.fst).length := by
      rw [List.length_map, List.length_map, hlength]
    have hperm := (List.subperm_of_subset hnames hsubset).perm_of_length_le (Nat.le_of_eq hsame)
    exact hperm.nodup_iff.mp hnames
  · intro hnodup
    exact (ofList_perm hnodup).length_eq

theorem ofList_of_sorted {entries : Dictionary α} (hsorted : Sorted entries) :
    ofList entries = entries := by
  apply List.Perm.eq_of_pairwise _ (sorted_ofList entries) hsorted
    (ofList_perm (nodup_of_sorted hsorted))
  intro a b _ _ hab hba
  exact absurd (String.lt_trans hab hba) (String.lt_irrefl _)

end Dictionary
end QueryGateway
