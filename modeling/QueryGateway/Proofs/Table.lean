import QueryGateway.Table

/-!
# Looking up in tables

What each operation on a table does to its look-ups.  Setting and erasing need
no assumption; filtering does, since dropping the first of two entries of one
key would uncover the second, and so tables are shown to keep their keys apart.
-/

namespace QueryGateway
namespace Table

variable {κ α : Type}

def Unique (table : Table κ α) : Prop :=
  (table.entries.map Prod.fst).Nodup

theorem unique_empty : (∅ : Table κ α).Unique :=
  List.nodup_nil

theorem unique_filter (table : Table κ α) (hunique : table.Unique) (keep : κ -> α -> Bool) :
    (table.filter keep).Unique :=
  hunique.sublist (List.filter_sublist.map Prod.fst)

def All (P : κ -> α -> Prop) (table : Table κ α) : Prop :=
  forall key value, (key, value) ∈ table.entries -> P key value

theorem all_empty (P : κ -> α -> Prop) : (∅ : Table κ α).All P := by
  intro key value hmem
  cases hmem

theorem all_filter {P : κ -> α -> Prop} {table : Table κ α} (hall : table.All P)
    (keep : κ -> α -> Bool) :
    (table.filter keep).All fun key value => P key value ∧ keep key value = true := by
  intro key value hmem
  rcases List.mem_filter.mp hmem with ⟨hmem, hkeep⟩
  exact ⟨hall key value hmem, hkeep⟩

variable [DecidableEq κ]

/-!
## Look-ups
-/

theorem get?_cons (other : κ) (value : α) (rest : List (κ × α)) (key : κ) :
    (Table.mk ((other, value) :: rest)).get? key =
      if other = key then some value else (Table.mk rest).get? key := by
  by_cases hkey : other = key
  · simp [get?, hkey]
  · simp [get?, hkey]

@[simp] theorem get?_set (table : Table κ α) (key other : κ) (value : α) :
    (table.set key value).get? other =
      if key = other then some value else table.get? other := by
  cases table with
  | mk entries =>
      show (Table.mk (setEntry key value entries)).get? other = _
      induction entries with
      | nil =>
          exact get?_cons key value [] other
      | cons entry rest ih =>
          unfold setEntry
          by_cases hfirst : entry.1 = key
          · rw [if_pos hfirst, get?_cons, get?_cons, hfirst]
            by_cases hother : key = other
            · rw [if_pos hother, if_pos hother]
            · rw [if_neg hother, if_neg hother, if_neg hother]
          · rw [if_neg hfirst, get?_cons, get?_cons, ih]
            by_cases hother : key = other
            · rw [if_pos hother, if_pos hother, if_neg (by rwa [← hother])]
            · rw [if_neg hother, if_neg hother]

theorem get?_erase (table : Table κ α) (key other : κ) :
    (table.erase key).get? other = if key = other then none else table.get? other := by
  cases table with
  | mk entries =>
      induction entries with
      | nil => simp [erase, get?]
      | cons entry rest ih =>
          by_cases hfirst : entry.1 = key
          · have hdrop :
                (Table.mk (entry :: rest)).erase key = (Table.mk rest).erase key := by
              simp [erase, hfirst]
            rw [hdrop, ih, get?_cons, hfirst]
            by_cases hother : key = other
            · rw [if_pos hother, if_pos hother]
            · rw [if_neg hother, if_neg hother, if_neg hother]
          · have hkeep :
                (Table.mk (entry :: rest)).erase key =
                  ⟨entry :: ((Table.mk rest).erase key).entries⟩ := by
              simp [erase, hfirst]
            rw [hkeep, get?_cons, get?_cons]
            show (if entry.1 = other then some entry.2 else
              ((Table.mk rest).erase key).get? other) = _
            rw [ih]
            by_cases hother : key = other
            · rw [if_pos hother, if_pos hother, if_neg (by rwa [← hother])]
            · rw [if_neg hother, if_neg hother]

theorem get?_eq_none_of_not_mem (table : Table κ α) (key : κ)
    (habsent : key ∉ table.entries.map Prod.fst) : table.get? key = none := by
  have hnone : table.entries.find? (fun entry => entry.1 = key) = none := by
    apply List.find?_eq_none.mpr
    intro entry hentry hkey
    apply habsent
    rw [← of_decide_eq_true hkey]
    exact List.mem_map_of_mem hentry
  rw [get?, hnone]
  rfl

theorem get?_of_mem {table : Table κ α} (hunique : table.Unique) {key : κ} {value : α}
    (hmem : (key, value) ∈ table.entries) : table.get? key = some value := by
  cases table with
  | mk entries =>
      induction entries with
      | nil => cases hmem
      | cons entry rest ih =>
          have hnodup := List.nodup_cons.mp hunique
          rw [get?_cons]
          rcases List.mem_cons.mp hmem with hfirst | hrest
          · rw [← hfirst, if_pos rfl]
          · have hother : entry.1 ≠ key := by
              intro hkey
              apply hnodup.left
              rw [hkey]
              exact List.mem_map_of_mem hrest
            rw [if_neg hother]
            exact ih hnodup.right hrest

theorem get?_filter (table : Table κ α) (hunique : table.Unique) (keep : κ -> α -> Bool)
    (key : κ) : (table.filter keep).get? key = (table.get? key).filter (keep key) := by
  cases table with
  | mk entries =>
      induction entries with
      | nil => rfl
      | cons entry rest ih =>
          rcases entry with ⟨other, value⟩
          have hnodup := List.nodup_cons.mp hunique
          have htail := ih hnodup.right
          cases hkeep : keep other value with
          | true =>
              have hfilter :
                  (Table.mk ((other, value) :: rest)).filter keep =
                    ⟨(other, value) :: ((Table.mk rest).filter keep).entries⟩ := by
                simp [filter, hkeep]
              rw [hfilter, get?_cons, get?_cons]
              by_cases hkey : other = key
              · rw [if_pos hkey, if_pos hkey, Option.filter, ← hkey, hkeep, if_pos rfl]
              · rw [if_neg hkey, if_neg hkey]
                exact htail
          | false =>
              have hfilter :
                  (Table.mk ((other, value) :: rest)).filter keep =
                    (Table.mk rest).filter keep := by
                simp [filter, hkeep]
              rw [hfilter, htail, get?_cons]
              by_cases hkey : other = key
              · have hrest : (Table.mk rest).get? key = none :=
                  get?_eq_none_of_not_mem _ _ (by rw [← hkey]; exact hnodup.left)
                rw [if_pos hkey, hrest, Option.filter, ← hkey, hkeep]
                rfl
              · rw [if_neg hkey]

/-!
## Keys stay apart
-/

theorem mem_keys_setEntry (key other : κ) (value : α) (entries : List (κ × α)) :
    other ∈ (setEntry key value entries).map Prod.fst ↔
      other = key ∨ other ∈ entries.map Prod.fst := by
  induction entries with
  | nil => simp [setEntry]
  | cons entry rest ih =>
      unfold setEntry
      by_cases hfirst : entry.1 = key
      · simp [hfirst]
      · simp only [if_neg hfirst, List.map_cons, List.mem_cons, ih]
        exact or_left_comm

theorem unique_set (table : Table κ α) (hunique : table.Unique) (key : κ) (value : α) :
    (table.set key value).Unique := by
  cases table with
  | mk entries =>
      show ((setEntry key value entries).map Prod.fst).Nodup
      induction entries with
      | nil => simp [setEntry]
      | cons entry rest ih =>
          have hnodup := List.nodup_cons.mp hunique
          unfold setEntry
          by_cases hfirst : entry.1 = key
          · rw [if_pos hfirst]
            apply List.nodup_cons.mpr
            exact ⟨by simpa [hfirst] using hnodup.left, hnodup.right⟩
          · rw [if_neg hfirst]
            apply List.nodup_cons.mpr
            constructor
            · intro hmem
              rcases (mem_keys_setEntry key entry.1 value rest).mp hmem with heq | hrest
              · exact hfirst heq
              · exact hnodup.left hrest
            · exact ih hnodup.right

theorem unique_erase (table : Table κ α) (hunique : table.Unique) (key : κ) :
    (table.erase key).Unique :=
  hunique.sublist (List.filter_sublist.map Prod.fst)

/-!
## What holds of every entry
-/

theorem of_all_get? {P : κ -> α -> Prop} {table : Table κ α} (hall : table.All P) {key : κ}
    {value : α} (hget : table.get? key = some value) : P key value := by
  unfold get? at hget
  rcases Option.map_eq_some_iff.mp hget with ⟨entry, hfound, hvalue⟩
  have hkey : entry.1 = key := by
    simpa using List.find?_some hfound
  have hmem := List.mem_of_find?_eq_some hfound
  rw [← hkey, ← hvalue]
  exact hall entry.1 entry.2 hmem

theorem all_erase {P : κ -> α -> Prop} {table : Table κ α} (hall : table.All P) (key : κ) :
    (table.erase key).All fun other value => P other value ∧ other ≠ key := by
  intro other value hmem
  rcases List.mem_filter.mp hmem with ⟨hmem, hne⟩
  exact ⟨hall other value hmem, of_decide_eq_true hne⟩

theorem mem_setEntry {key : κ} {value : α} {entries : List (κ × α)} {entry : κ × α}
    (hmem : entry ∈ setEntry key value entries) : entry = (key, value) ∨ entry ∈ entries := by
  induction entries with
  | nil => exact Or.inl (List.mem_singleton.mp hmem)
  | cons first rest ih =>
      unfold setEntry at hmem
      split at hmem
      · rcases List.mem_cons.mp hmem with heq | hrest
        · exact Or.inl heq
        · exact Or.inr (List.mem_cons_of_mem _ hrest)
      · rcases List.mem_cons.mp hmem with heq | hrest
        · exact Or.inr (List.mem_cons.mpr (Or.inl heq))
        · rcases ih hrest with heq | hrest
          · exact Or.inl heq
          · exact Or.inr (List.mem_cons_of_mem _ hrest)

theorem all_set {P : κ -> α -> Prop} {table : Table κ α} (hall : table.All P) {key : κ}
    {value : α} (hvalue : P key value) : (table.set key value).All P := by
  intro other v hmem
  rcases mem_setEntry hmem with heq | hmem
  · cases heq
    exact hvalue
  · exact hall other v hmem

end Table
end QueryGateway
