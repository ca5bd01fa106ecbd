import Mathlib.Data.List.Induction
import QueryGateway.Rows.Aggregate

/-!
# Groups of rows

The groups of a list are the rows with each key that occurs in it, the keys in
the order of their first rows.  A key is one text, so it tells groups apart as
far as the joined texts can be taken apart again: a bar inside of a text may be
read as the end of it.
-/

namespace QueryGateway
namespace Rows

/-!
# Texts that occur
-/

theorem distinct_concat (texts : List String) (text : String) :
    distinct (texts ++ [text]) =
      if text ∈ distinct texts then distinct texts else distinct texts ++ [text] := by
  unfold distinct
  rw [List.foldl_append, List.foldl_cons, List.foldl_nil]
  simp only [List.contains_iff_mem]

theorem mem_distinct {texts : List String} {text : String} :
    text ∈ distinct texts ↔ text ∈ texts := by
  induction texts using List.reverseRecOn with
  | nil => exact Iff.rfl
  | append_singleton texts last ih =>
      rw [distinct_concat, List.mem_append, List.mem_singleton]
      split
      · next hseen =>
          constructor
          · intro hmem
            exact Or.inl (ih.mp hmem)
          · rintro (hmem | hlast)
            · exact ih.mpr hmem
            · rw [hlast]
              exact hseen
      · rw [List.mem_append, List.mem_singleton, ih]

theorem nodup_distinct (texts : List String) : (distinct texts).Nodup := by
  induction texts using List.reverseRecOn with
  | nil => exact List.nodup_nil
  | append_singleton texts last ih =>
      rw [distinct_concat]
      split
      · exact ih
      · next hnew =>
          have hapart : forall text, text ∈ distinct texts -> forall other, other ∈ [last] ->
              text ≠ other := by
            intro text hmem other hother hsame
            rw [hsame, List.mem_singleton.mp hother] at hmem
            exact hnew hmem
          exact List.nodup_append.mpr ⟨ih, List.pairwise_singleton _ last, hapart⟩

/-!
# Rows with one key
-/

def withKey (groupBy : List String) (rows : List Json) (key : String) : List Json :=
  rows.filter fun row => groupKey groupBy row == key

theorem withKey_concat (groupBy : List String) (rows : List Json) (row : Json) (key : String) :
    withKey groupBy (rows ++ [row]) key =
      if groupKey groupBy row = key then withKey groupBy rows key ++ [row]
      else withKey groupBy rows key := by
  unfold withKey
  rw [List.filter_append]
  split
  · next hkey => simp [hkey]
  · next hkey => simp [hkey]

theorem withKey_of_new {groupBy : List String} {rows : List Json} {row : Json}
    (hnew : groupKey groupBy row ∉ distinct (rows.map (groupKey groupBy))) :
    withKey groupBy (rows ++ [row]) (groupKey groupBy row) = [row] := by
  have hnone : withKey groupBy rows (groupKey groupBy row) = [] := by
    unfold withKey
    rw [List.filter_eq_nil_iff]
    intro other hmem hkey
    apply hnew
    rw [mem_distinct, ← beq_iff_eq.mp hkey]
    exact List.mem_map_of_mem hmem
  rw [withKey_concat, if_pos rfl, hnone, List.nil_append]

/-- A row goes to the group with its key; if there is none, it opens one after the others. -/
theorem addToGroup_map (key : String) (row : Json) (members : String -> List Json) :
    forall {keys : List String}, keys.Nodup ->
      addToGroup key row (keys.map fun other => (other, members other)) =
        if key ∈ keys then
          keys.map fun other =>
            (other, if key = other then members other ++ [row] else members other)
        else
          (keys.map fun other => (other, members other)) ++ [(key, [row])]
  | [], _ => rfl
  | other :: keys, hnodup => by
      rcases List.nodup_cons.mp hnodup with ⟨hother, hkeys⟩
      rw [List.map_cons, addToGroup]
      split
      · next hsame =>
          have hrest : forall text, text ∈ keys -> key ≠ text := by
            intro text hmem hkey
            rw [hsame, hkey] at hother
            exact hother hmem
          rw [if_pos (by rw [hsame]; exact List.mem_cons_self), List.map_cons, hsame, if_pos rfl]
          refine congrArg _ (List.map_congr_left ?_)
          intro text hmem
          rw [if_neg (hrest text hmem)]
      · next hdiffers =>
          have hne : key ≠ other := fun hkey => hdiffers hkey.symm
          rw [addToGroup_map key row members hkeys]
          by_cases hmem : key ∈ keys
          · rw [if_pos hmem, if_pos (List.mem_cons_of_mem other hmem), List.map_cons, if_neg hne]
          · have hnot : key ∉ other :: keys := by
              intro hcons
              rcases List.mem_cons.mp hcons with hsame | htail
              · exact hne hsame
              · exact hmem htail
            rw [if_neg hmem, if_neg hnot]
            rfl

theorem group_eq (groupBy : List String) (rows : List Json) :
    group groupBy rows =
      (distinct (rows.map (groupKey groupBy))).map fun key => (key, withKey groupBy rows key) := by
  induction rows using List.reverseRecOn with
  | nil => rfl
  | append_singleton rows row ih =>
      have hstep : group groupBy (rows ++ [row]) =
          addToGroup (groupKey groupBy row) row (group groupBy rows) := by
        unfold group
        rw [List.foldl_append, List.foldl_cons, List.foldl_nil]
      rw [hstep, ih, addToGroup_map _ _ _ (nodup_distinct _), List.map_append, List.map_cons,
        List.map_nil, distinct_concat]
      split
      · refine List.map_congr_left ?_
        intro key _
        rw [withKey_concat]
      · next hnew =>
          rw [List.map_append, List.map_cons, List.map_nil, withKey_of_new hnew]
          refine congrArg (· ++ _) (List.map_congr_left ?_)
          intro key hkey
          have hne : groupKey groupBy row ≠ key := by
            intro hsame
            rw [hsame] at hnew
            exact hnew hkey
          rw [withKey_concat, if_neg hne]

theorem buckets_eq {groupBy : List String} (hfields : groupBy ≠ []) (rows : List Json) :
    buckets groupBy rows =
      (distinct (rows.map (groupKey groupBy))).map (withKey groupBy rows) := by
  have hnonempty : groupBy.isEmpty ≠ true := by
    rw [ne_eq, List.isEmpty_iff]
    exact hfields
  unfold buckets
  rw [if_neg hnonempty, group_eq, List.map_map]
  rfl

theorem mem_buckets_iff {groupBy : List String} (hfields : groupBy ≠ []) {rows : List Json}
    {bucket : List Json} :
    bucket ∈ buckets groupBy rows ↔
      exists row, row ∈ rows ∧ bucket = withKey groupBy rows (groupKey groupBy row) := by
  rw [buckets_eq hfields, List.mem_map]
  constructor
  · rintro ⟨key, hkey, hbucket⟩
    rcases List.mem_map.mp (mem_distinct.mp hkey) with ⟨row, hrow, hsame⟩
    rw [← hsame] at hbucket
    exact ⟨row, hrow, hbucket.symm⟩
  · rintro ⟨row, hrow, hbucket⟩
    exact ⟨_, mem_distinct.mpr (List.mem_map_of_mem hrow), hbucket.symm⟩

theorem mem_withKey {groupBy : List String} {rows : List Json} {key : String} {row : Json} :
    row ∈ withKey groupBy rows key ↔ row ∈ rows ∧ groupKey groupBy row = key := by
  unfold withKey
  rw [List.mem_filter, beq_iff_eq]

theorem ne_nil_of_mem_buckets {groupBy : List String} (hfields : groupBy ≠ []) {rows : List Json}
    {bucket : List Json} (hmem : bucket ∈ buckets groupBy rows) : bucket ≠ [] := by
  rcases (mem_buckets_iff hfields).mp hmem with ⟨row, hrow, hbucket⟩
  rw [hbucket]
  exact List.ne_nil_of_mem (mem_withKey.mpr ⟨hrow, rfl⟩)

/-!
# Taking keys apart
-/

/-- Two texts before a separator are the same if it occurs in them equally often. -/
theorem append_separator_inj {separator : Char} :
    forall {xs ys u v : List Char}, xs.count separator = ys.count separator ->
      xs ++ separator :: u = ys ++ separator :: v -> xs = ys ∧ u = v
  | [], [], _, _, _, hsame => by
      injection hsame with _ hrest
      exact ⟨rfl, hrest⟩
  | [], y :: ys, _, _, hcount, hsame => by
      injection hsame with hhead _
      rw [← hhead, List.count_cons_self] at hcount
      cases hcount
  | x :: xs, [], _, _, hcount, hsame => by
      injection hsame with hhead _
      rw [hhead, List.count_cons_self] at hcount
      cases hcount
  | x :: xs, y :: ys, _, _, hcount, hsame => by
      injection hsame with hhead htail
      rw [hhead, List.count_cons, List.count_cons] at hcount
      rcases append_separator_inj (Nat.add_right_cancel hcount) htail with ⟨hxs, hrest⟩
      rw [hhead, hxs]
      exact ⟨rfl, hrest⟩

theorem joined_inj {α : Type} {separator : Char} (f g : α -> List Char) :
    forall {fields : List α},
      (forall field, field ∈ fields.dropLast ->
        (f field).count separator = (g field).count separator) ->
      [separator].intercalate (fields.map f) = [separator].intercalate (fields.map g) ->
      forall field, field ∈ fields -> f field = g field
  | [], _, _ => nofun
  | [only], _, hsame => by
      intro field hmem
      rw [List.mem_singleton.mp hmem]
      rwa [List.map_singleton, List.map_singleton, List.intercalate_singleton,
        List.intercalate_singleton] at hsame
  | first :: second :: rest, hcount, hsame => by
      rw [List.map_cons, List.map_cons, List.map_cons, List.map_cons, List.intercalate_cons_cons,
        List.intercalate_cons_cons, List.append_assoc, List.append_assoc] at hsame
      rcases append_separator_inj (hcount first List.mem_cons_self) hsame with ⟨hfirst, hrest⟩
      have htail := @joined_inj α separator f g (second :: rest)
        (fun field hmem => hcount field (List.mem_cons_of_mem first hmem)) hrest
      intro field hmem
      rcases List.mem_cons.mp hmem with hsame | hmem
      · rw [hsame]
        exact hfirst
      · exact htail field hmem

def textAt (row : Json) (field : String) : String :=
  asText (fieldOf row field)

/-- How often the separator of keys occurs in the text under a field. -/
def barsAt (row : Json) (field : String) : Nat :=
  (textAt row field).toList.count '|'

def Agree (groupBy : List String) (r s : Json) : Prop :=
  forall field, field ∈ groupBy -> textAt r field = textAt s field

theorem toList_groupKey (groupBy : List String) (row : Json) :
    (groupKey groupBy row).toList =
      ['|'].intercalate (groupBy.map fun field => (textAt row field).toList) := by
  unfold groupKey
  rw [String.toList_intercalate, List.map_map]
  rfl

theorem groupKey_eq_of_agree {groupBy : List String} {r s : Json} (hagree : Agree groupBy r s) :
    groupKey groupBy r = groupKey groupBy s := by
  have htexts : groupBy.map (textAt r) = groupBy.map (textAt s) := List.map_congr_left hagree
  exact congrArg ("|".intercalate ·) htexts

theorem agree_of_groupKey_eq {groupBy : List String} {r s : Json}
    (hkey : groupKey groupBy r = groupKey groupBy s)
    (hbars : forall field, field ∈ groupBy.dropLast -> barsAt r field = barsAt s field) :
    Agree groupBy r s := by
  have hchars : (groupKey groupBy r).toList = (groupKey groupBy s).toList := by
    rw [hkey]
  rw [toList_groupKey, toList_groupKey] at hchars
  intro field hmem
  exact String.toList_inj.mp (joined_inj _ _ hbars hchars field hmem)

/-!
# Rows that are grouped together
-/

def Together (groupBy : List String) (rows : List Json) (r s : Json) : Prop :=
  exists bucket, bucket ∈ buckets groupBy rows ∧ r ∈ bucket ∧ s ∈ bucket

theorem together_iff_groupKey_eq {groupBy : List String} (hfields : groupBy ≠ [])
    {rows : List Json} {r s : Json} (hr : r ∈ rows) (hs : s ∈ rows) :
    Together groupBy rows r s ↔ groupKey groupBy r = groupKey groupBy s := by
  constructor
  · rintro ⟨bucket, hbucket, hrmem, hsmem⟩
    rcases (mem_buckets_iff hfields).mp hbucket with ⟨row, _, hsame⟩
    rw [hsame] at hrmem hsmem
    exact (mem_withKey.mp hrmem).right.trans (mem_withKey.mp hsmem).right.symm
  · intro hkey
    exact ⟨_, (mem_buckets_iff hfields).mpr ⟨r, hr, rfl⟩, mem_withKey.mpr ⟨hr, rfl⟩,
      mem_withKey.mpr ⟨hs, hkey.symm⟩⟩

/--
Two rows are grouped together exactly if their joined texts are the same.  Rows
with the same texts are, and rows that are have the same texts exactly if under
every field but the last the two texts have the same number of bars.
-/
theorem grouped_together_iff {groupBy : List String} (hfields : groupBy ≠ []) {rows : List Json}
    {r s : Json} (hr : r ∈ rows) (hs : s ∈ rows) :
    (Together groupBy rows r s ↔ groupKey groupBy r = groupKey groupBy s) ∧
      (Agree groupBy r s ↔ Together groupBy rows r s ∧
        forall field, field ∈ groupBy.dropLast -> barsAt r field = barsAt s field) := by
  have htogether := together_iff_groupKey_eq hfields hr hs
  refine ⟨htogether, ?_⟩
  constructor
  · intro hagree
    refine ⟨htogether.mpr (groupKey_eq_of_agree hagree), ?_⟩
    intro field hmem
    unfold barsAt
    rw [hagree field (List.dropLast_subset _ hmem)]
  · rintro ⟨hsame, hbars⟩
    exact agree_of_groupKey_eq (htogether.mp hsame) hbars

namespace Barred

def byBoth : List String :=
  ["a", "b"]

theorem byBoth_ne_nil : byBoth ≠ [] :=
  List.cons_ne_nil _ _

def row (a b : String) : Json :=
  .object [("a", .text a), ("b", .text b)]

/-- A bar under the last field is in nobody's way. -/
theorem grouped_together_iff_last :
    let rows := [row "x" "y|z", row "x" "y"]
    byBoth ≠ [] ∧ row "x" "y|z" ∈ rows ∧ row "x" "y" ∈ rows ∧
      ¬ Together byBoth rows (row "x" "y|z") (row "x" "y") := by
  intro rows
  have hr : row "x" "y|z" ∈ rows := List.mem_cons_self
  have hs : row "x" "y" ∈ rows := List.mem_cons_of_mem _ List.mem_cons_self
  have hiff := (grouped_together_iff byBoth_ne_nil hr hs).right
  refine ⟨byBoth_ne_nil, hr, hs, ?_⟩
  intro htogether
  have hbars : forall field, field ∈ byBoth.dropLast ->
      barsAt (row "x" "y|z") field = barsAt (row "x" "y") field := by
    decide +kernel
  have hagree : Agree byBoth (row "x" "y|z") (row "x" "y") := hiff.mpr ⟨htogether, hbars⟩
  have hdiffers : textAt (row "x" "y|z") "b" ≠ textAt (row "x" "y") "b" := by decide +kernel
  exact hdiffers (hagree "b" (List.mem_cons_of_mem _ List.mem_cons_self))

/-- A bar that moves from one text to the next makes one group of two. -/
theorem groups_merged :
    let r := row "x|y" "z"
    let s := row "x" "y|z"
    Together byBoth [r, s] r s ∧ ¬ Agree byBoth r s := by
  intro r s
  have hkey : groupKey byBoth r = groupKey byBoth s := by decide +kernel
  have hr : r ∈ [r, s] := List.mem_cons_self
  have hs : s ∈ [r, s] := List.mem_cons_of_mem r List.mem_cons_self
  refine ⟨(together_iff_groupKey_eq byBoth_ne_nil hr hs).mpr hkey, ?_⟩
  intro hagree
  have hdiffers : textAt r "a" ≠ textAt s "a" := by decide +kernel
  exact hdiffers (hagree "a" List.mem_cons_self)

end Barred

end Rows
end QueryGateway
