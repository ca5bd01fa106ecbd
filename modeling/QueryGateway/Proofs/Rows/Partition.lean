import QueryGateway.Proofs.Rows.Columns
import QueryGateway.Proofs.Table

/-!
# Rows are shared out among groups

Grouping moves rows and neither loses nor repeats one.  Each bucket holds the
rows of one key in the order of the input, and the buckets come in the order of
their first rows, as they do when an index tells in which bucket a key is.  So the
numbers of rows that groups report add up to the number of rows that were grouped.
-/

namespace QueryGateway
namespace Rows

variable {groupBy : List String} {rows : List Json}

/-!
# What grouping keeps
-/

def Leads (rows leading later : List Json) : Prop :=
  exists before first after, rows = before ++ first :: after ∧ leading.head? = some first ∧
    forall row, row ∈ before -> row ∉ leading ∧ row ∉ later

structure SharedOut (groupBy : List String) (rows : List Json) (shared : List (List Json)) :
    Prop where
  nonempty : forall bucket, bucket ∈ shared -> bucket ≠ []
  perm : shared.flatten.Perm rows
  sublist : forall bucket, bucket ∈ shared -> bucket.Sublist rows
  alike : forall bucket, bucket ∈ shared -> forall r, r ∈ bucket -> forall s, s ∈ bucket ->
    groupKey groupBy r = groupKey groupBy s
  apart : shared.Pairwise fun bucket other => forall r, r ∈ bucket -> forall s, s ∈ other ->
    groupKey groupBy r ≠ groupKey groupBy s
  inOrder : shared.Pairwise (Leads rows)

theorem perm_addToGroup (key : String) (row : Json) :
    forall groups : Groups,
      ((addToGroup key row groups).map Prod.snd).flatten.Perm
        (row :: (groups.map Prod.snd).flatten)
  | [] => List.Perm.refl _
  | (other, members) :: rest => by
      unfold addToGroup
      split
      · have hmove : (members ++ [row] ++ (rest.map Prod.snd).flatten).Perm
            (row :: (members ++ (rest.map Prod.snd).flatten)) := by
          rw [List.append_assoc]
          exact List.perm_middle
        exact hmove
      · have hrest := (perm_addToGroup key row rest).append_left members
        exact hrest.trans List.perm_middle

theorem perm_group (groupBy : List String) (rows : List Json) :
    ((group groupBy rows).map Prod.snd).flatten.Perm rows := by
  induction rows using List.reverseRecOn with
  | nil => exact List.Perm.refl _
  | append_singleton rows row ih =>
      have hstep : group groupBy (rows ++ [row]) =
          addToGroup (groupKey groupBy row) row (group groupBy rows) := by
        unfold group
        rw [List.foldl_append, List.foldl_cons, List.foldl_nil]
      rw [hstep]
      exact ((perm_addToGroup _ row _).trans (ih.cons row)).trans
        (List.perm_append_singleton row rows).symm

theorem perm_buckets (groupBy : List String) (rows : List Json) :
    (buckets groupBy rows).flatten.Perm rows := by
  unfold buckets
  split
  · rw [List.flatten_singleton]
  · exact perm_group groupBy rows

theorem pairwise_distinct (texts : List String) :
    (distinct texts).Pairwise fun leading later =>
      exists before after, texts = before ++ leading :: after ∧
        leading ∉ before ∧ later ∉ before := by
  induction texts using List.reverseRecOn with
  | nil => exact List.Pairwise.nil
  | append_singleton texts last ih =>
      have hseen : (distinct texts).Pairwise fun leading later =>
          exists before after, texts ++ [last] = before ++ leading :: after ∧
            leading ∉ before ∧ later ∉ before := by
        refine ih.imp ?_
        rintro leading later ⟨before, after, htexts, hleading, hlater⟩
        refine ⟨before, after ++ [last], ?_, hleading, hlater⟩
        rw [htexts, List.append_assoc, List.cons_append]
      rw [distinct_concat]
      split
      · exact hseen
      · next hnew =>
          refine List.pairwise_append.mpr ⟨hseen, List.pairwise_singleton _ last, ?_⟩
          intro leading hmem later hlater
          rw [List.mem_singleton.mp hlater]
          rcases List.eq_append_cons_of_mem (mem_distinct.mp hmem) with
            ⟨before, after, htexts, hleading⟩
          refine ⟨before, after ++ [last], ?_, hleading, ?_⟩
          · rw [htexts, List.append_assoc, List.cons_append]
          · intro hbefore
            apply hnew
            rw [mem_distinct, htexts]
            exact List.mem_append_left _ hbefore

theorem head?_withKey {key : String} {before after : List Json} {first : Json}
    (hfirst : groupKey groupBy first = key)
    (hbefore : forall row, row ∈ before -> groupKey groupBy row ≠ key) :
    (withKey groupBy (before ++ first :: after) key).head? = some first := by
  have hnone : withKey groupBy before key = [] := by
    unfold withKey
    rw [List.filter_eq_nil_iff]
    intro row hmem hkey
    exact hbefore row hmem (beq_iff_eq.mp hkey)
  have hsplit : withKey groupBy (before ++ first :: after) key =
      withKey groupBy before key ++ withKey groupBy (first :: after) key :=
    List.filter_append _ _
  rw [hsplit, hnone, List.nil_append]
  unfold withKey
  rw [List.filter_cons, if_pos (beq_iff_eq.mpr hfirst), List.head?_cons]

theorem leads_withKey {key other : String} {before after : List String}
    (hkeys : rows.map (groupKey groupBy) = before ++ key :: after) (hkey : key ∉ before)
    (hother : other ∉ before) :
    Leads rows (withKey groupBy rows key) (withKey groupBy rows other) := by
  rcases List.map_eq_append_iff.mp hkeys with ⟨front, back, hrows, hfront, hback⟩
  rcases List.map_eq_cons_iff.mp hback with ⟨first, rest, hsplit, hfirst, _⟩
  rw [hsplit] at hrows
  have habsent : forall row, row ∈ front -> forall text, text ∉ before ->
      groupKey groupBy row ≠ text := by
    intro row hmem text htext hsame
    apply htext
    rw [← hfront, ← hsame]
    exact List.mem_map_of_mem hmem
  refine ⟨front, first, rest, hrows, ?_, ?_⟩
  · rw [hrows]
    exact head?_withKey hfirst fun row hmem => habsent row hmem key hkey
  · intro row hmem
    constructor
    · intro hin
      exact habsent row hmem key hkey (mem_withKey.mp hin).right
    · intro hin
      exact habsent row hmem other hother (mem_withKey.mp hin).right

theorem sharedOut_buckets (hfields : groupBy ≠ []) (rows : List Json) :
    SharedOut groupBy rows (buckets groupBy rows) where
  nonempty := fun _ hmem => ne_nil_of_mem_buckets hfields hmem
  perm := perm_buckets groupBy rows
  sublist := by
    intro bucket hmem
    rcases (mem_buckets_iff hfields).mp hmem with ⟨row, _, hbucket⟩
    rw [hbucket]
    exact List.filter_sublist
  alike := by
    intro bucket hmem r hr s hs
    rcases (mem_buckets_iff hfields).mp hmem with ⟨row, _, hbucket⟩
    rw [hbucket] at hr hs
    exact (mem_withKey.mp hr).right.trans (mem_withKey.mp hs).right.symm
  apart := by
    rw [buckets_eq hfields, List.pairwise_map]
    refine (nodup_distinct _).imp ?_
    intro key other hne r hr s hs hsame
    rw [(mem_withKey.mp hr).right, (mem_withKey.mp hs).right] at hsame
    exact hne hsame
  inOrder := by
    rw [buckets_eq hfields, List.pairwise_map]
    refine (pairwise_distinct _).imp ?_
    rintro key other ⟨before, after, hkeys, hkey, hother⟩
    exact leads_withKey hkeys hkey hother

/-!
# An index of groups

The bucket of a row need not be searched for when an index tells, for every key
so far, at which place its bucket is.
-/

structure Filing where
  index : Table String Nat
  files : List (List Json)

namespace Filing

def empty : Filing :=
  ⟨∅, []⟩

def file (groupBy : List String) (filing : Filing) (row : Json) : Filing :=
  match filing.index.get? (groupKey groupBy row) with
  | some place => ⟨filing.index, filing.files.modify place (· ++ [row])⟩
  | none =>
      ⟨filing.index.set (groupKey groupBy row) filing.files.length, filing.files ++ [[row]]⟩

def fileAll (groupBy : List String) (rows : List Json) : Filing :=
  rows.foldl (file groupBy) empty

/-- The index leads to the files of all keys so far, and each file holds the rows of its key. -/
structure Indexes (groupBy : List String) (rows : List Json) (filing : Filing) : Prop where
  places : forall key,
    filing.index.get? key = (distinct (rows.map (groupKey groupBy))).idxOf? key
  files_eq : filing.files =
    (distinct (rows.map (groupKey groupBy))).map (withKey groupBy rows)

theorem indexes_empty (groupBy : List String) : Indexes groupBy [] empty where
  places := fun _ => rfl
  files_eq := rfl

variable {filing : Filing}

theorem indexes_file_of_some (hindexes : Indexes groupBy rows filing) {row : Json} {place : Nat}
    (hget : filing.index.get? (groupKey groupBy row) = some place) :
    Indexes groupBy (rows ++ [row])
      ⟨filing.index, filing.files.modify place (· ++ [row])⟩ := by
  rw [hindexes.places, List.idxOf?_eq_some_iff] at hget
  rcases hget with ⟨hlt, hkey, _⟩
  have hkeys : distinct ((rows ++ [row]).map (groupKey groupBy)) =
      distinct (rows.map (groupKey groupBy)) := by
    rw [List.map_append, List.map_singleton, distinct_concat,
      if_pos (List.mem_of_getElem hkey)]
  constructor
  · rw [hkeys]
    exact hindexes.places
  · rw [hkeys, hindexes.files_eq]
    apply List.ext_getElem
    · rw [List.length_modify, List.length_map, List.length_map]
    · intro i hi _
      rw [List.getElem_modify, List.getElem_map, List.getElem_map, withKey_concat]
      rw [List.length_modify, List.length_map] at hi
      by_cases hsame : place = i
      · subst hsame
        rw [if_pos rfl, if_pos hkey.symm]
      · have hne : groupKey groupBy row ≠ (distinct (rows.map (groupKey groupBy)))[i] := by
          rw [← hkey]
          intro htexts
          exact hsame ((nodup_distinct _).getElem_inj_iff.mp htexts)
        rw [if_neg hsame, if_neg hne]

theorem indexes_file_of_none (hindexes : Indexes groupBy rows filing) {row : Json}
    (hget : filing.index.get? (groupKey groupBy row) = none) :
    Indexes groupBy (rows ++ [row])
      ⟨filing.index.set (groupKey groupBy row) filing.files.length, filing.files ++ [[row]]⟩ := by
  rw [hindexes.places] at hget
  have hnew : groupKey groupBy row ∉ distinct (rows.map (groupKey groupBy)) :=
    List.idxOf?_eq_none_iff.mp hget
  have hkeys : distinct ((rows ++ [row]).map (groupKey groupBy)) =
      distinct (rows.map (groupKey groupBy)) ++ [groupKey groupBy row] := by
    rw [List.map_append, List.map_singleton, distinct_concat, if_neg hnew]
  constructor
  · intro key
    have hlength : filing.files.length = (distinct (rows.map (groupKey groupBy))).length := by
      rw [hindexes.files_eq, List.length_map]
    rw [hkeys, Table.get?_set, hindexes.places, hlength]
    unfold List.idxOf? at hget ⊢
    rw [List.findIdx?_append, List.findIdx?_singleton]
    by_cases hsame : groupKey groupBy row = key
    · rw [← hsame, if_pos rfl, hget, if_pos (beq_self_eq_true _)]
      simp
    · rw [if_neg hsame, if_neg (by simpa using hsame)]
      simp
  · have hold : forall key, key ∈ distinct (rows.map (groupKey groupBy)) ->
        withKey groupBy (rows ++ [row]) key = withKey groupBy rows key := by
      intro key hmem
      have hne : groupKey groupBy row ≠ key := by
        intro hsame
        rw [hsame] at hnew
        exact hnew hmem
      rw [withKey_concat, if_neg hne]
    rw [hkeys, hindexes.files_eq, List.map_append, List.map_singleton, withKey_of_new hnew,
      List.map_congr_left hold]

theorem indexes_file (hindexes : Indexes groupBy rows filing) (row : Json) :
    Indexes groupBy (rows ++ [row]) (filing.file groupBy row) := by
  unfold file
  cases hget : filing.index.get? (groupKey groupBy row) with
  | some place => exact indexes_file_of_some hindexes hget
  | none => exact indexes_file_of_none hindexes hget

theorem indexes_fileAll (groupBy : List String) (rows : List Json) :
    Indexes groupBy rows (fileAll groupBy rows) := by
  induction rows using List.reverseRecOn with
  | nil => exact indexes_empty groupBy
  | append_singleton rows row ih =>
      have hstep : fileAll groupBy (rows ++ [row]) = (fileAll groupBy rows).file groupBy row := by
        unfold fileAll
        rw [List.foldl_append, List.foldl_cons, List.foldl_nil]
      rw [hstep]
      exact indexes_file ih row

theorem files_fileAll (hfields : groupBy ≠ []) (rows : List Json) :
    (fileAll groupBy rows).files = buckets groupBy rows := by
  rw [(indexes_fileAll groupBy rows).files_eq, buckets_eq hfields]

end Filing

/-!
# Numbers of rows
-/

/-- A metric that gives the number of all rows of a group. -/
def Metric.IsBareCount (metric : Metric) : Prop :=
  metric.function = .count ∧ (metric.field.getD "").isEmpty = true

theorem compute_of_isBareCount {metric : Metric} (hbare : metric.IsBareCount)
    (members : List Json) : metric.compute members = .ofNat members.length := by
  unfold Metric.compute
  rw [hbare.left]
  exact if_pos hbare.right

theorem sum_length_buckets (groupBy : List String) (rows : List Json) :
    ((buckets groupBy rows).map List.length).sum = rows.length := by
  rw [← List.length_flatten]
  exact (perm_buckets groupBy rows).length_eq

def countIn (name : String) (row : Json) : Nat :=
  match column name row with
  | .number (.integer n) => n.toNat
  | _ => 0

theorem countIn_of_column {name : String} {row : Json} {n : Nat}
    (hcolumn : column name row = .ofNat n) : countIn name row = n := by
  unfold countIn
  rw [hcolumn]
  rfl

namespace Aggregation

variable {a : Aggregation}

theorem column_summarize {before after : List Metric} {metric : Metric}
    (hmetrics : a.metrics = before ++ metric :: after)
    (hlast : metric.outputName ∉ after.map Metric.outputName) (members : List Json) :
    column metric.outputName (a.summarize members) = metric.compute members := by
  have hafter : Dictionary.find?
      (after.map fun other => (other.outputName, other.compute members)).reverse
      metric.outputName = none := by
    rw [← Option.not_isSome_iff_eq_none, Dictionary.isSome_find?_iff, List.map_reverse,
      List.mem_reverse, List.map_map]
    exact hlast
  unfold column
  rw [get?_summarize, columns, hmetrics, List.map_append, List.map_cons, ← List.append_assoc,
    List.reverse_append, List.reverse_cons, List.append_assoc, Dictionary.find?_append, hafter,
    List.singleton_append, Dictionary.find?_cons, if_pos rfl]
  rfl

theorem perm_table (hcolumns : a.isPassThrough = false) (input : Json) :
    (a.table input).Perm
      ((buckets a.groupBy (filterRows a.filters (coerce input))).map a.summarize) := by
  unfold table
  rw [summaries_eq hcolumns]
  exact perm_sortRows _ _

end Aggregation

/--
Grouping shares rows out: without fields there is one bucket of all rows, and
otherwise each row goes to the bucket of its key, in the order of the input, as
an index of the keys would have it.  So in an aggregation that is not cut to a
limit the bare counts of all groups add up to the number of rows that pass the
filters.
-/
theorem rows_shared_out :
    (forall rows, buckets [] rows = [rows]) ∧
      (forall groupBy rows, groupBy ≠ [] ->
        SharedOut groupBy rows (buckets groupBy rows) ∧
          (Filing.fileAll groupBy rows).files = buckets groupBy rows) ∧
      forall (a : Aggregation) (input : Json), a.fault? = none -> a.limit = none ->
        forall before metric after, a.metrics = before ++ metric :: after ->
          metric.IsBareCount -> metric.outputName ∉ after.map Metric.outputName ->
            exists out, a.apply input = .ok out ∧
              (forall row, row ∈ out.rows -> column metric.outputName row =
                Json.ofNat (countIn metric.outputName row)) ∧
              (out.rows.map (countIn metric.outputName)).sum =
                (filterRows a.filters (coerce input)).length := by
  refine ⟨fun _ => rfl, ?_, ?_⟩
  · intro groupBy rows hfields
    exact ⟨sharedOut_buckets hfields rows, Filing.files_fileAll hfields rows⟩
  · intro a input hvalid hlimit before metric after hmetrics hbare hlast
    have hname : metric.outputName ∈ a.columnNames := by
      apply List.mem_append_right
      rw [hmetrics]
      exact List.mem_map_of_mem (List.mem_append_right before List.mem_cons_self)
    have hcolumns : a.isPassThrough = false := Aggregation.isPassThrough_eq_false hname
    have hcolumn : forall members,
        column metric.outputName (a.summarize members) = .ofNat members.length := by
      intro members
      rw [Aggregation.column_summarize hmetrics hlast, compute_of_isBareCount hbare]
    have happly := Aggregation.apply_of_valid hvalid input
    have hperm := Aggregation.perm_table hcolumns input
    rw [hlimit] at happly
    refine ⟨_, happly, ?_, ?_⟩
    · intro row hrow
      rcases List.mem_map.mp (hperm.mem_iff.mp hrow) with ⟨members, _, hsame⟩
      rw [← hsame, countIn_of_column (hcolumn members)]
      exact hcolumn members
    · have hcounts : (countIn metric.outputName ∘ a.summarize) = List.length :=
        funext fun members => countIn_of_column (hcolumn members)
      calc ((a.table input).map (countIn metric.outputName)).sum
          = (((buckets a.groupBy (filterRows a.filters (coerce input))).map a.summarize).map
              (countIn metric.outputName)).sum := (hperm.map _).sum_eq
        _ = ((buckets a.groupBy (filterRows a.filters (coerce input))).map List.length).sum := by
            rw [List.map_map, hcounts]
        _ = (filterRows a.filters (coerce input)).length := sum_length_buckets _ _

namespace Tickets

def ticket (status : String) : Json :=
  .object [("status", .text status)]

def tickets : Json :=
  .array [ticket "open", ticket "closed", ticket "pending", ticket "open"]

def counting : Metric :=
  ⟨none, .count, none, none⟩

/-- How many tickets there are of each status but one, the most frequent status first. -/
def unclosed : Aggregation :=
  ⟨["status"], [counting], [⟨"status", .notEquals, .text "closed"⟩], [⟨"count", .descending⟩],
    none⟩

theorem rows_shared_out_unclosed :
    let rows := filterRows unclosed.filters (coerce tickets)
    unclosed.groupBy ≠ [] ∧ SharedOut unclosed.groupBy rows (buckets unclosed.groupBy rows) ∧
      (buckets unclosed.groupBy rows).map List.length = [2, 1] ∧ unclosed.fault? = none ∧
      unclosed.limit = none ∧ unclosed.metrics = [] ++ counting :: [] ∧ counting.IsBareCount ∧
      counting.outputName ∉ ([] : List Metric).map Metric.outputName ∧
      exists out, unclosed.apply tickets = .ok out ∧
        (out.rows.map (countIn counting.outputName)).sum = 3 := by
  intro rows
  have hfields : unclosed.groupBy ≠ [] := List.cons_ne_nil _ _
  have hbare : counting.IsBareCount := ⟨rfl, rfl⟩
  have hlast : counting.outputName ∉ ([] : List Metric).map Metric.outputName := List.not_mem_nil
  have hlengths : (buckets unclosed.groupBy rows).map List.length = [2, 1] := by decide +kernel
  have hrows : rows.length = 3 := by decide +kernel
  obtain ⟨_, hshared, hcounts⟩ := rows_shared_out
  obtain ⟨out, hout, _, hsum⟩ := hcounts unclosed tickets rfl rfl [] counting [] rfl hbare hlast
  exact ⟨hfields, (hshared _ rows hfields).left, hlengths, rfl, rfl, rfl, hbare, hlast, out, hout,
    hsum.trans hrows⟩

end Tickets

end Rows
end QueryGateway
