import QueryGateway.Proofs.Dictionary
import QueryGateway.Proofs.Json.Path
import QueryGateway.Proofs.Rows.Grouping
import QueryGateway.Proofs.Rows.Sorting

/-!
# Columns of aggregated rows

A group becomes a row with a column for each grouping field and for each metric.
Of columns of one name only the last is in the row.  A sort key reaches a column
by a path, so it reaches those that are named without dots; a name with dots
leads into the column named by its first part, and nowhere when there is none.
-/

namespace QueryGateway
namespace Rows

open Json (Plain leading)

def column (name : String) (row : Json) : Json :=
  (row.get? name).getD .null

def width : Json -> Nat
  | .object members => members.length
  | _ => 0

namespace Aggregation

variable {a : Aggregation}

/-!
# The row of a group
-/

def columnNames (a : Aggregation) : List String :=
  a.groupBy ++ a.metrics.map Metric.outputName

def groupingColumns (a : Aggregation) : List Json -> List (String × Json)
  | [] => []
  | first :: _ => a.groupBy.map fun field => (field, fieldOf first field)

/-- The declared columns of a group, in the order in which they are set. -/
def columns (a : Aggregation) (members : List Json) : List (String × Json) :=
  a.groupingColumns members ++
    a.metrics.map fun metric => (metric.outputName, metric.compute members)

theorem summarize_eq (a : Aggregation) (members : List Json) :
    a.summarize members = .object (Dictionary.ofList (a.columns members)) := by
  cases members with
  | nil => rfl
  | cons first rest => rfl

/-- Some rows, or no field whose value they would have to give. -/
def Grouped (a : Aggregation) (members : List Json) : Prop :=
  a.groupBy ≠ [] -> members ≠ []

theorem grouped_of_mem {rows members : List Json} (hmem : members ∈ buckets a.groupBy rows) :
    a.Grouped members := by
  intro hfields
  exact ne_nil_of_mem_buckets hfields hmem

theorem map_fst_columns {members : List Json} (hgrouped : a.Grouped members) :
    (a.columns members).map Prod.fst = a.columnNames := by
  have hmetrics : (a.metrics.map fun metric => (metric.outputName, metric.compute members)).map
      Prod.fst = a.metrics.map Metric.outputName := by
    rw [List.map_map]
    rfl
  have hgrouping : (a.groupingColumns members).map Prod.fst = a.groupBy := by
    cases members with
    | nil =>
        by_contra hne
        exact hgrouped (fun hnil => hne hnil.symm) rfl
    | cons first rest =>
        show (a.groupBy.map fun field => (field, fieldOf first field)).map Prod.fst = _
        rw [List.map_map]
        exact List.map_id _
  unfold columns columnNames
  rw [List.map_append, hmetrics, hgrouping]

theorem get?_summarize (a : Aggregation) (members : List Json) (name : String) :
    (a.summarize members).get? name =
      Dictionary.find? (a.columns members).reverse name := by
  rw [summarize_eq]
  exact Dictionary.find?_ofList _ _

theorem isSome_get?_summarize {members : List Json} (hgrouped : a.Grouped members)
    (name : String) :
    ((a.summarize members).get? name).isSome = true ↔ name ∈ a.columnNames := by
  rw [summarize_eq, ← map_fst_columns hgrouped]
  exact Dictionary.isSome_find?_ofList_iff _ _

theorem lookup_summarize_of_plain {name : String} (hplain : Plain name) (members : List Json) :
    (a.summarize members).lookup name = (a.summarize members).get? name := by
  rw [summarize_eq]
  exact Json.lookup_of_plain hplain _

theorem lookup_summarize {name : String} (hne : name ≠ "") (members : List Json) :
    (a.summarize members).lookup name =
      ((a.summarize members).get? (leading name)).bind fun value =>
        (Json.segments name).tail.foldlM Json.step? value := by
  rw [summarize_eq]
  exact Json.lookup_object hne _

theorem lookup_summarize_eq_none {members : List Json} (hgrouped : a.Grouped members)
    {name : String} (hne : name ≠ "") (hleading : leading name ∉ a.columnNames) :
    (a.summarize members).lookup name = none := by
  have hnone : (a.summarize members).get? (leading name) = none := by
    rw [← isSome_get?_summarize hgrouped, Option.not_isSome_iff_eq_none] at hleading
    exact hleading
  rw [summarize_eq] at hnone ⊢
  exact Json.lookup_eq_none hne hnone

/-!
# The rows of an aggregation
-/

/-- The rows in their order, before they are cut to a limit. -/
def table (a : Aggregation) (input : Json) : List Json :=
  sortRows a.sort (a.summaries (filterRows a.filters (coerce input)))

theorem apply_of_valid (hvalid : a.fault? = none) (input : Json) :
    a.apply input =
      .ok ⟨cutTo a.limit (a.table input), a.groupBy, a.metrics.map Metric.outputName,
        (coerce input).length, (cutTo a.limit (a.table input)).length⟩ := by
  unfold apply
  rw [hvalid]
  rfl

theorem cutTo_subset (limit : Option UInt64) (rows : List Json) : cutTo limit rows ⊆ rows := by
  cases limit with
  | none => exact List.Subset.refl rows
  | some n => exact List.take_subset _ _

theorem summaries_eq (hcolumns : a.isPassThrough = false) (rows : List Json) :
    a.summaries rows = (buckets a.groupBy rows).map a.summarize := by
  unfold summaries
  rw [hcolumns, if_neg Bool.false_ne_true]

theorem mem_table (hcolumns : a.isPassThrough = false) {input row : Json}
    (hmem : row ∈ a.table input) :
    exists members, members ∈ buckets a.groupBy (filterRows a.filters (coerce input)) ∧
      a.Grouped members ∧ row = a.summarize members := by
  unfold table at hmem
  rw [mem_sortRows, summaries_eq hcolumns, List.mem_map] at hmem
  rcases hmem with ⟨members, hbucket, hrow⟩
  exact ⟨members, hbucket, grouped_of_mem hbucket, hrow.symm⟩

/-!
# No column is lost
-/

/-- A row has all the columns declared for a group, and no other. -/
structure Describes (a : Aggregation) (first : Json) (rest : List Json) (row : Json) : Prop where
  grouping : forall field, field ∈ a.groupBy -> row.get? field = some (fieldOf first field)
  metrics : forall metric, metric ∈ a.metrics ->
    row.get? metric.outputName = some (metric.compute (first :: rest))
  width_eq : width row = a.groupBy.length + a.metrics.length

theorem length_columns (a : Aggregation) (first : Json) (rest : List Json) :
    (a.columns (first :: rest)).length = a.groupBy.length + a.metrics.length := by
  unfold columns groupingColumns
  rw [List.length_append, List.length_map, List.length_map]

theorem describes_iff_nodup (a : Aggregation) (first : Json) (rest : List Json) :
    a.Describes first rest (a.summarize (first :: rest)) ↔ a.columnNames.Nodup := by
  have hnames : (a.columns (first :: rest)).map Prod.fst = a.columnNames :=
    map_fst_columns fun _ => List.cons_ne_nil first rest
  have hwidth := Dictionary.length_ofList_eq_iff (a.columns (first :: rest))
  rw [hnames, length_columns] at hwidth
  rw [summarize_eq]
  constructor
  · intro hdescribes
    exact hwidth.mp hdescribes.width_eq
  · intro hnodup
    have hcolumns : ((a.columns (first :: rest)).map Prod.fst).Nodup := by
      rw [hnames]
      exact hnodup
    refine ⟨?_, ?_, hwidth.mpr hnodup⟩
    · intro field hmem
      apply Dictionary.find?_ofList_of_mem hcolumns
      exact List.mem_append_left _ (List.mem_map.mpr ⟨field, hmem, rfl⟩)
    · intro metric hmem
      apply Dictionary.find?_ofList_of_mem hcolumns
      exact List.mem_append_right _ (List.mem_map.mpr ⟨metric, hmem, rfl⟩)

/--
Each row of an aggregation stands for a group.  It has a column of its own for
every grouping field and metric exactly if their names are all different;
otherwise under each name there is the last column declared with it.
-/
theorem rows_describe_groups (hvalid : a.fault? = none) (hcolumns : a.isPassThrough = false)
    (input : Json) :
    exists out, a.apply input = .ok out ∧ out.rows = cutTo a.limit (a.table input) ∧
      out.groupBy = a.groupBy ∧ out.metrics = a.metrics.map Metric.outputName ∧
      forall row, row ∈ out.rows -> exists members,
        members ∈ buckets a.groupBy (filterRows a.filters (coerce input)) ∧
        row = a.summarize members ∧
        (forall first rest, members = first :: rest ->
          (a.Describes first rest row ↔ a.columnNames.Nodup)) ∧
        forall name, row.get? name = Dictionary.find? (a.columns members).reverse name := by
  refine ⟨_, apply_of_valid hvalid input, rfl, rfl, rfl, ?_⟩
  intro row hrow
  rcases mem_table hcolumns (cutTo_subset _ _ hrow) with ⟨members, hbucket, _, hsame⟩
  refine ⟨members, hbucket, hsame, ?_, ?_⟩
  · intro first rest hmembers
    rw [hsame, hmembers]
    exact describes_iff_nodup a first rest
  · intro name
    rw [hsame]
    exact get?_summarize a members name

namespace Overwriting

def box : Json :=
  .object [("count", Json.ofNat 7)]

def boxes : Json :=
  .array [box, box]

def counted (label : Option String) : Aggregation :=
  ⟨["count"], [⟨none, .count, label, none⟩], [], [], none⟩

theorem rows_describe_groups_labelled :
    let a := counted (some "boxes")
    a.fault? = none ∧ a.isPassThrough = false ∧
      exists out, a.apply boxes = .ok out ∧ out.rows.length = 1 ∧ forall row, row ∈ out.rows ->
        exists members, members ∈ buckets a.groupBy (filterRows a.filters (coerce boxes)) ∧
          forall first rest, members = first :: rest -> a.Describes first rest row := by
  intro a
  have hnodup : a.columnNames.Nodup := by decide
  have hlength : (cutTo a.limit (a.table boxes)).length = 1 := by decide +kernel
  obtain ⟨out, hout, htable, _, _, hrows⟩ := @rows_describe_groups a rfl rfl boxes
  rw [← htable] at hlength
  refine ⟨rfl, rfl, out, hout, hlength, ?_⟩
  intro row hrow
  rcases hrows row hrow with ⟨members, hbucket, _, hdescribes, _⟩
  refine ⟨members, hbucket, ?_⟩
  intro first rest hmembers
  exact (hdescribes first rest hmembers).mpr hnodup

/-- Without a label the number of boxes takes the place of the count by which they are grouped. -/
theorem count_overwritten :
    let a := counted none
    a.fault?.isNone = true ∧ a.groupBy.Nodup ∧ a.columnNames = ["count", "count"] ∧
      (a.table boxes).map width = [1] ∧
      (a.table boxes).map (fun row => asText (column "count" row)) = ["2"] ∧
      asText (fieldOf box "count") = "7" := by
  decide +kernel

end Overwriting

/-!
# Columns reached by a sort key
-/

theorem exists_column (hcolumns : a.isPassThrough = false) {input row : Json}
    (hrow : row ∈ a.table input) {name : String} (hname : name ∈ a.columnNames) :
    exists value, row.get? name = some value := by
  rcases mem_table hcolumns hrow with ⟨members, _, hgrouped, hsame⟩
  rw [hsame]
  exact Option.isSome_iff_exists.mp ((isSome_get?_summarize hgrouped name).mpr hname)

theorem lookup_of_plain (hcolumns : a.isPassThrough = false) {input row : Json}
    (hrow : row ∈ a.table input) {name : String} (hplain : Plain name) :
    row.lookup name = row.get? name := by
  rcases mem_table hcolumns hrow with ⟨members, _, _, hsame⟩
  rw [hsame]
  exact lookup_summarize_of_plain hplain members

theorem lookup_eq_none (hcolumns : a.isPassThrough = false) {input row : Json}
    (hrow : row ∈ a.table input) {name : String} (hne : name ≠ "")
    (hleading : leading name ∉ a.columnNames) : row.lookup name = none := by
  rcases mem_table hcolumns hrow with ⟨members, _, hgrouped, hsame⟩
  rw [hsame]
  exact lookup_summarize_eq_none hgrouped hne hleading

theorem lookup_eq (hcolumns : a.isPassThrough = false) {input row : Json}
    (hrow : row ∈ a.table input) {name : String} (hne : name ≠ "") :
    row.lookup name = (row.get? (leading name)).bind fun value =>
      (Json.segments name).tail.foldlM Json.step? value := by
  rcases mem_table hcolumns hrow with ⟨members, _, _, hsame⟩
  rw [hsame]
  exact lookup_summarize hne members

theorem pairwise_table (input : Json) {name : String} (hsort : a.sort = [⟨name, .ascending⟩])
    (hkind : OneKind ((a.table input).map fun row => fieldOf row name)) :
    (a.table input).Pairwise fun r s =>
      (compareValues (fieldOf r name) (fieldOf s name)).isLE = true := by
  have hstraight : SortKey.Straight ⟨name, .ascending⟩ (a.table input) :=
    straight_of_oneKind hkind
  have hkeys : forall key, key ∈ a.sort ->
      key.Straight (a.summaries (filterRows a.filters (coerce input))) := by
    intro key hmem
    rw [hsort] at hmem
    rw [List.mem_singleton.mp hmem]
    exact hstraight.of_subset fun row hrow => mem_sortRows.mpr hrow
  have hpairwise : (a.table input).Pairwise fun r s => (compareRows a.sort r s).isLE = true :=
    pairwise_sortRows (transitiveOn_of_straight hkeys)
  refine hpairwise.imp ?_
  intro r s hle
  rw [hsort, compareRows_singleton] at hle
  exact hle

theorem pairwise_table_of_plain (hcolumns : a.isPassThrough = false) (input : Json)
    {name : String} (hplain : Plain name) (hsort : a.sort = [⟨name, .ascending⟩])
    (hkind : OneKind ((a.table input).map (column name))) :
    (a.table input).Pairwise fun r s =>
      (compareValues (column name r) (column name s)).isLE = true := by
  have hfield : forall row, row ∈ a.table input -> fieldOf row name = column name row := by
    intro row hrow
    unfold column
    rw [← lookup_of_plain hcolumns hrow hplain]
    rfl
  rw [← List.map_congr_left hfield] at hkind
  refine List.Pairwise.imp_of_mem ?_ (pairwise_table input hsort hkind)
  intro r s hr hs hle
  rwa [hfield r hr, hfield s hs] at hle

theorem table_of_unreached (hcolumns : a.isPassThrough = false) (input : Json) {name : String}
    (hne : name ≠ "") (hleading : leading name ∉ a.columnNames)
    (hsort : a.sort = [⟨name, .ascending⟩]) :
    a.table input = (buckets a.groupBy (filterRows a.filters (coerce input))).map a.summarize := by
  have hnull : forall row, row ∈ a.table input -> fieldOf row name = .null := by
    intro row hrow
    show (row.lookup name).getD .null = .null
    rw [lookup_eq_none hcolumns hrow hne hleading]
    rfl
  rw [← summaries_eq hcolumns]
  apply sortRows_of_ordered
  apply List.pairwise_of_forall_mem_list
  intro r hr s hs
  show (compareRows a.sort s r == .lt) = false
  rw [hsort, compareRows_singleton]
  show (compareValues (fieldOf s name) (fieldOf r name) == .lt) = false
  rw [hnull r (mem_sortRows.mpr hr), hnull s (mem_sortRows.mpr hs)]
  rfl

theorem isPassThrough_eq_false {name : String} (hname : name ∈ a.columnNames) :
    a.isPassThrough = false := by
  rw [← Bool.not_eq_true]
  intro hpass
  unfold isPassThrough at hpass
  rw [Bool.and_eq_true, List.isEmpty_iff, List.isEmpty_iff] at hpass
  unfold columnNames at hname
  rw [hpass.left, hpass.right] at hname
  cases hname

/--
Every row has a column of each declared name.  A path finds it there if the name
is plain, and finds nothing if the name has dots and no column is named by its
first part; where one is, the path leads into this column, and the empty path is
the row itself.  Rows sorted by values of one kind are in the order of the values
that the key finds: those of the column in the first case, none in the second, so
that the rows stay in the order of their groups.
-/
theorem columns_reached (hvalid : a.fault? = none) (input : Json) :
    exists out, a.apply input = .ok out ∧ out.rows = cutTo a.limit (a.table input) ∧
      (forall name, name ∈ a.columnNames -> forall row, row ∈ a.table input ->
        (exists value, row.get? name = some value) ∧
        (Plain name -> row.lookup name = row.get? name) ∧
        (name ≠ "" -> leading name ∉ a.columnNames -> row.lookup name = none) ∧
        (name ≠ "" -> row.lookup name = (row.get? (leading name)).bind fun value =>
          (Json.segments name).tail.foldlM Json.step? value) ∧
        (name = "" -> row.lookup name = some row)) ∧
      forall name, name ∈ a.columnNames -> a.sort = [⟨name, .ascending⟩] ->
        (Plain name -> OneKind ((a.table input).map (column name)) ->
          (a.table input).Pairwise fun r s =>
            (compareValues (column name r) (column name s)).isLE = true) ∧
        (OneKind ((a.table input).map fun row => fieldOf row name) ->
          (a.table input).Pairwise fun r s =>
            (compareValues (fieldOf r name) (fieldOf s name)).isLE = true) ∧
        (name ≠ "" -> leading name ∉ a.columnNames ->
          a.table input =
            (buckets a.groupBy (filterRows a.filters (coerce input))).map a.summarize) := by
  refine ⟨_, apply_of_valid hvalid input, rfl, ?_, ?_⟩
  · intro name hname row hrow
    have hcolumns := isPassThrough_eq_false hname
    refine ⟨exists_column hcolumns hrow hname, lookup_of_plain hcolumns hrow,
      lookup_eq_none hcolumns hrow, lookup_eq hcolumns hrow, ?_⟩
    intro hempty
    rw [hempty]
    rfl
  · intro name hname hsort
    have hcolumns := isPassThrough_eq_false hname
    refine ⟨?_, pairwise_table input hsort, ?_⟩
    · intro hplain hkind
      exact pairwise_table_of_plain hcolumns input hplain hsort hkind
    · intro hne hleading
      exact table_of_unreached hcolumns input hne hleading hsort

namespace Nested

def issue (status : String) : Json :=
  .object [("fields", .object [("status", .text status)]), ("status", .text status)]

def issues : Json :=
  .array [issue "open", issue "closed", issue "open"]

def countedBy (field : String) : Aggregation :=
  ⟨[field], [⟨none, .count, none, none⟩], [], [⟨field, .ascending⟩], none⟩

theorem columns_reached_status :
    let a := countedBy "status"
    a.fault? = none ∧
      (a.table issues).Pairwise fun r s =>
        (compareValues (column "status" r) (column "status" s)).isLE = true := by
  intro a
  have hname : "status" ∈ a.columnNames := List.mem_cons_self
  have hplain : Plain "status" := by decide
  have hkind : OneKind ((a.table issues).map (column "status")) := by
    right
    decide +kernel
  obtain ⟨_, _, _, _, hsorted⟩ := @columns_reached a rfl issues
  exact ⟨rfl, (hsorted "status" hname rfl).left hplain hkind⟩

/-- Both groups have the column by which they are to be sorted, but its key does not find it. -/
theorem sorted_by_no_column :
    let a := countedBy "fields.status"
    a.fault?.isNone = true ∧ a.columnNames.Nodup ∧
      (a.table issues).map (fun row => asText (column "fields.status" row)) = ["open", "closed"] ∧
      (a.table issues).map (fun row => (row.lookup "fields.status").isNone) = [true, true] ∧
      compareValues (.text "open") (.text "closed") = .gt := by
  decide +kernel

end Nested

end Aggregation

end Rows
end QueryGateway
