import QueryGateway.Failure
import QueryGateway.Rows.Filter
import QueryGateway.Rows.Metrics
import QueryGateway.Rows.Sort

/-!
# Aggregation

Rows are filtered, grouped by the texts of the values at the grouping fields in
the order in which the groups first appear, and each group becomes one row of
its grouping values and metrics; these rows are sorted and cut to a limit.
Without grouping fields and metrics the filtered rows themselves go on.
-/

namespace QueryGateway
namespace Rows

structure Aggregated where
  rows : List Json
  groupBy : List String
  metrics : List String
  countBefore : Nat
  processedCount : Nat

namespace Aggregated

/-- The rows under `data`, where a further step looks for them, beside an account. -/
def toJson (a : Aggregated) : Json :=
  .ofMembers
    [("data", .array a.rows),
     ("metadata", .ofMembers
       [("group_by", .ofTexts a.groupBy), ("metrics", .ofTexts a.metrics),
        ("original_count", .ofNat a.countBefore),
        ("processed_count", .ofNat a.processedCount)])]

end Aggregated

/-!
## Which aggregations can be evaluated
-/

def Metric.lacksField (metric : Metric) : Bool :=
  metric.function.requiresField && (metric.field.getD "").isEmpty

/-- The first fault of an aggregation: an empty grouping field, or a metric without its field. -/
def Aggregation.fault? (a : Aggregation) : Option Failure :=
  match a.groupBy.find? String.isEmpty with
  | some _ => some (.validation "aggregation group_by contains an empty field name: \"\"")
  | none =>
      (a.metrics.find? Metric.lacksField).map fun metric =>
        .validation ("aggregation metric '" ++ metric.function.name ++ "' requires a field")

/-!
## Grouping
-/

def groupKey (groupBy : List String) (row : Json) : String :=
  "|".intercalate (groupBy.map fun field => asText (fieldOf row field))

/-- Groups by key, in the order of their first rows. -/
abbrev Groups := List (String × List Json)

def addToGroup (key : String) (row : Json) : Groups -> Groups
  | [] => [(key, [row])]
  | (other, members) :: rest =>
      if other = key then
        (other, members ++ [row]) :: rest
      else
        (other, members) :: addToGroup key row rest

def group (groupBy : List String) (rows : List Json) : Groups :=
  rows.foldl (fun groups row => addToGroup (groupKey groupBy row) row groups) []

/-- The groups of rows; without grouping fields one group of all of them. -/
def buckets (groupBy : List String) (rows : List Json) : List (List Json) :=
  if groupBy.isEmpty then [rows] else (group groupBy rows).map Prod.snd

def Aggregation.summarize (a : Aggregation) (members : List Json) : Json :=
  let grouping : List (String × Json) :=
    match members with
    | [] => []
    | first :: _ => a.groupBy.map fun field => (field, fieldOf first field)
  let metrics := a.metrics.map fun metric => (metric.outputName, metric.compute members)
  .ofMembers (grouping ++ metrics)

/-!
## The whole
-/

def Aggregation.isPassThrough (a : Aggregation) : Bool :=
  a.groupBy.isEmpty && a.metrics.isEmpty

def Aggregation.summaries (a : Aggregation) (rows : List Json) : List Json :=
  if a.isPassThrough then rows else (buckets a.groupBy rows).map a.summarize

def cutTo (limit : Option UInt64) (rows : List Json) : List Json :=
  match limit with
  | none => rows
  | some n => rows.take n.toNat

def Aggregation.apply (a : Aggregation) (input : Json) : Except Failure Aggregated :=
  match a.fault? with
  | some failure => .error failure
  | none =>
      let rows := coerce input
      let output := cutTo a.limit (sortRows a.sort (a.summaries (filterRows a.filters rows)))
      .ok ⟨output, a.groupBy, a.metrics.map Metric.outputName, rows.length, output.length⟩

end Rows
end QueryGateway
