import QueryGateway.Schema.Choice

/-!
# Declared transformations

What a system may declare to be done with the rows of a response: filtering by
predicates, projecting onto named fields, sorting, and aggregating.  Each
declaration is read from JSON and written back to it.
-/

namespace QueryGateway
namespace Rows

open Schema

/-!
## Predicates
-/

inductive Operator where
  | equals
  | notEquals
  | contains
  | startsWith
  | endsWith
  | greaterThan
  | lessThan
  | greaterEqual
  | lessEqual
  | member
  | notMember
  | isNull
  | isNotNull
deriving DecidableEq, Repr

namespace Operator

def name : Operator -> String
  | .equals => "equals"
  | .notEquals => "not_equals"
  | .contains => "contains"
  | .startsWith => "starts_with"
  | .endsWith => "ends_with"
  | .greaterThan => "greater_than"
  | .lessThan => "less_than"
  | .greaterEqual => "greater_equal"
  | .lessEqual => "less_equal"
  | .member => "in"
  | .notMember => "not_in"
  | .isNull => "is_null"
  | .isNotNull => "is_not_null"

def all : List Operator :=
  [.equals, .notEquals, .contains, .startsWith, .endsWith, .greaterThan, .lessThan,
   .greaterEqual, .lessEqual, .member, .notMember, .isNull, .isNotNull]

def choice : Choice Operator :=
  ⟨all.map fun operator => (operator.name, operator), none⟩

def reader : Reader Operator :=
  choice.reader

def toJson (operator : Operator) : Json :=
  .text operator.name

end Operator

structure Predicate where
  field : String
  operator : Operator
  value : Json

namespace Predicate

def record : Record (String × Operator × Json × Unit) :=
  .cons (.required "field" readText)
    (.cons (.required "operator" Operator.reader)
      (.cons (.withDefault "value" readJson .null) .nil))

def reader : Reader Predicate := fun origin doc =>
  (record.reader "struct FilterPredicate" origin doc).map fun (field, operator, value, _) =>
    ⟨field, operator, value⟩

def toJson (p : Predicate) : Json :=
  .ofMembers [("field", .text p.field), ("operator", p.operator.toJson), ("value", p.value)]

end Predicate

/-!
## Sort keys
-/

inductive Direction where
  | ascending
  | descending
deriving DecidableEq, Repr

namespace Direction

def name : Direction -> String
  | .ascending => "asc"
  | .descending => "desc"

def choice : Choice Direction :=
  ⟨[("asc", .ascending), ("ascending", .ascending),
    ("desc", .descending), ("descending", .descending)], none⟩

def reader : Reader Direction :=
  choice.reader

def toJson (direction : Direction) : Json :=
  .text direction.name

end Direction

structure SortKey where
  field : String
  direction : Direction
deriving DecidableEq

namespace SortKey

def record : Record (String × Direction × Unit) :=
  .cons (.required "field" readText)
    (.cons (.withDefault "direction" Direction.reader .ascending) .nil)

def reader : Reader SortKey := fun origin doc =>
  (record.reader "struct SortKey" origin doc).map fun (field, direction, _) => ⟨field, direction⟩

def toJson (key : SortKey) : Json :=
  .ofMembers [("field", .text key.field), ("direction", key.direction.toJson)]

end SortKey

/-!
## Metrics
-/

/-- A function of a group of rows; any name that is not known stands for `unknown`. -/
inductive MetricFunction where
  | count
  | countDistinct
  | sum
  | avg
  | min
  | max
  | median
  | concat
  | unknown
deriving DecidableEq, Repr

namespace MetricFunction

def name : MetricFunction -> String
  | .count => "count"
  | .countDistinct => "count_distinct"
  | .sum => "sum"
  | .avg => "avg"
  | .min => "min"
  | .max => "max"
  | .median => "median"
  | .concat => "concat"
  | .unknown => "unknown"

def all : List MetricFunction :=
  [.count, .countDistinct, .sum, .avg, .min, .max, .median, .concat, .unknown]

/-- Every function but a bare count, and those not known, reads a field. -/
def requiresField : MetricFunction -> Bool
  | .count => false
  | .unknown => false
  | _ => true

def choice : Choice MetricFunction :=
  ⟨all.map fun f => (f.name, f), some .unknown⟩

def reader : Reader MetricFunction :=
  choice.reader

def toJson (f : MetricFunction) : Json :=
  .text f.name

end MetricFunction

structure Metric where
  field : Option String
  function : MetricFunction
  label : Option String
  separator : Option String
deriving DecidableEq

namespace Metric

/-- The column of a metric: its label, or else its function and field. -/
def outputName (m : Metric) : String :=
  match m.label, m.field with
  | some label, _ => label
  | none, some field => m.function.name ++ "_" ++ field
  | none, none => m.function.name

def record : Record (Option String × MetricFunction × Option String × Option String × Unit) :=
  .cons (.optional "field" readText)
    (.cons (.required "function" MetricFunction.reader)
      (.cons (.optional "alias" readText)
        (.cons (.optional "separator" readText) .nil)))

def reader : Reader Metric := fun origin doc =>
  (record.reader "struct MetricSpec" origin doc).map fun (field, function, label, separator, _) =>
    ⟨field, function, label, separator⟩

def toJson (m : Metric) : Json :=
  .ofMembers [("field", .ofOption (m.field.map .text)), ("function", m.function.toJson),
    ("alias", .ofOption (m.label.map .text)), ("separator", .ofOption (m.separator.map .text))]

end Metric

/-!
## Aggregations and transformations
-/

structure Aggregation where
  groupBy : List String
  metrics : List Metric
  filters : List Predicate
  sort : List SortKey
  limit : Option UInt64

namespace Aggregation

def record :
    Record (List String × List Metric × List Predicate × List SortKey × Option UInt64 × Unit) :=
  .cons ((Field.withDefault "group_by" (readList readText) []).orNamed "groupBy")
    (.cons (.withDefault "metrics" (readList Metric.reader) [])
      (.cons (.withDefault "filters" (readList Predicate.reader) [])
        (.cons (.withDefault "sort" (readList SortKey.reader) [])
          (.cons (.optional "limit" readCount) .nil))))

def reader : Reader Aggregation := fun origin doc =>
  (record.reader "struct AggregationSpec" origin doc).map
    fun (groupBy, metrics, filters, sort, limit, _) => ⟨groupBy, metrics, filters, sort, limit⟩

def members (a : Aggregation) : List (String × Json) :=
  [("group_by", .ofTexts a.groupBy), ("metrics", .array (a.metrics.map Metric.toJson)),
   ("filters", .array (a.filters.map Predicate.toJson)),
   ("sort", .array (a.sort.map SortKey.toJson)),
   ("limit", .ofOption (a.limit.map fun n => .ofNat n.toNat))]

def toJson (a : Aggregation) : Json :=
  .ofMembers a.members

end Aggregation

inductive Transform where
  | filter (conditions : List Predicate)
  | map (fields : Dictionary String)
  | sort (keys : List SortKey)
  | aggregate (aggregation : Aggregation)

namespace Transform

def kind : Transform -> String
  | .filter _ => "filter"
  | .map _ => "map"
  | .sort _ => "sort"
  | .aggregate _ => "aggregate"

def filterRecord : Record (List Predicate × Unit) :=
  .cons (.withDefault "conditions" (readList Predicate.reader) []) .nil

def mapRecord : Record (Dictionary String × Unit) :=
  .cons (.required "fields" (readDictionary readText)) .nil

def sortRecord : Record (List SortKey × Unit) :=
  .cons (.required "keys" (readList SortKey.reader)) .nil

def tagged : Tagged Transform where
  kind := "TransformConfig"
  tag := "type"
  variants :=
    [("filter", Tagged.fields "TransformConfig::Filter" filterRecord fun (conditions, _) =>
        .filter conditions),
     ("map", Tagged.fields "TransformConfig::Map" mapRecord fun (fields, _) => .map fields),
     ("sort", Tagged.fields "TransformConfig::Sort" sortRecord fun (keys, _) => .sort keys),
     ("aggregate", fun origin doc => (Aggregation.reader origin doc).map .aggregate)]

def reader : Reader Transform :=
  tagged.reader

def toJson : Transform -> Json
  | .filter conditions =>
      .ofMembers [("type", .text "filter"), ("conditions", .array (conditions.map Predicate.toJson))]
  | .map fields =>
      .ofMembers [("type", .text "map"),
        ("fields", .object (fields.map fun (name, path) => (name, .text path)))]
  | .sort keys => .ofMembers [("type", .text "sort"), ("keys", .array (keys.map SortKey.toJson))]
  | .aggregate aggregation => .ofMembers (("type", .text "aggregate") :: aggregation.members)

end Transform
end Rows
end QueryGateway
