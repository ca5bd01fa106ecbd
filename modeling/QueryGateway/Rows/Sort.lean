import QueryGateway.Rows.Declaration
import QueryGateway.Rows.View

/-!
# Sorting rows

Rows are compared key by key.  Null comes before everything, two numbers
compare as numbers, and any other two values by their texts.  Sorting takes the
rows one after the other and moves each back past the rows that it precedes, so
rows that compare equal keep their order.
-/

namespace QueryGateway
namespace Rows

def compareValues (a b : Json) : Ordering :=
  match a, b with
  | .null, .null => .eq
  | .null, _ => .lt
  | _, .null => .gt
  | .number x, .number y => (x.toBinary64.compare? y.toBinary64).getD .eq
  | a, b => compare (asText a) (asText b)

def SortKey.compare (key : SortKey) (a b : Json) : Ordering :=
  let left := fieldOf a key.field
  let right := fieldOf b key.field
  match key.direction with
  | .ascending => compareValues left right
  | .descending => compareValues right left

def compareRows : List SortKey -> Json -> Json -> Ordering
  | [], _, _ => .eq
  | key :: keys, a, b => (key.compare a b).then (compareRows keys a b)

/-- Place a row among sorted ones that are given last one first. -/
def place (precedes : Json -> Json -> Bool) (row : Json) : List Json -> List Json
  | [] => [row]
  | last :: before =>
      if precedes row last then last :: place precedes row before else row :: last :: before

/--
The rows in the order of the keys.  Keys that do not order the rows, as numbers among texts
that are not in their order, leave it open in which order a library sort puts them, and
of more than twenty rows it may find this out and give up; then this is one order of many.
-/
def sortRows (keys : List SortKey) (rows : List Json) : List Json :=
  let precedes (a b : Json) := compareRows keys a b == .lt
  (rows.foldl (fun placed row => place precedes row placed) []).reverse

end Rows
end QueryGateway
