import QueryGateway.Rows.Declaration
import QueryGateway.Rows.View

/-!
# Metrics of a group of rows

Numerical metrics are over the values at the field that count as numbers; the
others over those that are there and not null.
-/

namespace QueryGateway
namespace Rows

def defaultSeparator : String :=
  ", "

def numbersAt (rows : List Json) (field : String) : List Binary64 :=
  rows.filterMap fun row => (row.lookup field).bind asNumber

def presentAt (rows : List Json) (field : String) : List Json :=
  (rows.filterMap fun row => row.lookup field).filter fun value => !value.isNull

/-- The sum, from the left. -/
def total (values : List Binary64) : Binary64 :=
  values.foldl Binary64.add (Binary64.zero true)

/-- The mean; zero when there is nothing to average. -/
def average (values : List Binary64) : Binary64 :=
  if values.isEmpty then
    Binary64.zero false
  else
    (total values).div (Binary64.ofNat values.length)

def insertByRank (x : Binary64) : List Binary64 -> List Binary64
  | [] => [x]
  | y :: rest => if x.totalRank ≤ y.totalRank then x :: y :: rest else y :: insertByRank x rest

def sortByRank : List Binary64 -> List Binary64
  | [] => []
  | x :: rest => insertByRank x (sortByRank rest)

def median (values : List Binary64) : Option Binary64 :=
  let sorted := sortByRank values
  let middle := sorted.length / 2
  if sorted.length % 2 = 0 then
    match sorted[middle - 1]?, sorted[middle]? with
    | some low, some high => some ((low.add high).div (Binary64.ofNat 2))
    | _, _ => none
  else
    sorted[middle]?

def extreme (choose : Binary64 -> Binary64 -> Binary64) : List Binary64 -> Option Binary64
  | [] => none
  | x :: rest => some (rest.foldl choose x)

def distinct (texts : List String) : List String :=
  texts.foldl (fun seen text => if seen.contains text then seen else seen ++ [text]) []

def optionalNumber (x : Option Binary64) : Json :=
  .ofOption (x.map numberJson)

def Metric.compute (metric : Metric) (rows : List Json) : Json :=
  let field := metric.field.getD ""
  match metric.function with
  | .count =>
      if field.isEmpty then .ofNat rows.length else .ofNat (presentAt rows field).length
  | .countDistinct => .ofNat (distinct ((presentAt rows field).map Json.render)).length
  | .sum => numberJson (total (numbersAt rows field))
  | .avg => numberJson (average (numbersAt rows field))
  | .min => optionalNumber (extreme Binary64.min (numbersAt rows field))
  | .max => optionalNumber (extreme Binary64.max (numbersAt rows field))
  | .median => optionalNumber (median (numbersAt rows field))
  | .concat =>
      .text ((metric.separator.getD defaultSeparator).intercalate
        ((presentAt rows field).map asText))
  | .unknown => .null

end Rows
end QueryGateway
