import QueryGateway.Json.Path
import QueryGateway.Json.Printer
import QueryGateway.Text.Blank

/-!
# Payloads as rows, values as numbers and texts

The rows of a payload are its items when it is a list, the items of the first
list it holds under one of three names when it is an object, none when it is
null, and else itself.
-/

namespace QueryGateway
namespace Rows

/-- Names under which an object may hold its rows, in the order they are looked for. -/
def nestedNames : List String :=
  ["results", "issues", "data"]

def items? : Json -> Option (List Json)
  | .array items => some items
  | _ => none

def nestedName? (members : Members) : Option String :=
  nestedNames.find? fun name => (Dictionary.find? members name).any Json.isArray

def nestedRows? (members : Members) : Option (List Json) :=
  nestedNames.findSome? fun name => (Dictionary.find? members name).bind items?

def coerce : Json -> List Json
  | .array items => items
  | .null => []
  | .object members =>
      let nested := (nestedName? members).bind (Dictionary.find? members)
      (nested.bind items?).getD [.object members]
  | other => [other]

/-- The number of records a payload stands for, by a search of its own. -/
def recordCount : Json -> Nat
  | .null => 0
  | .array items => items.length
  | .object members => ((nestedRows? members).map List.length).getD 1
  | _ => 1

/-- A value as a number; a text counts as the finite number it denotes. -/
def asNumber : Json -> Option Binary64
  | .number n => some n.toBinary64
  | .text s => (Binary64.ofText? (Text.trim s)).filter Binary64.isFinite
  | _ => none

/-- A value as text: a string as it is, null as nothing, anything else as its JSON text. -/
def asText : Json -> String
  | .text s => s
  | .null => ""
  | other => other.render

/-- The largest distance from zero up to which an integral number is written as an integer. -/
def integerLimit : Nat :=
  2 ^ 53 - 1

def numberJson (x : Binary64) : Json :=
  match x.toInt? with
  | some n => if n.natAbs ≤ integerLimit then .number (.integer n) else .ofBinary64 x
  | none => .ofBinary64 x

def fieldOf (row : Json) (path : String) : Json :=
  row.lookupOrNull path

end Rows
end QueryGateway
