import QueryGateway.Json.Basic

/-!
# Dot paths

A path names a place inside a value by object keys and array positions with
dots between them.  The empty path is the value itself.
-/

namespace QueryGateway
namespace Json

def indexBound : Nat :=
  2 ^ 64

/-- An array position: decimal digits, after an optional plus sign. -/
def index? (segment : String) : Option Nat :=
  let digits :=
    match segment.toList with
    | '+' :: rest => rest
    | all => all
  if digits.isEmpty || !digits.all Char.isDigit then
    none
  else
    let n := Binary64.digitsValue digits
    if n < indexBound then some n else none

def step? (value : Json) (segment : String) : Option Json :=
  match value with
  | .object members => Dictionary.find? members segment
  | .array items => (index? segment).bind fun i => items[i]?
  | _ => none

/-- The parts of a path between its dots. -/
def segments (path : String) : List String :=
  (path.toList.splitOn '.').map String.ofList

def lookup (value : Json) (path : String) : Option Json :=
  if path.isEmpty then
    some value
  else
    (segments path).foldlM step? value

def lookupOrNull (value : Json) (path : String) : Json :=
  (lookup value path).getD .null

/-- The part of a response that a declared path names; without a path all of it. -/
def extract (response : Json) : Option String -> Json
  | none => response
  | some path => lookupOrNull response path

end Json
end QueryGateway
