import QueryGateway.Json.Basic

/-!
# Text without NUL

The database takes no NUL character in text, nor in any text inside JSON.  They
are removed before a value is stored; when two names of an object become the
same by that, the value of the later one stays.
-/

namespace QueryGateway
namespace Storage

def nul : Char :=
  '\x00'

def stripText (text : String) : String :=
  String.ofList (text.toList.filter (· ≠ nul))

mutual

def stripNul : Json -> Json
  | .text text => .text (stripText text)
  | .array items => .array (stripItems items)
  | .object members => .object (Dictionary.ofList (stripMembers members))
  | .null => .null
  | .bool b => .bool b
  | .number n => .number n

def stripItems : List Json -> List Json
  | [] => []
  | item :: rest => stripNul item :: stripItems rest

def stripMembers : List (String × Json) -> List (String × Json)
  | [] => []
  | (name, value) :: rest => (stripText name, stripNul value) :: stripMembers rest

end

end Storage
end QueryGateway
