import QueryGateway.Binary64.Text
import QueryGateway.Dictionary

/-!
# JSON values

A number is an integer or a finite binary64 number, and the two are different
values even when they are numerically equal.  The members of an object are a
dictionary, in ascending order of their names, so that equal objects are the
same list and print the same text.
-/

namespace QueryGateway

inductive Number where
  | integer (n : Int)
  | real (x : Binary64) (finite : x.isFinite = true)
deriving DecidableEq

instance : Inhabited Number where
  default := .integer 0

inductive Json where
  | null
  | bool (b : Bool)
  | number (n : Number)
  | text (s : String)
  | array (items : List Json)
  | object (members : List (String × Json))
deriving Inhabited

abbrev Members := Dictionary Json

namespace Number

def toBinary64 : Number -> Binary64
  | .integer n => Binary64.ofInt n
  | .real x _ => x

/-- Equality of values: an integer never equals a real, and the two real zeros are equal. -/
def same : Number -> Number -> Bool
  | .integer m, .integer n => m == n
  | .real x _, .real y _ => x.equal y
  | _, _ => false

end Number

namespace Json

def ofMembers (members : List (String × Json)) : Json :=
  .object (Dictionary.ofList members)

def ofNat (n : Nat) : Json :=
  .number (.integer n)

/-- A finite number as a real; what is not finite has no JSON number and becomes null. -/
def ofBinary64 (x : Binary64) : Json :=
  if h : x.isFinite = true then .number (.real x h) else .null

def ofOption (present : Option Json) : Json :=
  present.getD .null

def ofTexts (texts : List String) : Json :=
  .array (texts.map .text)

def isNull : Json -> Bool
  | .null => true
  | _ => false

def isArray : Json -> Bool
  | .array _ => true
  | _ => false

def get? : Json -> String -> Option Json
  | .object members, name => Dictionary.find? members name
  | _, _ => none

mutual

def same : Json -> Json -> Bool
  | .null, .null => true
  | .bool a, .bool b => a == b
  | .number a, .number b => a.same b
  | .text a, .text b => a == b
  | .array xs, .array ys => sameItems xs ys
  | .object xs, .object ys => sameMembers xs ys
  | _, _ => false

def sameItems : List Json -> List Json -> Bool
  | [], [] => true
  | x :: xs, y :: ys => same x y && sameItems xs ys
  | _, _ => false

def sameMembers : List (String × Json) -> List (String × Json) -> Bool
  | [], [] => true
  | (k, x) :: xs, (l, y) :: ys => k == l && same x y && sameMembers xs ys
  | _, _ => false

end

end Json
end QueryGateway
