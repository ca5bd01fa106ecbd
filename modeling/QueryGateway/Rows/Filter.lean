import QueryGateway.Rows.Declaration
import QueryGateway.Rows.View
import QueryGateway.Text.LowerCase

/-!
# Filtering rows

A predicate compares the value at a path of a row with a constant.  Numbers
compare as numbers and texts without regard to case; a missing value is null.
-/

namespace QueryGateway
namespace Rows

def isComposite : Json -> Bool
  | .array _ => true
  | .object _ => true
  | _ => false

def loweredText (value : Json) : String :=
  Text.lower (asText value)

/--
Equality as predicates see it: numbers by value, lists and objects as they are,
null only with itself, and everything else by its text without regard to case.
-/
def looselyEqual (left right : Json) : Bool :=
  match left, right with
  | .number a, .number b => a.toBinary64.equal b.toBinary64
  | .null, .null => true
  | .null, _ => false
  | _, .null => false
  | left, right =>
      if isComposite left || isComposite right then
        left.same right
      else
        loweredText left == loweredText right

def order? (left right : Json) : Option Ordering :=
  match asNumber left, asNumber right with
  | some a, some b => a.compare? b
  | _, _ =>
      match left, right with
      | .text a, .text b => some (compare (Text.lower a) (Text.lower b))
      | _, _ => none

def textTest (test : List Char -> List Char -> Bool) (field value : Json) : Bool :=
  if field.isNull || value.isNull then
    false
  else
    test (loweredText field).toList (loweredText value).toList

def memberOf (field value : Json) : Bool :=
  match value with
  | .array candidates => candidates.any (looselyEqual field)
  | single => looselyEqual field single

def containsValue (field value : Json) : Bool :=
  match field with
  | .array items => items.any fun item => looselyEqual item value
  | _ => textTest (fun f v => Text.occursIn v f) field value

def Operator.test (operator : Operator) (field value : Json) : Bool :=
  match operator with
  | .equals => looselyEqual field value
  | .notEquals => !looselyEqual field value
  | .contains => containsValue field value
  | .startsWith => textTest (fun f v => v.isPrefixOf f) field value
  | .endsWith => textTest (fun f v => v.isSuffixOf f) field value
  | .greaterThan => order? field value == some .gt
  | .lessThan => order? field value == some .lt
  | .greaterEqual => order? field value == some .gt || order? field value == some .eq
  | .lessEqual => order? field value == some .lt || order? field value == some .eq
  | .member => memberOf field value
  | .notMember => !memberOf field value
  | .isNull => field.isNull
  | .isNotNull => !field.isNull

def Predicate.holds (p : Predicate) (row : Json) : Bool :=
  p.operator.test (fieldOf row p.field) p.value

def satisfiesAll (predicates : List Predicate) (row : Json) : Bool :=
  predicates.all fun p => p.holds row

def filterRows (predicates : List Predicate) (rows : List Json) : List Json :=
  rows.filter (satisfiesAll predicates)

end Rows
end QueryGateway
