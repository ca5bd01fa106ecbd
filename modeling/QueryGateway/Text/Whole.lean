/-!
# Whole numbers in text

A whole number is written as decimal digits after an optional sign; a minus
sign is only a sign where negative numbers are in range.  Digits are read from
the left, and the first thing that is wrong decides what is reported.
-/

namespace QueryGateway
namespace Text

inductive Misreading where
  | empty
  | digit
  | tooLarge
  | tooSmall
deriving DecidableEq, Repr

namespace Misreading

def message : Misreading -> String
  | .empty => "cannot parse integer from empty string"
  | .digit => "invalid digit found in string"
  | .tooLarge => "number too large to fit in target type"
  | .tooSmall => "number too small to fit in target type"

end Misreading

structure Range where
  least : Int
  greatest : Int

namespace Range

def unsigned64 : Range :=
  ⟨0, (UInt64.size : Int) - 1⟩

def signed32 : Range :=
  ⟨Int32.minValue.toInt, Int32.maxValue.toInt⟩

def push (range : Range) (negative : Bool) (value : Int) (c : Char) : Except Misreading Int :=
  if c.isDigit then
    let digit : Int := c.toNat - '0'.toNat
    let next := if negative then 10 * value - digit else 10 * value + digit
    if range.greatest < next then .error .tooLarge
    else if next < range.least then .error .tooSmall
    else .ok next
  else
    .error .digit

def read (range : Range) (text : String) : Except Misreading Int :=
  match text.toList with
  | [] => .error .empty
  | ['+'] => .error .digit
  | ['-'] => .error .digit
  | '+' :: digits => digits.foldlM (range.push false) 0
  | '-' :: digits =>
      if range.least < 0 then digits.foldlM (range.push true) 0 else .error .digit
  | digits => digits.foldlM (range.push false) 0

end Range
end Text
end QueryGateway
