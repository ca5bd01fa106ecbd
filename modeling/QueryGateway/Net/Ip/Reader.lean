import QueryGateway.Net.Ip

/-!
# Reading internet addresses

A scan takes what it recognises from the front of a text and gives the rest.
The four bytes of an address are written without leading zeroes; groups of the
longer form may have them.
-/

namespace QueryGateway
namespace Net

abbrev Scan (α : Type) := List Char -> Option (α × List Char)

def char (c : Char) : Scan Unit
  | [] => none
  | first :: rest => if first = c then some ((), rest) else none

def digit? (base : Nat) (c : Char) : Option Nat :=
  let value :=
    if c.isDigit then some (c.toNat - '0'.toNat)
    else if 'a' ≤ c ∧ c ≤ 'f' then some (c.toNat - 'a'.toNat + 10)
    else if 'A' ≤ c ∧ c ≤ 'F' then some (c.toNat - 'A'.toNat + 10)
    else none
  value.filter (· < base)

def valueOf (base : Nat) (digits : List Char) : Nat :=
  digits.foldl (fun value c => base * value + (digit? base c).getD 0) 0

/--
All the digits at the front: a number below `bound`, of at most `most` digits
where that is given, and with leading zeroes only where they are allowed.
-/
def number (base bound : Nat) (most : Option Nat) (leadingZero : Bool) : Scan Nat := fun text =>
  let digits := text.takeWhile fun c => (digit? base c).isSome
  let value := valueOf base digits
  let short := most.all fun limit => digits.length ≤ limit
  let plain := leadingZero || digits.length ≤ 1 || digits.head? != some '0'
  if digits.isEmpty || !short || !plain || bound ≤ value then
    none
  else
    some (value, text.dropWhile fun c => (digit? base c).isSome)

def byte : Scan Nat :=
  number 10 256 (some 3) false

def ipv4 : Scan Ipv4 := fun text => do
  let (a, text) ← byte text
  let (_, text) ← char '.' text
  let (b, text) ← byte text
  let (_, text) ← char '.' text
  let (c, text) ← byte text
  let (_, text) ← char '.' text
  let (d, text) ← byte text
  pure (⟨.ofNat a, .ofNat b, .ofNat c, .ofNat d⟩, text)

def separated {α : Type} (first : Bool) (scan : Scan α) : Scan α := fun text =>
  if first then
    scan text
  else
    (char ':' text).bind fun (_, rest) => scan rest

/--
Groups between colons, up to `room` of them; the last two may be written as an
address of four bytes, which then ends the list and is reported.
-/
def groups (first : Bool) : Nat -> List Char -> List UInt16 × Bool × List Char
  | 0, text => ([], false, text)
  | room + 1, text =>
      match if room = 0 then none else separated first ipv4 text with
      | some (ip, rest) => (ip.groups, true, rest)
      | none =>
          match separated first (number 16 65536 (some 4) true) text with
          | none => ([], false, text)
          | some (group, rest) =>
              let (more, short, rest) := groups false room rest
              (.ofNat group :: more, short, rest)

def ipv6 : Scan Ipv6 := fun text => do
  let (front, short, text) := groups true 8 text
  if front.length = 8 then
    pure (← Ipv6.ofParts front [], text)
  else if short then
    none
  else
    let (_, text) ← char ':' text
    let (_, text) ← char ':' text
    let (back, _, text) := groups true (7 - front.length) text
    pure (← Ipv6.ofParts front back, text)

def Ipv6.parse? (text : List Char) : Option Ipv6 :=
  match ipv6 text with
  | some (ip, []) => some ip
  | _ => none

end Net
end QueryGateway
