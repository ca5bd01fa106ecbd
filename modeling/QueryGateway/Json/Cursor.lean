import QueryGateway.Json.Document
import QueryGateway.Text.Utf8

/-!
# Reading tokens of JSON text

A cursor is a place in the bytes of a text.  A fault lies either at the cursor,
that is after the bytes read so far, or at the byte that comes next, if there
is one.
-/

namespace QueryGateway
namespace Json

structure Cursor where
  offset : Nat
  rest : List UInt8

/-- Result of reading a token: its value and the place after it. -/
abbrev Token (α : Type) := Except SyntaxFault (α × Cursor)

namespace Cursor

def next (c : Cursor) : Cursor :=
  ⟨c.offset + 1, c.rest.tail⟩

def fault (c : Cursor) (error : SyntaxError) : SyntaxFault :=
  ⟨error, c.offset⟩

def peekFault (c : Cursor) (error : SyntaxError) : SyntaxFault :=
  ⟨error, if c.rest.isEmpty then c.offset else c.offset + 1⟩

def isBlank (b : UInt8) : Bool :=
  b = 0x20 || b = 0x0A || b = 0x09 || b = 0x0D

def skipBlanksFrom (offset : Nat) : List UInt8 -> Cursor
  | [] => ⟨offset, []⟩
  | b :: rest => if isBlank b then skipBlanksFrom (offset + 1) rest else ⟨offset, b :: rest⟩

def skipBlanks (c : Cursor) : Cursor :=
  skipBlanksFrom c.offset c.rest

def isDigit (b : UInt8) : Bool :=
  0x30 ≤ b && b ≤ 0x39

def nextIs (c : Cursor) (condition : UInt8 -> Bool) : Bool :=
  match c.rest with
  | [] => false
  | b :: _ => condition b

def digits (c : Cursor) : List Nat × Cursor :=
  let run := c.rest.takeWhile isDigit
  (run.map fun b => b.toNat - 0x30, ⟨c.offset + run.length, c.rest.drop run.length⟩)

/-!
## Words
-/

def expect : List UInt8 -> Cursor -> Except SyntaxFault Cursor
  | [], c => .ok c
  | b :: word, c =>
      match c.rest with
      | [] => .error (c.fault .endInValue)
      | next :: _ => if next = b then expect word c.next else .error (c.next.fault .expectedIdent)

/-!
## Strings
-/

def hex4 (c : Cursor) : Token Nat :=
  match c.rest with
  | b1 :: b2 :: b3 :: b4 :: rest =>
      let after : Cursor := ⟨c.offset + 4, rest⟩
      match hexValue? b1, hexValue? b2, hexValue? b3, hexValue? b4 with
      | some d1, some d2, some d3, some d4 => .ok (((d1 * 16 + d2) * 16 + d3) * 16 + d4, after)
      | _, _, _, _ => .error (after.fault .invalidEscape)
  | _ => .error ⟨.endInString, c.offset + c.rest.length⟩
where
  hexValue? (b : UInt8) : Option Nat :=
    if isDigit b then some (b.toNat - 0x30)
    else if 0x61 ≤ b && b ≤ 0x66 then some (b.toNat - 0x61 + 10)
    else if 0x41 ≤ b && b ≤ 0x46 then some (b.toNat - 0x41 + 10)
    else none

def continueEscape (b : UInt8) (c : Cursor) : Except SyntaxFault Cursor :=
  match c.rest with
  | [] => .error (c.fault .endInString)
  | next :: _ => if next = b then .ok c.next else .error (c.next.fault .endOfHexEscape)

def unicodeEscape (c : Cursor) : Except SyntaxFault (Char × Cursor) := do
  let (unit, c) ← hex4 c
  if Text.isLowSurrogate unit then
    throw (c.fault .loneSurrogate)
  else if Text.isHighSurrogate unit then
    let c ← continueEscape 0x5C c
    let c ← continueEscape 0x75 c
    let (second, c) ← hex4 c
    if Text.isLowSurrogate second then
      pure (Text.ofSurrogates unit second, c)
    else
      throw (c.fault .loneSurrogate)
  else
    pure (Char.ofNat unit, c)

def simpleEscape? (b : UInt8) : Option Char :=
  match Char.ofNat b.toNat with
  | '"' => some '"'
  | '\\' => some '\\'
  | '/' => some '/'
  | 'b' => some '\x08'
  | 'f' => some '\x0c'
  | 'n' => some '\n'
  | 'r' => some '\r'
  | 't' => some '\t'
  | _ => none

def escape (c : Cursor) : Token Char :=
  match c.rest with
  | [] => .error (c.fault .endInString)
  | b :: _ =>
      match simpleEscape? b with
      | some char => .ok (char, c.next)
      | none => if b = 0x75 then unicodeEscape c.next else .error (c.next.fault .invalidEscape)

/-- The rest of a string after its opening quote; `read` holds its bytes so far, newest first. -/
def stringFrom : Nat -> List UInt8 -> Cursor -> Token String
  | 0, _, c => .error (c.fault .endInString)
  | fuel + 1, read, c =>
      match c.rest with
      | [] => .error (c.fault .endInString)
      | b :: _ =>
          if b = 0x22 then
            .ok (Text.decodeUtf8 read.reverse, c.next)
          else if b = 0x5C then
            match escape c.next with
            | .error fault => .error fault
            | .ok (char, after) =>
                stringFrom fuel ((String.utf8EncodeChar char).reverse ++ read) after
          else if b < 0x20 then
            .error (c.next.fault .controlCharacter)
          else
            stringFrom fuel (b :: read) c.next

def string (c : Cursor) : Token String :=
  stringFrom (c.rest.length + 1) [] c.next

/-!
## Numbers

The digits of a number are taken up into a significand below 2^64 as long as it
has room.  A number written without fraction and exponent whose digits all fit
is an integer; any other is the significand, converted, and then multiplied or
divided once by a power of ten.
-/

def significandBound : Nat :=
  2 ^ 64

/-- Take digits up while there is room; the number of digits taken up is the second part. -/
def takeUp : Nat -> List Nat -> Nat × Nat
  | significand, [] => (significand, 0)
  | significand, d :: rest =>
      if significand * 10 + d < significandBound then
        let (total, count) := takeUp (significand * 10 + d) rest
        (total, count + 1)
      else
        (significand, 0)

/-- Bring an exponent below the least power of ten into range, dividing the number instead. -/
def descend : Nat -> Binary64 -> Int -> Binary64
  | 0, x, _ => x
  | fuel + 1, x, exponent =>
      if x.isZero then
        x
      else if exponent < -308 then
        descend fuel (x.div (Binary64.ofDecimal false 1 308)) (exponent + 308)
      else
        x.div (Binary64.ofDecimal false 1 (-exponent))

/-- A significand times a power of ten, unless it is too large. -/
def scale? (significand : Nat) (exponent : Int) : Option Binary64 :=
  let x := Binary64.ofNat significand
  if x.isZero then
    some x
  else if 308 < exponent then
    none
  else if 0 ≤ exponent then
    let scaled := x.mul (Binary64.ofDecimal false 1 exponent)
    if scaled.isFinite then some scaled else none
  else
    some (descend 8 x exponent)

def real (negative : Bool) (significand : Nat) (exponent : Int) (c : Cursor) : Token Number :=
  match scale? significand exponent with
  | none => .error (c.fault .numberOutOfRange)
  | some x =>
      let x := if negative then -x else x
      if h : x.isFinite = true then .ok (.real x h, c) else .error (c.fault .numberOutOfRange)

def exponentBound : Nat :=
  2 ^ 31

/-- The digits of an exponent, as far as they stay below the bound, and whether they all do. -/
def exponentDigits : Nat -> List Nat -> Nat × Nat × Bool
  | value, [] => (value, 0, true)
  | value, d :: rest =>
      if value * 10 + d < exponentBound then
        let (total, count, fits) := exponentDigits (value * 10 + d) rest
        (total, count + 1, fits)
      else
        (value, 1, false)

def exponent (negative : Bool) (significand : Nat) (start : Int) (c : Cursor) : Token Number :=
  let c := c.next
  let descending := c.nextIs (· = 0x2D)
  let c := if descending || c.nextIs (· = 0x2B) then c.next else c
  let (digits, after) := c.digits
  match digits with
  | [] =>
      if c.rest.isEmpty then .error (c.fault .endInValue) else .error (c.next.fault .invalidNumber)
  | _ =>
      let (value, count, fits) := exponentDigits 0 digits
      if fits then
        real negative significand (if descending then start - value else start + value) after
      else if significand != 0 && !descending then
        .error ⟨.numberOutOfRange, c.offset + count⟩
      else
        real negative 0 0 after

def isExponentMark (b : UInt8) : Bool :=
  b = 0x65 || b = 0x45

def fraction (negative : Bool) (significand : Nat) (start : Int) (c : Cursor) : Token Number :=
  let c := c.next
  let (digits, after) := c.digits
  if digits.isEmpty then
    .error (after.peekFault (if after.rest.isEmpty then .endInValue else .invalidNumber))
  else
    let (significand, count) := takeUp significand digits
    if after.nextIs isExponentMark then
      exponent negative significand (start - count) after
    else
      real negative significand (start - count) after

def afterWhole (negative : Bool) (significand : Nat) (dropped : Nat) (c : Cursor) : Token Number :=
  if c.nextIs (· = 0x2E) then
    fraction negative significand dropped c
  else if c.nextIs isExponentMark then
    exponent negative significand dropped c
  else if dropped != 0 then
    real negative significand dropped c
  else if negative && (significand = 0 || 2 ^ 63 < significand) then
    real true significand 0 c
  else
    .ok (.integer (if negative then -(significand : Int) else significand), c)

def number (c : Cursor) : Token Number :=
  let negative := c.nextIs (· = 0x2D)
  let c := if negative then c.next else c
  let (digits, after) := c.digits
  match digits with
  | [] =>
      if c.rest.isEmpty then .error (c.fault .endInValue) else .error (c.next.fault .invalidNumber)
  | 0 :: _ :: _ => .error (c.next.peekFault .invalidNumber)
  | _ =>
      let (significand, count) := takeUp 0 digits
      afterWhole negative significand (digits.length - count) after

end Cursor
end Json
end QueryGateway
