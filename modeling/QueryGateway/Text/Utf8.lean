/-!
# UTF-8 and byte order marks

Encoding of text as bytes, and decoding that never fails: each maximal
beginning of a character that the next byte cannot continue, and each byte that
can begin none, is read as the replacement character.  Text in UTF-16 is
recognised by its byte order mark.
-/

namespace QueryGateway
namespace Text

abbrev Bytes := List UInt8

def utf8 (text : String) : Bytes :=
  text.toUTF8.toList

def replacement : Char :=
  '\uFFFD'

/-- A character begun: the bits read, the bytes owed, and the bounds of the next byte. -/
structure Begun where
  value : Nat
  owed : Nat
  low : Nat
  high : Nat

/-- What the first byte of a character gives: characters at once, or a character begun. -/
def beginChar (b : Nat) : List Char × Option Begun :=
  if b ≤ 0x7F then ([Char.ofNat b], none)
  else if 0xC2 ≤ b && b ≤ 0xDF then ([], some ⟨b % 0x20, 1, 0x80, 0xBF⟩)
  else if b == 0xE0 then ([], some ⟨0, 2, 0xA0, 0xBF⟩)
  else if b == 0xED then ([], some ⟨0xD, 2, 0x80, 0x9F⟩)
  else if 0xE1 ≤ b && b ≤ 0xEF then ([], some ⟨b % 0x10, 2, 0x80, 0xBF⟩)
  else if b == 0xF0 then ([], some ⟨0, 3, 0x90, 0xBF⟩)
  else if 0xF1 ≤ b && b ≤ 0xF3 then ([], some ⟨b % 8, 3, 0x80, 0xBF⟩)
  else if b == 0xF4 then ([], some ⟨4, 3, 0x80, 0x8F⟩)
  else ([replacement], none)

def decodeFrom : Option Begun -> Bytes -> List Char
  | none, [] => []
  | some _, [] => [replacement]
  | none, b :: rest =>
      let (out, state) := beginChar b.toNat
      out ++ decodeFrom state rest
  | some c, b :: rest =>
      if c.low ≤ b.toNat && b.toNat ≤ c.high then
        let value := c.value * 0x40 + b.toNat % 0x40
        if c.owed ≤ 1 then
          Char.ofNat value :: decodeFrom none rest
        else
          decodeFrom (some ⟨value, c.owed - 1, 0x80, 0xBF⟩) rest
      else
        let (out, state) := beginChar b.toNat
        replacement :: (out ++ decodeFrom state rest)

/-- Decode UTF-8, with replacement characters for what is not. -/
def decodeUtf8 (bytes : Bytes) : String :=
  String.ofList (decodeFrom none bytes)

def decodeUtf8? (bytes : Bytes) : Option String :=
  String.fromUTF8? (ByteArray.mk bytes.toArray)

/-!
## UTF-16
-/

def isHighSurrogate (u : Nat) : Bool :=
  0xD800 ≤ u && u ≤ 0xDBFF

def isLowSurrogate (u : Nat) : Bool :=
  0xDC00 ≤ u && u ≤ 0xDFFF

def ofSurrogates (high low : Nat) : Char :=
  Char.ofNat (0x10000 + (high - 0xD800) * 0x400 + (low - 0xDC00))

/-- Decode code units, a surrogate without its partner being replaced. -/
def decodeUnits : List Nat -> List Char
  | [] => []
  | u :: rest =>
      if isHighSurrogate u then
        match rest with
        | v :: rest' =>
            if isLowSurrogate v then
              ofSurrogates u v :: decodeUnits rest'
            else
              replacement :: decodeUnits (v :: rest')
        | [] => [replacement]
      else if isLowSurrogate u then
        replacement :: decodeUnits rest
      else
        Char.ofNat u :: decodeUnits rest

/-- Pair bytes to code units; the second part tells whether a byte is left over. -/
def pairUnits (bigEndian : Bool) : Bytes -> List Nat × Bool
  | [] => ([], false)
  | [_] => ([], true)
  | a :: b :: rest =>
      let (units, left) := pairUnits bigEndian rest
      let unit := if bigEndian then a.toNat * 256 + b.toNat else b.toNat * 256 + a.toNat
      (unit :: units, left)

def decodeUtf16 (bigEndian : Bool) (bytes : Bytes) : String :=
  let (units, left) := pairUnits bigEndian bytes
  String.ofList (decodeUnits units ++ if left then [replacement] else [])

/-- The text of a message body: a byte order mark selects the encoding and is removed. -/
def decodeBody : Bytes -> String
  | 0xEF :: 0xBB :: 0xBF :: rest => decodeUtf8 rest
  | 0xFE :: 0xFF :: rest => decodeUtf16 true rest
  | 0xFF :: 0xFE :: rest => decodeUtf16 false rest
  | bytes => decodeUtf8 bytes

end Text
end QueryGateway
