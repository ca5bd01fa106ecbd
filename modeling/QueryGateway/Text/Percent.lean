import QueryGateway.Text.Utf8

/-!
# Percent encoding and form encoding

Bytes written as `%XX`, reading them back, and the form encoding of pairs of
names and values in a query string, where a space is a plus sign.
-/

namespace QueryGateway
namespace Text

def hexUpper (n : Nat) : Char :=
  if n < 10 then Char.ofNat ('0'.toNat + n) else Char.ofNat ('A'.toNat + n - 10)

def hexValue? (b : UInt8) : Option Nat :=
  let n := b.toNat
  if '0'.toNat ≤ n && n ≤ '9'.toNat then some (n - '0'.toNat)
  else if 'a'.toNat ≤ n && n ≤ 'f'.toNat then some (n - 'a'.toNat + 10)
  else if 'A'.toNat ≤ n && n ≤ 'F'.toNat then some (n - 'A'.toNat + 10)
  else none

def percentByte (b : UInt8) : List Char :=
  ['%', hexUpper (b.toNat / 16), hexUpper (b.toNat % 16)]

def percentBytes (text : Char) : List Char :=
  (String.utf8EncodeChar text).flatMap percentByte

/-- Undo percent encoding; a percent sign without two digits after it stands for itself. -/
def percentDecode : Bytes -> Bytes
  | b :: h :: l :: rest =>
      if b = 0x25 then
        match hexValue? h, hexValue? l with
        | some x, some y => UInt8.ofNat (16 * x + y) :: percentDecode rest
        | _, _ => b :: percentDecode (h :: l :: rest)
      else
        b :: percentDecode (h :: l :: rest)
  | bytes => bytes

/-!
## Forms
-/

def isFormPlain (b : UInt8) : Bool :=
  let c := Char.ofNat b.toNat
  c.isAlphanum || c == '*' || c == '-' || c == '.' || c == '_'

def formByte (b : UInt8) : List Char :=
  if b = 0x20 then ['+']
  else if isFormPlain b then [Char.ofNat b.toNat]
  else percentByte b

def formEncode (text : String) : List Char :=
  (utf8 text).flatMap formByte

def formPairs (pairs : List (String × String)) : String :=
  String.ofList (List.intercalate ['&']
    (pairs.map fun (name, value) => formEncode name ++ '=' :: formEncode value))

def splitBytes (separator : UInt8) (bytes : Bytes) : List Bytes :=
  bytes.splitOnP (· == separator)

def formDecode (bytes : Bytes) : String :=
  decodeUtf8 (percentDecode (bytes.map fun b => if b = 0x2B then 0x20 else b))

/-- The pairs of a query string; a part without equals sign has an empty value. -/
def parseForm (query : String) : List (String × String) :=
  ((splitBytes 0x26 (utf8 query)).filter (!·.isEmpty)).map fun part =>
    (formDecode (part.takeWhile (· != 0x3D)), formDecode ((part.dropWhile (· != 0x3D)).drop 1))

end Text
end QueryGateway
