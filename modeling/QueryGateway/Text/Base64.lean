import QueryGateway.Text.Utf8

/-!
# Base64

The standard alphabet with padding: three bytes become four characters, and a
last group of one or two bytes is filled up with equals signs.
-/

namespace QueryGateway
namespace Text

def base64Alphabet : List Char :=
  "ABCDEFGHIJKLMNOPQRSTUVWXYZabcdefghijklmnopqrstuvwxyz0123456789+/".toList

def base64Digit (n : Nat) : Char :=
  base64Alphabet.getD (n % 64) 'A'

def base64Chars : Bytes -> List Char
  | [] => []
  | [a] =>
      let n := a.toNat * 0x10000
      [base64Digit (n / 0x40000), base64Digit (n / 0x1000), '=', '=']
  | [a, b] =>
      let n := a.toNat * 0x10000 + b.toNat * 0x100
      [base64Digit (n / 0x40000), base64Digit (n / 0x1000), base64Digit (n / 0x40), '=']
  | a :: b :: c :: rest =>
      let n := a.toNat * 0x10000 + b.toNat * 0x100 + c.toNat
      base64Digit (n / 0x40000) :: base64Digit (n / 0x1000) :: base64Digit (n / 0x40) ::
        base64Digit n :: base64Chars rest

def base64 (text : String) : String :=
  String.ofList (base64Chars (utf8 text))

/-!
## Decoding
-/

def sextet? (c : Char) : Option Nat :=
  base64Alphabet.findIdx? (· == c)

def bytesOfSextets : List Nat -> Bytes
  | a :: b :: c :: d :: rest =>
      .ofNat (a * 4 + b / 16) :: .ofNat (b * 16 + c / 4) :: .ofNat (c * 64 + d) ::
        bytesOfSextets rest
  | [a, b, c] => [.ofNat (a * 4 + b / 16), .ofNat (b * 16 + c / 4)]
  | [a, b] => [.ofNat (a * 4 + b / 16)]
  | _ => []

/-- The bytes that a text stands for; what is no digit does not count. -/
def unbase64 (text : String) : Bytes :=
  bytesOfSextets (text.toList.filterMap sextet?)

end Text
end QueryGateway
