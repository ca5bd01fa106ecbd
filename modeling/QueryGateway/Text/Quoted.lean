import QueryGateway.Text.EscapedTable
import QueryGateway.Text.LowerCase

/-!
# Quoted text in messages

A message shows a text between double quotes.  Quotes, backslashes and the
control characters with names are escaped by a backslash; every other character
that would not be visible on its own is written by its code point.
-/

namespace QueryGateway
namespace Text

def hexDigits (n : Nat) : List Char :=
  Nat.toDigits 16 n

def isShownByCode (c : Char) : Bool :=
  c.toNat < 0x20 || c.toNat == 0x7F || (0x7F < c.toNat && inRanges escapedRanges c.toNat)

def quotedChar (c : Char) : List Char :=
  match c with
  | '"' => ['\\', '"']
  | '\\' => ['\\', '\\']
  | '\n' => ['\\', 'n']
  | '\r' => ['\\', 'r']
  | '\t' => ['\\', 't']
  | '\x00' => ['\\', '0']
  | c =>
      if isShownByCode c then
        '\\' :: 'u' :: '\x7b' :: (hexDigits c.toNat ++ ['\x7d'])
      else
        [c]

def quoted (text : String) : String :=
  String.ofList ('"' :: (text.toList.flatMap quotedChar ++ ['"']))

end Text
end QueryGateway
