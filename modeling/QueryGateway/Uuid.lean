/-!
# UUIDs

A UUID is 32 hexadecimal digits.  It is written in lower case with hyphens
after the 8th, 12th, 16th and 20th digit; it is read in any case, with or
without these hyphens, and with them also in braces or after `urn:uuid:`.  A
text that is none of these forms is described by the first thing that cannot be
part of one, or else by the lengths of its parts.
-/

namespace QueryGateway

structure Uuid where
  digits : List (Fin 16)
  length_eq : digits.length = 32
deriving DecidableEq

namespace Uuid

def ofDigits? (digits : List (Fin 16)) : Option Uuid :=
  if h : digits.length = 32 then some ⟨digits, h⟩ else none

def digitsOfNat (n : Nat) : Nat -> List (Fin 16)
  | 0 => []
  | count + 1 => digitsOfNat (n / 16) count ++ [Fin.ofNat 16 n]

theorem length_digitsOfNat (n count : Nat) : (digitsOfNat n count).length = count := by
  induction count generalizing n with
  | zero => rfl
  | succ count ih => simp [digitsOfNat, ih]

def ofNat (n : Nat) : Uuid :=
  ⟨digitsOfNat n 32, length_digitsOfNat n 32⟩

instance : Inhabited Uuid where
  default := ofNat 0

/-!
## Writing
-/

def digitChar (d : Fin 16) : Char :=
  Nat.digitChar d.val

def groupLengths : List Nat :=
  [8, 4, 4, 4, 12]

def cut : List Nat -> List Char -> List (List Char)
  | [], _ => []
  | n :: lengths, chars => chars.take n :: cut lengths (chars.drop n)

def chars (id : Uuid) : List Char :=
  List.intercalate ['-'] (cut groupLengths (id.digits.map digitChar))

def render (id : Uuid) : String :=
  String.ofList id.chars

instance : ToString Uuid where
  toString := render

/-!
## Reading
-/

inductive Malformation where
  | character (c : Char) (index : Nat)
  | length (found : Nat)
  | groupCount (found : Nat)
  | groupLength (group : Nat) (found : Nat)

def Malformation.message : Malformation -> String
  | .character c index => s!"invalid character: found `{c}` at {index}"
  | .length found => s!"invalid length: found {found}"
  | .groupCount found => s!"invalid group count: expected 5, found {found}"
  | .groupLength group found =>
      s!"invalid group length in group {group}: expected {groupLengths.getD group 0}, found {found}"

def digit? (c : Char) : Option (Fin 16) :=
  if c.isDigit then some (Fin.ofNat 16 (c.toNat - '0'.toNat))
  else if 'a' ≤ c && c ≤ 'f' then some (Fin.ofNat 16 (c.toNat - 'a'.toNat + 10))
  else if 'A' ≤ c && c ≤ 'F' then some (Fin.ofNat 16 (c.toNat - 'A'.toNat + 10))
  else none

def ofHexChars? (text : List Char) : Option Uuid :=
  (text.mapM digit?).bind ofDigits?

def ofHyphenated? (text : List Char) : Option Uuid :=
  let groups := text.splitOn '-'
  if groups.map List.length = groupLengths then ofHexChars? groups.flatten else none

def unbrace? : List Char -> Option (List Char)
  | '\x7b' :: rest =>
      match rest.reverse with
      | '\x7d' :: inner => some inner.reverse
      | _ => none
  | _ => none

def urnMark : List Char :=
  "urn:uuid:".toList

def afterUrn? (text : List Char) : Option (List Char) :=
  if urnMark.isPrefixOf text then some (text.drop urnMark.length) else none

/-- The first character that is neither a digit nor a hyphen, with its offset in bytes. -/
def strayCharacter (offset : Nat) : List Char -> Option (Char × Nat)
  | [] => none
  | c :: rest =>
      if (digit? c).isSome || c = '-' then
        strayCharacter (offset + c.utf8Size) rest
      else
        some (c, offset)

def byteLength (text : List Char) : Nat :=
  text.foldl (fun total c => total + c.utf8Size) 0

/-- The first group whose length is wrong; the last one when all before it are right. -/
def wrongGroup (total : Nat) : Nat -> List Nat -> List Nat -> Malformation
  | group, expected :: lengths, found :: rest =>
      if rest.isEmpty then
        .groupLength group total
      else if found = expected then
        wrongGroup total (group + 1) lengths rest
      else
        .groupLength group found
  | group, _, _ => .groupLength group total

def explain (text inner : List Char) (offset : Nat) (marked : Bool) : Malformation :=
  match strayCharacter offset inner with
  | some (c, index) => .character c index
  | none =>
      let groups := inner.splitOn '-'
      if groups.length = 1 && !marked then
        .length (byteLength text)
      else if groups.length != 5 then
        .groupCount groups.length
      else
        wrongGroup (byteLength text - 24) 0 groupLengths (groups.map List.length)

def explainWhole (text : List Char) : Malformation :=
  match unbrace? text, afterUrn? text with
  | some inner, _ => explain text inner 1 true
  | none, some inner => explain text inner urnMark.length true
  | none, none => explain text text 0 false

def orExplain (text : List Char) (id : Option Uuid) : Except Malformation Uuid :=
  match id with
  | some id => .ok id
  | none => .error (explainWhole text)

def parseChars (text : List Char) : Except Malformation Uuid :=
  match byteLength text, unbrace? text, afterUrn? text with
  | 32, _, _ => orExplain text (ofHexChars? text)
  | 36, _, _ => orExplain text (ofHyphenated? text)
  | 38, some inner, _ => orExplain inner (ofHyphenated? inner)
  | 45, _, some inner => orExplain inner (ofHyphenated? inner)
  | _, _, _ => .error (explainWhole text)

def parse (text : String) : Except Malformation Uuid :=
  parseChars text.toList

end Uuid
end QueryGateway
