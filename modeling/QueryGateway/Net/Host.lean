import QueryGateway.Net.Ip.Reader
import QueryGateway.Net.Punycode
import QueryGateway.Text.LowerCase
import QueryGateway.Text.Percent

/-!
# Hosts

The host in a web address: a name, an internet address, or, where the scheme
knows nothing of either, any text.  Names are lower case and ASCII, and a name
whose last label is a number must be an address of four bytes.
-/

namespace QueryGateway
namespace Net

inductive Host where
  | name (text : String)
  | four (ip : Ipv4)
  | six (ip : Ipv6)
deriving DecidableEq

namespace Host

def render : Host -> String
  | .name text => text
  | .four ip => ip.render
  | .six ip => "[" ++ ip.render ++ "]"

def isControl (c : Char) : Bool :=
  c.toNat < 0x20 || c.toNat == 0x7F

def isForbidden (c : Char) : Bool :=
  c.toNat == 0 || "\t\n\r #/:<>?@[\\]^|".toList.contains c

def isForbiddenInName (c : Char) : Bool :=
  isForbidden c || isControl c || c == '%'

/-!
## Names
-/

def fullStop (c : Char) : Char :=
  if c = '。' ∨ c = '．' ∨ c = '｡' then '.' else c

def labels (name : List Char) : List (List Char) :=
  name.splitOnP (· == '.')

def isAscii (text : List Char) : Bool :=
  text.all fun c => c.toNat < 0x80

def asciiLabel (label : List Char) : List Char :=
  if isAscii label then label else "xn--".toList ++ Punycode.encode label

def asciiName (name : List Char) : List Char :=
  let lowered := (name.map fullStop).flatMap Text.lowerChar
  List.intercalate ['.'] ((labels lowered).map asciiLabel)

/-!
## Names that are numbers
-/

def isHexMark (label : List Char) : Bool :=
  match label with
  | '0' :: x :: _ => x == 'x' || x == 'X'
  | _ => false

/-- A number in base sixteen after `0x`, in base eight after `0`, or else in base ten. -/
def number? (label : List Char) : Option Nat :=
  let base := if isHexMark label then 16 else if 1 < label.length && label.head? == some '0'
    then 8 else 10
  let digits := if isHexMark label then label.drop 2 else label
  if label.isEmpty || !digits.all (fun c => (digit? base c).isSome) then
    none
  else
    some (valueOf base digits)

def countedLabels (name : List Char) : List (List Char) :=
  let all := labels name
  if 1 < all.length && all.getLast? == some [] then all.dropLast else all

def endsInNumber (name : List Char) : Bool :=
  match (countedLabels name).getLast? with
  | none => false
  | some label =>
      (!label.isEmpty && label.all Char.isDigit) || (isHexMark label && (number? label).isSome)

/-- One to four numbers; the last one fills all the bytes that are left. -/
def ipv4? (name : List Char) : Option Ipv4 := do
  let numbers ← (countedLabels name).mapM number?
  let last ← numbers.getLast?
  let leading := numbers.dropLast
  if 3 < leading.length || leading.any (255 < ·) || 1 <<< (8 * (4 - leading.length)) ≤ last then
    none
  else
    let high := leading.zipIdx.foldl (fun sum (n, i) => sum + n <<< (8 * (3 - i))) 0
    some (Ipv4.ofNat (high + last))

/-!
## Reading
-/

def bracketed? (text : List Char) : Option (List Char) :=
  match text with
  | '[' :: rest => if rest.getLast? == some ']' then some rest.dropLast else none
  | _ => none

def six? (text : List Char) : Option Host := do
  let inner ← bracketed? text
  (Ipv6.parse? inner).map .six

def parse? (text : List Char) : Option Host := do
  if text.head? == some '[' then
    six? text
  else
    let decoded ← Text.decodeUtf8? (Text.percentDecode (Text.utf8 (String.ofList text)))
    let name := asciiName decoded.toList
    if name.isEmpty || name.any isForbiddenInName then
      none
    else if endsInNumber name then
      (ipv4? name).map .four
    else
      some (.name (String.ofList name))

def encodeAny (c : Char) : List Char :=
  if isControl c || 0x7F < c.toNat then Text.percentBytes c else [c]

/-- A host of a scheme that knows neither names nor addresses of four bytes. -/
def parseAny? (text : List Char) : Option Host :=
  if text.head? == some '[' then
    six? text
  else if text.any isForbidden then
    none
  else
    some (.name (String.ofList (text.flatMap encodeAny)))

end Host
end Net
end QueryGateway
