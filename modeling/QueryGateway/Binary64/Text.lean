import QueryGateway.Binary64.Shortest

/-!
# Numbers as text

Writing: a number is laid out plainly when its leading digit stands for a power
of ten from 10^-5 up to 10^15, always with a fraction; outside that range its
exponent is written with a sign.  Reading: a decimal numeral with optional
sign, fraction and exponent denotes the number nearest to its exact value.
-/

namespace QueryGateway
namespace Binary64

/-!
## Writing
-/

structure NumberStyle where
  leastPlain : Int
  mostPlain : Int
  positiveMark : String
  negativeMark : String

/-- Plain from 0.00001 to below 10^16, else `e+16` or `e-6`. -/
def jsonStyle : NumberStyle :=
  ⟨-5, 15, "e+", "e-"⟩

def zeros (n : Nat) : String :=
  String.ofList (List.replicate n '0')

/-- Digits with the point after the first `whole` of them, always with a fraction. -/
def layoutPlain (digits : List Char) (leading : Int) : String :=
  if leading < 0 then
    "0." ++ zeros (leading.natAbs - 1) ++ String.ofList digits
  else
    let whole := leading.natAbs + 1
    if digits.length ≤ whole then
      String.ofList digits ++ zeros (whole - digits.length) ++ ".0"
    else
      String.ofList (digits.take whole) ++ "." ++ String.ofList (digits.drop whole)

def layoutExponent (style : NumberStyle) (digits : List Char) (leading : Int) : String :=
  let mark := if leading < 0 then style.negativeMark else style.positiveMark
  let body :=
    match digits with
    | [] => ""
    | [d] => String.ofList [d]
    | d :: rest => String.ofList (d :: '.' :: rest)
  body ++ mark ++ toString leading.natAbs

def render (style : NumberStyle) (x : Binary64) : String :=
  let sign := if x.negative then "-" else ""
  if x.isZero then
    sign ++ "0.0"
  else
    let d := x.shortest
    let digits := Nat.toDigits 10 d.digits
    let leading := d.exponent + (digits.length : Int) - 1
    if style.leastPlain ≤ leading && leading ≤ style.mostPlain then
      sign ++ layoutPlain digits leading
    else
      sign ++ layoutExponent style digits leading

/-!
## Reading
-/

def digitsValue (digits : List Char) : Nat :=
  digits.foldl (fun n c => 10 * n + (c.toNat - '0'.toNat)) 0

def splitSign : List Char -> Bool × List Char
  | '-' :: rest => (true, rest)
  | '+' :: rest => (false, rest)
  | rest => (false, rest)

def splitDigits (text : List Char) : List Char × List Char :=
  (text.takeWhile Char.isDigit, text.dropWhile Char.isDigit)

def exponentPart : List Char -> Option Int
  | [] => some 0
  | c :: rest =>
      if c = 'e' || c = 'E' then
        let (negative, rest) := splitSign rest
        let (digits, rest) := splitDigits rest
        if digits.isEmpty || !rest.isEmpty then
          none
        else
          some (if negative then -(digitsValue digits : Int) else digitsValue digits)
      else
        none

/--
The number nearest to `digits * 10^exponent`; an exponent far outside the
range of numbers is answered without computing the power.
-/
def ofNumeral (negative : Bool) (digits : Nat) (exponent : Int) : Binary64 :=
  let leading := (Decimal.digitCount digits : Int) + exponent
  if digits = 0 || leading < -400 then
    zero negative
  else if 400 < leading then
    infinity negative
  else
    ofDecimal negative digits exponent

/--
Read a decimal numeral: digits on at least one side of an optional point, then
an optional exponent.
-/
def ofText? (text : String) : Option Binary64 :=
  let (negative, rest) := splitSign text.toList
  let (whole, rest) := splitDigits rest
  let (fraction, rest) :=
    match rest with
    | '.' :: rest => splitDigits rest
    | rest => ([], rest)
  if whole.isEmpty && fraction.isEmpty then
    none
  else
    (exponentPart rest).map fun exponent =>
      ofNumeral negative (digitsValue (whole ++ fraction)) (exponent - fraction.length)

end Binary64
end QueryGateway
