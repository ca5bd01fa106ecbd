import QueryGateway.Text.Blank

/-!
# Points in time

A point in time is a day, counted from 1970-01-01, a second of that day and
nanoseconds; a leap second is the second before it with more than 10^9 of them.
It is read from a date, a time and an offset, blanks being allowed between
their parts, and written in universal time with three, six or nine digits of a
fraction when there is one.
-/

namespace QueryGateway

structure Timestamp where
  day : Int
  second : Nat
  nano : Nat
deriving DecidableEq, Inhabited

namespace Timestamp

/-!
## The calendar
-/

def isLeapYear (year : Int) : Bool :=
  year % 4 = 0 && (year % 100 != 0 || year % 400 = 0)

def daysInMonth (year : Int) (month : Nat) : Nat :=
  match month with
  | 2 => if isLeapYear year then 29 else 28
  | 4 | 6 | 9 | 11 => 30
  | _ => 31

/-- The day of a date, in years that start in March so that a leap day is the last. -/
def dayOfDate (year : Int) (month day : Nat) : Int :=
  let y := if month ≤ 2 then year - 1 else year
  let era := y.fdiv 400
  let yearOfEra := y - era * 400
  let shifted : Int := if month ≤ 2 then (month : Int) + 9 else (month : Int) - 3
  let dayOfYear := (153 * shifted + 2) / 5 + (day : Int) - 1
  era * 146097 + (yearOfEra * 365 + yearOfEra / 4 - yearOfEra / 100 + dayOfYear) - 719468

def dateOfDay (day : Int) : Int × Nat × Nat :=
  let z := day + 719468
  let era := z.fdiv 146097
  let dayOfEra := z - era * 146097
  let yearOfEra :=
    (dayOfEra - dayOfEra / 1460 + dayOfEra / 36524 - dayOfEra / 146096) / 365
  let dayOfYear := dayOfEra - (365 * yearOfEra + yearOfEra / 4 - yearOfEra / 100)
  let shifted := (5 * dayOfYear + 2) / 153
  let dayOfMonth := dayOfYear - (153 * shifted + 2) / 5 + 1
  let month := if shifted < 10 then shifted + 3 else shifted - 9
  let year := yearOfEra + era * 400 + if month ≤ 2 then 1 else 0
  (year, month.toNat, dayOfMonth.toNat)

def leastYear : Int := -262143

def greatestYear : Int := 262142

/-!
## Writing
-/

def padded (width n : Nat) : String :=
  let digits := Nat.toDigits 10 n
  String.ofList (List.replicate (width - digits.length) '0' ++ digits)

def renderYear (year : Int) : String :=
  if 0 ≤ year && year ≤ 9999 then
    padded 4 year.toNat
  else
    (if year < 0 then "-" else "+") ++ padded 4 year.natAbs

def renderFraction (nano : Nat) : String :=
  if nano = 0 then ""
  else if nano % 1000000 = 0 then "." ++ padded 3 (nano / 1000000)
  else if nano % 1000 = 0 then "." ++ padded 6 (nano / 1000)
  else "." ++ padded 9 nano

def render (t : Timestamp) : String :=
  let (year, month, day) := dateOfDay t.day
  let leap := 1000000000 ≤ t.nano
  let second := t.second % 60 + if leap then 1 else 0
  let nano := if leap then t.nano - 1000000000 else t.nano
  renderYear year ++ "-" ++ padded 2 month ++ "-" ++ padded 2 day ++ "T" ++
    padded 2 (t.second / 3600) ++ ":" ++ padded 2 (t.second / 60 % 60) ++ ":" ++
    padded 2 second ++ renderFraction nano ++ "Z"

/-- Whole microseconds since 2000-01-01, a part of one being cut off. -/
def microsSince2000 (t : Timestamp) : Int :=
  let nanos : Int := ((t.day - 10957) * 86400 + t.second) * 1000000000 + t.nano
  nanos.tdiv 1000

def ofMillis (n : Nat) : Timestamp :=
  ⟨n / 86400000, n / 1000 % 86400, n % 1000 * 1000000⟩

/-!
## Reading
-/

inductive Malformation where
  | outOfRange
  | impossible
  | invalid
  | tooShort
  | tooLong

def Malformation.message : Malformation -> String
  | .outOfRange => "input is out of range"
  | .impossible => "no possible date and time matching input"
  | .invalid => "input contains invalid characters"
  | .tooShort => "premature end of input"
  | .tooLong => "trailing input"

abbrev Parse (α : Type) := List Char -> Except Malformation (α × List Char)

def digitsValue (digits : List Char) : Nat :=
  digits.foldl (fun n c => 10 * n + (c.toNat - '0'.toNat)) 0

def numberBound : Nat :=
  1 <<< 63

def parseNumber (most : Nat) : Parse Nat := fun text =>
  let digits := (text.take most).takeWhile Char.isDigit
  if text.isEmpty then .error .tooShort
  else if digits.isEmpty then .error .invalid
  else if numberBound ≤ digitsValue digits then .error .outOfRange
  else .ok (digitsValue digits, text.drop digits.length)

def parseTwo (least most : Nat) : Parse Nat := fun text => do
  let (n, rest) ← parseNumber 2 (Text.trimStart text)
  if least ≤ n && n ≤ most then pure (n, rest) else throw .outOfRange

/-- A year: four digits, or any number of them after a sign. -/
def parseYear : Parse Int := fun text => do
  let text := Text.trimStart text
  let (year, rest) ← match text with
    | '-' :: rest => (parseNumber rest.length rest).map fun (n, rest) => (-(n : Int), rest)
    | '+' :: rest => (parseNumber rest.length rest).map fun (n, rest) => ((n : Int), rest)
    | text => (parseNumber 4 text).map fun (n, rest) => ((n : Int), rest)
  if -2147483648 ≤ year && year ≤ 2147483647 then pure (year, rest) else throw .outOfRange

def expectChar (c : Char) (text : List Char) : Except Malformation (List Char) :=
  match Text.trimStart text with
  | [] => .error .tooShort
  | d :: rest => if d = c then .ok rest else .error .invalid

/-- Between date and time stands a T or a space. -/
def expectMiddle : List Char -> Except Malformation (List Char)
  | [] => .error .tooShort
  | c :: rest => if c = 't' || c = 'T' || c = ' ' then .ok rest else .error .invalid

/-- A fraction of a second; digits after the ninth are skipped. -/
def parseFraction : Parse Nat
  | '.' :: text => do
      let (n, rest) ← parseNumber 9 text
      let count := text.length - rest.length
      pure (n * Nat.pow 10 (9 - count), rest.dropWhile Char.isDigit)
  | text => .ok (0, text)

def byteLength (text : List Char) : Nat :=
  text.foldl (fun total c => total + c.utf8Size) 0

/-- Two digits of an offset, with an error for digits and one for anything else. -/
def twoDigits (text : List Char) : Except Malformation (Char × Char × List Char) :=
  if byteLength text < 2 then .error .tooShort
  else
    match text with
    | a :: b :: rest =>
        if a.isDigit && b.isDigit then .ok (a, b, rest) else .error .invalid
    | _ => .error .invalid

def parseOffsetSign : Parse Bool
  | [] => .error .tooShort
  | c :: rest =>
      if c = '+' then .ok (false, rest)
      else if c = '-' || c = '−' then .ok (true, rest)
      else .error .invalid

def parseOffset : Parse Int := fun text =>
  match text with
  | 'Z' :: rest => .ok (0, rest)
  | 'z' :: rest => .ok (0, rest)
  | text =>
      if (text.take 3).map Char.toLower = ['u', 't', 'c'] then
        .ok (0, text.drop 3)
      else do
        let (negative, rest) ← parseOffsetSign text
        let (a, b, rest) ← twoDigits rest
        let hours := digitsValue [a, b]
        let rest := rest.dropWhile fun c => c = ':' || Text.isBlank c
        let (a, b, rest) ← twoDigits rest
        if '6' ≤ a then throw .outOfRange
        let seconds : Int := hours * 3600 + digitsValue [a, b] * 60
        pure (if negative then -seconds else seconds, rest)

structure Parts where
  year : Int
  month : Nat
  day : Nat
  hour : Nat
  minute : Nat
  second : Nat
  nano : Nat
  offset : Int

def parseParts (text : List Char) : Except Malformation Parts := do
  let (year, rest) ← parseYear text
  let rest ← expectChar '-' rest
  let (month, rest) ← parseTwo 1 12 rest
  let rest ← expectChar '-' rest
  let (day, rest) ← parseTwo 1 31 rest
  let rest ← expectMiddle rest
  let (hour, rest) ← parseTwo 0 23 rest
  let rest ← expectChar ':' rest
  let (minute, rest) ← parseTwo 0 59 rest
  let rest ← expectChar ':' rest
  let (second, rest) ← parseTwo 0 60 rest
  let (nano, rest) ← parseFraction rest
  let (offset, rest) ← parseOffset (Text.trimStart rest)
  if !(Text.trimStart rest).isEmpty then throw .tooLong
  pure ⟨year, month, day, hour, minute, second, nano, offset⟩

def ofParts (p : Parts) : Except Malformation Timestamp :=
  if daysInMonth p.year p.month < p.day || p.year < leastYear || greatestYear < p.year then
    .error .outOfRange
  else if 86400 ≤ p.offset.natAbs then
    .error .outOfRange
  else
    let leap := p.second = 60
    let second := if leap then 59 else p.second
    let nano := if leap then p.nano + 1000000000 else p.nano
    let wall := dayOfDate p.year p.month p.day * 86400 +
      ((p.hour * 3600 + p.minute * 60 + second : Nat) : Int)
    let universal := wall - p.offset
    let day := universal.fdiv 86400
    let (year, _, _) := dateOfDay day
    if year < leastYear || greatestYear < year then
      .error .impossible
    else
      .ok ⟨day, (universal - day * 86400).toNat, nano⟩

def parse (text : String) : Except Malformation Timestamp := do
  ofParts (← parseParts text.toList)

end Timestamp
end QueryGateway
