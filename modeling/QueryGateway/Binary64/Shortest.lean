import QueryGateway.Binary64.Basic

/-!
# The fewest digits that read back

The numbers that round to a given one fill an interval around it, closed when
its significand is even.  The digits written for it are those of the decimal
with the fewest digits in that interval, of several the nearest one.  Only the
two neighbours of the number on each decimal grid have to be looked at: if a
grid has a point in the interval, one of them is in it.

Everything is compared in quarters of 2^-1074, so that the ends of the
interval are integers.
-/

namespace QueryGateway
namespace Binary64

/-- The positive integer `digits`, not a multiple of ten, times a power of ten. -/
structure Decimal where
  digits : Nat
  exponent : Int
deriving DecidableEq, Repr

namespace Decimal

def digitCount (n : Nat) : Nat :=
  (Nat.toDigits 10 n).length

def stripZeros : Nat -> Nat -> Int -> Decimal
  | 0, n, e => ⟨n, e⟩
  | fuel + 1, n, e =>
      if n % 10 = 0 && n != 0 then stripZeros fuel (n / 10) (e + 1) else ⟨n, e⟩

end Decimal

/-- The rounding interval of a positive number, in quarters of 2^-1074. -/
structure Interval where
  low : Nat
  value : Nat
  high : Nat
  closed : Bool

def interval (x : Binary64) : Interval :=
  let unit := 2 ^ x.unitExponent
  let value := 4 * x.magnitude
  let below := if x.fraction = 0 && 1 < x.biasedExponent then unit else 2 * unit
  ⟨value - below, value, value + 2 * unit, x.significand % 2 == 0⟩

def Interval.contains (i : Interval) (num den : Nat) : Bool :=
  if i.closed then
    i.low * den ≤ num && num ≤ i.high * den
  else
    i.low * den < num && num < i.high * den

def Interval.distance (i : Interval) (num den : Nat) : Nat :=
  (num - i.value * den) + (i.value * den - num)

def leadingExponent (x : Binary64) : Int :=
  (Decimal.digitCount (x.magnitude * 10 ^ 330 / 2 ^ 1074) : Int) - 331

/-- The point of the grid of multiples of `10^exponent` that is written for the interval. -/
def Interval.pointOn (i : Interval) (exponent : Int) : Option Nat :=
  let scale := if exponent < 0 then 2 ^ 1076 else 2 ^ 1076 * 10 ^ exponent.natAbs
  let den := if exponent < 0 then 10 ^ exponent.natAbs else 1
  let lower := i.value * den / scale
  let upper := lower + 1
  let keepsLower := i.contains (lower * scale) den && lower != 0
  let keepsUpper := i.contains (upper * scale) den
  if keepsLower && keepsUpper then
    match compare (i.distance (lower * scale) den) (i.distance (upper * scale) den) with
    | .lt => some lower
    | .gt => some upper
    | .eq => some (if lower % 2 = 0 then lower else upper)
  else if keepsLower then
    some lower
  else if keepsUpper then
    some upper
  else
    none

def Interval.search (i : Interval) : Nat -> Int -> Decimal
  | 0, exponent => ⟨i.value, exponent⟩
  | fuel + 1, exponent =>
      match i.pointOn exponent with
      | some n => Decimal.stripZeros 20 n exponent
      | none => i.search fuel (exponent - 1)

def shortest (x : Binary64) : Decimal :=
  x.interval.search 18 x.leadingExponent

end Binary64
end QueryGateway
