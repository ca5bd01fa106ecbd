/-!
# Binary64 numbers

A double precision number is kept as its 64 bits.  A finite number is an
integer multiple of the least positive one, 2^-1074, and `scaled` is that
integer: the order of numbers and the results of arithmetic are stated on it,
so no rational arithmetic is needed.  `rounded` is the only place where a
value that is not representable becomes one that is: to the nearest, a tie to
the even significand, with subnormal numbers below and infinity above.
-/

-- Powers are those of the core library, also where a library that defines its own is imported.
attribute [instance (20000), default_instance 20000] instPowNat

namespace QueryGateway

structure Binary64 where
  bits : UInt64
deriving DecidableEq, Inhabited, Repr

namespace Binary64

/-!
## Fields
-/

def word (x : Binary64) : Nat :=
  x.bits.toNat

def negative (x : Binary64) : Bool :=
  x.word / 2 ^ 63 == 1

def unsignedWord (x : Binary64) : Nat :=
  x.word % 2 ^ 63

def biasedExponent (x : Binary64) : Nat :=
  x.unsignedWord / 2 ^ 52

def fraction (x : Binary64) : Nat :=
  x.word % 2 ^ 52

def isFinite (x : Binary64) : Bool :=
  x.biasedExponent != 2047

def isNaN (x : Binary64) : Bool :=
  x.biasedExponent == 2047 && x.fraction != 0

def isInfinite (x : Binary64) : Bool :=
  x.biasedExponent == 2047 && x.fraction == 0

def significand (x : Binary64) : Nat :=
  if x.biasedExponent = 0 then x.fraction else x.fraction + 2 ^ 52

/-- The power of two, counted from 2^-1074, that the significand is multiplied by. -/
def unitExponent (x : Binary64) : Nat :=
  x.biasedExponent - 1

/-- The distance from zero of a finite number, in units of 2^-1074. -/
def magnitude (x : Binary64) : Nat :=
  x.significand * 2 ^ x.unitExponent

/-- A finite number is this integer times 2^-1074. -/
def scaled (x : Binary64) : Int :=
  if x.negative then -(x.magnitude : Int) else x.magnitude

def isZero (x : Binary64) : Bool :=
  x.unsignedWord == 0

/-!
## Building numbers
-/

def ofWord (negative : Bool) (unsigned : Nat) : Binary64 :=
  ⟨UInt64.ofNat ((if negative then 2 ^ 63 else 0) + unsigned)⟩

def zero (negative : Bool) : Binary64 :=
  ofWord negative 0

def infinity (negative : Bool) : Binary64 :=
  ofWord negative (2047 * 2 ^ 52)

def nan : Binary64 :=
  ofWord false (2047 * 2 ^ 52 + 2 ^ 51)

instance : Neg Binary64 where
  neg x := ofWord (!x.negative) x.unsignedWord

/--
The number with significand `m < 2^53` and unit exponent `u`, where
`m` is at least 2^52 unless `u` is zero; infinity when `u` is too large.
-/
def ofParts (negative : Bool) (m u : Nat) : Binary64 :=
  if 2045 < u then
    infinity negative
  else if m < 2 ^ 52 then
    ofWord negative m
  else
    ofWord negative ((u + 1) * 2 ^ 52 + (m - 2 ^ 52))

/-!
## Rounding
-/

/-- The integer nearest to `num / den`, of two equally near the even one. -/
def nearestInteger (num den : Nat) : Nat :=
  let quotient := num / den
  match compare (2 * (num % den)) den with
  | .lt => quotient
  | .gt => quotient + 1
  | .eq => if quotient % 2 = 0 then quotient else quotient + 1

def rounded (negative : Bool) (num den : Nat) : Binary64 :=
  let unit := (num / den).log2 - 52
  let m := nearestInteger num (den * 2 ^ unit)
  if m = 2 ^ 53 then
    ofParts negative (2 ^ 52) (unit + 1)
  else
    ofParts negative m unit

def roundedInt (n : Int) : Binary64 :=
  rounded (n < 0) n.natAbs 1

def ofInt (n : Int) : Binary64 :=
  rounded (n < 0) (n.natAbs * 2 ^ 1074) 1

def ofNat (n : Nat) : Binary64 :=
  ofInt n

def ofDecimal (negative : Bool) (digits : Nat) (exponent : Int) : Binary64 :=
  if digits = 0 then
    zero negative
  else if exponent < 0 then
    rounded negative (digits * 2 ^ 1074) (10 ^ exponent.natAbs)
  else
    rounded negative (digits * 10 ^ exponent.natAbs * 2 ^ 1074) 1

/-!
## Order

`rank` is strictly monotone in the value of a number that is not NaN, and
gives both zeros rank 0; `totalRank` also orders the zeros and the NaNs.
-/

def rank (x : Binary64) : Int :=
  if x.negative then -(x.unsignedWord : Int) else x.unsignedWord

def totalRank (x : Binary64) : Int :=
  if x.negative then -(x.unsignedWord : Int) - 1 else x.unsignedWord

def compare? (x y : Binary64) : Option Ordering :=
  if x.isNaN || y.isNaN then none else some (compare x.rank y.rank)

/-- Numerical equality: the zeros are equal, and NaN differs from everything. -/
def equal (x y : Binary64) : Bool :=
  x.compare? y == some .eq

/-!
## Arithmetic
-/

def add (x y : Binary64) : Binary64 :=
  if x.isNaN || y.isNaN then
    nan
  else if x.isInfinite then
    if y.isInfinite && x.negative != y.negative then nan else x
  else if y.isInfinite then
    y
  else if x.scaled + y.scaled = 0 then
    zero (x.negative && y.negative)
  else
    roundedInt (x.scaled + y.scaled)

def mul (x y : Binary64) : Binary64 :=
  let negative := x.negative != y.negative
  if x.isNaN || y.isNaN then
    nan
  else if x.isInfinite || y.isInfinite then
    if x.isZero || y.isZero then nan else infinity negative
  else
    rounded negative (x.magnitude * y.magnitude) (2 ^ 1074)

def div (x y : Binary64) : Binary64 :=
  let negative := x.negative != y.negative
  if x.isNaN || y.isNaN then
    nan
  else if x.isInfinite then
    if y.isInfinite then nan else infinity negative
  else if y.isInfinite then
    zero negative
  else if y.isZero then
    if x.isZero then nan else infinity negative
  else
    rounded negative (x.magnitude * 2 ^ 1074) y.magnitude

def min (x y : Binary64) : Binary64 :=
  if y.rank < x.rank then y else x

def max (x y : Binary64) : Binary64 :=
  if x.rank < y.rank then y else x

def toInt? (x : Binary64) : Option Int :=
  if x.isFinite && x.magnitude % 2 ^ 1074 == 0 then
    let n : Int := x.magnitude / 2 ^ 1074
    some (if x.negative then -n else n)
  else
    none

end Binary64
end QueryGateway
