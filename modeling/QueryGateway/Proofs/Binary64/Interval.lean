import Mathlib.Algebra.Order.Field.Rat
import Mathlib.Tactic.Linarith
import Mathlib.Tactic.Positivity
import Mathlib.Tactic.Ring
import QueryGateway.Binary64.Shortest

/-!
# Rounding intervals

Two numbers of different magnitude have no value in common in their rounding
intervals: between neighbours the intervals touch in one point, and of two
neighbours one has an odd significand, whose interval leaves the point out.
-/

namespace QueryGateway
namespace Binary64

/-!
# Significand and unit

A finite number is known by its sign, its significand and its unit exponent.
-/

theorem fraction_lt (x : Binary64) : x.fraction < 2 ^ 52 :=
  Nat.mod_lt _ (by decide)

theorem significand_lt (x : Binary64) : x.significand < 2 ^ 53 := by
  have hfraction := x.fraction_lt
  unfold significand
  split <;> omega

theorem significand_ge (x : Binary64) : 2 ^ 52 ≤ x.significand ∨ x.unitExponent = 0 := by
  unfold significand unitExponent
  split <;> omega

theorem unsignedWord_eq (x : Binary64) :
    x.unsignedWord = x.biasedExponent * 2 ^ 52 + x.fraction := by
  unfold biasedExponent fraction unsignedWord
  omega

theorem word_lt (x : Binary64) : x.word < 2 ^ 64 :=
  x.bits.toNat_lt

theorem eq_of_unsignedWord {x y : Binary64} (hsign : x.negative = y.negative)
    (hword : x.unsignedWord = y.unsignedWord) : x = y := by
  have hx := x.word_lt
  have hy := y.word_lt
  have hhigh := Bool.eq_iff_iff.mp hsign
  unfold negative at hhigh
  rw [beq_iff_eq, beq_iff_eq] at hhigh
  have hsame : x.word = y.word := by
    unfold unsignedWord at hword
    omega
  cases x with
  | mk bits =>
      cases y with
      | mk bits' =>
          have hbits : bits = bits' := UInt64.toNat_inj.mp hsame
          rw [hbits]

theorem unsignedWord_eq_of_parts {x y : Binary64} (hsignificand : x.significand = y.significand)
    (hunit : x.unitExponent = y.unitExponent) : x.unsignedWord = y.unsignedWord := by
  have hx := x.fraction_lt
  have hy := y.fraction_lt
  rw [unsignedWord_eq, unsignedWord_eq]
  unfold significand at hsignificand
  unfold unitExponent at hunit
  split at hsignificand <;> split at hsignificand <;> omega

/-!
# Magnitudes

With `x` of the smaller unit, a magnitude of larger unit is measured in units of
`x`, as its significand times a power of two.
-/

theorem magnitude_lt_of_unit_lt {x y : Binary64} (hunit : x.unitExponent < y.unitExponent) :
    x.magnitude < y.magnitude := by
  have hbig : 2 ^ 52 ≤ y.significand := by
    rcases y.significand_ge with hbig | hzero
    · exact hbig
    · omega
  obtain ⟨k, hk⟩ := Nat.exists_eq_add_of_lt hunit
  have hpow : 2 ^ y.unitExponent = 2 ^ x.unitExponent * (2 * 2 ^ k) := by
    rw [hk]
    ring
  have hpos : 0 < 2 ^ x.unitExponent := by positivity
  have hone : 1 ≤ 2 ^ k := Nat.one_le_two_pow
  unfold magnitude
  rw [hpow]
  calc x.significand * 2 ^ x.unitExponent
      < 2 ^ 53 * 2 ^ x.unitExponent := Nat.mul_lt_mul_of_pos_right x.significand_lt hpos
    _ ≤ y.significand * (2 * 2 ^ k) * 2 ^ x.unitExponent := by
        apply Nat.mul_le_mul_right
        calc 2 ^ 53 = 2 ^ 52 * (2 * 1) := by norm_num
          _ ≤ y.significand * (2 * 2 ^ k) :=
              Nat.mul_le_mul hbig (Nat.mul_le_mul_left 2 hone)
    _ = y.significand * (2 ^ x.unitExponent * (2 * 2 ^ k)) := by ring

theorem unsignedWord_eq_of_magnitude {x y : Binary64} (hsame : x.magnitude = y.magnitude) :
    x.unsignedWord = y.unsignedWord := by
  have hunit : x.unitExponent = y.unitExponent := by
    rcases Nat.lt_trichotomy x.unitExponent y.unitExponent with hlt | heq | hgt
    · have := magnitude_lt_of_unit_lt hlt
      omega
    · exact heq
    · have := magnitude_lt_of_unit_lt hgt
      omega
  have hsignificand : x.significand = y.significand := by
    unfold magnitude at hsame
    rw [hunit] at hsame
    exact Nat.eq_of_mul_eq_mul_right (by positivity) hsame
  exact unsignedWord_eq_of_parts hsignificand hunit

/-!
# Values in an interval
-/

def Interval.Holds (i : Interval) (q : ℚ) : Prop :=
  (i.low : ℚ) ≤ q ∧ q ≤ i.high ∧ (i.closed = false -> (i.low : ℚ) < q ∧ q < i.high)

theorem magnitude_pos_of_not_isZero {x : Binary64} (hzero : x.isZero = false) :
    0 < x.magnitude := by
  have hword : x.unsignedWord ≠ 0 := by
    intro hword
    simp [isZero, hword] at hzero
  have hsplit := x.unsignedWord_eq
  have hsignificand : 0 < x.significand := by
    unfold significand
    split <;> omega
  unfold magnitude
  positivity

/-- How far an interval reaches below its number, in units of the number. -/
def reachBelow (x : Binary64) : Nat :=
  if x.fraction = 0 && 1 < x.biasedExponent then 1 else 2

theorem interval_low (x : Binary64) :
    x.interval.low = 4 * x.magnitude - x.reachBelow * 2 ^ x.unitExponent := by
  unfold interval reachBelow
  split <;> simp

theorem interval_high (x : Binary64) :
    x.interval.high = 4 * x.magnitude + 2 * 2 ^ x.unitExponent :=
  rfl

theorem interval_value (x : Binary64) : x.interval.value = 4 * x.magnitude :=
  rfl

theorem reachBelow_bounds (x : Binary64) : 1 ≤ x.reachBelow ∧ x.reachBelow ≤ 2 := by
  unfold reachBelow
  split <;> decide

theorem unit_le_magnitude {x : Binary64} (hpos : 0 < x.magnitude) :
    2 ^ x.unitExponent ≤ x.magnitude := by
  have hsignificand : 0 < x.significand := by
    apply Nat.pos_of_ne_zero
    intro hzero
    unfold magnitude at hpos
    rw [hzero, Nat.zero_mul] at hpos
    exact Nat.lt_irrefl 0 hpos
  exact Nat.le_mul_of_pos_left _ hsignificand

theorem interval_reach {x : Binary64} (hpos : 0 < x.magnitude) :
    x.interval.low + 2 ^ x.unitExponent ≤ x.interval.value ∧
      x.interval.value + 2 ^ x.unitExponent ≤ x.interval.high := by
  have hunit := unit_le_magnitude hpos
  have hone : 2 ^ x.unitExponent ≤ x.reachBelow * 2 ^ x.unitExponent :=
    Nat.le_mul_of_pos_left _ x.reachBelow_bounds.left
  have htwo : x.reachBelow * 2 ^ x.unitExponent ≤ 2 * 2 ^ x.unitExponent :=
    Nat.mul_le_mul_right _ x.reachBelow_bounds.right
  rw [interval_low, interval_high, interval_value]
  constructor
  · omega
  · omega

/--
The distance between neighbours, in units of the smaller one: `s` and `t` are
the significands, `scale` is the ratio of the units, and `reach` what the
interval of the greater number takes below it.
-/
theorem neighbour_gap {s t scale reach : Nat} (hs : s < 2 ^ 53) (hlt : s < t * scale)
    (hcases : (scale = 1 ∧ reach ≤ 2) ∨ (2 ≤ scale ∧ reach = 1 ∧ t = 2 ^ 52) ∨
      (2 ≤ scale ∧ reach = 2 ∧ 2 ^ 52 < t)) :
    4 * s + 2 + reach * scale ≤ 4 * (t * scale) ∧
      (4 * s + 2 + reach * scale = 4 * (t * scale) -> s % 2 = 1 ∨ t % 2 = 1) := by
  rcases hcases with ⟨hscale, hreach⟩ | ⟨hscale, hreach, ht⟩ | ⟨hscale, hreach, ht⟩
  · subst hscale
    constructor <;> omega
  · subst hreach
    subst ht
    constructor
    · omega
    · intro htouch
      have htwo : scale = 2 := by
        apply Nat.le_antisymm _ hscale
        by_contra hcontra
        have hthree : 3 ≤ scale := Nat.lt_of_not_le hcontra
        linarith [htouch.ge]
      subst htwo
      left
      omega
  · subst hreach
    have hmul : (2 ^ 52 + 1) * scale ≤ t * scale :=
      Nat.mul_le_mul_right scale (Nat.succ_le_of_lt ht)
    have hstrict : 4 * s + 2 + 2 * scale < 4 * (t * scale) := by linarith
    exact ⟨hstrict.le, fun htouch => absurd htouch hstrict.ne⟩

theorem reachBelow_cases {y : Binary64} (hunit : 0 < y.unitExponent) :
    (y.reachBelow = 1 ∧ y.significand = 2 ^ 52) ∨
      (y.reachBelow = 2 ∧ 2 ^ 52 < y.significand) := by
  unfold unitExponent at hunit
  have hnormal : y.biasedExponent ≠ 0 := by omega
  unfold reachBelow significand
  rw [if_neg hnormal]
  by_cases hfraction : y.fraction = 0
  · have hlarge : 1 < y.biasedExponent := by omega
    simp [hfraction, hlarge]
  · simp [hfraction]
    omega

/--
From a number to a greater one the intervals do not overlap, and where they
touch one of the significands is odd.
-/
theorem interval_high_le_low {x y : Binary64} (hlt : x.magnitude < y.magnitude) :
    x.interval.high ≤ y.interval.low ∧
      (x.interval.high = y.interval.low ->
        x.significand % 2 = 1 ∨ y.significand % 2 = 1) := by
  have hunit : x.unitExponent ≤ y.unitExponent := by
    by_contra hcontra
    have := magnitude_lt_of_unit_lt (Nat.lt_of_not_le hcontra)
    omega
  obtain ⟨k, hk⟩ := Nat.exists_eq_add_of_le hunit
  have hpos : 0 < 2 ^ x.unitExponent := by positivity
  have hpow : 2 ^ y.unitExponent = 2 ^ k * 2 ^ x.unitExponent := by
    rw [hk]
    ring
  have hmagnitude : y.magnitude = y.significand * 2 ^ k * 2 ^ x.unitExponent := by
    unfold magnitude
    rw [hpow]
    ring
  -- From here on both numbers are counted in units of the smaller one.
  have hlt' : x.significand < y.significand * 2 ^ k := by
    rw [hmagnitude] at hlt
    exact Nat.lt_of_mul_lt_mul_right hlt
  have hcases :
      (2 ^ k = 1 ∧ y.reachBelow ≤ 2) ∨
        (2 ≤ 2 ^ k ∧ y.reachBelow = 1 ∧ y.significand = 2 ^ 52) ∨
        (2 ≤ 2 ^ k ∧ y.reachBelow = 2 ∧ 2 ^ 52 < y.significand) := by
    cases k with
    | zero => exact Or.inl ⟨rfl, y.reachBelow_bounds.right⟩
    | succ k =>
        have hscale : 2 ≤ 2 ^ (k + 1) := by
          have hone : 1 ≤ 2 ^ k := Nat.one_le_two_pow
          omega
        rcases reachBelow_cases (y := y) (by omega) with ⟨hreach, ht⟩ | ⟨hreach, ht⟩
        · exact Or.inr (Or.inl ⟨hscale, hreach, ht⟩)
        · exact Or.inr (Or.inr ⟨hscale, hreach, ht⟩)
  have hgap := neighbour_gap x.significand_lt hlt' hcases
  have hhigh : x.interval.high = (4 * x.significand + 2) * 2 ^ x.unitExponent := by
    rw [interval_high]
    unfold magnitude
    ring
  have hlow : y.interval.low =
      (4 * (y.significand * 2 ^ k) - y.reachBelow * 2 ^ k) * 2 ^ x.unitExponent := by
    rw [interval_low, hmagnitude, hpow, Nat.sub_mul]
    ring_nf
  rw [hhigh, hlow]
  constructor
  · apply Nat.mul_le_mul_right
    omega
  · intro htouch
    have heq := Nat.eq_of_mul_eq_mul_right hpos htouch
    apply hgap.right
    omega

/-- A value in the intervals of two numbers belongs to one magnitude only. -/
theorem magnitude_eq_of_holds {x y : Binary64} {q : ℚ} (hx : x.interval.Holds q)
    (hy : y.interval.Holds q) : x.magnitude = y.magnitude := by
  have hapart : forall a b : Binary64, a.interval.Holds q -> b.interval.Holds q ->
      ¬ a.magnitude < b.magnitude := by
    intro a b ha hb hlt
    have hgap := interval_high_le_low hlt
    have hle : (a.interval.high : ℚ) ≤ b.interval.low := by exact_mod_cast hgap.left
    have htouch : a.interval.high = b.interval.low := by
      have heq : (a.interval.high : ℚ) = b.interval.low := by
        linarith [ha.right.left, hb.left]
      exact_mod_cast heq
    rcases hgap.right htouch with hodd | hodd
    · have hopen : a.interval.closed = false := by
        simp [interval, hodd]
      linarith [(ha.right.right hopen).right, hb.left]
    · have hopen : b.interval.closed = false := by
        simp [interval, hodd]
      linarith [(hb.right.right hopen).left, ha.right.left]
  have hle := hapart x y hx hy
  have hge := hapart y x hy hx
  omega

end Binary64
end QueryGateway
