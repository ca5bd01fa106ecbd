import Mathlib.Algebra.Order.Floor.Semiring
import Mathlib.Tactic.FieldSimp
import QueryGateway.Proofs.Binary64.Interval

/-!
# The written decimal rounds back

The decimal that is written for a number lies in the rounding interval of the
number.  The search for it tries eighteen grids; on the last of them the points
are closer together than the ends of the interval, so it cannot end without one.
-/

namespace QueryGateway
namespace Binary64

/-!
# Decimals as rational numbers
-/

def Decimal.value (d : Decimal) : ℚ :=
  d.digits * 10 ^ d.exponent

def Decimal.quarters (d : Decimal) : ℚ :=
  d.value * 2 ^ 1076

theorem Decimal.value_stripZeros (fuel n : Nat) (e : Int) :
    (stripZeros fuel n e).value = (Decimal.mk n e).value := by
  induction fuel generalizing n e with
  | zero => rfl
  | succ fuel ih =>
      unfold stripZeros
      split
      · rename_i hzero
        have hdvd : n % 10 = 0 := by
          simp only [Bool.and_eq_true, decide_eq_true_eq] at hzero
          exact hzero.left
        have hsplit : n = n / 10 * 10 := by omega
        rw [ih]
        unfold value
        have hcast : (n : ℚ) = (n / 10 : Nat) * 10 := by exact_mod_cast hsplit
        rw [hcast, zpow_add₀ (by norm_num)]
        ring
      · rfl

theorem Decimal.stripZeros_digits_pos (fuel : Nat) {n : Nat} (hpos : 0 < n) (e : Int) :
    0 < (stripZeros fuel n e).digits := by
  induction fuel generalizing n e with
  | zero => exact hpos
  | succ fuel ih =>
      unfold stripZeros
      split
      · rename_i hzero
        simp only [Bool.and_eq_true, decide_eq_true_eq] at hzero
        exact ih (by omega) (e + 1)
      · exact hpos

/-!
# Points of a grid
-/

/-- The distance between points of the grid of multiples of a power of ten, in quarters. -/
def spacing (exponent : Int) : ℚ :=
  10 ^ exponent * 2 ^ 1076

theorem Decimal.quarters_mk (n : Nat) (exponent : Int) :
    (Decimal.mk n exponent).quarters = n * spacing exponent :=
  mul_assoc _ _ _

theorem Interval.contains_iff (i : Interval) {num den : Nat} (hden : 0 < den) :
    i.contains num den = true ↔ i.Holds (num / den) := by
  have hpos : (0 : ℚ) < den := by exact_mod_cast hden
  unfold contains Holds
  cases i.closed with
  | true =>
      simp only [if_true, Bool.and_eq_true, decide_eq_true_eq, reduceCtorEq, false_implies,
        and_true]
      rw [le_div_iff₀ hpos, div_le_iff₀ hpos]
      exact_mod_cast Iff.rfl
  | false =>
      simp only [Bool.false_eq_true, if_false, Bool.and_eq_true, decide_eq_true_eq, true_implies]
      rw [le_div_iff₀ hpos, div_le_iff₀ hpos, lt_div_iff₀ hpos, div_lt_iff₀ hpos]
      constructor
      · intro hin
        have hlow : (i.low : ℚ) * den < num := by exact_mod_cast hin.left
        have hhigh : (num : ℚ) < i.high * den := by exact_mod_cast hin.right
        exact ⟨hlow.le, hhigh.le, hlow, hhigh⟩
      · intro hin
        exact ⟨by exact_mod_cast hin.right.right.left, by exact_mod_cast hin.right.right.right⟩

def gridScale (exponent : Int) : Nat :=
  if exponent < 0 then 2 ^ 1076 else 2 ^ 1076 * 10 ^ exponent.natAbs

def gridDen (exponent : Int) : Nat :=
  if exponent < 0 then 10 ^ exponent.natAbs else 1

theorem gridDen_pos (exponent : Int) : 0 < gridDen exponent := by
  unfold gridDen
  split <;> positivity

theorem cast_two_pow (n : Nat) : ((2 ^ n : Nat) : ℚ) = 2 ^ n :=
  Nat.cast_pow 2 n

theorem cast_ten_pow (n : Nat) : ((10 ^ n : Nat) : ℚ) = 10 ^ n :=
  Nat.cast_pow 10 n

theorem gridScale_div_gridDen (exponent : Int) :
    (gridScale exponent : ℚ) / gridDen exponent = spacing exponent := by
  unfold gridScale gridDen spacing
  rw [← cast_two_pow 1076]
  generalize 2 ^ 1076 = unit
  split
  · rename_i hneg
    have hexp : (10 : ℚ) ^ exponent = (10 ^ exponent.natAbs)⁻¹ := by
      rw [← zpow_natCast, ← zpow_neg]
      congr 1
      omega
    rw [hexp, cast_ten_pow]
    exact div_eq_inv_mul _ _
  · rename_i hpos
    have hexp : (10 : ℚ) ^ exponent = 10 ^ exponent.natAbs := by
      rw [← zpow_natCast]
      congr 1
      omega
    rw [hexp, Nat.cast_mul, cast_ten_pow, Nat.cast_one, div_one, mul_comm]

theorem Interval.contains_grid (i : Interval) (exponent : Int) (n : Nat) :
    i.contains (n * gridScale exponent) (gridDen exponent) = true ↔
      i.Holds (n * spacing exponent) := by
  rw [contains_iff i (gridDen_pos exponent), Nat.cast_mul, mul_div_assoc, gridScale_div_gridDen]

def Interval.lowerPoint (i : Interval) (exponent : Int) : Nat :=
  i.value * gridDen exponent / gridScale exponent

def Interval.keepsLower (i : Interval) (exponent : Int) : Bool :=
  i.contains (i.lowerPoint exponent * gridScale exponent) (gridDen exponent) &&
    i.lowerPoint exponent != 0

def Interval.keepsUpper (i : Interval) (exponent : Int) : Bool :=
  i.contains ((i.lowerPoint exponent + 1) * gridScale exponent) (gridDen exponent)

/-- Where both neighbours of the number are kept, the point is one of them. -/
theorem Interval.pointOn_eq (i : Interval) (exponent : Int) :
    exists nearer, (nearer = i.lowerPoint exponent ∨ nearer = i.lowerPoint exponent + 1) ∧
      i.pointOn exponent =
        if i.keepsLower exponent && i.keepsUpper exponent then some nearer
        else if i.keepsLower exponent then some (i.lowerPoint exponent)
        else if i.keepsUpper exponent then some (i.lowerPoint exponent + 1)
        else none := by
  unfold pointOn keepsLower keepsUpper lowerPoint gridScale gridDen
  dsimp only
  generalize compare (_ : Nat) _ = order
  cases order with
  | lt => exact ⟨_, Or.inl rfl, rfl⟩
  | gt => exact ⟨_, Or.inr rfl, rfl⟩
  | eq =>
      -- on a tie the even neighbour is taken
      refine ⟨_, ?_, rfl⟩
      exact ite_eq_or_eq _ _ _

theorem Interval.pointOn_cases (i : Interval) (exponent : Int) :
    (i.pointOn exponent = some (i.lowerPoint exponent) ∧ i.keepsLower exponent = true) ∨
      (i.pointOn exponent = some (i.lowerPoint exponent + 1) ∧ i.keepsUpper exponent = true) ∨
      (i.pointOn exponent = none ∧ i.keepsLower exponent = false ∧
        i.keepsUpper exponent = false) := by
  rcases i.pointOn_eq exponent with ⟨nearer, hnearer, hpoint⟩
  rw [hpoint]
  cases i.keepsLower exponent with
  | false =>
      cases i.keepsUpper exponent with
      | false => exact Or.inr (Or.inr ⟨rfl, rfl, rfl⟩)
      | true => exact Or.inr (Or.inl ⟨rfl, rfl⟩)
  | true =>
      cases i.keepsUpper exponent with
      | false => exact Or.inl ⟨rfl, rfl⟩
      | true =>
          rcases hnearer with hnearer | hnearer
          · rw [hnearer]
            exact Or.inl ⟨rfl, rfl⟩
          · rw [hnearer]
            exact Or.inr (Or.inl ⟨rfl, rfl⟩)

theorem Interval.holds_of_pointOn {i : Interval} {exponent : Int} {n : Nat}
    (hpoint : i.pointOn exponent = some n) : 0 < n ∧ i.Holds (n * spacing exponent) := by
  rcases i.pointOn_cases exponent with ⟨hsome, hkeeps⟩ | ⟨hsome, hkeeps⟩ | ⟨hnone, _⟩
  · have heq : i.lowerPoint exponent = n := Option.some.inj (hsome.symm.trans hpoint)
    unfold keepsLower at hkeeps
    rw [Bool.and_eq_true, bne_iff_ne, heq, contains_grid] at hkeeps
    exact ⟨Nat.pos_of_ne_zero hkeeps.right, hkeeps.left⟩
  · have heq : i.lowerPoint exponent + 1 = n := Option.some.inj (hsome.symm.trans hpoint)
    unfold keepsUpper at hkeeps
    rw [heq, contains_grid] at hkeeps
    exact ⟨by omega, hkeeps⟩
  · rw [hnone] at hpoint
    cases hpoint

theorem Interval.lowerPoint_le (i : Interval) (exponent : Int) :
    i.lowerPoint exponent * spacing exponent ≤ i.value ∧
      (i.value : ℚ) < (i.lowerPoint exponent + 1 : Nat) * spacing exponent := by
  have hden : (0 : ℚ) < gridDen exponent := by exact_mod_cast gridDen_pos exponent
  have hscale : 0 < gridScale exponent := by
    unfold gridScale
    split <;> positivity
  rw [← gridScale_div_gridDen, ← mul_div_assoc, ← mul_div_assoc, div_le_iff₀ hden,
    lt_div_iff₀ hden]
  constructor
  · exact_mod_cast Nat.div_mul_le_self (i.value * gridDen exponent) (gridScale exponent)
  · exact_mod_cast Nat.lt_mul_of_div_lt (Nat.lt_succ_self (i.lowerPoint exponent)) hscale

theorem Interval.holds_of_lt {i : Interval} {q : ℚ} (hlow : (i.low : ℚ) < q)
    (hhigh : q < i.high) : i.Holds q :=
  ⟨hlow.le, hhigh.le, fun _ => ⟨hlow, hhigh⟩⟩

/-- A grid that is finer than the interval, and than the number itself, has a point in it. -/
theorem Interval.pointOn_ne_none (i : Interval) (exponent : Int)
    (hlow : (i.low : ℚ) < i.value) (hhigh : (i.value : ℚ) < i.high)
    (hwidth : spacing exponent < (i.high : ℚ) - i.low) (hvalue : spacing exponent ≤ i.value) :
    i.pointOn exponent ≠ none := by
  intro hnone
  rcases i.pointOn_cases exponent with ⟨hsome, _⟩ | ⟨hsome, _⟩ | ⟨_, hkeepsLower, hkeepsUpper⟩
  · rw [hsome] at hnone
    cases hnone
  · rw [hsome] at hnone
    cases hnone
  · have hbetween := i.lowerPoint_le exponent
    have hlower : (i.lowerPoint exponent : ℚ) * spacing exponent ≤ i.low := by
      by_contra hcontra
      have hholds := holds_of_lt (lt_of_not_ge hcontra) (hbetween.left.trans_lt hhigh)
      have hnonzero : i.lowerPoint exponent ≠ 0 := by
        intro hzero
        rw [hzero] at hbetween
        simp at hbetween
        linarith
      have hcontains := (i.contains_grid exponent _).mpr hholds
      unfold keepsLower at hkeepsLower
      rw [hcontains, Bool.true_and, bne_eq_false_iff_eq] at hkeepsLower
      exact hnonzero hkeepsLower
    have hupper : (i.high : ℚ) ≤ (i.lowerPoint exponent + 1 : Nat) * spacing exponent := by
      by_contra hcontra
      have hholds := holds_of_lt (hlow.trans hbetween.right) (lt_of_not_ge hcontra)
      have hcontains := (i.contains_grid exponent _).mpr hholds
      unfold keepsUpper at hkeepsUpper
      rw [hcontains] at hkeepsUpper
      cases hkeepsUpper
    rw [Nat.cast_add, Nat.cast_one, add_mul, one_mul] at hupper
    linarith

/-!
# The search
-/

theorem Interval.holds_search (i : Interval) (fuel : Nat) (exponent : Int)
    (hfound : exists steps : Nat, steps < fuel ∧ i.pointOn (exponent - steps) ≠ none) :
    0 < (i.search fuel exponent).digits ∧ i.Holds (i.search fuel exponent).quarters := by
  induction fuel generalizing exponent with
  | zero =>
      rcases hfound with ⟨steps, hsteps, _⟩
      omega
  | succ fuel ih =>
      unfold search
      cases hpoint : i.pointOn exponent with
      | some n =>
          have hholds := holds_of_pointOn hpoint
          constructor
          · exact Decimal.stripZeros_digits_pos 20 hholds.left exponent
          · show i.Holds ((Decimal.stripZeros 20 n exponent).value * 2 ^ 1076)
            rw [Decimal.value_stripZeros]
            show i.Holds (Decimal.mk n exponent).quarters
            rw [Decimal.quarters_mk]
            exact hholds.right
      | none =>
          apply ih
          rcases hfound with ⟨steps, hsteps, hne⟩
          cases steps with
          | zero =>
              rw [Nat.cast_zero, sub_zero] at hne
              exact absurd hpoint hne
          | succ steps =>
              refine ⟨steps, by omega, ?_⟩
              have hshift : exponent - 1 - (steps : Int) = exponent - (steps + 1 : Nat) := by
                push_cast
                ring
              rw [hshift]
              exact hne

theorem pow_digitCount_le {n : Nat} (hpos : 0 < n) : 10 ^ (Decimal.digitCount n - 1) ≤ n := by
  by_contra hcontra
  have hlt := Nat.lt_of_not_le hcontra
  have hcount : 0 < Decimal.digitCount n := Nat.length_toDigits_pos
  unfold Decimal.digitCount at *
  rcases Nat.eq_zero_or_pos ((Nat.toDigits 10 n).length - 1) with hzero | hmore
  · rw [hzero] at hlt
    omega
  · have hle := (Nat.length_toDigits_le_iff (by decide) hmore).mpr hlt
    omega

/-- Ten decimal places are worth more than 33 binary ones. -/
theorem two_pow_le_ten_pow {m n : Nat} (hexponents : m * 10 ≤ n * 33) : 2 ^ m ≤ 10 ^ n := by
  apply (Nat.pow_le_pow_iff_left (by decide : 10 ≠ 0)).mp
  calc (2 ^ m) ^ 10 = 2 ^ (m * 10) := (Nat.pow_mul 2 m 10).symm
    _ ≤ 2 ^ (n * 33) := Nat.pow_le_pow_right (by decide) hexponents
    _ = (2 ^ 33) ^ n := by rw [Nat.mul_comm, Nat.pow_mul]
    _ ≤ (10 ^ 10) ^ n := Nat.pow_le_pow_left (by decide) n
    _ = (10 ^ n) ^ 10 := Nat.pow_right_comm 10 10 n

theorem spacing_leadingExponent_le {x : Binary64} (hpos : 0 < x.magnitude) :
    spacing x.leadingExponent ≤ 4 * x.magnitude := by
  have hunit : 2 ^ 1074 ≤ x.magnitude * 10 ^ 330 :=
    (@two_pow_le_ten_pow 1074 330 (by decide)).trans (Nat.le_mul_of_pos_left _ hpos)
  have hscaled : 0 < x.magnitude * 10 ^ 330 / 2 ^ 1074 :=
    Nat.div_pos hunit (Nat.two_pow_pos 1074)
  have hdigits := pow_digitCount_le hscaled
  have hcount : 0 < Decimal.digitCount (x.magnitude * 10 ^ 330 / 2 ^ 1074) :=
    Nat.length_toDigits_pos
  have hleading : x.leadingExponent =
      ((Decimal.digitCount (x.magnitude * 10 ^ 330 / 2 ^ 1074) - 1 : Nat) : Int) - 330 := by
    unfold leadingExponent
    omega
  have hnat : 10 ^ (Decimal.digitCount (x.magnitude * 10 ^ 330 / 2 ^ 1074) - 1) * 2 ^ 1074 ≤
      x.magnitude * 10 ^ 330 :=
    (Nat.mul_le_mul_right _ hdigits).trans (Nat.div_mul_le_self _ _)
  have hquarters : (2 : ℚ) ^ 1076 = 4 * (2 ^ 1074 : Nat) := by
    rw [cast_two_pow 1074, pow_add _ 2 1074]
    norm_num
  have htens : (10 : ℚ) ^ (330 : Int) = (10 ^ 330 : Nat) := by
    rw [cast_ten_pow 330]
    exact zpow_natCast 10 330
  generalize Decimal.digitCount (x.magnitude * 10 ^ 330 / 2 ^ 1074) - 1 = count at *
  have htensNat : 0 < 10 ^ 330 := @Nat.pow_pos 10 330 (by decide)
  unfold spacing
  rw [hleading, zpow_sub₀ (by norm_num), zpow_natCast, hquarters, htens]
  -- Neither power is of any interest from here on.
  generalize 2 ^ 1074 = unit at hnat ⊢
  generalize 10 ^ 330 = tens at hnat htensNat ⊢
  have htensPos : (0 : ℚ) < tens := by exact_mod_cast htensNat
  have hrat : (10 : ℚ) ^ count * unit ≤ x.magnitude * tens := by exact_mod_cast hnat
  rw [div_mul_eq_mul_div, div_le_iff₀ htensPos]
  linarith

theorem spacing_finest_lt_unit {x : Binary64} (hpos : 0 < x.magnitude) :
    spacing (x.leadingExponent - (17 : Nat)) < 2 ^ x.unitExponent := by
  have hunitPos : (0 : ℚ) < 2 ^ x.unitExponent := pow_pos (by norm_num) _
  have hspacing : spacing (x.leadingExponent - (17 : Nat)) * 10 ^ 17 ≤ 4 * x.magnitude := by
    have hleading := spacing_leadingExponent_le hpos
    unfold spacing at hleading ⊢
    rw [zpow_sub₀ (by norm_num), zpow_natCast, mul_right_comm, div_mul_cancel₀ _ (by norm_num)]
    exact hleading
  have hsignificand : (x.significand : ℚ) ≤ 2 ^ 53 := by exact_mod_cast x.significand_lt.le
  have hbound : (x.magnitude : ℚ) ≤ 2 ^ 53 * 2 ^ x.unitExponent := by
    unfold magnitude
    push_cast
    exact mul_le_mul_of_nonneg_right hsignificand hunitPos.le
  linarith

/-- The eighteenth grid is fine enough for every number. -/
theorem pointOn_finest_ne_none {x : Binary64} (hpos : 0 < x.magnitude) :
    x.interval.pointOn (x.leadingExponent - (17 : Nat)) ≠ none := by
  have hfine := spacing_finest_lt_unit hpos
  have hunit : (0 : ℚ) < 2 ^ x.unitExponent := pow_pos (by norm_num) _
  have hlow : (0 : ℚ) ≤ x.interval.low := Nat.cast_nonneg _
  have hbelow : (x.interval.low : ℚ) + 2 ^ x.unitExponent ≤ x.interval.value := by
    exact_mod_cast (interval_reach hpos).left
  have habove : (x.interval.value : ℚ) + 2 ^ x.unitExponent ≤ x.interval.high := by
    exact_mod_cast (interval_reach hpos).right
  apply Interval.pointOn_ne_none
  · linarith
  · linarith
  · linarith
  · linarith

/-- What is written for a number other than zero is positive and rounds back to it. -/
theorem holds_shortest {x : Binary64} (hzero : x.isZero = false) :
    0 < x.shortest.digits ∧ x.interval.Holds x.shortest.quarters :=
  x.interval.holds_search 18 x.leadingExponent
    ⟨17, by decide, pointOn_finest_ne_none (magnitude_pos_of_not_isZero hzero)⟩

theorem eq_of_shortest_value {x y : Binary64} (hx : x.isZero = false) (hy : y.isZero = false)
    (hsign : x.negative = y.negative) (hvalue : x.shortest.value = y.shortest.value) : x = y := by
  have hholds := (holds_shortest hy).right
  unfold Decimal.quarters at hholds
  rw [← hvalue] at hholds
  have hmagnitude := magnitude_eq_of_holds (holds_shortest hx).right hholds
  exact eq_of_unsignedWord hsign (unsignedWord_eq_of_magnitude hmagnitude)

end Binary64
end QueryGateway
