import QueryGateway.Proofs.Binary64.Integers
import QueryGateway.Proofs.Binary64.Numeral

/-!
# Numbers read back

What is rounded to a finite number lies in the rounding interval of that number,
and so does the value of a numeral that is read.  The decimal that is written for
a number lies in its interval too, and a value is in one interval only: what is
read from the text of a number is that number again.
-/

namespace QueryGateway
namespace Binary64

/-!
# The nearest significand
-/

theorem nearestInteger_near_of_odd (num : Nat) {den : Nat} (hden : 0 < den)
    (hodd : nearestInteger num den % 2 = 1) :
    2 * num < 2 * (den * nearestInteger num den) + den ∧
      2 * (den * nearestInteger num den) < 2 * num + den := by
  have hsplit := Nat.div_add_mod num den
  have hnext : den * (num / den + 1) = den * (num / den) + den := Nat.mul_succ _ _
  have hmod : num % den < den := Nat.mod_lt num hden
  unfold nearestInteger at hodd ⊢
  dsimp only at hodd ⊢
  split at hodd
  · next hlt =>
      rw [Nat.compare_eq_lt] at hlt
      omega
  · next hgt =>
      rw [Nat.compare_eq_gt] at hgt
      omega
  · next heq =>
      -- a tie goes to the even integer
      split at hodd <;> omega

/--
A significand and the exponent of its unit that come nearest to `num / den`, with
`den * 2 ^ u` in place of the unit.
-/
structure NearestParts (num den m u : Nat) : Prop where
  below : m < 2 ^ 53
  leading : 0 < u -> 2 ^ 52 ≤ m
  high : 2 * num ≤ 2 * (den * 2 ^ u * m) + den * 2 ^ u
  low : 2 * (den * 2 ^ u * m) ≤ 2 * num + den * 2 ^ u
  odd : m % 2 = 1 ->
    2 * num < 2 * (den * 2 ^ u * m) + den * 2 ^ u ∧
      2 * (den * 2 ^ u * m) < 2 * num + den * 2 ^ u
  least : 0 < u -> m = 2 ^ 52 -> 4 * (den * 2 ^ u * m) ≤ 4 * num + den * 2 ^ u

theorem NearestParts.carry {num den u : Nat}
    (hhigh : 2 * num ≤ 2 * (den * 2 ^ u * 2 ^ 53) + den * 2 ^ u)
    (hlow : 2 * (den * 2 ^ u * 2 ^ 53) ≤ 2 * num + den * 2 ^ u) :
    NearestParts num den (2 ^ 52) (u + 1) := by
  have hunit : den * 2 ^ (u + 1) = 2 * (den * 2 ^ u) := by
    rw [Nat.pow_succ]
    ring
  constructor
  · decide
  · intro _
    exact Nat.le_refl _
  · rw [hunit]
    linarith
  · rw [hunit]
    linarith
  · intro hodd
    exact absurd hodd (by decide)
  · intro _ _
    rw [hunit]
    linarith

theorem unit_mul_den_le {num den : Nat} (hden : 0 < den) (hunit : 0 < unitOf (num / den)) :
    2 ^ 52 * (den * 2 ^ unitOf (num / den)) ≤ num :=
  calc 2 ^ 52 * (den * 2 ^ unitOf (num / den))
      = 2 ^ 52 * 2 ^ unitOf (num / den) * den := by ring
    _ ≤ num := (Nat.le_div_iff_mul_le hden).mp (two_pow_mul_unitOf_le hunit)

theorem exists_nearestParts (negative : Bool) (num : Nat) {den : Nat} (hden : 0 < den) :
    exists m u, rounded negative num den = ofParts negative m u ∧ NearestParts num den m u := by
  have hpos : 0 < den * 2 ^ unitOf (num / den) := Nat.mul_pos hden (Nat.two_pow_pos _)
  have hnear := nearestInteger_near num hpos
  have hshifted : num / (den * 2 ^ unitOf (num / den)) < 2 ^ 53 := by
    rw [← Nat.div_div_eq_div_mul]
    exact shifted_lt (num / den)
  have hnearest := nearestInteger_le num (den * 2 ^ unitOf (num / den))
  show exists m u,
    (if nearestInteger num (den * 2 ^ unitOf (num / den)) = 2 ^ 53 then
        ofParts negative (2 ^ 52) (unitOf (num / den) + 1)
      else
        ofParts negative (nearestInteger num (den * 2 ^ unitOf (num / den)))
          (unitOf (num / den))) = ofParts negative m u ∧ NearestParts num den m u
  by_cases hcarry : nearestInteger num (den * 2 ^ unitOf (num / den)) = 2 ^ 53
  · rw [if_pos hcarry]
    rw [hcarry] at hnear
    exact ⟨_, _, rfl, NearestParts.carry hnear.left hnear.right⟩
  · rw [if_neg hcarry]
    refine ⟨_, _, rfl, ?_⟩
    constructor
    · omega
    · intro hunit
      have hquotient := (Nat.le_div_iff_mul_le hpos).mpr (unit_mul_den_le hden hunit)
      exact Nat.le_trans hquotient (le_nearestInteger _ _)
    · exact hnear.left
    · exact hnear.right
    · exact nearestInteger_near_of_odd num hpos
    · intro hunit hleast
      have hreach := unit_mul_den_le hden hunit
      rw [hleast]
      omega

/-!
# The interval of what is rounded
-/

theorem parts_ofParts (negative : Bool) {m u : Nat} (hm : m < 2 ^ 53)
    (hlead : 0 < u -> 2 ^ 52 ≤ m) (hfinite : (ofParts negative m u).isFinite = true) :
    (ofParts negative m u).significand = m ∧ (ofParts negative m u).unitExponent = u := by
  have hword : (ofParts negative m u).unsignedWord = cappedWord m u := by
    rw [ofParts_eq_ofWord negative hm hlead]
    exact unsignedWord_ofWord negative (cappedWord_lt_two_pow m u)
  have hsplit := (ofParts negative m u).unsignedWord_eq
  have hfraction := (ofParts negative m u).fraction_lt
  unfold isFinite at hfinite
  rw [bne_iff_ne] at hfinite
  rw [hword] at hsplit
  unfold cappedWord at hsplit
  unfold significand unitExponent
  constructor
  · split <;> omega
  · omega

theorem negative_rounded (negative : Bool) (num : Nat) {den : Nat} (hden : 0 < den) :
    (rounded negative num den).negative = negative := by
  rcases exists_nearestParts negative num hden with ⟨m, u, hrounded, hparts⟩
  rw [hrounded, ofParts_eq_ofWord negative hparts.below hparts.leading]
  exact negative_ofWord negative (cappedWord_lt_two_pow m u)

/-- The interval below a number is halved only where the significand is the least one. -/
theorem reachBelow_eq_two_or (x : Binary64) :
    x.reachBelow = 2 ∨ (x.reachBelow = 1 ∧ 0 < x.unitExponent ∧ x.significand = 2 ^ 52) := by
  rcases Nat.eq_zero_or_pos x.unitExponent with hzero | hpos
  · left
    have hsmall : ¬ 1 < x.biasedExponent := by
      unfold unitExponent at hzero
      omega
    simp [reachBelow, hsmall]
  · rcases reachBelow_cases hpos with ⟨hone, hleast⟩ | ⟨htwo, _⟩
    · exact Or.inr ⟨hone, hpos, hleast⟩
    · exact Or.inl htwo

theorem contains_of_nearestParts {x : Binary64} {num den : Nat} (hden : 0 < den)
    (hparts : NearestParts num den x.significand x.unitExponent) :
    x.interval.contains (4 * num) den = true := by
  have hhigh := hparts.high
  have hlow := hparts.low
  have hodd := hparts.odd
  have hleast := hparts.least
  have hunit : 0 < den * 2 ^ x.unitExponent := Nat.mul_pos hden (Nat.two_pow_pos _)
  have hwhole : x.significand % 2 = 1 ->
      den * 2 ^ x.unitExponent ≤ den * 2 ^ x.unitExponent * x.significand := by
    intro hone
    apply Nat.le_mul_of_pos_right
    omega
  have hlower : x.interval.low * den =
      4 * (den * 2 ^ x.unitExponent * x.significand) -
        x.reachBelow * (den * 2 ^ x.unitExponent) := by
    rw [interval_low, Nat.sub_mul]
    unfold magnitude
    ring_nf
  have hupper : x.interval.high * den =
      4 * (den * 2 ^ x.unitExponent * x.significand) + 2 * (den * 2 ^ x.unitExponent) := by
    rw [interval_high]
    unfold magnitude
    ring
  unfold Interval.contains
  rw [hlower, hupper]
  generalize den * 2 ^ x.unitExponent = unit at *
  generalize unit * x.significand = value at *
  cases hclosed : x.interval.closed with
  | true =>
      rw [if_pos rfl, Bool.and_eq_true, decide_eq_true_eq, decide_eq_true_eq]
      rcases x.reachBelow_eq_two_or with htwo | ⟨hhalved, hpos, hfirst⟩
      · rw [htwo]
        omega
      · have hquarter := hleast hpos hfirst
        rw [hhalved]
        omega
  | false =>
      have hone : x.significand % 2 = 1 := by
        simpa [interval] using hclosed
      have hstrict := hodd hone
      have hsome := hwhole hone
      rw [if_neg Bool.false_ne_true, Bool.and_eq_true, decide_eq_true_eq, decide_eq_true_eq]
      rcases x.reachBelow_eq_two_or with htwo | ⟨_, _, hfirst⟩
      · rw [htwo]
        omega
      · -- the least significand is even
        rw [hfirst] at hone
        exact absurd hone (by decide)

/-- Rounding is to the nearest: the value is in the interval of the result. -/
theorem holds_rounded (negative : Bool) (num : Nat) {den : Nat} (hden : 0 < den)
    (hfinite : (rounded negative num den).isFinite = true) :
    (rounded negative num den).interval.Holds ((4 * num : Nat) / den) := by
  rcases exists_nearestParts negative num hden with ⟨m, u, hrounded, hparts⟩
  rw [hrounded] at hfinite ⊢
  have hfields := parts_ofParts negative hparts.below hparts.leading hfinite
  rw [← Interval.contains_iff _ hden]
  apply contains_of_nearestParts hden
  rw [hfields.left, hfields.right]
  exact hparts

/-!
# What is read from a numeral
-/

theorem isFinite_infinity (negative : Bool) : (infinity negative).isFinite = false := by
  cases negative with
  | false => rfl
  | true => rfl

theorem interval_zero (negative : Bool) : (zero negative).interval = ⟨0, 0, 2, true⟩ := by
  cases negative with
  | false => rfl
  | true => rfl

theorem holds_zero {negative : Bool} {q : ℚ} (hlow : 0 ≤ q) (hhigh : q ≤ 2) :
    (zero negative).interval.Holds q := by
  rw [interval_zero]
  exact ⟨by exact_mod_cast hlow, by exact_mod_cast hhigh, nofun⟩

theorem quarters_eq_zero {digits : Nat} (hzero : digits = 0) (exponent : Int) :
    (Decimal.mk digits exponent).quarters = 0 := by
  rw [Decimal.quarters_mk, hzero, Nat.cast_zero, zero_mul]

theorem quarters_nonneg (d : Decimal) : 0 ≤ d.quarters := by
  apply mul_nonneg
  · exact mul_nonneg (Nat.cast_nonneg _) (zpow_nonneg (by norm_num) _)
  · exact pow_nonneg (by norm_num) _

theorem lt_pow_digitCount (n : Nat) : n < 10 ^ Decimal.digitCount n :=
  (Nat.length_toDigits_le_iff (by decide) Nat.length_toDigits_pos).mp (Nat.le_refl _)

theorem quarters_le_two {digits : Nat} {exponent : Int}
    (hsmall : (Decimal.digitCount digits : Int) + exponent < -400) :
    (Decimal.mk digits exponent).quarters ≤ 2 := by
  have hdigits : (digits : ℚ) ≤ 10 ^ (Decimal.digitCount digits : Int) := by
    rw [zpow_natCast]
    exact_mod_cast (lt_pow_digitCount digits).le
  have hpow : (2 : ℚ) ^ 1075 ≤ 10 ^ 400 :=
    calc (2 : ℚ) ^ 1075 ≤ 2 ^ (3 * 400) := pow_le_pow_right₀ (by norm_num) (by decide)
      _ = (2 ^ 3) ^ 400 := pow_mul 2 3 400
      _ ≤ 10 ^ 400 := pow_le_pow_left₀ (by norm_num) (by norm_num) 400
  have hten : (0 : ℚ) < 10 ^ 400 := pow_pos (by norm_num) _
  have htwo : (0 : ℚ) ≤ 2 ^ 1075 := pow_nonneg (by norm_num) _
  have hvalue : (digits : ℚ) * 10 ^ exponent ≤ (10 ^ 400)⁻¹ :=
    calc (digits : ℚ) * 10 ^ exponent
        ≤ 10 ^ (Decimal.digitCount digits : Int) * 10 ^ exponent :=
          mul_le_mul_of_nonneg_right hdigits (zpow_nonneg (by norm_num) _)
      _ = 10 ^ ((Decimal.digitCount digits : Int) + exponent) :=
          (zpow_add₀ (by norm_num) _ _).symm
      _ ≤ 10 ^ (-(400 : Nat) : Int) := zpow_le_zpow_right₀ (by norm_num) (by push_cast; omega)
      _ = (10 ^ 400)⁻¹ := by rw [zpow_neg, zpow_natCast]
  have hunit : (digits : ℚ) * 10 ^ exponent * 2 ^ 1075 ≤ 1 := by
    apply (mul_le_mul_of_nonneg_right hvalue htwo).trans
    rw [inv_mul_le_iff₀ hten, mul_one]
    exact hpow
  calc (Decimal.mk digits exponent).quarters
      = digits * 10 ^ exponent * 2 ^ 1075 * 2 := by
        rw [mul_assoc _ _ (2 : ℚ), ← pow_succ]
        rfl
    _ ≤ 1 * 2 := mul_le_mul_of_nonneg_right hunit (by norm_num)
    _ = 2 := one_mul 2

theorem two_pow_eq_four_mul (n m : Nat) (hexponent : n = m + 2) : 2 ^ n = 4 * 2 ^ m := by
  rw [hexponent, Nat.pow_add, Nat.mul_comm]

/-- The numerator of a decimal as it is rounded, where `unit` is the number of 2^-1074 in one. -/
theorem holds_rounded_decimal {negative : Bool} {digits unit : Nat} {exponent : Int}
    (hunit : gridScale exponent = 4 * unit)
    (hfinite : (rounded negative (digits * unit) (gridDen exponent)).isFinite = true) :
    (rounded negative (digits * unit) (gridDen exponent)).interval.Holds
      (Decimal.mk digits exponent).quarters := by
  have hvalue : ((4 * (digits * unit) : Nat) : ℚ) / gridDen exponent =
      (Decimal.mk digits exponent).quarters := by
    rw [Decimal.quarters_mk, ← gridScale_div_gridDen, hunit]
    push_cast
    ring
  rw [← hvalue]
  exact holds_rounded negative (digits * unit) (gridDen_pos exponent) hfinite

theorem gridScale_of_neg {exponent : Int} (hneg : exponent < 0) {unit : Nat}
    (hunit : 2 ^ 1076 = 4 * unit) : gridScale exponent = 4 * unit := by
  rw [gridScale, if_pos hneg, hunit]

theorem gridScale_of_nonneg {exponent : Int} (hnonneg : ¬ exponent < 0) {unit : Nat}
    (hunit : 2 ^ 1076 = 4 * unit) : gridScale exponent = 4 * (10 ^ exponent.natAbs * unit) := by
  rw [gridScale, if_neg hnonneg, hunit]
  ring

theorem holds_ofDecimal {negative : Bool} {digits : Nat} {exponent : Int}
    (hfinite : (ofDecimal negative digits exponent).isFinite = true) :
    (ofDecimal negative digits exponent).interval.Holds (Decimal.mk digits exponent).quarters := by
  have hunit : 2 ^ 1076 = 4 * 2 ^ 1074 := two_pow_eq_four_mul 1076 1074 rfl
  unfold ofDecimal at hfinite ⊢
  generalize 2 ^ 1074 = unit at *
  by_cases hzero : digits = 0
  · rw [if_pos hzero, quarters_eq_zero hzero]
    exact holds_zero (le_refl 0) (by norm_num)
  · rw [if_neg hzero] at hfinite ⊢
    by_cases hneg : exponent < 0
    · have hden : gridDen exponent = 10 ^ exponent.natAbs := if_pos hneg
      rw [if_pos hneg, ← hden] at hfinite ⊢
      exact holds_rounded_decimal (gridScale_of_neg hneg hunit) hfinite
    · have hden : gridDen exponent = 1 := if_neg hneg
      rw [if_neg hneg, Nat.mul_assoc, ← hden] at hfinite ⊢
      exact holds_rounded_decimal (gridScale_of_nonneg hneg hunit) hfinite

/-- The shortcuts for exponents out of range give what rounding would give. -/
theorem holds_ofNumeral {negative : Bool} {digits : Nat} {exponent : Int}
    (hfinite : (ofNumeral negative digits exponent).isFinite = true) :
    (ofNumeral negative digits exponent).interval.Holds
      (Decimal.mk digits exponent).quarters := by
  unfold ofNumeral at hfinite ⊢
  dsimp only at hfinite ⊢
  split at hfinite
  · next hshort =>
      rw [if_pos hshort]
      rw [Bool.or_eq_true, decide_eq_true_eq, decide_eq_true_eq] at hshort
      rcases hshort with hzero | hsmall
      · rw [quarters_eq_zero hzero]
        exact holds_zero (le_refl 0) (by norm_num)
      · exact holds_zero (quarters_nonneg _) (quarters_le_two hsmall)
  · next hshort =>
      rw [if_neg hshort]
      split at hfinite
      · rw [isFinite_infinity] at hfinite
        cases hfinite
      · next hlarge =>
          rw [if_neg hlarge]
          exact holds_ofDecimal hfinite

theorem negative_ofNumeral (negative : Bool) (digits : Nat) (exponent : Int) :
    (ofNumeral negative digits exponent).negative = negative := by
  have hzero : (zero negative).negative = negative := negative_ofWord negative (by decide)
  have hinfinity : (infinity negative).negative = negative := negative_ofWord negative (by decide)
  unfold ofNumeral ofDecimal
  dsimp only
  split
  · exact hzero
  · split
    · exact hinfinity
    · split
      · exact hzero
      · split
        · exact negative_rounded negative _ (Nat.pow_pos (by decide))
        · exact negative_rounded negative _ Nat.one_pos

theorem ofNumeral_integer {n : Int} (hfinite : (ofNumeral (n < 0) n.natAbs 0).isFinite = true) :
    ofNumeral (n < 0) n.natAbs 0 = ofInt n := by
  unfold ofNumeral ofDecimal at hfinite ⊢
  unfold ofInt
  generalize 2 ^ 1074 = unit at *
  dsimp only at hfinite ⊢
  split at hfinite
  · next hshort =>
      rw [if_pos hshort]
      rw [Bool.or_eq_true, decide_eq_true_eq, decide_eq_true_eq] at hshort
      have hzero : n = 0 := by
        rcases hshort with hzero | hsmall
        · exact Int.natAbs_eq_zero.mp hzero
        · omega
      rw [hzero, Int.natAbs_zero, Nat.zero_mul]
      rfl
  · next hshort =>
      rw [if_neg hshort]
      rw [Bool.or_eq_true, decide_eq_true_eq, decide_eq_true_eq] at hshort
      split at hfinite
      · rw [isFinite_infinity] at hfinite
        cases hfinite
      · next hlarge =>
          have hnonzero : n.natAbs ≠ 0 := fun hzero => hshort (Or.inl hzero)
          rw [if_neg hlarge, if_neg hnonzero, if_neg (Int.lt_irrefl 0), Int.natAbs_zero,
            Nat.pow_zero, Nat.mul_one]

theorem ofText?_eq (text : String) :
    ofText? text =
      let signed := splitSign text.toList
      let whole := splitDigits signed.2
      let fraction := fractionPart whole.2
      if whole.1.isEmpty && fraction.1.isEmpty then
        none
      else
        (exponentPart fraction.2).map fun exponent =>
          ofNumeral signed.1 (digitsValue (whole.1 ++ fraction.1))
            (exponent - fraction.1.length) :=
  rfl

theorem exponentPart_cons (c : Char) (rest : List Char) :
    exponentPart (c :: rest) =
      let signed := splitSign rest
      let digits := splitDigits signed.2
      if c = 'e' || c = 'E' then
        if digits.1.isEmpty || !digits.2.isEmpty then
          none
        else
          some (if signed.1 then -(digitsValue digits.1 : Int) else digitsValue digits.1)
      else
        none :=
  rfl

theorem exists_ofNumeral {text : String} {x : Binary64} (hread : ofText? text = some x) :
    exists digits exponent, x = ofNumeral (splitSign text.toList).1 digits exponent ∧
      (Decimal.mk digits exponent).value = numeralValue (splitSign text.toList).2 := by
  rw [ofText?_eq] at hread
  unfold numeralValue
  dsimp only at hread ⊢
  split at hread
  · cases hread
  · rw [Option.map_eq_some_iff] at hread
    rcases hread with ⟨exponent, hexponent, hx⟩
    refine ⟨_, _, hx.symm, ?_⟩
    rw [hexponent, Option.getD_some]
    rfl

/-!
# The text of a number is read back
-/

theorem splitSign_render (x : Binary64) :
    splitSign (render jsonStyle x).toList = (x.negative, x.unsignedText.toList) := by
  rw [toList_render]
  rcases (shape_of_denotes x.denotes_unsignedText).left with ⟨d, rest, htext, hdigit⟩
  cases hneg : x.negative with
  | true => rfl
  | false =>
      rw [if_neg Bool.false_ne_true, htext]
      unfold splitSign
      split
      · next heq =>
          injection heq with hd _
          rw [hd] at hdigit
          cases hdigit
      · next heq =>
          injection heq with hd _
          rw [hd] at hdigit
          cases hdigit
      · rfl

/-- The text of a number denotes a value in its rounding interval. -/
theorem holds_numeralValue (x : Binary64) :
    x.interval.Holds (numeralValue x.unsignedText.toList * 2 ^ 1076) := by
  rw [numeralValue_of_denotes x.denotes_unsignedText]
  cases hzero : x.isZero with
  | true =>
      have hword : x.unsignedWord = (zero x.negative).unsignedWord := by
        rw [zero, unsignedWord_ofWord _ (by decide)]
        exact beq_iff_eq.mp hzero
      have hsign : x.negative = (zero x.negative).negative :=
        (negative_ofWord x.negative (by decide)).symm
      rw [eq_of_unsignedWord hsign hword, if_pos rfl, zero_mul]
      exact holds_zero (le_refl 0) (by norm_num)
  | false =>
      rw [if_neg Bool.false_ne_true]
      exact (holds_shortest hzero).right

theorem eq_of_ofText?_render {x y : Binary64} (hread : ofText? (render jsonStyle x) = some y)
    (hfinite : y.isFinite = true) : y = x := by
  rcases exists_ofNumeral hread with ⟨digits, exponent, hy, hvalue⟩
  rw [splitSign_render] at hy hvalue
  have hsign : y.negative = x.negative := by
    rw [hy]
    exact negative_ofNumeral _ _ _
  have hholds : y.interval.Holds (Decimal.mk digits exponent).quarters := by
    rw [hy] at hfinite ⊢
    exact holds_ofNumeral hfinite
  unfold Decimal.quarters at hholds
  rw [hvalue] at hholds
  have hmagnitude := magnitude_eq_of_holds hholds x.holds_numeralValue
  exact eq_of_unsignedWord hsign (unsignedWord_eq_of_magnitude hmagnitude)

end Binary64
end QueryGateway
