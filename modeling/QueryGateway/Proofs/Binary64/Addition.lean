import QueryGateway.Proofs.Binary64.Reading

/-!
# Sums of integers

An integer up to 2^53 is its own nearest number.  So numbers that are integers are added
without an error as long as the results stay in this range, and so are all numbers of a
list if the distances from zero do together.
-/

namespace QueryGateway
namespace Binary64

/-- The number is an integer; both zeros are the integer zero. -/
structure IsInteger (x : Binary64) (n : Int) : Prop where
  finite : x.isFinite = true
  scaled : x.scaled = n * (2 ^ 1074 : Nat)

/-!
# Rounding what has a place
-/

theorem isFinite_ofWord (negative : Bool) {unsigned : Nat} (hlt : unsigned < 2047 * 2 ^ 52) :
    (ofWord negative unsigned).isFinite = true := by
  unfold isFinite biasedExponent
  rw [unsignedWord_ofWord negative (by omega), bne_iff_ne]
  omega

theorem magnitude_rounded_of_dvd (negative : Bool) {n : Nat} (hdvd : 2 ^ unitOf n ∣ n)
    (hbound : unitOf n < 2045) :
    (rounded negative n 1).isFinite = true ∧ (rounded negative n 1).magnitude = n := by
  have hbelow : significandOf n < 2 ^ 53 := significandOf_lt_of_dvd hdvd
  have hword : rounded negative n 1 = ofWord negative (nearestWord n) :=
    rounded_eq_ofWord negative n
  have hparts : rounded negative n 1 = ofParts negative (significandOf n) (unitOf n) := by
    rw [hword, ofParts_eq_ofWord negative hbelow le_significandOf]
    rfl
  have hfinite : (rounded negative n 1).isFinite = true := by
    rw [hword]
    apply isFinite_ofWord
    unfold nearestWord cappedWord
    omega
  refine ⟨hfinite, ?_⟩
  rw [hparts] at hfinite ⊢
  have hfields := parts_ofParts negative hbelow le_significandOf hfinite
  have hexact : significandOf n = n / 2 ^ unitOf n := nearestInteger_of_dvd hdvd
  rw [magnitude, hfields.left, hfields.right, hexact, Nat.div_mul_cancel hdvd]

theorem magnitude_rounded_scaled (negative : Bool) {n scale : Nat} (hn : n ≤ 2 ^ 53)
    (hscale : 52 ≤ scale) (hcap : scale < 2044) :
    (rounded negative (n * 2 ^ scale) 1).isFinite = true ∧
      (rounded negative (n * 2 ^ scale) 1).magnitude = n * 2 ^ scale := by
  have hunit : unitOf (n * 2 ^ scale) + 52 ≤ 53 + scale := by
    apply unitOf_scaled_le _ hscale
    omega
  exact magnitude_rounded_of_dvd negative (dvd_scaled hn hscale) (by omega)

theorem scaled_eq_of_magnitude {x : Binary64} {n : Int} {unit : Nat}
    (hsign : x.negative = decide (n < 0)) (hmagnitude : x.magnitude = n.natAbs * unit) :
    x.scaled = n * unit := by
  unfold Binary64.scaled
  rw [hsign, hmagnitude]
  rcases Int.lt_or_le n 0 with hneg | hnonneg
  · rw [decide_eq_true hneg, if_pos rfl, Nat.cast_mul, ← neg_mul]
    congr 1
    omega
  · rw [decide_eq_false (Int.not_lt.mpr hnonneg), if_neg Bool.false_ne_true, Nat.cast_mul,
      Int.natAbs_of_nonneg hnonneg]

theorem isInteger_ofInt {n : Int} (hn : n.natAbs ≤ 2 ^ 53) : IsInteger (ofInt n) n := by
  have hexact := @magnitude_rounded_scaled (n < 0) n.natAbs 1074 hn (by decide) (by decide)
  have hsign : (ofInt n).negative = decide (n < 0) := negative_rounded _ _ Nat.one_pos
  exact ⟨hexact.left, scaled_eq_of_magnitude hsign hexact.right⟩

theorem scaled_zero (negative : Bool) : (zero negative).scaled = 0 := by
  revert negative
  decide +kernel

theorem isInteger_zero (negative : Bool) : IsInteger (zero negative) 0 := by
  refine ⟨isFinite_ofWord negative (by decide), ?_⟩
  rw [scaled_zero, zero_mul]

/-!
# Addition
-/

theorem roundedInt_mul (n : Int) {unit : Nat} (hunit : 0 < unit) :
    roundedInt (n * unit) = rounded (n < 0) (n.natAbs * unit) 1 := by
  have hpos : (0 : Int) < unit := Int.natCast_pos.mpr hunit
  have hsign : n * unit < 0 ↔ n < 0 :=
    ⟨fun hneg => neg_of_mul_neg_left hneg hpos.le, fun hneg => mul_neg_of_neg_of_pos hneg hpos⟩
  unfold roundedInt
  rw [Int.natAbs_mul, Int.natAbs_natCast, decide_eq_decide.mpr hsign]

theorem add_of_isFinite {x y : Binary64} (hx : x.isFinite = true) (hy : y.isFinite = true) :
    x.add y =
      if x.scaled + y.scaled = 0 then zero (x.negative && y.negative)
      else roundedInt (x.scaled + y.scaled) := by
  have hnone : forall z : Binary64, z.isFinite = true -> z.isNaN = false ∧ z.isInfinite = false := by
    intro z hz
    unfold isFinite at hz
    rw [bne_iff_ne] at hz
    unfold isNaN isInfinite
    rw [beq_eq_false_iff_ne.mpr hz]
    exact ⟨rfl, rfl⟩
  unfold add
  rw [(hnone x hx).left, (hnone x hx).right, (hnone y hy).left, (hnone y hy).right]
  simp only [Bool.or_self, Bool.false_eq_true, if_false]

theorem IsInteger.add {x y : Binary64} {m n : Int} (hx : IsInteger x m) (hy : IsInteger y n)
    (hsum : (m + n).natAbs ≤ 2 ^ 53) : IsInteger (x.add y) (m + n) := by
  have hunit : 0 < 2 ^ 1074 := Nat.two_pow_pos 1074
  have hround : roundedInt ((m + n) * (2 ^ 1074 : Nat)) = ofInt (m + n) :=
    roundedInt_mul (m + n) hunit
  rw [add_of_isFinite hx.finite hy.finite, hx.scaled, hy.scaled, ← Int.add_mul, hround]
  split
  · next hzero =>
      rw [(Int.mul_eq_zero.mp hzero).resolve_right (Int.natCast_ne_zero.mpr hunit.ne')]
      exact isInteger_zero _
  · exact isInteger_ofInt hsum

/-- All partial sums stay in the range, whatever comes first. -/
theorem isInteger_foldl_add {integers : List Int} {x : Binary64} {n : Int} (hx : IsInteger x n)
    (hsum : n.natAbs + (integers.map Int.natAbs).sum ≤ 2 ^ 53) :
    IsInteger ((integers.map ofInt).foldl Binary64.add x) (n + integers.sum) := by
  induction integers generalizing x n with
  | nil =>
      rw [List.sum_nil, Int.add_zero]
      exact hx
  | cons m rest ih =>
      rw [List.map_cons, List.sum_cons] at hsum
      have hpartial : (n + m).natAbs ≤ n.natAbs + m.natAbs := Int.natAbs_add_le n m
      have hm : IsInteger (ofInt m) m := isInteger_ofInt (by omega)
      have hnext : IsInteger (x.add (ofInt m)) (n + m) := hx.add hm (by omega)
      rw [List.map_cons, List.foldl_cons, List.sum_cons, ← Int.add_assoc]
      exact ih hnext (by omega)

/-!
# Back to integers
-/

theorem natAbs_scaled (x : Binary64) : x.scaled.natAbs = x.magnitude := by
  unfold Binary64.scaled
  split
  · rw [Int.natAbs_neg, Int.natAbs_natCast]
  · exact Int.natAbs_natCast _

theorem IsInteger.magnitude_eq {x : Binary64} {n : Int} (hx : IsInteger x n) :
    x.magnitude = n.natAbs * 2 ^ 1074 := by
  rw [← natAbs_scaled, hx.scaled, Int.natAbs_mul, Int.natAbs_natCast]

theorem scaled_ediv {n k scale : Nat} (hn : n = k * 2 ^ scale) : (n : Int) / 2 ^ scale = k := by
  rw [hn, Nat.cast_mul, Nat.cast_pow]
  exact Int.mul_ediv_cancel k (pow_ne_zero scale two_ne_zero)

theorem toInt?_of_magnitude {x : Binary64} {k : Nat} (hfinite : x.isFinite = true)
    (hmagnitude : x.magnitude = k * 2 ^ 1074) :
    x.toInt? = some (if x.negative then -(k : Int) else k) := by
  have hdvd : x.magnitude % 2 ^ 1074 = 0 := by
    rw [hmagnitude]
    exact Nat.mul_mod_left k _
  have hquotient : (x.magnitude : Int) / 2 ^ 1074 = k := scaled_ediv hmagnitude
  unfold toInt?
  rw [hfinite, hdvd, hquotient]
  rfl

theorem toInt?_of_isInteger {x : Binary64} {n : Int} (hx : IsInteger x n) : x.toInt? = some n := by
  have hunit : 0 < 2 ^ 1074 := Nat.two_pow_pos 1074
  have hscaled := hx.scaled
  rw [toInt?_of_magnitude hx.finite hx.magnitude_eq]
  unfold Binary64.scaled at hscaled
  rw [hx.magnitude_eq, Nat.cast_mul] at hscaled
  refine congrArg some (Int.eq_of_mul_eq_mul_right (Int.natCast_ne_zero.mpr hunit.ne') ?_)
  rw [← hscaled]
  split
  · exact Int.neg_mul _ _
  · rfl

end Binary64
end QueryGateway
