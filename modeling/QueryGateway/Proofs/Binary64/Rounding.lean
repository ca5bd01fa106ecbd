import QueryGateway.Json.Basic

/-!
# What rounding gives

Whatever is rounded, the result has a place in the order of numbers: it is
finite or infinite, but never NaN.  So every number of a JSON value has one.
-/

namespace QueryGateway
namespace Binary64

theorem word_ofWord (negative : Bool) {unsigned : Nat} (hlt : unsigned < 2 ^ 63) :
    (ofWord negative unsigned).word = (if negative then 2 ^ 63 else 0) + unsigned := by
  unfold ofWord word
  rw [UInt64.toNat_ofNat']
  apply Nat.mod_eq_of_lt
  split <;> omega

theorem unsignedWord_ofWord (negative : Bool) {unsigned : Nat} (hlt : unsigned < 2 ^ 63) :
    (ofWord negative unsigned).unsignedWord = unsigned := by
  unfold unsignedWord
  rw [word_ofWord negative hlt]
  split <;> omega

theorem negative_ofWord (negative : Bool) {unsigned : Nat} (hlt : unsigned < 2 ^ 63) :
    (ofWord negative unsigned).negative = negative := by
  unfold Binary64.negative
  rw [word_ofWord negative hlt]
  cases negative with
  | false =>
      rw [if_neg Bool.false_ne_true, beq_eq_false_iff_ne]
      omega
  | true =>
      rw [if_pos rfl, beq_iff_eq]
      omega

theorem isNaN_ofWord (negative : Bool) {unsigned : Nat} (hle : unsigned ≤ 2047 * 2 ^ 52) :
    (ofWord negative unsigned).isNaN = false := by
  have hword : (ofWord negative unsigned).word = (if negative then 2 ^ 63 else 0) + unsigned :=
    word_ofWord negative (by omega)
  have hunsigned : (ofWord negative unsigned).unsignedWord = unsigned :=
    unsignedWord_ofWord negative (by omega)
  have hfraction : (ofWord negative unsigned).fraction = unsigned % 2 ^ 52 := by
    unfold fraction
    rw [hword]
    split <;> omega
  unfold isNaN biasedExponent
  rw [hunsigned, hfraction, Bool.and_eq_false_iff, beq_eq_false_iff_ne, bne_eq_false_iff_eq]
  omega

theorem isNaN_ofParts (negative : Bool) {m u : Nat} (hm : m < 2 ^ 53) :
    (ofParts negative m u).isNaN = false := by
  unfold ofParts
  split
  · exact isNaN_ofWord negative (Nat.le_refl _)
  · split
    · apply isNaN_ofWord
      omega
    · apply isNaN_ofWord
      omega

theorem nearestInteger_le (num den : Nat) : nearestInteger num den ≤ num / den + 1 := by
  unfold nearestInteger
  dsimp only
  split
  · omega
  · omega
  · split <;> omega

theorem shifted_lt (n : Nat) : n / 2 ^ (n.log2 - 52) < 2 ^ 53 := by
  have hlt : n < 2 ^ (n.log2 + 1) := Nat.lt_log2_self
  apply Nat.div_lt_of_lt_mul
  rw [← Nat.pow_add]
  apply Nat.lt_of_lt_of_le hlt
  apply Nat.pow_le_pow_right
  · omega
  · omega

theorem isNaN_rounded (negative : Bool) (num den : Nat) :
    (rounded negative num den).isNaN = false := by
  unfold rounded
  dsimp only
  have hshifted : num / (den * 2 ^ ((num / den).log2 - 52)) < 2 ^ 53 := by
    rw [← Nat.div_div_eq_div_mul]
    exact shifted_lt (num / den)
  have hnearest := nearestInteger_le num (den * 2 ^ ((num / den).log2 - 52))
  split
  · exact isNaN_ofParts negative (by decide)
  · apply isNaN_ofParts
    omega

end Binary64

theorem Number.isNaN_toBinary64 (n : Number) : n.toBinary64.isNaN = false := by
  cases n with
  | integer n => exact Binary64.isNaN_rounded _ _ _
  | real x hfinite =>
      show x.isNaN = false
      unfold Binary64.isFinite at hfinite
      rw [bne_iff_ne] at hfinite
      unfold Binary64.isNaN
      rw [beq_eq_false_iff_ne.mpr hfinite]
      rfl

end QueryGateway
