import Mathlib.Data.Nat.Log
import QueryGateway.Proofs.Binary64.Rounding

/-!
# Integers as binary64 numbers

Rounding keeps the order of what is rounded, but it does not keep different
integers apart.  It does below 2^53, where integers are their own nearest
numbers, and it does when they are further apart than the numbers in between.
-/

namespace QueryGateway
namespace Binary64

/-!
# The nearest integer to a quotient
-/

theorem le_nearestInteger (num den : Nat) : num / den ≤ nearestInteger num den := by
  unfold nearestInteger
  dsimp only
  split
  · exact Nat.le_refl _
  · exact Nat.le_succ _
  · split
    · exact Nat.le_refl _
    · exact Nat.le_succ _

theorem nearestInteger_of_dvd {num den : Nat} (hdvd : den ∣ num) :
    nearestInteger num den = num / den := by
  have hzero : num % den = 0 := Nat.mod_eq_zero_of_dvd hdvd
  unfold nearestInteger
  dsimp only
  rw [hzero]
  split
  · rfl
  · next hgt =>
      rw [Nat.compare_eq_gt] at hgt
      omega
  · next heq =>
      rw [Nat.compare_eq_eq] at heq
      rw [if_pos]
      rw [← heq, Nat.mul_zero, Nat.div_zero]

/-- The remainder decides between a quotient and the next one; equal quotients have one parity. -/
theorem nearestInteger_mono {num num' den : Nat} (hle : num ≤ num') :
    nearestInteger num den ≤ nearestInteger num' den := by
  have hquotient : num / den ≤ num' / den := Nat.div_le_div_right hle
  rcases Nat.lt_or_eq_of_le hquotient with hlt | hsame
  · calc nearestInteger num den
        ≤ num / den + 1 := nearestInteger_le num den
      _ ≤ num' / den := hlt
      _ ≤ nearestInteger num' den := le_nearestInteger num' den
  · have hremainder : num % den ≤ num' % den := by
      have hnum := Nat.div_add_mod num den
      have hnum' := Nat.div_add_mod num' den
      rw [← hsame] at hnum'
      omega
    unfold nearestInteger
    dsimp only
    rw [← hsame]
    rcases Nat.lt_trichotomy (2 * (num' % den)) den with hlt | heq | hgt
    · have hlt' : 2 * (num % den) < den := by omega
      rw [Nat.compare_eq_lt.mpr hlt, Nat.compare_eq_lt.mpr hlt']
    · rw [Nat.compare_eq_eq.mpr heq]
      rcases Nat.lt_or_eq_of_le hremainder with hless | hequal
      · have hlt' : 2 * (num % den) < den := by omega
        rw [Nat.compare_eq_lt.mpr hlt']
        dsimp only
        split <;> omega
      · rw [hequal, Nat.compare_eq_eq.mpr heq]
    · rw [Nat.compare_eq_gt.mpr hgt]
      dsimp only
      split
      · exact Nat.le_succ _
      · exact Nat.le_refl _
      · split
        · exact Nat.le_succ _
        · exact Nat.le_refl _

theorem nearestInteger_near (num : Nat) {den : Nat} (hden : 0 < den) :
    2 * num ≤ 2 * (den * nearestInteger num den) + den ∧
      2 * (den * nearestInteger num den) ≤ 2 * num + den := by
  have hsplit := Nat.div_add_mod num den
  have hnext : den * (num / den + 1) = den * (num / den) + den := Nat.mul_succ _ _
  have hmod : num % den < den := Nat.mod_lt num hden
  unfold nearestInteger
  dsimp only
  split
  · next hlt =>
      rw [Nat.compare_eq_lt] at hlt
      omega
  · next hgt =>
      rw [Nat.compare_eq_gt] at hgt
      omega
  · next heq =>
      rw [Nat.compare_eq_eq] at heq
      split <;> omega

/-!
# Rounding natural numbers

The word of the number nearest to `n` units has the exponent of `n` above the
nearest significand; a significand that reaches 2^53 carries into the exponent,
and beyond the largest exponent there is infinity.
-/

def cappedWord (m u : Nat) : Nat :=
  Min.min (u * 2 ^ 52 + m) (2047 * 2 ^ 52)

def unitOf (n : Nat) : Nat :=
  n.log2 - 52

def significandOf (n : Nat) : Nat :=
  nearestInteger n (2 ^ unitOf n)

def nearestWord (n : Nat) : Nat :=
  cappedWord (significandOf n) (unitOf n)

theorem unitOf_mono {m n : Nat} (hle : m ≤ n) : unitOf m ≤ unitOf n := by
  have hlog : m.log2 ≤ n.log2 := by
    rw [Nat.log2_eq_log_two, Nat.log2_eq_log_two]
    exact Nat.log_mono_right hle
  unfold unitOf
  omega

theorem quotient_lt (n : Nat) : n / 2 ^ unitOf n < 2 ^ 53 :=
  shifted_lt n

theorem significandOf_le (n : Nat) : significandOf n ≤ 2 ^ 53 := by
  have hquotient := quotient_lt n
  have hnearest : significandOf n ≤ n / 2 ^ unitOf n + 1 := nearestInteger_le n (2 ^ unitOf n)
  omega

theorem two_pow_mul_unitOf_le {n : Nat} (hunit : 0 < unitOf n) : 2 ^ 52 * 2 ^ unitOf n ≤ n := by
  have hlog : n.log2 = unitOf n + 52 := by
    unfold unitOf at hunit ⊢
    omega
  have hne : n ≠ 0 := by
    intro hzero
    rw [hzero] at hunit
    exact absurd hunit (by decide)
  rw [← Nat.pow_add, Nat.add_comm, ← hlog]
  exact Nat.log2_self_le hne

theorem le_significandOf {n : Nat} (hunit : 0 < unitOf n) : 2 ^ 52 ≤ significandOf n := by
  have hquotient : 2 ^ 52 ≤ n / 2 ^ unitOf n :=
    (Nat.le_div_iff_mul_le (Nat.two_pow_pos _)).mpr (two_pow_mul_unitOf_le hunit)
  exact Nat.le_trans hquotient (le_nearestInteger n (2 ^ unitOf n))

theorem cappedWord_lt_two_pow (m u : Nat) : cappedWord m u < 2 ^ 63 :=
  Nat.lt_of_le_of_lt (Nat.min_le_right _ _) (by decide)

theorem ofParts_eq_ofWord (negative : Bool) {m u : Nat} (hm : m < 2 ^ 53)
    (hlead : 0 < u -> 2 ^ 52 ≤ m) : ofParts negative m u = ofWord negative (cappedWord m u) := by
  unfold ofParts infinity
  split
  · refine congrArg (ofWord negative) ?_
    unfold cappedWord
    omega
  · split
    · refine congrArg (ofWord negative) ?_
      unfold cappedWord
      omega
    · refine congrArg (ofWord negative) ?_
      unfold cappedWord
      omega

theorem rounded_eq_ofWord (negative : Bool) (n : Nat) :
    rounded negative n 1 = ofWord negative (nearestWord n) := by
  have hunfold : rounded negative n 1 =
      if significandOf n = 2 ^ 53 then ofParts negative (2 ^ 52) (unitOf n + 1)
      else ofParts negative (significandOf n) (unitOf n) := by
    unfold rounded significandOf unitOf
    dsimp only
    rw [Nat.div_one, Nat.one_mul]
  rw [hunfold]
  unfold nearestWord
  split
  · next hcarry =>
      have hnext : cappedWord (2 ^ 52) (unitOf n + 1) = cappedWord (2 ^ 53) (unitOf n) := by
        unfold cappedWord
        omega
      rw [ofParts_eq_ofWord negative (by decide) (fun _ => Nat.le_refl _), hcarry, hnext]
  · next hcarry =>
      have hlt : significandOf n < 2 ^ 53 := Nat.lt_of_le_of_ne (significandOf_le n) hcarry
      exact ofParts_eq_ofWord negative hlt le_significandOf

theorem word_le_of_unit_lt {m n : Nat} (hlt : unitOf m < unitOf n) :
    unitOf m * 2 ^ 52 + 2 ^ 53 ≤ unitOf n * 2 ^ 52 + significandOf n := by
  have hge : 2 ^ 52 ≤ significandOf n := le_significandOf (Nat.zero_lt_of_lt hlt)
  omega

theorem nearestWord_mono {m n : Nat} (hle : m ≤ n) : nearestWord m ≤ nearestWord n := by
  have hword : unitOf m * 2 ^ 52 + significandOf m ≤ unitOf n * 2 ^ 52 + significandOf n := by
    rcases Nat.lt_or_eq_of_le (unitOf_mono hle) with hlt | hsame
    · have hsignificand := significandOf_le m
      have hnext := word_le_of_unit_lt hlt
      omega
    · have hsignificand : significandOf m ≤ significandOf n := by
        unfold significandOf
        rw [hsame]
        exact nearestInteger_mono hle
      omega
  unfold nearestWord cappedWord
  omega

theorem cappedWord_lt {m u m' u' : Nat} (hlt : u * 2 ^ 52 + m < u' * 2 ^ 52 + m')
    (hcap : u * 2 ^ 52 + m < 2047 * 2 ^ 52) : cappedWord m u < cappedWord m' u' :=
  Nat.lt_of_le_of_lt (Nat.min_le_left _ _) (Nat.lt_min.mpr ⟨hlt, hcap⟩)

theorem significandOf_lt_of_dvd {n : Nat} (hdvd : 2 ^ unitOf n ∣ n) :
    significandOf n < 2 ^ 53 := by
  have hexact : significandOf n = n / 2 ^ unitOf n := nearestInteger_of_dvd hdvd
  rw [hexact]
  exact quotient_lt n

theorem significandOf_lt_significandOf {m n : Nat} (hn : 2 ^ unitOf n ∣ n) (hlt : m < n)
    (hm : 2 ^ unitOf m ∣ m) (hunit : unitOf m = unitOf n) : significandOf m < significandOf n := by
  have hexact : significandOf m = m / 2 ^ unitOf m := nearestInteger_of_dvd hm
  have hexact' : significandOf n = n / 2 ^ unitOf n := nearestInteger_of_dvd hn
  rw [hexact, hexact', hunit]
  exact Nat.div_lt_div_of_lt_of_dvd hn hlt

/-- What is a multiple of its unit is kept as it is, and so are differences. -/
theorem nearestWord_lt_of_dvd {m n : Nat} (hm : 2 ^ unitOf m ∣ m) (hn : 2 ^ unitOf n ∣ n)
    (hlt : m < n) (hbound : unitOf m < 2045) : nearestWord m < nearestWord n := by
  have hbelow := significandOf_lt_of_dvd hm
  apply cappedWord_lt
  · rcases Nat.lt_or_eq_of_le (unitOf_mono (Nat.le_of_lt hlt)) with hunit | hsame
    · have hnext := word_le_of_unit_lt hunit
      omega
    · have hsignificand := significandOf_lt_significandOf hn hlt hm hsame
      rw [hsame]
      exact Nat.add_lt_add_left hsignificand _
  · omega

theorem significandOf_near (n : Nat) :
    2 * n ≤ 2 * (2 ^ unitOf n * significandOf n) + 2 ^ unitOf n ∧
      2 * (2 ^ unitOf n * significandOf n) ≤ 2 * n + 2 ^ unitOf n :=
  nearestInteger_near n (Nat.two_pow_pos _)

/-- Equal words are one significand and unit, or a carry beside the unit that it is carried to. -/
theorem same_or_carry {m n : Nat} (hle : m ≤ n) (hbound : unitOf n < 2045)
    (hsame : nearestWord m = nearestWord n) :
    (unitOf m = unitOf n ∧ significandOf m = significandOf n) ∨
      (unitOf n = unitOf m + 1 ∧ significandOf m = 2 * 2 ^ 52 ∧ significandOf n = 2 ^ 52) := by
  have hunits := unitOf_mono hle
  have hm := significandOf_le m
  have hn := significandOf_le n
  have hword : unitOf m * 2 ^ 52 + significandOf m = unitOf n * 2 ^ 52 + significandOf n := by
    unfold nearestWord cappedWord at hsame
    omega
  rcases Nat.lt_or_eq_of_le hunits with hlt | hequal
  · have hlead := le_significandOf (Nat.zero_lt_of_lt hlt)
    right
    omega
  · left
    rw [hequal] at hword
    exact ⟨hequal, Nat.add_left_cancel hword⟩

theorem le_add_unit_of_nearestWord_eq {m n : Nat} (hle : m ≤ n) (hbound : unitOf n < 2045)
    (hsame : nearestWord m = nearestWord n) : n ≤ m + 2 ^ unitOf n := by
  have hbelow := (significandOf_near m).right
  have habove := (significandOf_near n).left
  rcases same_or_carry hle hbound hsame with ⟨hunit, hsignificand⟩ | ⟨hunit, hcarry, hlead⟩
  · rw [hunit, hsignificand] at hbelow
    omega
  · have hpow : 2 ^ unitOf n = 2 ^ unitOf m * 2 := by
      rw [hunit, Nat.pow_succ]
    rw [hcarry] at hbelow
    rw [hlead, hpow] at habove
    rw [hpow]
    omega

/-!
# Natural numbers

A natural number is rounded as a multiple of `2^scale` units.  Up to 2^53 it is a
multiple of its own unit then, and below 2^64 its unit is at most 2^11 as large.
-/

theorem log2_mul_two_pow {n : Nat} (hn : n ≠ 0) (k : Nat) : (n * 2 ^ k).log2 = n.log2 + k := by
  have hpos : 0 < 2 ^ k := Nat.two_pow_pos k
  have hne : n * 2 ^ k ≠ 0 := Nat.mul_ne_zero hn (Nat.ne_of_gt hpos)
  rw [Nat.log2_eq_iff hne, Nat.add_right_comm, Nat.pow_add, Nat.pow_add]
  constructor
  · exact Nat.mul_le_mul_right _ (Nat.log2_self_le hn)
  · exact Nat.mul_lt_mul_of_pos_right Nat.lt_log2_self hpos

theorem unitOf_scaled_le {n k scale : Nat} (hn : n < 2 ^ (k + 1)) (hscale : 52 ≤ scale) :
    unitOf (n * 2 ^ scale) + 52 ≤ k + scale := by
  rcases Nat.eq_zero_or_pos n with hzero | hpos
  · rw [hzero, Nat.zero_mul]
    exact Nat.le_trans hscale (Nat.le_add_left _ _)
  · have hne : n ≠ 0 := Nat.ne_of_gt hpos
    have hlog := (Nat.log2_lt hne).mpr hn
    unfold unitOf
    rw [log2_mul_two_pow hne]
    omega

theorem dvd_scaled {n scale : Nat} (hn : n ≤ 2 ^ 53) (hscale : 52 ≤ scale) :
    2 ^ unitOf (n * 2 ^ scale) ∣ n * 2 ^ scale := by
  rcases Nat.lt_or_eq_of_le hn with hlt | hsame
  · have hunit : unitOf (n * 2 ^ scale) + 52 ≤ 52 + scale := unitOf_scaled_le hlt hscale
    exact Nat.dvd_mul_left_of_dvd (Nat.pow_dvd_pow 2 (by omega)) n
  · have hunit : unitOf (n * 2 ^ scale) + 52 ≤ 53 + scale := by
      apply unitOf_scaled_le _ hscale
      rw [hsame]
      decide
    have hpow : n * 2 ^ scale = 2 ^ (53 + scale) := by
      rw [hsame, Nat.pow_add]
    rw [hpow] at hunit ⊢
    exact Nat.pow_dvd_pow 2 (by omega)

theorem nearestWord_scaled_lt_of_small {m n scale : Nat} (hscale : 52 ≤ scale)
    (hcap : scale < 2045) (hm : m < 2 ^ 53) (hlt : m < n) :
    nearestWord (m * 2 ^ scale) < nearestWord (n * 2 ^ scale) := by
  have hunit : unitOf (m * 2 ^ scale) + 52 ≤ 52 + scale := unitOf_scaled_le hm hscale
  have hnext : nearestWord (m * 2 ^ scale) < nearestWord ((m + 1) * 2 ^ scale) := by
    apply nearestWord_lt_of_dvd (dvd_scaled (Nat.le_of_lt hm) hscale) (dvd_scaled hm hscale)
    · exact Nat.mul_lt_mul_of_pos_right (Nat.lt_succ_self m) (Nat.two_pow_pos _)
    · omega
  exact Nat.lt_of_lt_of_le hnext (nearestWord_mono (Nat.mul_le_mul_right _ hlt))

theorem nearestWord_scaled_lt_of_gap {m n scale : Nat} (hscale : 52 ≤ scale)
    (hcap : scale < 2034) (hn : n < 2 ^ 64) (hgap : m + 2 ^ 11 < n) :
    nearestWord (m * 2 ^ scale) < nearestWord (n * 2 ^ scale) := by
  have hle : m * 2 ^ scale ≤ n * 2 ^ scale := by
    apply Nat.mul_le_mul_right
    omega
  have hunit : unitOf (n * 2 ^ scale) + 52 ≤ 63 + scale := unitOf_scaled_le hn hscale
  rcases Nat.lt_or_eq_of_le (nearestWord_mono hle) with hlt | hsame
  · exact hlt
  · have hnear := le_add_unit_of_nearestWord_eq hle (by omega) hsame
    have hstep : 2 ^ unitOf (n * 2 ^ scale) ≤ 2 ^ 11 * 2 ^ scale := by
      rw [← Nat.pow_add]
      exact Nat.pow_le_pow_right (by decide) (by omega)
    have htotal : n * 2 ^ scale ≤ (m + 2 ^ 11) * 2 ^ scale := by
      rw [Nat.add_mul]
      exact Nat.le_trans hnear (Nat.add_le_add_left hstep _)
    have hcontra : n ≤ m + 2 ^ 11 := Nat.le_of_mul_le_mul_right htotal (Nat.two_pow_pos _)
    exact absurd hgap (Nat.not_lt.mpr hcontra)

/-!
# Integers
-/

def naturalWord (n : Nat) : Nat :=
  nearestWord (n * 2 ^ 1074)

theorem ofInt_eq_ofWord (n : Int) : ofInt n = ofWord (n < 0) (naturalWord n.natAbs) :=
  rounded_eq_ofWord _ _

theorem naturalWord_le (n : Nat) : naturalWord n ≤ 2047 * 2 ^ 52 :=
  Nat.min_le_right _ _

theorem naturalWord_mono {m n : Nat} (hle : m ≤ n) : naturalWord m ≤ naturalWord n :=
  nearestWord_mono (Nat.mul_le_mul_right _ hle)

theorem naturalWord_lt_of_small {m n : Nat} (hm : m < 2 ^ 53) (hlt : m < n) :
    naturalWord m < naturalWord n :=
  @nearestWord_scaled_lt_of_small m n 1074 (by decide) (by decide) hm hlt

theorem naturalWord_lt_of_gap {m n : Nat} (hn : n < 2 ^ 64) (hgap : m + 2 ^ 11 < n) :
    naturalWord m < naturalWord n :=
  @nearestWord_scaled_lt_of_gap m n 1074 (by decide) (by decide) hn hgap

theorem naturalWord_pos {n : Nat} (hpos : 0 < n) : 0 < naturalWord n :=
  Nat.zero_lt_of_lt (naturalWord_lt_of_small (by decide) hpos)

theorem rank_ofWord (negative : Bool) {unsigned : Nat} (hle : unsigned ≤ 2047 * 2 ^ 52) :
    (ofWord negative unsigned).rank = if negative then -(unsigned : Int) else unsigned := by
  have hlt : unsigned < 2 ^ 63 := Nat.lt_of_le_of_lt hle (by decide)
  unfold rank
  rw [negative_ofWord negative hlt, unsignedWord_ofWord negative hlt]

theorem rank_ofInt_of_nonneg {n : Int} (hn : 0 ≤ n) :
    (ofInt n).rank = naturalWord n.natAbs := by
  have hsign : ¬ n < 0 := Int.not_lt.mpr hn
  rw [ofInt_eq_ofWord, rank_ofWord _ (naturalWord_le _), decide_eq_false hsign,
    if_neg Bool.false_ne_true]

theorem rank_ofInt_of_neg {n : Int} (hn : n < 0) :
    (ofInt n).rank = -(naturalWord n.natAbs : Int) := by
  rw [ofInt_eq_ofWord, rank_ofWord _ (naturalWord_le _), decide_eq_true hn, if_pos rfl]

theorem rank_ofInt_neg {n : Int} (hn : n < 0) : (ofInt n).rank < 0 := by
  have hpos : 0 < naturalWord n.natAbs := naturalWord_pos (Int.natAbs_pos.mpr (Int.ne_of_lt hn))
  rw [rank_ofInt_of_neg hn]
  omega

theorem rank_ofInt_nonneg {n : Int} (hn : 0 ≤ n) : 0 ≤ (ofInt n).rank := by
  rw [rank_ofInt_of_nonneg hn]
  exact Int.natCast_nonneg _

theorem rank_ofInt_mono {m n : Int} (hle : m ≤ n) : (ofInt m).rank ≤ (ofInt n).rank := by
  rcases Int.lt_or_le n 0 with hn | hn
  · have hm : m < 0 := Int.lt_of_le_of_lt hle hn
    have hwords : naturalWord n.natAbs ≤ naturalWord m.natAbs := naturalWord_mono (by omega)
    rw [rank_ofInt_of_neg hm, rank_ofInt_of_neg hn]
    exact Int.neg_le_neg (Int.ofNat_le.mpr hwords)
  · rcases Int.lt_or_le m 0 with hm | hm
    · exact Int.le_trans (Int.le_of_lt (rank_ofInt_neg hm)) (rank_ofInt_nonneg hn)
    · have hwords : naturalWord m.natAbs ≤ naturalWord n.natAbs := naturalWord_mono (by omega)
      rw [rank_ofInt_of_nonneg hm, rank_ofInt_of_nonneg hn]
      exact Int.ofNat_le.mpr hwords

theorem ofInt_eq_of_rank {m n : Int} (hrank : (ofInt m).rank = (ofInt n).rank) :
    ofInt m = ofInt n := by
  rcases Int.lt_or_le m 0 with hm | hm
  · rcases Int.lt_or_le n 0 with hn | hn
    · rw [rank_ofInt_of_neg hm, rank_ofInt_of_neg hn] at hrank
      have hwords : naturalWord m.natAbs = naturalWord n.natAbs := by omega
      rw [ofInt_eq_ofWord, ofInt_eq_ofWord, hwords, decide_eq_true hm, decide_eq_true hn]
    · have hbelow := rank_ofInt_neg hm
      have habove := rank_ofInt_nonneg hn
      omega
  · rcases Int.lt_or_le n 0 with hn | hn
    · have hbelow := rank_ofInt_neg hn
      have habove := rank_ofInt_nonneg hm
      omega
    · rw [rank_ofInt_of_nonneg hm, rank_ofInt_of_nonneg hn] at hrank
      have hwords : naturalWord m.natAbs = naturalWord n.natAbs := by omega
      rw [ofInt_eq_ofWord, ofInt_eq_ofWord, hwords, decide_eq_false (Int.not_lt.mpr hm),
        decide_eq_false (Int.not_lt.mpr hn)]

/-!
# What is told apart
-/

/-- One of two integers is small, or they are far apart. -/
def Distinguished (m n : Int) : Prop :=
  m.natAbs < 2 ^ 53 ∨ n.natAbs < 2 ^ 53 ∨ 2 ^ 11 < (m - n).natAbs

instance (m n : Int) : Decidable (Distinguished m n) :=
  inferInstanceAs (Decidable (_ ∨ _ ∨ _))

theorem Distinguished.symm {m n : Int} (hapart : Distinguished m n) : Distinguished n m := by
  unfold Distinguished at hapart ⊢
  omega

theorem naturalWord_lt_of_distinguished {m n : Nat} (hn : n < 2 ^ 64) (hlt : m < n)
    (hapart : m < 2 ^ 53 ∨ m + 2 ^ 11 < n) : naturalWord m < naturalWord n := by
  rcases hapart with hsmall | hgap
  · exact naturalWord_lt_of_small hsmall hlt
  · exact naturalWord_lt_of_gap hn hgap

theorem rank_ofInt_lt {m n : Int} (hm : m.natAbs < 2 ^ 64) (hn : n.natAbs < 2 ^ 64)
    (hlt : m < n) (hapart : Distinguished m n) : (ofInt m).rank < (ofInt n).rank := by
  unfold Distinguished at hapart
  rcases Int.lt_or_le n 0 with hneg | hnonneg
  · have hneg' : m < 0 := Int.lt_trans hlt hneg
    have hwords : naturalWord n.natAbs < naturalWord m.natAbs := by
      apply naturalWord_lt_of_distinguished hm
      · omega
      · omega
    rw [rank_ofInt_of_neg hneg, rank_ofInt_of_neg hneg']
    omega
  · rcases Int.lt_or_le m 0 with hneg | hnonneg'
    · exact Int.lt_of_lt_of_le (rank_ofInt_neg hneg) (rank_ofInt_nonneg hnonneg)
    · have hwords : naturalWord m.natAbs < naturalWord n.natAbs := by
        apply naturalWord_lt_of_distinguished hn
        · omega
        · omega
      rw [rank_ofInt_of_nonneg hnonneg', rank_ofInt_of_nonneg hnonneg]
      omega

theorem ofInt_ne_of_distinguished {m n : Int} (hm : m.natAbs < 2 ^ 64) (hn : n.natAbs < 2 ^ 64)
    (hne : m ≠ n) (hapart : Distinguished m n) : ofInt m ≠ ofInt n := by
  intro hsame
  rcases Int.lt_or_gt_of_ne hne with hlt | hgt
  · have hrank := rank_ofInt_lt hm hn hlt hapart
    rw [hsame] at hrank
    exact Int.lt_irrefl _ hrank
  · have hrank := rank_ofInt_lt hn hm hgt hapart.symm
    rw [hsame] at hrank
    exact Int.lt_irrefl _ hrank

end Binary64
end QueryGateway
