import Mathlib.Tactic.NormNum
import QueryGateway.Binary64.Text
import QueryGateway.Proofs.Binary64.Shortest

/-!
# The text of a number

The text that is written for a number has a sign and an unsigned numeral, and
the numeral denotes the decimal that was chosen for the number.  Since that
decimal rounds back to one number only, different numbers have different texts.
-/

namespace QueryGateway
namespace Binary64

/-!
# Numerals

A numeral is read the way `ofText?` reads it, but as a rational number instead
of being rounded.
-/

def fractionPart : List Char -> List Char × List Char
  | '.' :: rest => splitDigits rest
  | rest => ([], rest)

/-- The rational number that an unsigned decimal numeral denotes. -/
def numeralValue (text : List Char) : ℚ :=
  let (whole, rest) := splitDigits text
  let (fraction, rest) := fractionPart rest
  digitsValue (whole ++ fraction) * 10 ^ ((exponentPart rest).getD 0 - (fraction.length : Int))

def AllDigits (text : List Char) : Prop :=
  forall c, c ∈ text -> c.isDigit = true

def NoDigitNext (text : List Char) : Prop :=
  forall c, text.head? = some c -> c.isDigit = false

theorem allDigits_append {first second : List Char} (hfirst : AllDigits first)
    (hsecond : AllDigits second) : AllDigits (first ++ second) := by
  intro c hmem
  rcases List.mem_append.mp hmem with hleft | hright
  · exact hfirst c hleft
  · exact hsecond c hright

theorem allDigits_replicate_zero (n : Nat) : AllDigits (List.replicate n '0') := by
  intro c hmem
  rw [List.eq_of_mem_replicate hmem]
  rfl

theorem allDigits_toDigits (n : Nat) : AllDigits (Nat.toDigits 10 n) := by
  intro c hmem
  exact Nat.isDigit_of_mem_toDigits (by decide) (by decide) hmem

theorem splitDigits_append {digits rest : List Char} (hdigits : AllDigits digits)
    (hrest : NoDigitNext rest) : splitDigits (digits ++ rest) = (digits, rest) := by
  induction digits with
  | nil =>
      cases rest with
      | nil => rfl
      | cons c rest =>
          have hc := hrest c rfl
          simp [splitDigits, hc]
  | cons d digits ih =>
      have hd := hdigits d List.mem_cons_self
      have htail := ih fun c hmem => hdigits c (List.mem_cons_of_mem d hmem)
      unfold splitDigits at htail ⊢
      injection htail with htake hdrop
      simp [hd, htake, hdrop]

theorem numeralValue_point {whole fraction mark : List Char} (hwhole : AllDigits whole)
    (hfraction : AllDigits fraction) (hmark : NoDigitNext mark) :
    numeralValue (whole ++ '.' :: (fraction ++ mark)) =
      digitsValue (whole ++ fraction) *
        10 ^ ((exponentPart mark).getD 0 - (fraction.length : Int)) := by
  have hpoint : NoDigitNext ('.' :: (fraction ++ mark)) := by
    intro c hc
    cases hc
    rfl
  have hparts : fractionPart ('.' :: (fraction ++ mark)) = (fraction, mark) :=
    splitDigits_append hfraction hmark
  unfold numeralValue
  rw [splitDigits_append hwhole hpoint]
  dsimp only
  rw [hparts]

theorem digitsValue_toDigits (n : Nat) : digitsValue (Nat.toDigits 10 n) = n :=
  Nat.ofDigitChars_ten_toDigits

theorem digitsValue_append_zeros (digits : List Char) (n : Nat) :
    digitsValue (digits ++ List.replicate n '0') = digitsValue digits * 10 ^ n := by
  have happend := Nat.ofDigitChars_append (b := 10) (l := digits) (m := List.replicate n '0') 0
  rw [Nat.ofDigitChars_replicate_zero] at happend
  rw [Nat.mul_comm]
  exact happend

theorem digitsValue_zeros_append (digits : List Char) (n : Nat) :
    digitsValue (List.replicate n '0' ++ digits) = digitsValue digits := by
  have happend := Nat.ofDigitChars_append (b := 10) (l := List.replicate n '0') (m := digits) 0
  rw [Nat.ofDigitChars_replicate_zero, Nat.mul_zero] at happend
  exact happend

theorem splitDigits_toDigits (n : Nat) :
    splitDigits (Nat.toDigits 10 n) = (Nat.toDigits 10 n, []) := by
  have hnil : NoDigitNext [] := by
    intro c hc
    cases hc
  have hsplit := splitDigits_append (allDigits_toDigits n) hnil
  rw [List.append_nil] at hsplit
  exact hsplit

def exponentMark (exponent : Int) : List Char :=
  'e' :: (if exponent < 0 then '-' else '+') :: Nat.toDigits 10 exponent.natAbs

theorem exponentPart_exponentMark (exponent : Int) :
    exponentPart (exponentMark exponent) = some exponent := by
  unfold exponentPart exponentMark
  by_cases hneg : exponent < 0
  · simp only [hneg, if_true, splitSign, splitDigits_toDigits, digitsValue_toDigits]
    simp [-Nat.cast_natAbs]
    omega
  · simp only [hneg, if_false, splitSign, splitDigits_toDigits, digitsValue_toDigits]
    simp [-Nat.cast_natAbs]
    omega

theorem noDigitNext_exponentMark (exponent : Int) : NoDigitNext (exponentMark exponent) := by
  intro c hc
  cases hc
  rfl

theorem noDigitNext_nil : NoDigitNext [] := by
  intro c hc
  cases hc

/-- The numerals with a point or an exponent, and the numbers they denote. -/
inductive Denotes : List Char -> ℚ -> Prop where
  | decimal {whole fraction : List Char} (hne : whole ≠ []) (hwhole : AllDigits whole)
      (hfraction : AllDigits fraction) :
      Denotes (whole ++ '.' :: fraction)
        (digitsValue (whole ++ fraction) * 10 ^ (-(fraction.length : Int)))
  | scaled {whole : List Char} (exponent : Int) (hne : whole ≠ []) (hwhole : AllDigits whole) :
      Denotes (whole ++ exponentMark exponent) (digitsValue whole * 10 ^ exponent)
  | scientific {whole fraction : List Char} (exponent : Int) (hne : whole ≠ [])
      (hwhole : AllDigits whole) (hfraction : AllDigits fraction) :
      Denotes (whole ++ '.' :: (fraction ++ exponentMark exponent))
        (digitsValue (whole ++ fraction) * 10 ^ (exponent - (fraction.length : Int)))

theorem numeralValue_of_denotes {text : List Char} {q : ℚ} (hdenotes : Denotes text q) :
    numeralValue text = q := by
  cases hdenotes with
  | decimal hne hwhole hfraction =>
      have hvalue := numeralValue_point hwhole hfraction noDigitNext_nil
      rw [List.append_nil] at hvalue
      rw [hvalue]
      simp [exponentPart]
  | scaled exponent hne hwhole =>
      have hparts : fractionPart (exponentMark exponent) = ([], exponentMark exponent) := rfl
      unfold numeralValue
      rw [splitDigits_append hwhole (noDigitNext_exponentMark exponent)]
      dsimp only
      rw [hparts]
      simp [exponentPart_exponentMark]
  | scientific exponent hne hwhole hfraction =>
      rw [numeralValue_point hwhole hfraction (noDigitNext_exponentMark exponent),
        exponentPart_exponentMark]
      rfl

/-!
# The characters of numerals
-/

def isNumeralChar (c : Char) : Bool :=
  c.isDigit || c == '.' || c == 'e' || c == '+' || c == '-'

theorem isNumeralChar_of_isDigit {c : Char} (hdigit : c.isDigit = true) :
    isNumeralChar c = true := by
  simp [isNumeralChar, hdigit]

theorem isNumeralChar_of_mem_exponentMark {exponent : Int} {c : Char}
    (hmem : c ∈ exponentMark exponent) : isNumeralChar c = true := by
  unfold exponentMark at hmem
  rcases List.mem_cons.mp hmem with hmark | hrest
  · rw [hmark]
    rfl
  · rcases List.mem_cons.mp hrest with hsign | hdigits
    · rw [hsign]
      split <;> rfl
    · exact isNumeralChar_of_isDigit (allDigits_toDigits _ c hdigits)

theorem isNumeralChar_of_denotes {text : List Char} {q : ℚ} (hdenotes : Denotes text q) :
    forall c, c ∈ text -> isNumeralChar c = true := by
  have hpoint : isNumeralChar '.' = true := rfl
  intro c hmem
  cases hdenotes with
  | decimal hne hwhole hfraction =>
      rcases List.mem_append.mp hmem with hleft | hright
      · exact isNumeralChar_of_isDigit (hwhole c hleft)
      · rcases List.mem_cons.mp hright with heq | hright
        · rw [heq]
          exact hpoint
        · exact isNumeralChar_of_isDigit (hfraction c hright)
  | scaled exponent hne hwhole =>
      rcases List.mem_append.mp hmem with hleft | hright
      · exact isNumeralChar_of_isDigit (hwhole c hleft)
      · exact isNumeralChar_of_mem_exponentMark hright
  | scientific exponent hne hwhole hfraction =>
      rcases List.mem_append.mp hmem with hleft | hright
      · exact isNumeralChar_of_isDigit (hwhole c hleft)
      · rcases List.mem_cons.mp hright with heq | hright
        · rw [heq]
          exact hpoint
        · rcases List.mem_append.mp hright with hmiddle | hmark
          · exact isNumeralChar_of_isDigit (hfraction c hmiddle)
          · exact isNumeralChar_of_mem_exponentMark hmark

theorem shape_of_denotes {text : List Char} {q : ℚ} (hdenotes : Denotes text q) :
    (exists d rest, text = d :: rest ∧ d.isDigit = true) ∧
      exists c, c ∈ text ∧ (c = '.' ∨ c = 'e') := by
  have hfirst : forall whole rest : List Char, whole ≠ [] -> AllDigits whole ->
      exists d tail, whole ++ rest = d :: tail ∧ d.isDigit = true := by
    intro whole rest hne hwhole
    cases whole with
    | nil => exact absurd rfl hne
    | cons d tail => exact ⟨d, tail ++ rest, rfl, hwhole d List.mem_cons_self⟩
  cases hdenotes with
  | decimal hne hwhole hfraction =>
      exact ⟨hfirst _ _ hne hwhole, '.', by simp, Or.inl rfl⟩
  | scaled exponent hne hwhole =>
      exact ⟨hfirst _ _ hne hwhole, 'e', by simp [exponentMark], Or.inr rfl⟩
  | scientific exponent hne hwhole hfraction =>
      exact ⟨hfirst _ _ hne hwhole, '.', by simp, Or.inl rfl⟩

/-!
# Layouts
-/

/-- The value of digits of which the first stands for a power of ten. -/
def leadingValue (digits : List Char) (leading : Int) : ℚ :=
  digitsValue digits * 10 ^ (leading - digits.length + 1)

theorem denotes_layoutPlain {digits : List Char} (hdigits : AllDigits digits)
    (hne : digits ≠ []) (leading : Int) :
    Denotes (layoutPlain digits leading).toList (leadingValue digits leading) := by
  unfold layoutPlain leadingValue
  by_cases hneg : leading < 0
  · rw [if_pos hneg]
    have htext :
        ("0." ++ zeros (leading.natAbs - 1) ++ String.ofList digits).toList =
          List.replicate 1 '0' ++ '.' ::
            (List.replicate (leading.natAbs - 1) '0' ++ digits) := by
      simp [zeros]
    have hdenotes := Denotes.decimal (by decide) (allDigits_replicate_zero 1)
      (allDigits_append (allDigits_replicate_zero (leading.natAbs - 1)) hdigits)
    rw [digitsValue_zeros_append, digitsValue_zeros_append] at hdenotes
    rw [htext]
    convert hdenotes using 3
    rw [List.length_append, List.length_replicate]
    omega
  · rw [if_neg hneg]
    dsimp only
    by_cases hlength : digits.length ≤ leading.natAbs + 1
    · rw [if_pos hlength]
      have htext :
          (String.ofList digits ++ zeros (leading.natAbs + 1 - digits.length) ++ ".0").toList =
            (digits ++ List.replicate (leading.natAbs + 1 - digits.length) '0') ++
              '.' :: List.replicate 1 '0' := by
        simp [zeros]
      have hdenotes := Denotes.decimal (by simp [hne])
        (allDigits_append hdigits
          (allDigits_replicate_zero (leading.natAbs + 1 - digits.length)))
        (allDigits_replicate_zero 1)
      have hexponent : leading - (digits.length : Int) + 1 =
          ((leading.natAbs + 1 - digits.length : Nat) : Int) := by omega
      rw [digitsValue_append_zeros, digitsValue_append_zeros] at hdenotes
      rw [htext, hexponent, zpow_natCast]
      convert hdenotes using 1
      simp
    · rw [if_neg hlength]
      have htext :
          (String.ofList (digits.take (leading.natAbs + 1)) ++ "." ++
              String.ofList (digits.drop (leading.natAbs + 1))).toList =
            digits.take (leading.natAbs + 1) ++ '.' :: digits.drop (leading.natAbs + 1) := by
        simp
      have htake : AllDigits (digits.take (leading.natAbs + 1)) := by
        intro c hmem
        exact hdigits c (List.mem_of_mem_take hmem)
      have hdrop : AllDigits (digits.drop (leading.natAbs + 1)) := by
        intro c hmem
        exact hdigits c (List.mem_of_mem_drop hmem)
      have hdenotes := Denotes.decimal (by simp [hne]) htake hdrop
      rw [List.take_append_drop] at hdenotes
      rw [htext]
      convert hdenotes using 3
      rw [List.length_drop]
      omega

theorem denotes_layoutExponent {digits : List Char} (hdigits : AllDigits digits)
    (hne : digits ≠ []) (leading : Int) :
    Denotes (layoutExponent jsonStyle digits leading).toList (leadingValue digits leading) := by
  have hmark :
      (if leading < 0 then jsonStyle.negativeMark else jsonStyle.positiveMark).toList ++
          Nat.toDigits 10 leading.natAbs = exponentMark leading := by
    unfold exponentMark jsonStyle
    split <;> rfl
  unfold layoutExponent leadingValue
  dsimp only
  cases digits with
  | nil => exact absurd rfl hne
  | cons d rest =>
      cases rest with
      | nil =>
          have htext :
              (String.ofList [d] ++
                  (if leading < 0 then jsonStyle.negativeMark else jsonStyle.positiveMark) ++
                  toString leading.natAbs).toList = [d] ++ exponentMark leading := by
            rw [← hmark]
            simp
          rw [htext]
          convert Denotes.scaled leading (by simp) hdigits using 2
          simp
      | cons next rest =>
          have htext :
              (String.ofList (d :: '.' :: next :: rest) ++
                  (if leading < 0 then jsonStyle.negativeMark else jsonStyle.positiveMark) ++
                  toString leading.natAbs).toList =
                [d] ++ '.' :: ((next :: rest) ++ exponentMark leading) := by
            rw [← hmark]
            simp
          have hfirst : AllDigits [d] := by
            intro c hmem
            exact hdigits c (by simp [List.mem_singleton.mp hmem])
          have hrest : AllDigits (next :: rest) := by
            intro c hmem
            exact hdigits c (List.mem_cons_of_mem d hmem)
          have hexponent : leading - ((d :: next :: rest).length : Int) + 1 =
              leading - ((next :: rest).length : Int) := by
            rw [List.length_cons]
            omega
          rw [htext, hexponent]
          exact Denotes.scientific leading (by simp) hfirst hrest

/-!
# The text of a finite number
-/

def unsignedText (x : Binary64) : String :=
  if x.isZero then
    "0.0"
  else
    let digits := Nat.toDigits 10 x.shortest.digits
    let leading := x.shortest.exponent + (digits.length : Int) - 1
    if jsonStyle.leastPlain ≤ leading && leading ≤ jsonStyle.mostPlain then
      layoutPlain digits leading
    else
      layoutExponent jsonStyle digits leading

theorem render_eq (x : Binary64) :
    render jsonStyle x = (if x.negative then "-" else "") ++ x.unsignedText := by
  unfold render unsignedText
  cases x.isZero with
  | true => rfl
  | false =>
      dsimp only
      simp only [Bool.false_eq_true, if_false]
      split <;> rfl

theorem denotes_unsignedText (x : Binary64) :
    Denotes x.unsignedText.toList (if x.isZero then 0 else x.shortest.value) := by
  unfold unsignedText
  cases hzero : x.isZero with
  | true =>
      have htext : "0.0".toList = List.replicate 1 '0' ++ '.' :: List.replicate 1 '0' := by
        decide
      rw [if_pos rfl, if_pos rfl, htext]
      convert Denotes.decimal (by decide) (allDigits_replicate_zero 1)
        (allDigits_replicate_zero 1) using 1
      simp [digitsValue]
  | false =>
      have hvalue : leadingValue (Nat.toDigits 10 x.shortest.digits)
          (x.shortest.exponent + (Nat.toDigits 10 x.shortest.digits).length - 1) =
            x.shortest.value := by
        unfold leadingValue Decimal.value
        rw [digitsValue_toDigits]
        congr 2
        omega
      simp only [Bool.false_eq_true, if_false]
      rw [← hvalue]
      split
      · exact denotes_layoutPlain (allDigits_toDigits _) Nat.toDigits_ne_nil _
      · exact denotes_layoutExponent (allDigits_toDigits _) Nat.toDigits_ne_nil _

theorem toList_render (x : Binary64) :
    (render jsonStyle x).toList =
      if x.negative then '-' :: x.unsignedText.toList else x.unsignedText.toList := by
  rw [render_eq]
  cases x.negative with
  | true => simp
  | false => simp

theorem parts_eq_of_render {x y : Binary64} (hsame : render jsonStyle x = render jsonStyle y) :
    x.negative = y.negative ∧ x.unsignedText = y.unsignedText := by
  have hchars := congrArg String.toList hsame
  rw [toList_render, toList_render] at hchars
  have hnosign : forall z : Binary64, forall rest, z.unsignedText.toList ≠ '-' :: rest := by
    intro z rest heq
    rcases (shape_of_denotes z.denotes_unsignedText).left with ⟨d, tail, htext, hdigit⟩
    rw [htext] at heq
    injection heq with hd _
    rw [hd] at hdigit
    cases hdigit
  cases hx : x.negative with
  | true =>
      cases hy : y.negative with
      | true =>
          simp only [hx, hy, if_true] at hchars
          injection hchars with _ htail
          exact ⟨rfl, String.toList_inj.mp htail⟩
      | false =>
          simp only [hx, hy, if_true, Bool.false_eq_true, if_false] at hchars
          exact absurd hchars.symm (hnosign y _)
  | false =>
      cases hy : y.negative with
      | true =>
          simp only [hx, hy, if_true, Bool.false_eq_true, if_false] at hchars
          exact absurd hchars (hnosign x _)
      | false =>
          simp only [hx, hy, Bool.false_eq_true, if_false] at hchars
          exact ⟨rfl, String.toList_inj.mp hchars⟩

theorem value_pos_of_not_isZero {x : Binary64} (hzero : x.isZero = false) :
    0 < x.shortest.value := by
  have hdigits : (0 : ℚ) < x.shortest.digits := by
    exact_mod_cast (holds_shortest hzero).left
  exact mul_pos hdigits (zpow_pos (by norm_num) _)

/-- Different numbers have different texts. -/
theorem render_injective {x y : Binary64} (hsame : render jsonStyle x = render jsonStyle y) :
    x = y := by
  have hparts := parts_eq_of_render hsame
  have hx := numeralValue_of_denotes x.denotes_unsignedText
  have hy := numeralValue_of_denotes y.denotes_unsignedText
  rw [hparts.right, hy] at hx
  cases hzeroX : x.isZero with
  | true =>
      cases hzeroY : y.isZero with
      | true =>
          unfold isZero at hzeroX hzeroY
          have hword : x.unsignedWord = y.unsignedWord :=
            (beq_iff_eq.mp hzeroX).trans (beq_iff_eq.mp hzeroY).symm
          exact eq_of_unsignedWord hparts.left hword
      | false =>
          have hpos := value_pos_of_not_isZero hzeroY
          simp [hzeroX, hzeroY] at hx
          exact absurd hx hpos.ne'
  | false =>
      have hpos := value_pos_of_not_isZero hzeroX
      cases hzeroY : y.isZero with
      | true =>
          simp [hzeroX, hzeroY] at hx
          exact absurd hx hpos.ne
      | false =>
          simp [hzeroX, hzeroY] at hx
          exact eq_of_shortest_value hzeroX hzeroY hparts.left hx.symm

end Binary64
end QueryGateway
