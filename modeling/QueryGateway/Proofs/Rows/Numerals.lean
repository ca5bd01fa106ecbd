import Mathlib.Data.List.TakeWhile
import QueryGateway.Proofs.Binary64.Reading
import QueryGateway.Proofs.Json.Text
import QueryGateway.Rows.View
import QueryGateway.Text.LowerCase

/-!
# Texts that count as numbers

A text counts as a number if it is a numeral between blanks.  The case of its
letters makes no difference: a numeral has no letter but that of its exponent, and
no other character becomes one of a numeral in lower case.  The text of a number
counts as that number, if it counts as one at all.
-/

namespace QueryGateway
namespace Rows

open Binary64 (exponentPart fractionPart isNumeralChar splitDigits splitSign)

/-!
# The characters of numerals and blanks
-/

/-- A character that a text may have which counts as a number. -/
def isReadable (c : Char) : Bool :=
  isNumeralChar c || c == 'E' || Text.isBlank c

def readableCodes : List Nat :=
  List.range' 0x09 5 ++ [0x20, 0x2B, 0x2D, 0x2E] ++ List.range' 0x30 10 ++
    [0x45, 0x65, 0x85, 0xA0, 0x1680] ++ List.range' 0x2000 11 ++
    [0x2028, 0x2029, 0x202F, 0x205F, 0x3000]

theorem toNat_mem_readableCodes {c : Char} (hreadable : isReadable c = true) :
    c.toNat ∈ readableCodes := by
  unfold isReadable at hreadable
  simp only [Bool.or_eq_true, beq_iff_eq] at hreadable
  simp only [readableCodes, List.mem_append, List.mem_range'_1, List.mem_cons, List.not_mem_nil,
    or_false]
  rcases hreadable with (hnumeral | hmark) | hblank
  · unfold isNumeralChar Char.isDigit at hnumeral
    simp only [Bool.or_eq_true, Bool.and_eq_true, decide_eq_true_eq, beq_iff_eq] at hnumeral
    rcases hnumeral with (((hdigit | hpoint) | hexponent) | hplus) | hminus
    · have hlow : 48 ≤ c.toNat := hdigit.left
      have hhigh : c.toNat ≤ 57 := hdigit.right
      omega
    · subst hpoint
      decide
    · subst hexponent
      decide
    · subst hplus
      decide
    · subst hminus
      decide
  · subst hmark
    decide
  · simp only [Text.isBlank, Bool.or_eq_true, Bool.and_eq_true, decide_eq_true_eq, beq_iff_eq]
      at hblank
    omega

def lowerMark (c : Char) : Char :=
  if c = 'E' then 'e' else c

theorem lowerChar_of_isReadable {c : Char} (hreadable : isReadable c = true) :
    Text.lowerChar c = [lowerMark c] := by
  have hall : forall n, n ∈ readableCodes ->
      Text.lowerChar (Char.ofNat n) = [lowerMark (Char.ofNat n)] := by
    decide +kernel
  have hchar := hall c.toNat (toNat_mem_readableCodes hreadable)
  rw [Char.ofNat_toNat] at hchar
  exact hchar

/-- What becomes one of these characters in lower case is the mark of an exponent. -/
theorem preimage_lowerRuns : forall run, run ∈ Text.lowerRuns -> forall n, n ∈ readableCodes ->
    run.first ≤ (n - run.shift).toNat -> (n - run.shift).toNat ≤ run.last ->
      (n - run.shift).toNat = 'E'.toNat := by
  decide +kernel

theorem toNat_ofNat_eq_or (n : Nat) : (Char.ofNat n).toNat = n ∨ (Char.ofNat n).toNat = 0 := by
  by_cases hvalid : n.isValidChar
  · left
    rw [Char.ofNat, dif_pos hvalid]
    rfl
  · right
    rw [Char.ofNat, dif_neg hvalid]
    rfl

theorem eq_mark_of_isReadable {run : Text.CaseRun} (hrun : run ∈ Text.lowerRuns) {c : Char}
    (hcontains : run.contains c.toNat = true)
    (hreadable : isReadable (Char.ofNat ((c.toNat : Int) + run.shift).toNat) = true) :
    c = 'E' := by
  have hcode := toNat_mem_readableCodes hreadable
  have hzero : 0 ∉ readableCodes := by
    decide
  simp only [Text.CaseRun.contains, Bool.and_eq_true, decide_eq_true_eq] at hcontains
  rcases toNat_ofNat_eq_or ((c.toNat : Int) + run.shift).toNat with hsame | hnone
  · rw [hsame] at hcode
    have hpos : ((c.toNat : Int) + run.shift).toNat ≠ 0 := by
      intro hnone
      rw [hnone] at hcode
      exact hzero hcode
    have hback : ((((c.toNat : Int) + run.shift).toNat : Int) - run.shift).toNat = c.toNat := by
      omega
    have hmark := preimage_lowerRuns run hrun _ hcode
    rw [hback] at hmark
    exact Char.toNat_inj.mp (hmark hcontains.left.left hcontains.left.right)
  · -- what is no code point of a character stands for the null character
    rw [hnone] at hcode
    exact absurd hcode hzero

theorem exists_mem_lowerChar {c : Char} (hreadable : isReadable c = false) :
    exists d, d ∈ Text.lowerChar c ∧ isReadable d = false := by
  unfold Text.lowerChar
  by_cases hdotted : c = 'İ'
  · rw [if_pos hdotted]
    exact ⟨'i', List.mem_cons_self, by decide⟩
  · rw [if_neg hdotted]
    cases hfound : Text.lowerRuns.find? (·.contains c.toNat) with
    | none => exact ⟨c, List.mem_singleton_self c, hreadable⟩
    | some run =>
        refine ⟨_, List.mem_singleton_self _, ?_⟩
        by_contra hcontra
        rw [Bool.not_eq_false] at hcontra
        have hrun := List.mem_of_find?_eq_some hfound
        have hcontains := List.find?_some hfound
        have hmark := eq_mark_of_isReadable hrun hcontains hcontra
        rw [hmark] at hreadable
        exact absurd hreadable (by decide)

/-!
# Lower case of a text
-/

theorem lowerFrom_of_isReadable {text : List Char}
    (hreadable : forall c, c ∈ text -> isReadable c = true) (before : List Char) :
    Text.lowerFrom before text = text.map lowerMark := by
  induction text generalizing before with
  | nil => rfl
  | cons c rest ih =>
      have hc := hreadable c List.mem_cons_self
      have hrest := ih (fun d hmem => hreadable d (List.mem_cons_of_mem c hmem)) (c :: before)
      have hsigma : c ≠ 'Σ' := by
        intro heq
        rw [heq] at hc
        exact absurd hc (by decide)
      unfold Text.lowerFrom
      dsimp only
      rw [if_neg hsigma, lowerChar_of_isReadable hc, hrest]
      rfl

theorem isReadable_of_lowerFrom {before text : List Char}
    (hreadable : forall d, d ∈ Text.lowerFrom before text -> isReadable d = true) :
    forall c, c ∈ text -> isReadable c = true := by
  induction text generalizing before with
  | nil => exact nofun
  | cons c rest ih =>
      unfold Text.lowerFrom at hreadable
      dsimp only at hreadable
      have hrest : forall d, d ∈ rest -> isReadable d = true :=
        ih fun d hmem => hreadable d (List.mem_append_right _ hmem)
      have hc : isReadable c = true := by
        by_contra hcontra
        rw [Bool.not_eq_true] at hcontra
        by_cases hsigma : c = 'Σ'
        · rw [if_pos hsigma] at hreadable
          have hown := hreadable _ (List.mem_append_left _ (List.mem_singleton_self _))
          split at hown
          · exact absurd hown (by decide)
          · exact absurd hown (by decide)
        · rw [if_neg hsigma] at hreadable
          rcases exists_mem_lowerChar hcontra with ⟨d, hmem, hd⟩
          have hown := hreadable d (List.mem_append_left _ hmem)
          rw [hd] at hown
          cases hown
      exact List.forall_mem_cons.mpr ⟨hc, hrest⟩

/-!
# Reading without regard to the case of the mark
-/

theorem lowerMark_of_ne {c : Char} (hmark : c ≠ 'E') : lowerMark c = c :=
  if_neg hmark

theorem isDigit_comp_lowerMark : Char.isDigit ∘ lowerMark = Char.isDigit := by
  funext c
  by_cases hmark : c = 'E'
  · rw [hmark]
    rfl
  · rw [Function.comp, lowerMark_of_ne hmark]

theorem isBlank_comp_lowerMark : Text.isBlank ∘ lowerMark = Text.isBlank := by
  funext c
  by_cases hmark : c = 'E'
  · rw [hmark]
    rfl
  · rw [Function.comp, lowerMark_of_ne hmark]

theorem map_lowerMark_of_digits {digits : List Char} (hdigits : Binary64.AllDigits digits) :
    digits.map lowerMark = digits := by
  have hsame : forall c, c ∈ digits -> lowerMark c = id c := by
    intro c hmem
    apply lowerMark_of_ne
    intro hmark
    have hdigit := hdigits c hmem
    rw [hmark] at hdigit
    cases hdigit
  rw [List.map_congr_left hsame, List.map_id]

theorem splitSign_of_ne {c : Char} (hminus : c ≠ '-') (hplus : c ≠ '+') (rest : List Char) :
    splitSign (c :: rest) = (false, c :: rest) := by
  unfold splitSign
  split
  · next heq =>
      injection heq with hc _
      exact absurd hc hminus
  · next heq =>
      injection heq with hc _
      exact absurd hc hplus
  · rfl

theorem fractionPart_of_ne {c : Char} (hpoint : c ≠ '.') (rest : List Char) :
    fractionPart (c :: rest) = ([], c :: rest) := by
  unfold fractionPart
  split
  · next heq =>
      injection heq with hc _
      exact absurd hc hpoint
  · rfl

theorem splitSign_map_lowerMark (text : List Char) :
    splitSign (text.map lowerMark) = ((splitSign text).1, (splitSign text).2.map lowerMark) := by
  cases text with
  | nil => rfl
  | cons c rest =>
      rw [List.map_cons]
      by_cases hmark : c = 'E'
      · rw [hmark]
        rfl
      · rw [lowerMark_of_ne hmark]
        by_cases hminus : c = '-'
        · rw [hminus]
          rfl
        · by_cases hplus : c = '+'
          · rw [hplus]
            rfl
          · rw [splitSign_of_ne hminus hplus, splitSign_of_ne hminus hplus, List.map_cons,
              lowerMark_of_ne hmark]

theorem allDigits_takeWhile (text : List Char) :
    Binary64.AllDigits (text.takeWhile Char.isDigit) :=
  fun _ => List.mem_takeWhile_imp

theorem splitDigits_map_lowerMark (text : List Char) :
    splitDigits (text.map lowerMark) =
      ((splitDigits text).1, (splitDigits text).2.map lowerMark) := by
  unfold splitDigits
  rw [List.takeWhile_map, List.dropWhile_map, isDigit_comp_lowerMark,
    map_lowerMark_of_digits (allDigits_takeWhile text)]

theorem fractionPart_map_lowerMark (text : List Char) :
    fractionPart (text.map lowerMark) =
      ((fractionPart text).1, (fractionPart text).2.map lowerMark) := by
  cases text with
  | nil => rfl
  | cons c rest =>
      rw [List.map_cons]
      by_cases hmark : c = 'E'
      · rw [hmark]
        rfl
      · rw [lowerMark_of_ne hmark]
        by_cases hpoint : c = '.'
        · rw [hpoint]
          exact splitDigits_map_lowerMark rest
        · rw [fractionPart_of_ne hpoint, fractionPart_of_ne hpoint, List.map_cons,
            lowerMark_of_ne hmark]

theorem exponentPart_map_lowerMark (text : List Char) :
    exponentPart (text.map lowerMark) = exponentPart text := by
  cases text with
  | nil => rfl
  | cons c rest =>
      have hmark : (lowerMark c = 'e' || lowerMark c = 'E') = (c = 'e' || c = 'E') := by
        by_cases hupper : c = 'E'
        · rw [hupper]
          rfl
        · rw [lowerMark_of_ne hupper]
      rw [List.map_cons, Binary64.exponentPart_cons, Binary64.exponentPart_cons, hmark,
        splitSign_map_lowerMark]
      dsimp only
      rw [splitDigits_map_lowerMark, List.isEmpty_map]

theorem ofText?_map_lowerMark (text : List Char) :
    Binary64.ofText? (String.ofList (text.map lowerMark)) =
      Binary64.ofText? (String.ofList text) := by
  rw [Binary64.ofText?_eq, Binary64.ofText?_eq]
  rw [String.toList_ofList, String.toList_ofList, splitSign_map_lowerMark]
  dsimp only
  rw [splitDigits_map_lowerMark]
  dsimp only
  rw [fractionPart_map_lowerMark]
  dsimp only
  rw [exponentPart_map_lowerMark]

theorem trim_map_lowerMark (text : List Char) :
    Text.trimEnd (Text.trimStart (text.map lowerMark)) =
      (Text.trimEnd (Text.trimStart text)).map lowerMark := by
  unfold Text.trimEnd Text.trimStart
  rw [List.dropWhile_map, isBlank_comp_lowerMark, ← List.map_reverse, List.dropWhile_map,
    isBlank_comp_lowerMark, List.map_reverse]

/-!
# What is read has readable characters only
-/

theorem isReadable_of_isDigit {c : Char} (hdigit : c.isDigit = true) : isReadable c = true := by
  simp [isReadable, isNumeralChar, hdigit]

theorem isReadable_of_splitSign {text : List Char}
    (hrest : forall c, c ∈ (splitSign text).2 -> isReadable c = true) :
    forall c, c ∈ text -> isReadable c = true := by
  cases text with
  | nil => exact nofun
  | cons d rest =>
      by_cases hminus : d = '-'
      · rw [hminus] at hrest ⊢
        exact List.forall_mem_cons.mpr ⟨rfl, hrest⟩
      · by_cases hplus : d = '+'
        · rw [hplus] at hrest ⊢
          exact List.forall_mem_cons.mpr ⟨rfl, hrest⟩
        · rw [splitSign_of_ne hminus hplus] at hrest
          exact hrest

theorem isReadable_of_splitDigits {text : List Char}
    (hrest : forall c, c ∈ (splitDigits text).2 -> isReadable c = true) :
    forall c, c ∈ text -> isReadable c = true := by
  intro c hmem
  rw [← List.takeWhile_append_dropWhile (p := Char.isDigit) (l := text)] at hmem
  rcases List.mem_append.mp hmem with hdigit | hdropped
  · exact isReadable_of_isDigit (allDigits_takeWhile text c hdigit)
  · exact hrest c hdropped

theorem isReadable_of_fractionPart {text : List Char}
    (hrest : forall c, c ∈ (fractionPart text).2 -> isReadable c = true) :
    forall c, c ∈ text -> isReadable c = true := by
  cases text with
  | nil => exact nofun
  | cons d rest =>
      by_cases hpoint : d = '.'
      · rw [hpoint] at hrest ⊢
        exact List.forall_mem_cons.mpr ⟨rfl, isReadable_of_splitDigits hrest⟩
      · rw [fractionPart_of_ne hpoint] at hrest
        exact hrest

theorem isReadable_of_exponentPart {text : List Char} {exponent : Int}
    (hpart : exponentPart text = some exponent) : forall c, c ∈ text -> isReadable c = true := by
  cases text with
  | nil => exact nofun
  | cons d rest =>
      rw [Binary64.exponentPart_cons] at hpart
      dsimp only at hpart
      split at hpart
      · next hmark =>
          have hd : isReadable d = true := by
            rw [Bool.or_eq_true, decide_eq_true_eq, decide_eq_true_eq] at hmark
            rcases hmark with hlower | hupper
            · rw [hlower]
              rfl
            · rw [hupper]
              rfl
          split at hpart
          · cases hpart
          · next hall =>
              have hnil : (splitDigits (splitSign rest).2).2 = [] := by
                simpa using (Bool.or_eq_false_iff.mp (Bool.eq_false_iff.mpr hall)).right
              have hrest : forall c, c ∈ rest -> isReadable c = true := by
                apply isReadable_of_splitSign
                apply isReadable_of_splitDigits
                rw [hnil]
                exact nofun
              exact List.forall_mem_cons.mpr ⟨hd, hrest⟩
      · cases hpart

theorem isReadable_of_ofText? {text : String} {x : Binary64}
    (hread : Binary64.ofText? text = some x) : forall c, c ∈ text.toList -> isReadable c = true := by
  rw [Binary64.ofText?_eq] at hread
  dsimp only at hread
  split at hread
  · cases hread
  · rw [Option.map_eq_some_iff] at hread
    rcases hread with ⟨exponent, hpart, _⟩
    apply isReadable_of_splitSign
    apply isReadable_of_splitDigits
    apply isReadable_of_fractionPart
    exact isReadable_of_exponentPart hpart

theorem mem_trim_or_isBlank {text : String} {c : Char} (hmem : c ∈ text.toList) :
    c ∈ (Text.trim text).toList ∨ Text.isBlank c = true := by
  have hdrop : forall chars : List Char, c ∈ chars ->
      c ∈ chars.dropWhile Text.isBlank ∨ Text.isBlank c = true := by
    intro chars hmem
    rw [← List.takeWhile_append_dropWhile (p := Text.isBlank) (l := chars)] at hmem
    rcases List.mem_append.mp hmem with hblank | hkept
    · exact Or.inr (List.mem_takeWhile_imp hblank)
    · exact Or.inl hkept
  unfold Text.trim Text.trimEnd Text.trimStart
  rw [String.toList_ofList, List.mem_reverse]
  rcases hdrop _ hmem with hkept | hblank
  · exact hdrop _ (List.mem_reverse.mpr hkept)
  · exact Or.inr hblank

theorem asNumber_text (text : String) :
    asNumber (.text text) = (Binary64.ofText? (Text.trim text)).filter Binary64.isFinite :=
  rfl

theorem isReadable_of_asNumber {text : String} {x : Binary64}
    (hnumber : asNumber (.text text) = some x) :
    forall c, c ∈ text.toList -> isReadable c = true := by
  intro c hmem
  rw [asNumber_text, Option.filter_eq_some_iff] at hnumber
  have hread := hnumber.left
  rcases mem_trim_or_isBlank hmem with hkept | hblank
  · exact isReadable_of_ofText? hread c hkept
  · simp [isReadable, hblank]

theorem asNumber_lower_of_isReadable {text : String}
    (hreadable : forall c, c ∈ text.toList -> isReadable c = true) :
    asNumber (.text (Text.lower text)) = asNumber (.text text) := by
  have hlower : Text.lower text = String.ofList (text.toList.map lowerMark) :=
    congrArg String.ofList (lowerFrom_of_isReadable hreadable [])
  rw [asNumber_text, asNumber_text, hlower]
  unfold Text.trim
  rw [String.toList_ofList, trim_map_lowerMark, ofText?_map_lowerMark]

theorem asNumber_lower (text : String) :
    asNumber (.text (Text.lower text)) = asNumber (.text text) := by
  by_cases hreadable : forall c, c ∈ text.toList -> isReadable c = true
  · exact asNumber_lower_of_isReadable hreadable
  · have hnone : asNumber (.text text) = none := by
      rw [Option.eq_none_iff_forall_not_mem]
      intro x hnumber
      exact hreadable (isReadable_of_asNumber hnumber)
    rw [hnone, Option.eq_none_iff_forall_not_mem]
    intro x hnumber
    have hlowered := isReadable_of_asNumber hnumber
    unfold Text.lower at hlowered
    rw [String.toList_ofList] at hlowered
    exact hreadable (isReadable_of_lowerFrom hlowered)

/-!
# The text of a number
-/

theorem isBlank_of_isNumeralChar {c : Char} (hnumeral : isNumeralChar c = true) :
    Text.isBlank c = false := by
  have hall : forall n, n ∈ readableCodes -> isNumeralChar (Char.ofNat n) = true ->
      Text.isBlank (Char.ofNat n) = false := by
    decide
  have hreadable : isReadable c = true := by
    simp [isReadable, hnumeral]
  have hchar := hall c.toNat (toNat_mem_readableCodes hreadable)
  rw [Char.ofNat_toNat] at hchar
  exact hchar hnumeral

theorem dropWhile_isBlank_of_numeral {chars : List Char}
    (hnumeral : forall c, c ∈ chars -> isNumeralChar c = true) :
    chars.dropWhile Text.isBlank = chars := by
  cases chars with
  | nil => rfl
  | cons c rest =>
      have hblank := isBlank_of_isNumeralChar (hnumeral c List.mem_cons_self)
      simp [hblank]

theorem trim_of_numeral {chars : List Char}
    (hnumeral : forall c, c ∈ chars -> isNumeralChar c = true) :
    Text.trim (String.ofList chars) = String.ofList chars := by
  have hback : forall c, c ∈ chars.reverse -> isNumeralChar c = true := by
    intro c hmem
    exact hnumeral c (List.mem_reverse.mp hmem)
  unfold Text.trim Text.trimEnd Text.trimStart
  rw [String.toList_ofList, dropWhile_isBlank_of_numeral hnumeral,
    dropWhile_isBlank_of_numeral hback, List.reverse_reverse]

theorem splitSign_integerChars (n : Int) :
    splitSign (Json.integerChars n) = (decide (n < 0), Nat.toDigits 10 n.natAbs) := by
  cases n with
  | ofNat n =>
      cases hdigits : Nat.toDigits 10 n with
      | nil => exact absurd hdigits Nat.toDigits_ne_nil
      | cons d rest =>
          have hd : d.isDigit = true := by
            apply Binary64.allDigits_toDigits n
            rw [hdigits]
            exact List.mem_cons_self
          have hminus : d ≠ '-' := by
            intro heq
            rw [heq] at hd
            cases hd
          have hplus : d ≠ '+' := by
            intro heq
            rw [heq] at hd
            cases hd
          show splitSign (Nat.toDigits 10 n) = (false, Nat.toDigits 10 n)
          rw [hdigits]
          exact splitSign_of_ne hminus hplus rest
  | negSucc n =>
      rw [decide_eq_true (Int.negSucc_lt_zero n)]
      rfl

theorem ofText?_integerChars (n : Int) :
    Binary64.ofText? (String.ofList (Json.integerChars n)) =
      some (Binary64.ofNumeral (n < 0) n.natAbs 0) := by
  have hnonempty : (Nat.toDigits 10 n.natAbs).isEmpty = false := by
    simp [Nat.toDigits_ne_nil]
  rw [Binary64.ofText?_eq, String.toList_ofList, splitSign_integerChars]
  dsimp only
  rw [Binary64.splitDigits_toDigits, hnonempty]
  simp [fractionPart, exponentPart, Binary64.digitsValue_toDigits]

theorem eq_of_asNumber_asText {n : Number} {x : Binary64}
    (hnumber : asNumber (.text (asText (.number n))) = some x) : x = n.toBinary64 := by
  have htrim : Text.trim (asText (.number n)) = String.ofList (Json.numberChars n) :=
    trim_of_numeral fun _ => Json.isNumeralChar_of_mem_numberChars
  rw [asNumber_text, htrim, Option.filter_eq_some_iff] at hnumber
  cases n with
  | integer n =>
      have hread := (ofText?_integerChars n).symm.trans hnumber.left
      injection hread with hx
      rw [← hx] at hnumber ⊢
      exact Binary64.ofNumeral_integer hnumber.right
  | real y hfinite =>
      have htext : String.ofList (Json.numberChars (.real y hfinite)) =
          Binary64.render Binary64.jsonStyle y := String.ofList_toList
      rw [htext] at hnumber
      exact Binary64.eq_of_ofText?_render hnumber.left hnumber.right

end Rows
end QueryGateway
