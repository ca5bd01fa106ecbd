import Mathlib.Data.List.TakeWhile
import QueryGateway.Rows.Filter

/-!
# Exact matches without regard to case

A text operator lower-cases the row's text and its own, each for itself, and compares
the results.  All characters but one become the same in every place; a capital sigma
becomes the final form at the end of a word and the other one elsewhere.  So a text
that stands in another one is found there unless one of its capital sigmas is at the
end of a word in one of the two and not in the other.
-/

namespace QueryGateway
namespace Text

/-!
# A part of a text in lower case
-/

/-- Whether a capital sigma is at the end of a word, the characters before it nearest first. -/
def isFinalSigma (before after : List Char) : Bool :=
  casedFollows before && !casedFollows after

def lowerIn (before : List Char) (c : Char) (after : List Char) : List Char :=
  if c = 'Σ' then
    [if isFinalSigma before after then 'ς' else 'σ']
  else
    lowerChar c

def lowerBetween (before : List Char) : List Char -> List Char -> List Char
  | [], _ => []
  | c :: rest, after => lowerIn before c (rest ++ after) ++ lowerBetween (c :: before) rest after

theorem lowerFrom_cons (before : List Char) (c : Char) (rest : List Char) :
    lowerFrom before (c :: rest) = lowerIn before c rest ++ lowerFrom (c :: before) rest :=
  rfl

theorem lowerFrom_append (before part after : List Char) :
    lowerFrom before (part ++ after) =
      lowerBetween before part after ++ lowerFrom (part.reverse ++ before) after := by
  induction part generalizing before with
  | nil => rfl
  | cons c rest ih =>
      rw [List.cons_append, lowerFrom_cons, lowerBetween, ih, List.reverse_cons,
        List.append_assoc, List.append_assoc, List.singleton_append]

theorem lowerChars_eq_lowerBetween (part : List Char) :
    lowerChars part = lowerBetween [] part [] := by
  have hsplit := lowerFrom_append [] part []
  rw [List.append_nil, lowerFrom, List.append_nil] at hsplit
  exact hsplit

theorem lowerChars_append (before part after : List Char) :
    lowerChars (before ++ part ++ after) =
      lowerBetween [] before (part ++ after) ++ lowerBetween before.reverse part after ++
        lowerFrom (part.reverse ++ before.reverse) after := by
  unfold lowerChars
  rw [List.append_assoc, lowerFrom_append, lowerFrom_append, List.append_nil, List.append_assoc]

theorem length_lowerIn (before after before' after' : List Char) (c : Char) :
    (lowerIn before c after).length = (lowerIn before' c after').length := by
  unfold lowerIn
  split
  · rfl
  · rfl

theorem length_lowerBetween (before part after before' after' : List Char) :
    (lowerBetween before part after).length = (lowerBetween before' part after').length := by
  induction part generalizing before before' with
  | nil => rfl
  | cons c rest ih =>
      rw [lowerBetween, lowerBetween, List.length_append, List.length_append,
        ih (c :: before) (c :: before'),
        length_lowerIn before (rest ++ after) before' (rest ++ after')]

theorem length_lowerChars (before part after : List Char) :
    (lowerChars part).length = (lowerBetween before part after).length := by
  rw [lowerChars_eq_lowerBetween]
  exact length_lowerBetween _ _ _ _ _

theorem lowerIn_eq_iff (before after before' after' : List Char) (c : Char) :
    lowerIn before c after = lowerIn before' c after' ↔
      (c = 'Σ' -> isFinalSigma before after = isFinalSigma before' after') := by
  unfold lowerIn
  by_cases hsigma : c = 'Σ'
  · rw [if_pos hsigma, if_pos hsigma, forall_prop_of_true hsigma]
    cases isFinalSigma before after <;> cases isFinalSigma before' after' <;> decide
  · rw [if_neg hsigma, if_neg hsigma]
    exact ⟨fun _ heq => absurd heq hsigma, fun _ => rfl⟩

theorem forall_sigma_cons {property : List Char -> List Char -> Prop} {c : Char}
    {rest : List Char} :
    (forall opening closing, c :: rest = opening ++ 'Σ' :: closing -> property opening closing) ↔
      (c = 'Σ' -> property [] rest) ∧
        forall opening closing, rest = opening ++ 'Σ' :: closing ->
          property (c :: opening) closing := by
  constructor
  · intro hall
    constructor
    · rintro rfl
      exact hall [] rest rfl
    · rintro opening closing rfl
      exact hall (c :: opening) closing rfl
  · rintro ⟨hfirst, hrest⟩ opening closing hsplit
    cases opening with
    | nil =>
        injection hsplit with hc hclosing
        rw [← hclosing]
        exact hfirst hc
    | cons d opening =>
        injection hsplit with hc hclosing
        rw [← hc]
        exact hrest opening closing hclosing

/-- A part becomes the same in two places exactly if each of its capital sigmas does. -/
theorem lowerBetween_eq_iff (before part after before' after' : List Char) :
    lowerBetween before part after = lowerBetween before' part after' ↔
      forall opening closing, part = opening ++ 'Σ' :: closing ->
        isFinalSigma (opening.reverse ++ before) (closing ++ after) =
          isFinalSigma (opening.reverse ++ before') (closing ++ after') := by
  induction part generalizing before before' with
  | nil => simp [lowerBetween]
  | cons c rest ih =>
      have hparts : lowerBetween before (c :: rest) after = lowerBetween before' (c :: rest) after' ↔
          lowerIn before c (rest ++ after) = lowerIn before' c (rest ++ after') ∧
            lowerBetween (c :: before) rest after = lowerBetween (c :: before') rest after' := by
        constructor
        · intro hsame
          exact List.append_inj hsame (length_lowerIn _ _ _ _ c)
        · rintro ⟨hfirst, hrest⟩
          rw [lowerBetween, lowerBetween, hfirst, hrest]
      rw [hparts, forall_sigma_cons, lowerIn_eq_iff, ih]
      simp only [List.reverse_nil, List.nil_append, List.reverse_cons, List.append_assoc,
        List.singleton_append]

/-!
# Sigmas that their surroundings change
-/

theorem casedFollows_of_ignorable {text : List Char} (hall : text.all isCaseIgnorable = true) :
    casedFollows text = false := by
  have hnil : text.dropWhile isCaseIgnorable = [] :=
    List.dropWhile_eq_nil_iff.mpr (List.all_eq_true.mp hall)
  rw [casedFollows, hnil]

theorem casedFollows_append (text after : List Char) :
    casedFollows (text ++ after) =
      if text.all isCaseIgnorable then casedFollows after else casedFollows text := by
  induction text with
  | nil => rfl
  | cons c rest ih =>
      unfold casedFollows at ih ⊢
      rw [List.cons_append, List.dropWhile_cons, List.dropWhile_cons, List.all_cons]
      cases hc : isCaseIgnorable c with
      | true => exact ih
      | false => rfl

/--
A capital sigma of a part of a text has another form there than in the part alone: it
is the end of a word only in the part, where cased letters follow the part, or only in
the text, where cased letters come before the part and none follows the sigma.
-/
def Disturbed (before part after : List Char) : Prop :=
  exists opening closing, part = opening ++ 'Σ' :: closing ∧
    ((casedFollows opening.reverse = true ∧ closing.all isCaseIgnorable = true ∧
        casedFollows after = true) ∨
      (casedFollows before.reverse = true ∧ opening.all isCaseIgnorable = true ∧
        casedFollows (closing ++ after) = false))

theorem not_disturbed_of_not_mem {part : List Char} (hnone : 'Σ' ∉ part)
    (before after : List Char) : ¬ Disturbed before part after := by
  rintro ⟨opening, closing, hpart, _⟩
  rw [hpart] at hnone
  exact hnone (List.mem_append_right opening List.mem_cons_self)

theorem isFinalSigma_ne_iff (before opening closing after : List Char) :
    isFinalSigma (opening.reverse ++ before) (closing ++ after) ≠
        isFinalSigma opening.reverse closing ↔
      (casedFollows opening.reverse = true ∧ closing.all isCaseIgnorable = true ∧
          casedFollows after = true) ∨
        (casedFollows before = true ∧ opening.all isCaseIgnorable = true ∧
          casedFollows (closing ++ after) = false) := by
  have hopening : opening.all isCaseIgnorable = true -> casedFollows opening.reverse = false := by
    intro hall
    rw [← List.all_reverse] at hall
    exact casedFollows_of_ignorable hall
  have hclosing : closing.all isCaseIgnorable = true -> casedFollows closing = false :=
    casedFollows_of_ignorable
  unfold isFinalSigma
  rw [casedFollows_append, casedFollows_append, List.all_reverse]
  generalize opening.all isCaseIgnorable = open' at *
  generalize closing.all isCaseIgnorable = closed at *
  generalize casedFollows opening.reverse = led at *
  generalize casedFollows closing = tailed at *
  generalize casedFollows before = p at *
  generalize casedFollows after = q at *
  revert open' closed led tailed p q
  decide

theorem lowerBetween_eq_lowerChars_iff (before part after : List Char) :
    lowerBetween before.reverse part after = lowerChars part ↔ ¬ Disturbed before part after := by
  rw [lowerChars_eq_lowerBetween, lowerBetween_eq_iff]
  unfold Disturbed
  simp only [List.append_nil, ← isFinalSigma_ne_iff, not_exists, not_and, not_not]

instance (before part after : List Char) : Decidable (Disturbed before part after) :=
  decidable_of_iff (lowerBetween before.reverse part after ≠ lowerChars part) (by
    rw [ne_eq, lowerBetween_eq_lowerChars_iff, not_not])

/-!
# Finding a part in lower case
-/

theorem occursIn_iff (part text : List Char) : occursIn part text = true ↔ part <:+: text := by
  induction text with
  | nil => simp [occursIn]
  | cons c rest ih =>
      rw [occursIn, Bool.or_eq_true, ih, List.isPrefixOf_iff_prefix, List.infix_cons_iff]

theorem isPrefix_lowerChars_iff (part after : List Char) :
    lowerChars part <+: lowerChars (part ++ after) ↔ ¬ Disturbed [] part after := by
  have hsplit := lowerChars_append [] part after
  rw [List.nil_append, lowerBetween, List.nil_append] at hsplit
  rw [← lowerBetween_eq_lowerChars_iff, hsplit]
  constructor
  · intro hstarts
    have hlength := length_lowerChars [].reverse part after
    have hfront := List.prefix_of_prefix_length_le hstarts (List.prefix_append _ _) hlength.le
    exact (hfront.eq_of_length hlength).symm
  · intro hsame
    rw [hsame]
    exact List.prefix_append _ _

theorem isSuffix_lowerChars_iff (before part : List Char) :
    lowerChars part <:+ lowerChars (before ++ part) ↔ ¬ Disturbed before part [] := by
  have hsplit := lowerChars_append before part []
  rw [List.append_nil, List.append_nil, lowerFrom, List.append_nil] at hsplit
  rw [← lowerBetween_eq_lowerChars_iff, hsplit]
  constructor
  · intro hends
    have hlength := length_lowerChars before.reverse part []
    have hback := List.suffix_of_suffix_length_le hends (List.suffix_append _ _) hlength.le
    exact (hback.eq_of_length hlength).symm
  · intro hsame
    rw [hsame]
    exact List.suffix_append _ _

theorem isInfix_lowerChars {before part after : List Char} (hkept : ¬ Disturbed before part after) :
    lowerChars part <:+: lowerChars (before ++ part ++ after) := by
  rw [lowerChars_append, (lowerBetween_eq_lowerChars_iff before part after).mpr hkept]
  exact List.infix_append _ _ _

end Text

namespace Rows

open Text (Disturbed)

theorem textTest_texts (test : List Char -> List Char -> Bool) (f v : String) :
    textTest test (.text f) (.text v) =
      test (Text.lowerChars f.toList) (Text.lowerChars v.toList) := by
  show test (Text.lower f).toList (Text.lower v).toList = _
  rw [Text.lower, Text.lower, String.toList_ofList, String.toList_ofList]

theorem containsValue_texts (f v : String) :
    containsValue (.text f) (.text v) =
      Text.occursIn (Text.lowerChars v.toList) (Text.lowerChars f.toList) :=
  textTest_texts (fun f v => Text.occursIn v f) f v

/--
A row whose text starts or ends with the text of a predicate passes the operator for
this exactly if the surroundings disturb no capital sigma of the match, and a row whose
text contains it passes if there is one match that is not disturbed.  A text without
capital sigmas is found wherever it is.
-/
theorem exact_matches_pass {row : Json} {field f : String} (v : String)
    (hfield : fieldOf row field = .text f) :
    let passes := fun operator => Predicate.holds ⟨field, operator, .text v⟩ row
    (forall after, f.toList = v.toList ++ after ->
      (passes .startsWith = true ↔ ¬ Disturbed [] v.toList after)) ∧
    (forall before, f.toList = before ++ v.toList ->
      (passes .endsWith = true ↔ ¬ Disturbed before v.toList [])) ∧
    (forall before after, f.toList = before ++ v.toList ++ after ->
      ¬ Disturbed before v.toList after -> passes .contains = true) ∧
    ('Σ' ∉ v.toList -> forall before after, ¬ Disturbed before v.toList after) := by
  intro passes
  have htest : forall operator, passes operator = operator.test (.text f) (.text v) := by
    intro operator
    rw [← hfield]
    rfl
  refine ⟨?_, ?_, ?_, Text.not_disturbed_of_not_mem⟩
  · intro after hsplit
    rw [htest, Operator.test, textTest_texts, List.isPrefixOf_iff_prefix, hsplit]
    exact Text.isPrefix_lowerChars_iff v.toList after
  · intro before hsplit
    rw [htest, Operator.test, textTest_texts, List.isSuffixOf_iff_suffix, hsplit]
    exact Text.isSuffix_lowerChars_iff before v.toList
  · intro before after hsplit hkept
    rw [htest, Operator.test, containsValue_texts, Text.occursIn_iff, hsplit]
    exact Text.isInfix_lowerChars hkept

/-!
# Names of streets
-/

namespace Streets

def entry (name : String) : Json :=
  .object [("name", .text name)]

/-- Before a blank a capital sigma is at the end of a word, as it is without what follows. -/
theorem exact_matches_pass_before_blank :
    let row := entry "ΟΔΟΣ ΕΡΜΟΥ"
    fieldOf row "name" = .text "ΟΔΟΣ ΕΡΜΟΥ" ∧
      "ΟΔΟΣ ΕΡΜΟΥ".toList = "ΟΔΟΣ".toList ++ " ΕΡΜΟΥ".toList ∧
      ¬ Disturbed [] "ΟΔΟΣ".toList " ΕΡΜΟΥ".toList ∧
      Predicate.holds ⟨"name", .startsWith, .text "ΟΔΟΣ"⟩ row = true := by
  intro row
  have hfield : fieldOf row "name" = .text "ΟΔΟΣ ΕΡΜΟΥ" := rfl
  have hsplit : "ΟΔΟΣ ΕΡΜΟΥ".toList = "ΟΔΟΣ".toList ++ " ΕΡΜΟΥ".toList := by
    decide +kernel
  have hkept : ¬ Disturbed [] "ΟΔΟΣ".toList " ΕΡΜΟΥ".toList := by
    decide +kernel
  exact ⟨hfield, hsplit, hkept,
    ((exact_matches_pass "ΟΔΟΣ" hfield).left _ hsplit).mpr hkept⟩

/-- A sigma at the end of a word is not found alone, nor a word in a longer one. -/
theorem sigmas_not_found :
    let street := entry "ΟΔΟΣ"
    let marking := entry "ΟΔΟΣΗΜΑΝΣΗ"
    "ΟΔΟΣ".toList = "ΟΔΟ".toList ++ "Σ".toList ∧
      Predicate.holds ⟨"name", .contains, .text "Σ"⟩ street = false ∧
      Predicate.holds ⟨"name", .endsWith, .text "Σ"⟩ street = false ∧
      "ΟΔΟΣΗΜΑΝΣΗ".toList = "ΟΔΟΣ".toList ++ "ΗΜΑΝΣΗ".toList ∧
      Predicate.holds ⟨"name", .startsWith, .text "ΟΔΟΣ"⟩ marking = false := by
  decide +kernel

end Streets

end Rows
end QueryGateway
