import Mathlib.Data.List.TakeWhile
import QueryGateway.Proofs.Dictionary
import QueryGateway.Template

/-!
# How templates are read

There is one way to cut a template at its leftmost placeholders, and filling it
in is filling in the pieces of that cut.  What the values are plays no part in
how a template is cut, so that nothing is looked at twice.
-/

namespace QueryGateway
namespace Template

/-!
# Placeholders
-/

/-- A placeholder as it is written: a name between double braces, with blanks around it. -/
structure Spells (name written : List Char) : Prop where
  nonempty : name ≠ []
  legal : forall c, c ∈ name -> isNameChar c = true
  braced : exists before after,
    (forall c, c ∈ before -> Text.isBlank c = true) ∧
      (forall c, c ∈ after -> Text.isBlank c = true) ∧
        written = ['\x7b', '\x7b'] ++ before ++ name ++ after ++ ['\x7d', '\x7d']

def Plain (text : List Char) : Prop :=
  forall name written rest, text = written ++ rest -> ¬ Spells name written

theorem isBlank_of_isNameChar {c : Char} (hname : isNameChar c = true) :
    Text.isBlank c = false := by
  unfold isNameChar at hname
  delta Char.isAlphanum Char.isAlpha Char.isUpper Char.isLower Char.isDigit at hname
  simp only [Bool.or_eq_true, Bool.and_eq_true, decide_eq_true_eq, UInt32.le_iff_toNat_le,
    ge_iff_le] at hname
  change ((((((65 ≤ c.toNat ∧ c.toNat ≤ 90) ∨ (97 ≤ c.toNat ∧ c.toNat ≤ 122)) ∨
    (48 ≤ c.toNat ∧ c.toNat ≤ 57)) ∨ c = '_') ∨ c = '.') ∨ c = '-') at hname
  have hrange : 45 ≤ c.toNat ∧ c.toNat ≤ 122 := by
    rcases hname with (((hletter | hdigit) | hmark) | hmark) | hmark
    · omega
    · omega
    · subst hmark
      decide
    · subst hmark
      decide
    · subst hmark
      decide
  simp only [Text.isBlank, Bool.or_eq_false_iff, Bool.and_eq_false_iff, decide_eq_false_iff_not,
    beq_eq_false_iff_ne]
  omega

theorem isNameChar_of_isBlank {c : Char} (hblank : Text.isBlank c = true) :
    isNameChar c = false := by
  cases hname : isNameChar c with
  | false => rfl
  | true =>
      rw [isBlank_of_isNameChar hname] at hblank
      cases hblank

theorem trimStart_append {blanks : List Char}
    (hblanks : forall c, c ∈ blanks -> Text.isBlank c = true) (rest : List Char) :
    Text.trimStart (blanks ++ rest) = Text.trimStart rest :=
  List.dropWhile_append_of_pos hblanks

theorem trimStart_of_isBlank_eq_false {c : Char} (hblank : Text.isBlank c = false)
    (rest : List Char) : Text.trimStart (c :: rest) = c :: rest := by
  simp [Text.trimStart, hblank]

theorem takeWhile_name {name after rest : List Char}
    (hname : forall c, c ∈ name -> isNameChar c = true)
    (hafter : forall c, c ∈ after -> Text.isBlank c = true) :
    (name ++ (after ++ '\x7d' :: rest)).takeWhile isNameChar = name := by
  rw [List.takeWhile_append_of_pos hname]
  cases after with
  | nil => simp [isNameChar]
  | cons c after => simp [isNameChar_of_isBlank (hafter c List.mem_cons_self)]

theorem placeholder?_append {name written : List Char} (hspells : Spells name written)
    (rest : List Char) :
    placeholder? (written ++ rest) = some (String.ofList name, written.length) := by
  rcases hspells with ⟨hnonempty, hlegal, before, after, hbefore, hafter, hwritten⟩
  have htext : written ++ rest =
      '\x7b' :: '\x7b' :: (before ++ (name ++ (after ++ '\x7d' :: '\x7d' :: rest))) := by
    simp [hwritten]
  have hfromName : Text.trimStart (before ++ (name ++ (after ++ '\x7d' :: '\x7d' :: rest))) =
      name ++ (after ++ '\x7d' :: '\x7d' :: rest) := by
    rw [trimStart_append hbefore]
    cases name with
    | nil => exact absurd rfl hnonempty
    | cons c name =>
        exact trimStart_of_isBlank_eq_false (isBlank_of_isNameChar (hlegal c List.mem_cons_self)) _
  have hafterName : Text.trimStart (after ++ '\x7d' :: '\x7d' :: rest) =
      '\x7d' :: '\x7d' :: rest := by
    rw [trimStart_append hafter]
    exact trimStart_of_isBlank_eq_false (by decide) _
  have hlength : (written ++ rest).length - rest.length = written.length := by simp
  rw [htext] at hlength ⊢
  simp only [placeholder?, hfromName, takeWhile_name hlegal hafter, List.drop_left, hafterName,
    hlength, List.isEmpty_iff, hnonempty, if_false]

theorem exists_blanks (text : List Char) :
    exists blanks, (forall c, c ∈ blanks -> Text.isBlank c = true) ∧
      text = blanks ++ Text.trimStart text :=
  ⟨text.takeWhile Text.isBlank, fun _ => List.mem_takeWhile_imp,
    (List.takeWhile_append_dropWhile).symm⟩

theorem name_append_drop (text : List Char) :
    text = text.takeWhile isNameChar ++ text.drop (text.takeWhile isNameChar).length := by
  rcases List.takeWhile_prefix (l := text) isNameChar with ⟨rest, htext⟩
  have hdrop : (text.takeWhile isNameChar ++ rest).drop (text.takeWhile isNameChar).length =
      rest := List.drop_left
  rw [htext] at hdrop
  rw [hdrop, htext]

theorem spells_of_placeholder? {text : List Char} {name : String} {length : Nat}
    (hread : placeholder? text = some (name, length)) :
    exists written rest, text = written ++ rest ∧ written.length = length ∧
      Spells name.toList written := by
  unfold placeholder? at hread
  split at hread
  · rename_i rest
    dsimp only at hread
    split at hread
    · rename_i closed hclosing
      split at hread
      · cases hread
      · rename_i hnonempty
        cases hread
        rcases exists_blanks rest with ⟨before, hbefore, hrest⟩
        generalize Text.trimStart rest = fromName at hrest hclosing hnonempty ⊢
        have hname := name_append_drop fromName
        have hlegal : forall c, c ∈ fromName.takeWhile isNameChar -> isNameChar c = true :=
          fun _ => List.mem_takeWhile_imp
        generalize fromName.takeWhile isNameChar = chars at hname hclosing hnonempty hlegal ⊢
        rcases exists_blanks (fromName.drop chars.length) with ⟨after, hafter, hfromAfter⟩
        rw [hclosing] at hfromAfter
        have htext : '\x7b' :: '\x7b' :: rest =
            ['\x7b', '\x7b'] ++ before ++ chars ++ after ++ ['\x7d', '\x7d'] ++ closed := by
          rw [hrest, hname, hfromAfter]
          simp
        refine ⟨_, closed, htext, ?_, ⟨?_, ?_, before, after, hbefore, hafter, ?_⟩⟩
        · rw [htext]
          simp only [List.length_append]
          omega
        · simpa using hnonempty
        · simpa using hlegal
        · simp
    · cases hread
  · cases hread

theorem placeholder?_eq_none_iff (text : List Char) : placeholder? text = none ↔ Plain text := by
  constructor
  · intro hnone name written rest htext hspells
    rw [htext, placeholder?_append hspells] at hnone
    cases hnone
  · intro hplain
    cases hread : placeholder? text with
    | none => rfl
    | some found =>
        rcases spells_of_placeholder? hread with ⟨written, rest, htext, _, hspells⟩
        exact absurd hspells (hplain _ written rest htext)

theorem Spells.length_pos {name written : List Char} (hspells : Spells name written) :
    0 < written.length := by
  rcases hspells.braced with ⟨before, after, _, _, hwritten⟩
  simp [hwritten]

/-!
# Cuts
-/

/--
A cut of a text: where no placeholder begins a character stands for itself, and
where one begins it is a piece, after which the cut goes on.
-/
inductive Cut : List Char -> List Piece -> Prop where
  | done : Cut [] []
  | literal {c : Char} {rest : List Char} {pieces : List Piece} (hplain : Plain (c :: rest))
      (hrest : Cut rest pieces) : Cut (c :: rest) (.literal c :: pieces)
  | placeholder {name written rest : List Char} {pieces : List Piece}
      (hspells : Spells name written) (hrest : Cut rest pieces) :
      Cut (written ++ rest) (.placeholder (String.ofList name) written :: pieces)

theorem piecesFrom_append (made rest : List Char) :
    piecesFrom made.length (made ++ rest) = piecesFrom 0 rest := by
  induction made with
  | nil => rfl
  | cons c made ih => exact ih

theorem piecesFrom_plain {c : Char} {rest : List Char} (hplain : Plain (c :: rest)) :
    piecesFrom 0 (c :: rest) = .literal c :: piecesFrom 0 rest := by
  rw [piecesFrom, (placeholder?_eq_none_iff _).mpr hplain]

theorem piecesFrom_placeholder {name written : List Char} (hspells : Spells name written)
    (rest : List Char) :
    piecesFrom 0 (written ++ rest) =
      .placeholder (String.ofList name) written :: piecesFrom 0 rest := by
  have hread := placeholder?_append hspells rest
  cases written with
  | nil => exact absurd hspells.length_pos (Nat.lt_irrefl 0)
  | cons c more =>
      rw [List.cons_append] at hread ⊢
      rw [piecesFrom, hread]
      simp only [List.length_cons, Nat.add_sub_cancel, piecesFrom_append]
      rw [← List.cons_append, ← List.length_cons, List.take_left]

theorem Cut.eq_piecesFrom {text : List Char} {cut : List Piece} (hcut : Cut text cut) :
    cut = piecesFrom 0 text := by
  induction hcut with
  | done => rfl
  | literal hplain hrest ih => rw [piecesFrom_plain hplain, ih]
  | placeholder hspells hrest ih => rw [piecesFrom_placeholder hspells, ih]

theorem cut_piecesFrom (text : List Char) : Cut text (piecesFrom 0 text) := by
  -- A placeholder is taken as a whole, so the induction is on the length of the text.
  induction hlength : text.length using Nat.strongRecOn generalizing text with
  | ind length ih =>
      subst hlength
      cases text with
      | nil => exact .done
      | cons c rest =>
          cases hread : placeholder? (c :: rest) with
          | none =>
              have hplain := (placeholder?_eq_none_iff _).mp hread
              rw [piecesFrom_plain hplain]
              exact .literal hplain (ih rest.length (Nat.lt_succ_self _) rest rfl)
          | some found =>
              rcases spells_of_placeholder? hread with ⟨written, after, htext, _, hspells⟩
              have hshorter : after.length < (c :: rest).length := by
                have hpos := hspells.length_pos
                rw [htext, List.length_append]
                omega
              rw [htext, piecesFrom_placeholder hspells]
              exact .placeholder hspells (ih after.length hshorter after rfl)

theorem cut_iff (text : List Char) (cut : List Piece) : Cut text cut ↔ cut = piecesFrom 0 text := by
  constructor
  · intro hcut
    exact hcut.eq_piecesFrom
  · intro hpieces
    rw [hpieces]
    exact cut_piecesFrom text

/-!
# Filling in
-/

def Piece.name? : Piece -> Option String
  | .literal _ => none
  | .placeholder name _ => some name

def Piece.written : Piece -> List Char
  | .literal c => [c]
  | .placeholder _ written => written

theorem Cut.flatMap_written {text : List Char} {cut : List Piece} (hcut : Cut text cut) :
    cut.flatMap Piece.written = text := by
  induction hcut with
  | done => rfl
  | literal hplain hrest ih => rw [List.flatMap_cons, ih, Piece.written, List.singleton_append]
  | placeholder hspells hrest ih => rw [List.flatMap_cons, ih, Piece.written]

theorem toList_fillPieces {template : String} {cut : List Piece} (hcut : Cut template.toList cut)
    (parameters : Members) :
    (fillPieces parameters template).toList = cut.flatMap (Piece.fill parameters) := by
  rw [fillPieces, String.toList_ofList, pieces, hcut.eq_piecesFrom]

theorem hasBraces_iff (text : List Char) :
    hasBraces text = true ↔ ['\x7b', '\x7b'] <:+: text := by
  induction text with
  | nil => simp [hasBraces]
  | cons c rest ih =>
      rw [hasBraces, Bool.or_eq_true, ih, List.isPrefixOf_iff_prefix, List.infix_cons_iff]

theorem fill_literal_of_cut {text : List Char} {cut : List Piece} (hcut : Cut text cut)
    (hbraces : ¬ ['\x7b', '\x7b'] <:+: text) (piece : Piece) (hmem : piece ∈ cut) :
    exists c, piece = .literal c := by
  induction hcut with
  | done => cases hmem
  | @literal c rest pieces hplain hrest ih =>
      rcases List.mem_cons.mp hmem with hfirst | hlater
      · exact ⟨c, hfirst⟩
      · exact ih (fun hinfix => hbraces (List.infix_cons hinfix)) hlater
  | @placeholder name written rest pieces hspells hrest ih =>
      rcases hspells.braced with ⟨before, after, _, _, hwritten⟩
      refine absurd ?_ hbraces
      exact ⟨[], before ++ name ++ after ++ ['\x7d', '\x7d'] ++ rest, by simp [hwritten]⟩

theorem fillPieces_eq_self {template : String} {parameters : Members}
    (hpieces : forall piece, piece ∈ pieces template ->
      piece.fill parameters = piece.written) : fillPieces parameters template = template := by
  apply String.toList_injective
  have hcut : Cut template.toList (pieces template) := cut_piecesFrom _
  rw [toList_fillPieces hcut, ← hcut.flatMap_written]
  exact List.flatMap_congr hpieces

theorem fillPieces_nil (template : String) : fillPieces [] template = template := by
  apply fillPieces_eq_self
  intro piece hmem
  cases piece with
  | literal c => rfl
  | placeholder name written => rfl

theorem fillPieces_of_no_braces (parameters : Members) {template : String}
    (hbraces : ¬ ['\x7b', '\x7b'] <:+: template.toList) :
    fillPieces parameters template = template := by
  apply fillPieces_eq_self
  intro piece hmem
  rcases fill_literal_of_cut (cut_piecesFrom _) hbraces piece hmem with ⟨c, hliteral⟩
  rw [hliteral]
  rfl

/-- Not looking through a template gives what looking through it gives. -/
theorem fill_eq_fillPieces (parameters : Members) (template : String) :
    fill parameters template = fillPieces parameters template := by
  unfold fill
  split
  · rename_i hskipped
    rcases (Bool.or_eq_true _ _).mp hskipped with hempty | hbraces
    · rw [List.isEmpty_iff.mp hempty, fillPieces_nil]
    · have hnone : ¬ ['\x7b', '\x7b'] <:+: template.toList := by
        rw [← hasBraces_iff]
        simpa using hbraces
      rw [fillPieces_of_no_braces parameters hnone]
  · rfl

theorem fill_congr {template : String} {cut : List Piece} (hcut : Cut template.toList cut)
    {parameters others : Members}
    (hsame : forall name written, .placeholder name written ∈ cut ->
      Dictionary.find? parameters name = Dictionary.find? others name) :
    fill parameters template = fill others template := by
  rw [fill_eq_fillPieces, fill_eq_fillPieces]
  apply String.toList_injective
  rw [toList_fillPieces hcut, toList_fillPieces hcut]
  apply List.flatMap_congr
  intro piece hmem
  cases piece with
  | literal c => rfl
  | placeholder name written => simp only [Piece.fill, hsame name written hmem]

/--
A template has one cut, and to fill it in is to write the pieces of that cut one
after the other: a character as itself, a placeholder as the text of the
parameter it names, or as it is written if it names none.  Not looking through a
template makes no difference, and neither do parameters that no placeholder
names.
-/
theorem fill_follows_cut (template : String) :
    exists cut, (forall other, Cut template.toList other ↔ other = cut) ∧
      (forall parameters, (fill parameters template).toList = cut.flatMap fun
        | .literal c => [c]
        | .placeholder name written =>
            match Dictionary.find? parameters name with
            | some value => (Rows.asText value).toList
            | none => written) ∧
      (forall parameters, fill parameters template = fillPieces parameters template) ∧
      forall parameters others,
        (forall name written, .placeholder name written ∈ cut ->
          Dictionary.find? parameters name = Dictionary.find? others name) ->
        fill parameters template = fill others template := by
  have hcut : Cut template.toList (pieces template) := cut_piecesFrom _
  refine ⟨pieces template, cut_iff template.toList, ?_, ?_, ?_⟩
  · intro parameters
    rw [fill_eq_fillPieces, toList_fillPieces hcut]
    apply List.flatMap_congr
    intro piece hmem
    cases piece with
    | literal c => rfl
    | placeholder name written => rfl
  · intro parameters
    exact fill_eq_fillPieces parameters template
  · intro parameters others hsame
    exact fill_congr hcut hsame

/--
Of three opening braces the last two count; a placeholder in a value is not
filled in, and one that is not closed or names no parameter stays.
-/
theorem fill_follows_cut_nested :
    let template := "\x7b\x7b\x7ba\x7d\x7d\x7d \x7b\x7b \x7b\x7b b \x7d\x7d \x7b\x7ba\x7d"
    let parameters : Members := [("a", .text "\x7b\x7bb\x7d\x7d")]
    let more : Members := [("a", .text "\x7b\x7bb\x7d\x7d"), ("c", .null)]
    fill parameters template =
        "\x7b\x7b\x7bb\x7d\x7d\x7d \x7b\x7b \x7b\x7b b \x7d\x7d \x7b\x7ba\x7d" ∧
      fill more template = fill parameters template := by
  intro template parameters more
  rcases fill_follows_cut template with ⟨cut, hcut, hfilled, _, hcongr⟩
  have hpieces : piecesFrom 0 template.toList = cut := (hcut _).mp (cut_piecesFrom _)
  constructor
  · apply String.toList_injective
    rw [hfilled, ← hpieces]
    decide
  · apply hcongr
    intro name written hmem
    have hnames : cut.filterMap Piece.name? = ["a", "b"] := by
      rw [← hpieces]
      decide
    have hname : name ∈ cut.filterMap Piece.name? := List.mem_filterMap.mpr ⟨_, hmem, rfl⟩
    rw [hnames] at hname
    rcases List.mem_cons.mp hname with hfirst | hsecond
    · rw [hfirst]
      rfl
    · rw [List.mem_singleton.mp hsecond]
      rfl

end Template
end QueryGateway
