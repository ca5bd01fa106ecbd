import QueryGateway.Json.Printer
import QueryGateway.Proofs.Binary64.Numeral

/-!
# Compact text determines the value

Two values with the same text are the same value.  The text of a value ends
where the next character can no longer belong to it, so the statement that is
proved by recursion allows for different continuations, and concludes that
these are the same as well.
-/

namespace QueryGateway
namespace Json

/-!
# Continuations

A run of characters of one class ends where a character of another follows.
-/

def Stops (p : Char -> Bool) (text : List Char) : Prop :=
  forall c, text.head? = some c -> p c = false

theorem takeWhile_append_of_stops {p : Char -> Bool} {run rest : List Char}
    (hrun : forall c, c ∈ run -> p c = true) (hrest : Stops p rest) :
    (run ++ rest).takeWhile p = run := by
  induction run with
  | nil =>
      cases rest with
      | nil => rfl
      | cons c rest => simp [hrest c rfl]
  | cons c run ih =>
      have hc := hrun c List.mem_cons_self
      have htail := ih fun d hmem => hrun d (List.mem_cons_of_mem c hmem)
      simp [hc, htail]

theorem append_inj_of_stops {p : Char -> Bool} {run run' rest rest' : List Char}
    (hrun : forall c, c ∈ run -> p c = true) (hrun' : forall c, c ∈ run' -> p c = true)
    (hrest : Stops p rest) (hrest' : Stops p rest') (hsame : run ++ rest = run' ++ rest') :
    run = run' ∧ rest = rest' := by
  have htake := congrArg (List.takeWhile p) hsame
  rw [takeWhile_append_of_stops hrun hrest, takeWhile_append_of_stops hrun' hrest'] at htake
  subst htake
  exact ⟨rfl, List.append_cancel_left hsame⟩

/-!
# Strings
-/

def unescaped : Char -> Char
  | 'b' => '\x08'
  | 'f' => '\x0c'
  | 'n' => '\n'
  | 'r' => '\r'
  | 't' => '\t'
  | c => c

/-- A character is written as it is, by a short escape, or by its code. -/
theorem escapeChar_cases (c : Char) :
    (escapeChar c = [c] ∧ c ≠ '"' ∧ c ≠ '\\') ∨
      (exists mark, escapeChar c = ['\\', mark] ∧ mark ≠ 'u' ∧ unescaped mark = c) ∨
      (escapeChar c = ['\\', 'u', '0', '0', hexLower (c.toNat / 16), hexLower (c.toNat % 16)] ∧
        c.toNat < 0x20) := by
  unfold escapeChar
  split
  · exact Or.inr (Or.inl ⟨'"', rfl, by decide, rfl⟩)
  · exact Or.inr (Or.inl ⟨'\\', rfl, by decide, rfl⟩)
  · exact Or.inr (Or.inl ⟨'b', rfl, by decide, rfl⟩)
  · exact Or.inr (Or.inl ⟨'f', rfl, by decide, rfl⟩)
  · exact Or.inr (Or.inl ⟨'n', rfl, by decide, rfl⟩)
  · exact Or.inr (Or.inl ⟨'r', rfl, by decide, rfl⟩)
  · exact Or.inr (Or.inl ⟨'t', rfl, by decide, rfl⟩)
  · rename_i hquote hbackslash _ _ _ _ _
    split
    · rename_i hcontrol
      exact Or.inr (Or.inr ⟨rfl, hcontrol⟩)
    · exact Or.inl ⟨rfl, hquote, hbackslash⟩

theorem hexLower_injective {m n : Nat} (hm : m < 16) (hn : n < 16)
    (hsame : hexLower m = hexLower n) : m = n := by
  have hfinite : forall a : Fin 16, forall b : Fin 16, hexLower a = hexLower b -> a = b := by
    decide
  exact congrArg Fin.val (hfinite ⟨m, hm⟩ ⟨n, hn⟩ hsame)

theorem escapeChar_append_inj {c d : Char} {u v : List Char}
    (hsame : escapeChar c ++ u = escapeChar d ++ v) : c = d ∧ u = v := by
  -- Different forms differ in the first character or in the one after the backslash.
  rcases escapeChar_cases c with ⟨hc, _, hcBackslash⟩ | ⟨mark, hc, hmark, hcMark⟩ | ⟨hc, hcCode⟩
  · rw [hc] at hsame
    rcases escapeChar_cases d with ⟨hd, _, _⟩ | ⟨_, hd, _, _⟩ | ⟨hd, _⟩
    · rw [hd] at hsame
      injection hsame with hhead htail
      exact ⟨hhead, htail⟩
    · rw [hd] at hsame
      injection hsame with hhead _
      exact absurd hhead hcBackslash
    · rw [hd] at hsame
      injection hsame with hhead _
      exact absurd hhead hcBackslash
  · rw [hc] at hsame
    rcases escapeChar_cases d with ⟨hd, _, hdBackslash⟩ | ⟨mark', hd, _, hdMark⟩ | ⟨hd, _⟩
    · rw [hd] at hsame
      injection hsame with hhead _
      exact absurd hhead.symm hdBackslash
    · rw [hd] at hsame
      injection hsame with _ hrest
      injection hrest with hmarks htail
      exact ⟨by rw [← hcMark, ← hdMark, hmarks], htail⟩
    · rw [hd] at hsame
      injection hsame with _ hrest
      injection hrest with hmarks _
      exact absurd hmarks hmark
  · rw [hc] at hsame
    rcases escapeChar_cases d with ⟨hd, _, hdBackslash⟩ | ⟨_, hd, hmark, _⟩ | ⟨hd, hdCode⟩
    · rw [hd] at hsame
      injection hsame with hhead _
      exact absurd hhead.symm hdBackslash
    · rw [hd] at hsame
      injection hsame with _ hrest
      injection hrest with hmarks _
      exact absurd hmarks.symm hmark
    · rw [hd] at hsame
      simp only [List.cons_append, List.nil_append, List.cons.injEq, true_and] at hsame
      have hhigh := hexLower_injective (by omega) (by omega) hsame.left
      have hlow := hexLower_injective (by omega) (by omega) hsame.right.left
      have hcode : c.toNat = d.toNat := by omega
      exact ⟨Char.toNat_inj.mp hcode, hsame.right.right⟩

theorem escapeChar_ne_quote (c : Char) (u v : List Char) : escapeChar c ++ u ≠ '"' :: v := by
  intro hsame
  rcases escapeChar_cases c with ⟨hc, hquote, _⟩ | ⟨_, hc, _, _⟩ | ⟨hc, _⟩
  · rw [hc] at hsame
    injection hsame with hhead _
    exact hquote hhead
  · rw [hc] at hsame
    injection hsame with hhead _
    cases hhead
  · rw [hc] at hsame
    injection hsame with hhead _
    cases hhead

theorem escaped_append_inj : forall (s t u v : List Char),
    s.flatMap escapeChar ++ '"' :: u = t.flatMap escapeChar ++ '"' :: v -> s = t ∧ u = v
  | [], [], u, v, hsame => by
      injection hsame with _ htail
      exact ⟨rfl, htail⟩
  | [], d :: t, u, v, hsame => by
      rw [List.flatMap_cons, List.append_assoc] at hsame
      exact absurd hsame.symm (escapeChar_ne_quote d _ _)
  | c :: s, [], u, v, hsame => by
      rw [List.flatMap_cons, List.append_assoc] at hsame
      exact absurd hsame (escapeChar_ne_quote c _ _)
  | c :: s, d :: t, u, v, hsame => by
      rw [List.flatMap_cons, List.flatMap_cons, List.append_assoc, List.append_assoc] at hsame
      rcases escapeChar_append_inj hsame with ⟨hhead, hrest⟩
      rcases escaped_append_inj s t u v hrest with ⟨htail, hend⟩
      exact ⟨by rw [hhead, htail], hend⟩

theorem stringChars_append_inj {s t : String} {u v : List Char}
    (hsame : stringChars s ++ u = stringChars t ++ v) : s = t ∧ u = v := by
  unfold stringChars at hsame
  simp only [List.cons_append, List.append_assoc, List.cons.injEq, true_and] at hsame
  rcases escaped_append_inj s.toList t.toList u v hsame with ⟨hchars, hend⟩
  exact ⟨String.toList_inj.mp hchars, hend⟩

/-!
# Numbers

The text of a real has a point or an exponent, the text of an integer has
neither.
-/

theorem integerChars_digit_or_sign {n : Int} {c : Char} (hmem : c ∈ integerChars n) :
    c.isDigit = true ∨ c = '-' := by
  cases n with
  | ofNat n => exact Or.inl (Binary64.allDigits_toDigits n c hmem)
  | negSucc n =>
      rcases List.mem_cons.mp hmem with hsign | hdigit
      · exact Or.inr hsign
      · exact Or.inl (Binary64.allDigits_toDigits (n + 1) c hdigit)

theorem toDigits_injective {m n : Nat} (hsame : Nat.toDigits 10 m = Nat.toDigits 10 n) :
    m = n := by
  rw [← Binary64.digitsValue_toDigits m, hsame, Binary64.digitsValue_toDigits]

theorem toDigits_ne_sign (n : Nat) (rest : List Char) : Nat.toDigits 10 n ≠ '-' :: rest := by
  intro hsame
  have hdigits := Binary64.allDigits_toDigits n
  rw [hsame] at hdigits
  have hsign := hdigits '-' List.mem_cons_self
  cases hsign

theorem integerChars_injective {m n : Int} (hsame : integerChars m = integerChars n) : m = n := by
  cases m with
  | ofNat m =>
      cases n with
      | ofNat n => exact congrArg Int.ofNat (toDigits_injective hsame)
      | negSucc n => exact absurd hsame (toDigits_ne_sign m _)
  | negSucc m =>
      cases n with
      | ofNat n => exact absurd hsame.symm (toDigits_ne_sign n _)
      | negSucc n =>
          injection hsame with _ hdigits
          exact congrArg Int.negSucc (Nat.succ.inj (toDigits_injective hdigits))

theorem mem_render_point_or_exponent (x : Binary64) :
    exists c, c ∈ (Binary64.render Binary64.jsonStyle x).toList ∧ (c = '.' ∨ c = 'e') := by
  rcases (Binary64.shape_of_denotes x.denotes_unsignedText).right with ⟨c, hmem, hc⟩
  refine ⟨c, ?_, hc⟩
  rw [Binary64.toList_render]
  split
  · exact List.mem_cons_of_mem _ hmem
  · exact hmem

theorem integerChars_ne_render (n : Int) (x : Binary64) :
    integerChars n ≠ (Binary64.render Binary64.jsonStyle x).toList := by
  intro hsame
  rcases mem_render_point_or_exponent x with ⟨c, hmem, hc⟩
  rw [← hsame] at hmem
  rcases integerChars_digit_or_sign hmem with hdigit | hsign
  · rcases hc with hpoint | hmark
    · rw [hpoint] at hdigit
      cases hdigit
    · rw [hmark] at hdigit
      cases hdigit
  · rcases hc with hpoint | hmark
    · rw [hpoint] at hsign
      cases hsign
    · rw [hmark] at hsign
      cases hsign

theorem numberChars_injective {m n : Number} (hsame : numberChars m = numberChars n) :
    m = n := by
  cases m with
  | integer m =>
      cases n with
      | integer n => exact congrArg Number.integer (integerChars_injective hsame)
      | real y hy => exact absurd hsame (integerChars_ne_render m y)
  | real x hx =>
      cases n with
      | integer n => exact absurd hsame.symm (integerChars_ne_render n x)
      | real y hy =>
          have hvalue := Binary64.render_injective (String.toList_inj.mp hsame)
          subst hvalue
          rfl

theorem isNumeralChar_of_mem_numberChars {n : Number} {c : Char} (hmem : c ∈ numberChars n) :
    Binary64.isNumeralChar c = true := by
  cases n with
  | integer n =>
      rcases integerChars_digit_or_sign hmem with hdigit | hsign
      · exact Binary64.isNumeralChar_of_isDigit hdigit
      · rw [hsign]
        rfl
  | real x hx =>
      have hunsigned := Binary64.isNumeralChar_of_denotes x.denotes_unsignedText
      have hmem : c ∈ (Binary64.render Binary64.jsonStyle x).toList := hmem
      rw [Binary64.toList_render] at hmem
      split at hmem
      · rcases List.mem_cons.mp hmem with hsign | hrest
        · rw [hsign]
          rfl
        · exact hunsigned c hrest
      · exact hunsigned c hmem

theorem numberChars_append_inj {m n : Number} {u v : List Char}
    (hu : Stops Binary64.isNumeralChar u) (hv : Stops Binary64.isNumeralChar v)
    (hsame : numberChars m ++ u = numberChars n ++ v) : m = n ∧ u = v := by
  rcases append_inj_of_stops (fun _ => isNumeralChar_of_mem_numberChars)
    (fun _ => isNumeralChar_of_mem_numberChars) hu hv hsame with ⟨hnumber, hrest⟩
  exact ⟨numberChars_injective hnumber, hrest⟩

/-!
# Values

The first character of a text tells which kind of value it is the text of.
-/

inductive Kind where
  | null
  | bool
  | number
  | text
  | array
  | object
deriving DecidableEq

def kind : Json -> Kind
  | .null => .null
  | .bool _ => .bool
  | .number _ => .number
  | .text _ => .text
  | .array _ => .array
  | .object _ => .object

def kindOfLead? : Char -> Option Kind
  | 'n' => some .null
  | 't' => some .bool
  | 'f' => some .bool
  | '"' => some .text
  | '[' => some .array
  | '\x7b' => some .object
  | c => if c.isDigit || c == '-' then some .number else none

theorem kindOfLead?_of_isDigit {c : Char} (hdigit : c.isDigit = true) :
    kindOfLead? c = some .number := by
  unfold kindOfLead?
  split <;> first | cases hdigit | simp [hdigit]

theorem numberChars_lead (n : Number) :
    exists c rest, numberChars n = c :: rest ∧ kindOfLead? c = some .number := by
  cases n with
  | integer n =>
      cases n with
      | ofNat n =>
          cases hdigits : Nat.toDigits 10 n with
          | nil => exact absurd hdigits Nat.toDigits_ne_nil
          | cons c rest =>
              have hdigit := Binary64.allDigits_toDigits n c (by simp [hdigits])
              exact ⟨c, rest, hdigits, kindOfLead?_of_isDigit hdigit⟩
      | negSucc n => exact ⟨'-', _, rfl, rfl⟩
  | real x hx =>
      rcases (Binary64.shape_of_denotes x.denotes_unsignedText).left with ⟨c, rest, htext, hdigit⟩
      show exists c rest, (Binary64.render Binary64.jsonStyle x).toList = c :: rest ∧ _
      rw [Binary64.toList_render, htext]
      split
      · exact ⟨'-', _, rfl, rfl⟩
      · exact ⟨c, rest, rfl, kindOfLead?_of_isDigit hdigit⟩

theorem chars_lead (a : Json) :
    exists c rest, chars a = c :: rest ∧ kindOfLead? c = some a.kind := by
  cases a with
  | null => exact ⟨'n', _, rfl, rfl⟩
  | bool b =>
      cases b with
      | true => exact ⟨'t', _, rfl, rfl⟩
      | false => exact ⟨'f', _, rfl, rfl⟩
  | number n => exact numberChars_lead n
  | text s => exact ⟨'"', _, rfl, rfl⟩
  | array items => exact ⟨'[', _, rfl, rfl⟩
  | object members => exact ⟨'\x7b', _, rfl, rfl⟩

theorem kind_eq_of_append {a b : Json} {u v : List Char} (hsame : chars a ++ u = chars b ++ v) :
    a.kind = b.kind := by
  rcases chars_lead a with ⟨c, _, ha, hkindA⟩
  rcases chars_lead b with ⟨d, _, hb, hkindB⟩
  rw [ha, hb] at hsame
  injection hsame with hhead _
  rw [hhead, hkindB] at hkindA
  injection hkindA with hkind
  exact hkind.symm

def itemsTail : List Json -> List Char
  | [] => []
  | item :: rest => ',' :: itemChars (item :: rest)

theorem itemChars_cons (item : Json) (rest : List Json) :
    itemChars (item :: rest) = chars item ++ itemsTail rest := by
  cases rest with
  | nil => simp [itemChars, itemsTail]
  | cons next rest => rfl

def membersTail : List (String × Json) -> List Char
  | [] => []
  | member :: rest => ',' :: memberChars (member :: rest)

theorem memberChars_cons (name : String) (value : Json) (rest : List (String × Json)) :
    memberChars ((name, value) :: rest) =
      stringChars name ++ ':' :: (chars value ++ membersTail rest) := by
  cases rest with
  | nil => simp [memberChars, membersTail]
  | cons next rest => rfl

theorem stops_itemsTail (rest : List Json) (u : List Char) :
    Stops Binary64.isNumeralChar (itemsTail rest ++ ']' :: u) := by
  intro c hc
  cases rest with
  | nil =>
      cases hc
      rfl
  | cons item rest =>
      cases hc
      rfl

theorem stops_membersTail (rest : List (String × Json)) (u : List Char) :
    Stops Binary64.isNumeralChar (membersTail rest ++ '\x7d' :: u) := by
  intro c hc
  cases rest with
  | nil =>
      cases hc
      rfl
  | cons member rest =>
      cases hc
      rfl

mutual

/-- A text that starts with the texts of two values has them in common to their ends. -/
theorem chars_append_inj : forall (a b : Json) (u v : List Char),
    Stops Binary64.isNumeralChar u -> Stops Binary64.isNumeralChar v ->
      chars a ++ u = chars b ++ v -> a = b ∧ u = v
  | .null, b, u, v, hu, hv, hsame => by
      have hkind := kind_eq_of_append hsame
      cases b with
      | null => exact ⟨rfl, List.append_cancel_left hsame⟩
      | _ => cases hkind
  | .bool a, b, u, v, hu, hv, hsame => by
      have hkind := kind_eq_of_append hsame
      cases b with
      | bool b =>
          cases a <;> cases b <;> simp [chars] at hsame ⊢
          · exact hsame
          · exact hsame
      | _ => cases hkind
  | .number m, b, u, v, hu, hv, hsame => by
      have hkind := kind_eq_of_append hsame
      cases b with
      | number n =>
          rcases numberChars_append_inj hu hv hsame with ⟨hnumber, hrest⟩
          exact ⟨congrArg Json.number hnumber, hrest⟩
      | _ => cases hkind
  | .text s, b, u, v, hu, hv, hsame => by
      have hkind := kind_eq_of_append hsame
      cases b with
      | text t =>
          rcases stringChars_append_inj hsame with ⟨htext, hrest⟩
          exact ⟨congrArg Json.text htext, hrest⟩
      | _ => cases hkind
  | .array xs, b, u, v, hu, hv, hsame => by
      have hkind := kind_eq_of_append hsame
      cases b with
      | array ys =>
          simp only [chars, List.cons_append, List.append_assoc, List.nil_append,
            List.cons.injEq, true_and] at hsame
          rcases itemChars_append_inj xs ys u v hsame with ⟨hitems, hrest⟩
          exact ⟨congrArg Json.array hitems, hrest⟩
      | _ => cases hkind
  | .object xs, b, u, v, hu, hv, hsame => by
      have hkind := kind_eq_of_append hsame
      cases b with
      | object ys =>
          simp only [chars, List.cons_append, List.append_assoc, List.nil_append,
            List.cons.injEq, true_and] at hsame
          rcases memberChars_append_inj xs ys u v hsame with ⟨hmembers, hrest⟩
          exact ⟨congrArg Json.object hmembers, hrest⟩
      | _ => cases hkind

theorem itemChars_append_inj : forall (xs ys : List Json) (u v : List Char),
    itemChars xs ++ ']' :: u = itemChars ys ++ ']' :: v -> xs = ys ∧ u = v
  | [], [], u, v, hsame => by
      injection hsame with _ hrest
      exact ⟨rfl, hrest⟩
  | [], y :: ys, u, v, hsame => by
      rcases chars_lead y with ⟨c, rest, hy, hkind⟩
      rw [itemChars_cons, hy] at hsame
      injection hsame with hhead _
      rw [← hhead] at hkind
      cases hkind
  | x :: xs, [], u, v, hsame => by
      rcases chars_lead x with ⟨c, rest, hx, hkind⟩
      rw [itemChars_cons, hx] at hsame
      injection hsame with hhead _
      rw [hhead] at hkind
      cases hkind
  | x :: xs, y :: ys, u, v, hsame => by
      have htails := itemChars_append_inj xs ys u v
      rw [itemChars_cons, itemChars_cons, List.append_assoc, List.append_assoc] at hsame
      rcases chars_append_inj x y _ _ (stops_itemsTail xs u) (stops_itemsTail ys v) hsame with
        ⟨hitem, hrest⟩
      cases xs with
      | nil =>
          cases ys with
          | nil =>
              injection hrest with _ hend
              exact ⟨by rw [hitem], hend⟩
          | cons next ys =>
              injection hrest with hhead _
              cases hhead
      | cons next xs =>
          cases ys with
          | nil =>
              injection hrest with hhead _
              cases hhead
          | cons next' ys =>
              injection hrest with _ hrest
              rcases htails hrest with ⟨hitems, hend⟩
              exact ⟨by rw [hitem, hitems], hend⟩

theorem memberChars_append_inj : forall (xs ys : List (String × Json)) (u v : List Char),
    memberChars xs ++ '\x7d' :: u = memberChars ys ++ '\x7d' :: v -> xs = ys ∧ u = v
  | [], [], u, v, hsame => by
      injection hsame with _ hrest
      exact ⟨rfl, hrest⟩
  | [], (name, y) :: ys, u, v, hsame => by
      rw [memberChars_cons] at hsame
      injection hsame with hhead _
      cases hhead
  | (name, x) :: xs, [], u, v, hsame => by
      rw [memberChars_cons] at hsame
      injection hsame with hhead _
      cases hhead
  | (name, x) :: xs, (name', y) :: ys, u, v, hsame => by
      have htails := memberChars_append_inj xs ys u v
      rw [memberChars_cons, memberChars_cons, List.append_assoc, List.append_assoc] at hsame
      rcases stringChars_append_inj hsame with ⟨hname, hsame⟩
      simp only [List.cons_append, List.append_assoc, List.cons.injEq, true_and] at hsame
      rcases chars_append_inj x y _ _ (stops_membersTail xs u) (stops_membersTail ys v) hsame with
        ⟨hvalue, hrest⟩
      cases xs with
      | nil =>
          cases ys with
          | nil =>
              injection hrest with _ hend
              exact ⟨by rw [hname, hvalue], hend⟩
          | cons next ys =>
              injection hrest with hhead _
              cases hhead
      | cons next xs =>
          cases ys with
          | nil =>
              injection hrest with hhead _
              cases hhead
          | cons next' ys =>
              injection hrest with _ hrest
              rcases htails hrest with ⟨hmembers, hend⟩
              exact ⟨by rw [hname, hvalue, hmembers], hend⟩

end

theorem render_injective {a b : Json} (hsame : render a = render b) : a = b := by
  have hchars := String.ofList_injective hsame
  have hnil : Stops Binary64.isNumeralChar [] := by
    intro c hc
    cases hc
  exact (chars_append_inj a b [] [] hnil hnil (by rw [hchars])).left

end Json
end QueryGateway
