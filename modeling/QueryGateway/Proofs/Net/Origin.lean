import Mathlib.Data.List.DropRight
import Mathlib.Data.List.TakeWhile
import QueryGateway.Net.Url

/-!
# Where an address leads

What follows the first slash after a host says nothing about who is asked.  An
address and the same text with a slash and more after it have the same scheme,
user, host and port, as long as scheme and host are in the text that they share.
-/

namespace QueryGateway
namespace Net
namespace Url

/-- Two addresses of the same scheme, user, host and port. -/
structure SameOrigin (a b : Url) : Prop where
  scheme : a.scheme = b.scheme
  username : a.username = b.username
  password : a.password = b.password
  host : a.host = b.host
  port : a.port = b.port

/-- Text without blanks and controls, so that reading it cleans nothing away. -/
def Visible (text : List Char) : Prop :=
  forall c, c ∈ text -> 0x20 < c.toNat

/-- A text that may come after an authority: nothing, or a slash and more. -/
def Follows (text : List Char) : Prop :=
  text = [] ∨ exists rest, text = '/' :: rest

/-!
# Cleaning
-/

theorem filter_of_visible {text : List Char} (hvisible : Visible text) :
    (text.filter fun c => !(c = '\t' || c = '\n' || c = '\r')) = text := by
  apply List.filter_eq_self.mpr
  intro c hmem
  have hc := hvisible c hmem
  simp only [Bool.not_eq_true', Bool.or_eq_false_iff, decide_eq_false_iff_not]
  refine ⟨⟨?_, ?_⟩, ?_⟩
  · rintro rfl
    exact absurd hc (by decide)
  · rintro rfl
    exact absurd hc (by decide)
  · rintro rfl
    exact absurd hc (by decide)

theorem Visible.reverse {text : List Char} (hvisible : Visible text) : Visible text.reverse := by
  intro c hmem
  exact hvisible c (List.mem_reverse.mp hmem)

theorem dropWhile_append_of_visible {text : List Char} (hvisible : Visible text)
    (hnonempty : text ≠ []) (rest : List Char) :
    (text ++ rest).dropWhile (fun c => decide (c.toNat ≤ 0x20)) = text ++ rest := by
  cases text with
  | nil => exact absurd rfl hnonempty
  | cons c text =>
      have hc := hvisible c List.mem_cons_self
      have hnot : ¬ c.toNat ≤ 0x20 := by omega
      simp [hnot]

theorem exists_clean_append {front : List Char} (hvisible : Visible front)
    (hnonempty : front ≠ []) (rest : List Char) :
    exists rest', clean (front ++ rest) = front ++ rest' := by
  have hreverse : front.reverse ≠ [] := by simpa using hnonempty
  unfold clean
  dsimp only
  rw [dropWhile_append_of_visible hvisible hnonempty, List.reverse_append, List.dropWhile_append]
  split
  · have hall := dropWhile_append_of_visible hvisible.reverse hreverse []
    rw [List.append_nil] at hall
    rw [hall, List.reverse_reverse, filter_of_visible hvisible]
    exact ⟨[], (List.append_nil front).symm⟩
  · rw [List.reverse_append, List.reverse_reverse, List.filter_append, filter_of_visible hvisible]
    exact ⟨_, rfl⟩

theorem clean_of_visible {text : List Char} (hvisible : Visible text) : clean text = text := by
  cases htext : text with
  | nil => rfl
  | cons c rest =>
      have hnonempty : text ≠ [] := by simp [htext]
      have hreverse : text.reverse ≠ [] := by simpa using hnonempty
      have hforth := dropWhile_append_of_visible hvisible hnonempty []
      have hback := dropWhile_append_of_visible hvisible.reverse hreverse []
      rw [List.append_nil] at hforth hback
      rw [← htext]
      unfold clean
      dsimp only
      rw [hforth, hback, List.reverse_reverse, filter_of_visible hvisible]

theorem clean_append_slash {front : List Char} (hvisible : Visible front) (rest : List Char) :
    exists rest', clean (front ++ '/' :: rest) = front ++ '/' :: rest' := by
  have hslash : Visible (front ++ ['/']) := by
    intro c hmem
    rcases List.mem_append.mp hmem with hfront | hlast
    · exact hvisible c hfront
    · rw [List.mem_singleton.mp hlast]
      decide
  rcases exists_clean_append hslash (by simp) rest with ⟨rest', hclean⟩
  exact ⟨rest', by simpa using hclean⟩

/-!
# Reading the scheme
-/

theorem breakAt_append_cons {condition : Char -> Bool} {before : List Char} {c : Char}
    (hbefore : forall x, x ∈ before -> condition x = false) (hc : condition c = true)
    (after : List Char) : breakAt condition (before ++ c :: after) = (before, c :: after) := by
  have hpos : forall x, x ∈ before -> (!condition x) = true := by
    intro x hmem
    simp [hbefore x hmem]
  unfold breakAt
  rw [List.takeWhile_append_of_pos hpos, List.dropWhile_append_of_pos hpos]
  simp [hc]

theorem breakAt_of_forall {condition : Char -> Bool} {text : List Char}
    (htext : forall x, x ∈ text -> condition x = false) : breakAt condition text = (text, []) := by
  have hpos : forall x, x ∈ text -> (!condition x) = true := by
    intro x hmem
    simp [htext x hmem]
  unfold breakAt
  rw [List.takeWhile_eq_self_iff.mpr hpos, List.dropWhile_eq_nil_iff.mpr hpos]

theorem breakAt_cases (condition : Char -> Bool) (text : List Char) :
    (forall x, x ∈ text -> condition x = false) ∨
      exists before c after, text = before ++ c :: after ∧
        (forall x, x ∈ before -> condition x = false) ∧ condition c = true := by
  induction text with
  | nil => exact .inl (fun x hmem => by cases hmem)
  | cons c text ih =>
      cases hc : condition c with
      | true => exact .inr ⟨[], c, text, rfl, (fun x hmem => by cases hmem), hc⟩
      | false =>
          rcases ih with hnone | ⟨before, d, after, htext, hbefore, hd⟩
          · exact .inl (List.forall_mem_cons.mpr ⟨hc, hnone⟩)
          · exact .inr ⟨c :: before, d, after, by rw [htext]; rfl,
              List.forall_mem_cons.mpr ⟨hc, hbefore⟩, hd⟩

def NamesScheme (front : List Char) (scheme : String) : Prop :=
  exists first more, front = first :: more ∧ first.isAlpha = true ∧
    (more.all fun c => c.isAlphanum || c = '+' || c = '-' || c = '.') = true ∧
      scheme = String.ofList ((first :: more).map Char.toLower)

theorem scheme?_eq_some_iff (text : List Char) (scheme : String) (rest : List Char) :
    scheme? text = some (scheme, rest) ↔
      exists front, text = front ++ ':' :: rest ∧ ':' ∉ front ∧ NamesScheme front scheme := by
  constructor
  · intro hscheme
    rcases breakAt_cases (fun c => decide (c = ':')) text with
      hnone | ⟨front, c, after, htext, hfront, hc⟩
    · simp only [scheme?, breakAt_of_forall hnone, after?] at hscheme
      cases text <;> cases hscheme
    · have hcolon : ':' ∉ front := fun hmem => by simpa using hfront ':' hmem
      rw [of_decide_eq_true hc] at htext
      simp only [scheme?, htext, breakAt_append_cons hfront (decide_eq_true rfl), after?,
        if_true] at hscheme
      cases front with
      | nil => cases hscheme
      | cons first more =>
          dsimp only at hscheme
          split at hscheme
          · rename_i hlegal
            cases hscheme
            rcases (Bool.and_eq_true _ _).mp hlegal with ⟨hfirst, hmore⟩
            exact ⟨first :: more, htext, hcolon, first, more, rfl, hfirst, hmore, rfl⟩
          · cases hscheme
  · intro hexists
    rcases hexists with ⟨front, htext, hcolon, first, more, hname, hfirst, hmore, hlowered⟩
    have hfront : forall x, x ∈ front -> decide (x = ':') = false := by
      intro x hmem
      apply decide_eq_false
      rintro rfl
      exact hcolon hmem
    simp only [scheme?, htext, breakAt_append_cons hfront (decide_eq_true rfl), after?, if_true]
    rw [hname]
    simp only [hfirst, hmore, Bool.and_self, if_true, hlowered]

theorem scheme?_append {front : List Char} {scheme : String} {rest : List Char}
    (hscheme : scheme? front = some (scheme, rest)) (more : List Char) :
    scheme? (front ++ more) = some (scheme, rest ++ more) := by
  rcases (scheme?_eq_some_iff _ _ _).mp hscheme with ⟨name, hfront, hcolon, hnames⟩
  exact (scheme?_eq_some_iff _ _ _).mpr ⟨name, by simp [hfront], hcolon, hnames⟩

theorem scheme?_of_append {front more : List Char} (hmore : ':' ∉ more) {scheme : String}
    {rest : List Char} (hscheme : scheme? (front ++ more) = some (scheme, rest)) :
    exists rest', scheme? front = some (scheme, rest') ∧ rest = rest' ++ more := by
  rcases (scheme?_eq_some_iff _ _ _).mp hscheme with ⟨name, hsplit, hcolon, hnames⟩
  rcases List.append_eq_append_iff.mp hsplit with
    ⟨between, hname, hlater⟩ | ⟨between, hfront, hcolonRest⟩
  · exact absurd (hlater ▸ by simp) hmore
  · cases between with
    | nil =>
        rw [List.nil_append] at hcolonRest
        exact absurd (hcolonRest ▸ List.mem_cons_self) hmore
    | cons c rest' =>
        injection hcolonRest with hc hrest
        subst hc
        exact ⟨rest', (scheme?_eq_some_iff _ _ _).mpr ⟨name, hfront, hcolon, hnames⟩, hrest⟩

/-!
# Reading the authority
-/

/-- The authority in a text that follows the slashes of a scheme with hosts. -/
def authorityPart (text : List Char) : List Char :=
  (breakAt (fun c => isSlash true c || c = '?' || c = '#') text).1

theorem authorityPart_append {text more : List Char} (hmore : Follows more) :
    authorityPart (text ++ more) = authorityPart text := by
  unfold authorityPart
  rcases breakAt_cases (fun c => isSlash true c || c = '?' || c = '#') text with
    hnone | ⟨before, c, after, htext, hbefore, hc⟩
  · rw [breakAt_of_forall hnone]
    rcases hmore with hempty | ⟨rest, hslash⟩
    · rw [hempty, List.append_nil, breakAt_of_forall hnone]
    · rw [hslash, breakAt_append_cons hnone (by rfl)]
  · rw [htext, List.append_assoc, List.cons_append, breakAt_append_cons hbefore hc,
      breakAt_append_cons hbefore hc]

/-- The authority alone decides who is asked, and whether there is anybody. -/
theorem sameOrigin_of_withAuthority? {scheme : String} (hhosted : isHosted scheme = true)
    {text other : List Char} {a b : Url} (hsame : authorityPart text = authorityPart other)
    (ha : withAuthority? scheme text = some a) (hb : withAuthority? scheme other = some b) :
    SameOrigin a b := by
  unfold authorityPart at hsame
  unfold withAuthority? at ha hb
  simp only [hhosted, hsame, if_true] at ha hb
  split at ha
  · cases ha
  · rename_i hplace
    rw [if_neg hplace] at hb
    rcases Option.bind_eq_some_iff.mp ha with ⟨host, hhost, ha⟩
    rcases Option.bind_eq_some_iff.mp ha with ⟨port, hport, ha⟩
    rw [hhost] at hb
    simp only [Option.bind_eq_bind, Option.bind_some, hport] at hb
    cases ha
    cases hb
    exact ⟨rfl, rfl, rfl, rfl, rfl⟩

theorem withAuthority?_nil {scheme : String} (hhosted : isHosted scheme = true) :
    withAuthority? scheme [] = none := by
  simp [withAuthority?, hhosted, breakAt, splitLast, splitPort]

/-!
# An address and what is put below it
-/

theorem parse?_of_scheme? {text : String} {scheme : String} {rest : List Char}
    (hscheme : scheme? (clean text.toList) = some (scheme, rest))
    (hhosted : isHosted scheme = true) :
    parse? text = withAuthority? scheme (rest.dropWhile (isSlash true)) := by
  have hfile : scheme ≠ fileScheme := by
    rintro rfl
    exact absurd hhosted (by decide)
  unfold parse?
  rw [hscheme]
  simp only [Option.bind_eq_bind, Option.bind_some, if_neg hfile, hhosted, if_true]

theorem scheme_of_withAuthority? {scheme : String} {text : List Char} {url : Url}
    (hurl : withAuthority? scheme text = some url) : url.scheme = scheme := by
  unfold withAuthority? at hurl
  dsimp only at hurl
  split at hurl
  · cases hurl
  · split at hurl
    · rcases Option.bind_eq_some_iff.mp hurl with ⟨host, hhost, hurl⟩
      rcases Option.bind_eq_some_iff.mp hurl with ⟨port, hport, hurl⟩
      cases hurl
      rfl
    · rcases Option.bind_eq_some_iff.mp hurl with ⟨host, hhost, hurl⟩
      rcases Option.bind_eq_some_iff.mp hurl with ⟨port, hport, hurl⟩
      cases hurl
      rfl

theorem scheme_of_ofFile? {text : List Char} {url : Url} (hurl : ofFile? text = some url) :
    url.scheme = fileScheme := by
  unfold ofFile? at hurl
  dsimp only at hurl
  split at hurl
  · cases hurl
    rfl
  · rcases Option.bind_eq_some_iff.mp hurl with ⟨host, hhost, hurl⟩
    cases hurl
    rfl

theorem scheme?_of_parse? {text : String} {url : Url} (hurl : parse? text = some url)
    (hhosted : isHosted url.scheme = true) :
    exists rest, scheme? (clean text.toList) = some (url.scheme, rest) := by
  unfold parse? at hurl
  rcases Option.bind_eq_some_iff.mp hurl with ⟨⟨scheme, rest⟩, hscheme, hurl⟩
  dsimp only at hurl
  split at hurl
  · rw [scheme_of_ofFile? hurl] at hhosted
    exact absurd hhosted (by decide)
  · split at hurl
    · rw [scheme_of_withAuthority? hurl]
      exact ⟨rest, hscheme⟩
    · split at hurl
      · rw [scheme_of_withAuthority? hurl]
        exact ⟨_, hscheme⟩
      · cases hurl
        exact ⟨rest, hscheme⟩

theorem clean_of_front {front more : List Char} (hvisible : Visible front)
    (hmore : Follows more) :
    exists more', clean (front ++ more) = front ++ more' ∧ Follows more' := by
  rcases hmore with hempty | ⟨rest, hslash⟩
  · subst hempty
    rw [List.append_nil, clean_of_visible hvisible]
    exact ⟨[], (List.append_nil front).symm, .inl rfl⟩
  · subst hslash
    rcases clean_append_slash hvisible rest with ⟨rest', hclean⟩
    exact ⟨'/' :: rest', hclean, .inr ⟨rest', rfl⟩⟩

/--
A web address of visible characters, and what begins with the same text but for
its last slashes and goes on with nothing or a slash: both lead to the same host.
-/
theorem sameOrigin_of_front {base address : String} {front slashes more : List Char}
    (hbase : base.toList = front ++ slashes) (hslashes : forall c, c ∈ slashes -> c = '/')
    (hvisible : Visible base.toList) (haddress : address.toList = front ++ more)
    (hmore : Follows more) {a b : Url} (ha : parse? base = some a)
    (hhosted : isHosted a.scheme = true) (hb : parse? address = some b) : SameOrigin a b := by
  have hvisibleFront : Visible front := by
    intro c hmem
    apply hvisible
    rw [hbase]
    exact List.mem_append_left _ hmem
  have hcolon : ':' ∉ slashes := by
    intro hmem
    have hsame := hslashes ':' hmem
    revert hsame
    decide
  have hfollows : Follows slashes := by
    cases slashes with
    | nil => exact .inl rfl
    | cons c rest =>
        rw [hslashes c List.mem_cons_self]
        exact .inr ⟨rest, rfl⟩
  have hslashesDropped : slashes.dropWhile (isSlash true) = [] := by
    apply List.dropWhile_eq_nil_iff.mpr
    intro c hmem
    rw [hslashes c hmem]
    rfl
  -- Both texts are read as the same scheme, and from there on they share `rest`.
  rcases scheme?_of_parse? ha hhosted with ⟨all, hscheme⟩
  rw [clean_of_visible hvisible, hbase] at hscheme
  rcases scheme?_of_append hcolon hscheme with ⟨rest, hfront, hall⟩
  rcases clean_of_front hvisibleFront hmore with ⟨more', hclean, hmore'⟩
  have hbaseScheme : scheme? (clean base.toList) = some (a.scheme, rest ++ slashes) := by
    rw [clean_of_visible hvisible, hbase, hscheme, hall]
  have haddressScheme : scheme? (clean address.toList) = some (a.scheme, rest ++ more') := by
    rw [haddress, hclean]
    exact scheme?_append hfront more'
  rw [parse?_of_scheme? hbaseScheme hhosted, List.dropWhile_append] at ha
  rw [parse?_of_scheme? haddressScheme hhosted, List.dropWhile_append] at hb
  split at ha
  · rw [hslashesDropped, withAuthority?_nil hhosted] at ha
    cases ha
  · rename_i hplace
    rw [if_neg hplace] at hb
    apply sameOrigin_of_withAuthority? hhosted _ ha hb
    rw [authorityPart_append hfollows, authorityPart_append hmore']

end Url
end Net
end QueryGateway
