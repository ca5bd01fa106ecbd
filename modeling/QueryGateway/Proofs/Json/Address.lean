import QueryGateway.Proofs.Binary64.Numeral
import QueryGateway.Proofs.Dictionary
import QueryGateway.Proofs.Json.Path

/-!
# Addresses inside values

An address leads into a value step by step, by the names of members and the
positions of items.  Written with dots between its steps it is a path, and the
path leads where the address leads, as long as no name has a dot in it.  Only
the empty name on its own is lost, because the empty path is the value itself.
-/

namespace QueryGateway
namespace Json

inductive Step where
  | member (name : String)
  | item (position : UInt64)
deriving DecidableEq

abbrev Address := List Step

def part? : Json -> Step -> Option Json
  | .object members, .member name => Dictionary.find? members name
  | .array items, .item position => items[position.toNat]?
  | _, _ => none

def at? (value : Json) (address : Address) : Option Json :=
  address.foldlM part? value

def Step.segment : Step -> String
  | .member name => name
  | .item position => String.ofList (Nat.toDigits 10 position.toNat)

namespace Address

def path (address : Address) : String :=
  ".".intercalate (address.map Step.segment)

def Dotless (address : Address) : Prop :=
  forall name, Step.member name ∈ address -> '.' ∉ name.toList

end Address

/-- A value that is the other one, or stands somewhere inside of it. -/
inductive Within (found : Json) : Json -> Prop where
  | self : Within found found
  | item {items : List Json} {inner : Json} (hitem : inner ∈ items)
      (hfound : Within found inner) : Within found (.array items)
  | member {members : Members} {name : String} {inner : Json}
      (hmember : (name, inner) ∈ members) (hfound : Within found inner) :
      Within found (.object members)

/-!
# Steps
-/

theorem index?_of_allDigits {digits : List Char} (hsome : digits ≠ [])
    (hdigits : Binary64.AllDigits digits) (hbound : Binary64.digitsValue digits < indexBound) :
    index? (String.ofList digits) = some (Binary64.digitsValue digits) := by
  have hall : digits.all Char.isDigit = true := List.all_eq_true.mpr hdigits
  cases digits with
  | nil => exact absurd rfl hsome
  | cons first rest =>
      have hunsigned : first ≠ '+' := by
        intro hplus
        have hdigit := hdigits first List.mem_cons_self
        rw [hplus] at hdigit
        cases hdigit
      simp [index?, hunsigned, hall, hbound]

theorem index?_segment (position : UInt64) :
    index? (Step.item position).segment = some position.toNat := by
  have hvalue := Binary64.digitsValue_toDigits position.toNat
  have hbound : Binary64.digitsValue (Nat.toDigits 10 position.toNat) < indexBound := by
    rw [hvalue]
    exact position.toNat_lt
  have hread := index?_of_allDigits Nat.toDigits_ne_nil
    (Binary64.allDigits_toDigits position.toNat) hbound
  rw [hvalue] at hread
  exact hread

theorem step?_segment {value next : Json} {step : Step} (hpart : part? value step = some next) :
    step? value step.segment = some next := by
  cases step with
  | member name =>
      cases value with
      | object members => exact hpart
      | null | bool b | number n | text s | array items => cases hpart
  | item position =>
      cases value with
      | array items =>
          show (index? (Step.item position).segment).bind (fun i => items[i]?) = some next
          rw [index?_segment]
          exact hpart
      | null | bool b | number n | text s | object members => cases hpart

theorem foldlM_step?_segment {value found : Json} {address : Address}
    (hfound : value.at? address = some found) :
    (address.map Step.segment).foldlM step? value = some found := by
  induction address generalizing value with
  | nil => exact hfound
  | cons step rest ih =>
      rcases Option.bind_eq_some_iff.mp hfound with ⟨next, hnext, hrest⟩
      exact Option.bind_eq_some_iff.mpr ⟨next, step?_segment hnext, ih hrest⟩

/-!
# Paths
-/

theorem segments_append (p q : String) : segments (p ++ "." ++ q) = segments p ++ segments q := by
  have hchars : (p ++ "." ++ q).toList = p.toList ++ '.' :: q.toList := by
    rw [String.toList_append, String.toList_append, List.append_assoc]
    rfl
  unfold segments
  rw [hchars, List.splitOn_append_cons_self, List.map_append]

theorem lookup_append {p q : String} (hp : p ≠ "") (hq : q ≠ "") (value : Json) :
    lookup value (p ++ "." ++ q) = (lookup value p).bind fun inner => lookup inner q := by
  have hne : p ++ "." ++ q ≠ "" := by
    intro hempty
    have hlength := congrArg String.length hempty
    rw [String.length_append, String.length_append] at hlength
    simp at hlength
  have hsecond : (fun inner => lookup inner q) =
      fun inner => (segments q).foldlM step? inner :=
    funext (lookup_of_ne hq)
  rw [lookup_of_ne hne, segments_append, List.foldlM_append, lookup_of_ne hp, hsecond]
  rfl

theorem dot_not_mem_segment {step : Step}
    (hdotless : forall name, step = .member name -> '.' ∉ name.toList) :
    '.' ∉ step.segment.toList := by
  cases step with
  | member name => exact hdotless name rfl
  | item position =>
      intro hmem
      have hdigits := Binary64.allDigits_toDigits position.toNat
      have hdot : '.'.isDigit = true := hdigits '.' (by simpa [Step.segment] using hmem)
      cases hdot

namespace Address

theorem segments_path {address : Address} (hsome : address ≠ []) (hdotless : address.Dotless) :
    segments address.path = address.map Step.segment := by
  have hsplit : address.path.toList.splitOn '.' =
      (address.map Step.segment).map String.toList := by
    unfold path
    rw [String.toList_intercalate]
    apply List.splitOn_intercalate
    · intro part hpart
      rw [List.map_map] at hpart
      rcases List.mem_map.mp hpart with ⟨step, hstep, rfl⟩
      apply dot_not_mem_segment
      intro name hname
      rw [hname] at hstep
      exact hdotless name hstep
    · simpa using hsome
  unfold segments
  rw [hsplit, List.map_map]
  have hid : String.ofList ∘ String.toList = id := funext fun _ => String.ofList_toList
  rw [hid, List.map_id]

theorem eq_of_segment_eq_empty {step : Step} (hempty : step.segment = "") :
    step = .member "" := by
  cases step with
  | member name =>
      have hname : name = "" := hempty
      rw [hname]
  | item position =>
      have hdigits : Nat.toDigits 10 position.toNat = [] := String.ofList_eq_empty_iff.mp hempty
      exact absurd hdigits Nat.toDigits_ne_nil

theorem path_ne_empty {address : Address} (hsome : address ≠ []) (hdotless : address.Dotless)
    (hname : address ≠ [.member ""]) : address.path ≠ "" := by
  intro hempty
  have hsegments := segments_path hsome hdotless
  have hnothing : segments "" = [""] := by decide
  rw [hempty, hnothing] at hsegments
  rcases List.map_eq_singleton_iff.mp hsegments.symm with ⟨step, hsingle, hsegment⟩
  rw [hsingle, eq_of_segment_eq_empty hsegment] at hname
  exact hname rfl

theorem lookup_path {address : Address} (hdotless : address.Dotless)
    (hname : address ≠ [.member ""]) {value found : Json}
    (hfound : value.at? address = some found) : lookup value address.path = some found := by
  by_cases hsome : address = []
  · rw [hsome] at hfound ⊢
    exact hfound
  · rw [lookup_of_ne (path_ne_empty hsome hdotless hname), segments_path hsome hdotless]
    exact foldlM_step?_segment hfound

end Address

/-!
# Parts of values
-/

theorem Within.of_step? {value next found : Json} {segment : String}
    (hstep : step? value segment = some next) (hfound : Within found next) :
    Within found value := by
  cases value with
  | object members => exact .member (Dictionary.mem_of_find? hstep) hfound
  | array items =>
      rcases Option.bind_eq_some_iff.mp hstep with ⟨position, _, hitem⟩
      exact .item (List.mem_of_getElem? hitem) hfound
  | null | bool b | number n | text s => cases hstep

theorem Within.of_foldlM {value found : Json} {parts : List String}
    (hfound : parts.foldlM step? value = some found) : Within found value := by
  induction parts generalizing value with
  | nil =>
      cases hfound
      exact .self
  | cons segment rest ih =>
      rcases Option.bind_eq_some_iff.mp hfound with ⟨next, hnext, hrest⟩
      exact .of_step? hnext (ih hrest)

theorem within_of_lookup {value found : Json} {path : String}
    (hfound : lookup value path = some found) : Within found value := by
  by_cases hempty : path = ""
  · subst hempty
    cases hfound
    exact .self
  · rw [lookup_of_ne hempty] at hfound
    exact .of_foldlM hfound

/--
The path of an address leads to what is at the address; of two paths with a dot
between them the second leads on from where the first leads, and nowhere if
the first does; and every path leads to a part of the value.
-/
theorem lookup_reaches_addressed (value : Json) :
    (forall (address : Address) (found : Json), address.Dotless -> address ≠ [.member ""] ->
      value.at? address = some found -> lookup value address.path = some found) ∧
    (forall p q : String, p ≠ "" -> q ≠ "" ->
      lookup value (p ++ "." ++ q) = (lookup value p).bind fun inner => lookup inner q) ∧
    (forall (path : String) (found : Json), lookup value path = some found ->
      Within found value) := by
  refine ⟨?_, ?_, ?_⟩
  · intro address found hdotless hname hfound
    exact Address.lookup_path hdotless hname hfound
  · intro p q hp hq
    exact lookup_append hp hq value
  · intro path found hfound
    exact within_of_lookup hfound

/-- Below the empty name, a position in an array and a name that looks like one. -/
theorem lookup_reaches_addressed_nested :
    let value : Json :=
      .object [("", .array [.null, .object [("0", .text "A-2"), ("1", .null)]])]
    let address : Address := [.member "", .item 1, .member "0"]
    address.Dotless ∧ address ≠ [.member ""] ∧ value.at? address = some (.text "A-2") ∧
      lookup value address.path = some (.text "A-2") ∧
      lookup value (".1" ++ "." ++ "0") =
        (lookup value ".1").bind (fun inner => lookup inner "0") ∧
      Within (.text "A-2") value := by
  intro value address
  have hdotless : address.Dotless := by
    intro name hmem
    simp only [address, List.mem_cons, List.not_mem_nil, or_false, Step.member.injEq,
      reduceCtorEq, false_or] at hmem
    rcases hmem with hname | hname
    · rw [hname]
      decide
    · rw [hname]
      decide
  have hname : address ≠ [.member ""] := by decide
  have hfound : value.at? address = some (.text "A-2") := rfl
  rcases lookup_reaches_addressed value with ⟨hreaches, hleadsOn, hwithin⟩
  have hlookup := hreaches address (.text "A-2") hdotless hname hfound
  exact ⟨hdotless, hname, hfound, hlookup, hleadsOn ".1" "0" (by decide) (by decide),
    hwithin address.path (.text "A-2") hlookup⟩

end Json
end QueryGateway
