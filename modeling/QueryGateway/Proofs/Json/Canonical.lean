import QueryGateway.Schema.Scalar
import QueryGateway.Proofs.Dictionary

/-!
# Canonical values

A value is canonical when the members of every object in it are in ascending
order of their names.  The values that are taken in from a document are, and
among canonical values the ones that agree as nested maps are the same.
-/

namespace QueryGateway
namespace Json

@[elab_as_elim]
theorem induct {motive : Json -> Prop} (null : motive .null) (bool : forall b, motive (.bool b))
    (number : forall n, motive (.number n)) (text : forall s, motive (.text s))
    (array : forall items, (forall item, item ∈ items -> motive item) -> motive (.array items))
    (object : forall members : Members,
      (forall name value, (name, value) ∈ members -> motive value) -> motive (.object members))
    (value : Json) : motive value := by
  refine @Json.rec motive (fun items => forall item, item ∈ items -> motive item)
    (fun members => forall name value, (name, value) ∈ members -> motive value)
    (fun member => motive member.2) null bool number text array object ?_ ?_ ?_ ?_ ?_ value
  · nofun
  · intro first rest hfirst hrest item hmem
    rcases List.mem_cons.mp hmem with heq | hmem
    · rw [heq]
      exact hfirst
    · exact hrest item hmem
  · nofun
  · intro first rest hfirst hrest name value hmem
    rcases List.mem_cons.mp hmem with heq | hmem
    · rw [← heq] at hfirst
      exact hfirst
    · exact hrest name value hmem
  · intro name value hvalue
    exact hvalue

/-- Values with the members of every object in order. -/
inductive Canonical : Json -> Prop where
  | null : Canonical .null
  | bool (b : Bool) : Canonical (.bool b)
  | number (n : Number) : Canonical (.number n)
  | text (s : String) : Canonical (.text s)
  | array {items : List Json} (hitems : forall item, item ∈ items -> Canonical item) :
      Canonical (.array items)
  | object {members : Members} (hsorted : Dictionary.Sorted members)
      (hmembers : forall name value, (name, value) ∈ members -> Canonical value) :
      Canonical (.object members)

/--
Values that agree as nested maps: arrays item by item, objects name by name,
in whatever order their members are.
-/
inductive Alike : Json -> Json -> Prop where
  | null : Alike .null .null
  | bool (b : Bool) : Alike (.bool b) (.bool b)
  | number (n : Number) : Alike (.number n) (.number n)
  | text (s : String) : Alike (.text s) (.text s)
  | array {xs ys : List Json} (hlength : xs.length = ys.length)
      (hitems : forall (i : Nat) (x y : Json), xs[i]? = some x -> ys[i]? = some y -> Alike x y) :
      Alike (.array xs) (.array ys)
  | object {xs ys : Members}
      (hnames : forall name,
        (Dictionary.find? xs name).isSome = (Dictionary.find? ys name).isSome)
      (hvalues : forall name x y, Dictionary.find? xs name = some x ->
        Dictionary.find? ys name = some y -> Alike x y) :
      Alike (.object xs) (.object ys)

theorem alike_refl {a : Json} (hcanonical : Canonical a) : Alike a a := by
  induction hcanonical with
  | null => exact Alike.null
  | bool b => exact Alike.bool b
  | number n => exact Alike.number n
  | text s => exact Alike.text s
  | array hitems ih =>
      refine Alike.array rfl ?_
      intro i x y hx hy
      rw [hx] at hy
      injection hy with hsame
      rw [← hsame]
      exact ih x (List.mem_of_getElem? hx)
  | object hsorted hmembers ih =>
      refine Alike.object (fun _ => rfl) ?_
      intro name x y hx hy
      rw [hx] at hy
      injection hy with hsame
      rw [← hsame]
      exact ih name x (Dictionary.mem_of_find? hx)

theorem eq_of_alike {a b : Json} (halike : Alike a b) : Canonical a -> Canonical b -> a = b := by
  induction halike with
  | null =>
      intro _ _
      rfl
  | bool b =>
      intro _ _
      rfl
  | number n =>
      intro _ _
      rfl
  | text s =>
      intro _ _
      rfl
  | array hlength hitems ih =>
      intro hxs hys
      cases hxs with
      | array hxs =>
          cases hys with
          | array hys =>
              congr 1
              apply List.ext_getElem hlength
              intro i hx hy
              have hgetX := List.getElem?_eq_getElem hx
              have hgetY := List.getElem?_eq_getElem hy
              exact ih i _ _ hgetX hgetY (hxs _ (List.getElem_mem hx)) (hys _ (List.getElem_mem hy))
  | @object xs ys hnames hvalues ih =>
      intro hxs hys
      cases hxs with
      | object hsortedX hxs =>
          cases hys with
          | object hsortedY hys =>
              congr 1
              -- Members in order are the same if the same is found under each name.
              apply Dictionary.ext_of_find? hsortedX hsortedY
              intro name
              have hname := hnames name
              cases hx : Dictionary.find? xs name with
              | none =>
                  cases hy : Dictionary.find? ys name with
                  | none => rfl
                  | some y =>
                      rw [hx, hy] at hname
                      cases hname
              | some x =>
                  cases hy : Dictionary.find? ys name with
                  | none =>
                      rw [hx, hy] at hname
                      cases hname
                  | some y =>
                      rw [ih name x y hx hy (hxs name x (Dictionary.mem_of_find? hx))
                        (hys name y (Dictionary.mem_of_find? hy))]

theorem alike_iff_eq {a b : Json} (ha : Canonical a) (hb : Canonical b) : Alike a b ↔ a = b := by
  constructor
  · intro halike
    exact eq_of_alike halike ha hb
  · intro hsame
    rw [← hsame]
    exact alike_refl ha

end Json

/-!
# What is taken in
-/

namespace Schema

open Json

mutual

theorem canonical_takeIn : forall {doc : Doc} {value : Json},
    takeIn doc = .ok value -> Canonical value
  | .scalar .null _, value, htaken => by
      injection htaken with hvalue
      rw [← hvalue]
      exact Canonical.null
  | .scalar (.bool b) _, value, htaken => by
      injection htaken with hvalue
      rw [← hvalue]
      exact Canonical.bool b
  | .scalar (.number n) _, value, htaken => by
      injection htaken with hvalue
      rw [← hvalue]
      exact Canonical.number n
  | .scalar (.text s) _, value, htaken => by
      injection htaken with hvalue
      rw [← hvalue]
      exact Canonical.text s
  | .array items broken _ _, value, htaken => by
      unfold takeIn at htaken
      cases hitems : takeInItems 0 items with
      | error fault => simp [hitems] at htaken
      | ok values =>
          cases broken with
          | some fault => simp [hitems] at htaken
          | none =>
              simp only [hitems, Except.ok.injEq] at htaken
              rw [← htaken]
              exact Canonical.array (canonical_takeInItems hitems)
  | .object members broken _ _, value, htaken => by
      unfold takeIn at htaken
      cases hmembers : takeInMembers members with
      | error fault => simp [hmembers] at htaken
      | ok values =>
          cases broken with
          | some fault => simp [hmembers] at htaken
          | none =>
              simp only [hmembers, Except.ok.injEq] at htaken
              rw [← htaken]
              refine Canonical.object (Dictionary.sorted_ofList values) ?_
              intro name value hmem
              exact canonical_takeInMembers hmembers name value (Dictionary.mem_ofList hmem)
  | .unreadable fault _ _, value, htaken => by
      cases htaken
  | .unreached fault, value, htaken => by
      cases htaken

theorem canonical_takeInItems : forall {index : Nat} {items : List Doc} {values : List Json},
    takeInItems index items = .ok values -> forall value, value ∈ values -> Canonical value
  | index, [], values, htaken => by
      injection htaken with hvalues
      intro value hmem
      rw [← hvalues] at hmem
      cases hmem
  | index, item :: rest, values, htaken => by
      unfold takeInItems at htaken
      cases hitem : takeIn item with
      | error fault => simp [hitem] at htaken
      | ok first =>
          cases hrest : takeInItems (index + 1) rest with
          | error fault => simp [hitem, hrest, Except.map] at htaken
          | ok others =>
              simp only [hitem, hrest, Except.map, Except.ok.injEq] at htaken
              intro value hmem
              rw [← htaken] at hmem
              rcases List.mem_cons.mp hmem with heq | hmem
              · rw [heq]
                exact canonical_takeIn hitem
              · exact canonical_takeInItems hrest value hmem

theorem canonical_takeInMembers : forall {members : List (Json.Key × Doc)}
    {values : List (String × Json)}, takeInMembers members = .ok values ->
      forall name value, (name, value) ∈ values -> Canonical value
  | [], values, htaken => by
      injection htaken with hvalues
      intro name value hmem
      rw [← hvalues] at hmem
      cases hmem
  | (key, doc) :: rest, values, htaken => by
      unfold takeInMembers at htaken
      cases hdoc : takeIn doc with
      | error fault => simp [hdoc] at htaken
      | ok first =>
          cases hrest : takeInMembers rest with
          | error fault => simp [hdoc, hrest, Except.map] at htaken
          | ok others =>
              simp only [hdoc, hrest, Except.map, Except.ok.injEq] at htaken
              intro name value hmem
              rw [← htaken] at hmem
              rcases List.mem_cons.mp hmem with heq | hmem
              · injection heq with _ hvalue
                rw [hvalue]
                exact canonical_takeIn hdoc
              · exact canonical_takeInMembers hrest name value hmem

end

end Schema
end QueryGateway
