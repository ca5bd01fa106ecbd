import QueryGateway.Proofs.Dictionary
import QueryGateway.Remote.Payload

/-!
# What a posted body holds

A body has three layers: the default payload of the method, over it the
parameters, over both the query text.  A method may declare the field that
carries the query text, and one that carries all parameters together; a field
declared with an empty name counts as none.  What the body holds under a name is
told here name by name, whichever of the layers the names occur in.
-/

namespace QueryGateway
namespace Remote

open Catalog

def Declares (declared : Option String) (name : String) : Prop :=
  declared = some name ∧ name ≠ ""

/-- The field of the query text: the one that is declared, or else the usual one. -/
def CarriesQuery (method : Method) (name : String) : Prop :=
  Declares method.queryField name ∨
    (name = "query" ∧ forall other, ¬ Declares method.queryField other)

/-- What a body holds under a name, by the highest layer that says anything about it. -/
inductive Holds (method : Method) (parameters : Members) (query name : String) : Json -> Prop where
  | query (hquery : CarriesQuery method name) : Holds method parameters query name (.text query)
  | together (hother : ¬ CarriesQuery method name) (hfield : Declares method.paramsField name) :
      Holds method parameters query name (.object parameters)
  | beside {field : String} {defaults : Members} {value : Json}
      (hother : ¬ CarriesQuery method name) (hfield : Declares method.paramsField field)
      (hname : name ≠ field) (hdefaults : method.defaultPayload = some defaults)
      (hvalue : (name, value) ∈ defaults) : Holds method parameters query name value
  | parameter {value : Json} (hother : ¬ CarriesQuery method name)
      (hnone : forall field, ¬ Declares method.paramsField field)
      (hvalue : (name, value) ∈ parameters) : Holds method parameters query name value
  | default {defaults : Members} {value : Json} (hother : ¬ CarriesQuery method name)
      (hnone : forall field, ¬ Declares method.paramsField field)
      (hname : name ∉ parameters.map Prod.fst) (hdefaults : method.defaultPayload = some defaults)
      (hvalue : (name, value) ∈ defaults) : Holds method parameters query name value

/-!
## Declared names
-/

theorem nonEmpty_eq_some_iff (declared : Option String) (name : String) :
    nonEmpty declared = some name ↔ Declares declared name := by
  unfold nonEmpty Declares
  rw [Option.filter_eq_some_iff]
  simp

theorem nonEmpty_eq_none_iff (declared : Option String) :
    nonEmpty declared = none ↔ forall name, ¬ Declares declared name := by
  rw [Option.eq_none_iff_forall_ne_some]
  exact forall_congr' fun name => not_congr (nonEmpty_eq_some_iff declared name)

theorem carriesQuery_iff (method : Method) (name : String) :
    CarriesQuery method name ↔ queryFieldOf method = name := by
  unfold CarriesQuery queryFieldOf
  rw [← nonEmpty_eq_none_iff, ← nonEmpty_eq_some_iff]
  cases hfield : nonEmpty method.queryField with
  | none =>
      constructor
      · intro hcarries
        rcases hcarries with hdeclared | ⟨hname, _⟩
        · cases hdeclared
        · exact hname.symm
      · intro hname
        exact Or.inr ⟨hname.symm, rfl⟩
  | some field => simp

/-!
## Layers
-/

theorem find?_withParameters_of_some {method : Method} {field : String}
    (hfield : nonEmpty method.paramsField = some field) (parameters : Members) (name : String) :
    Dictionary.find? (withParameters method parameters) name =
      if field = name then some (Json.object parameters)
      else Dictionary.find? (method.defaultPayload.getD []) name := by
  unfold withParameters
  rw [hfield]
  exact Dictionary.find?_insert field (Json.object parameters) _ name

theorem find?_withParameters_of_none {method : Method}
    (hfield : nonEmpty method.paramsField = none) {parameters : Members}
    (hparameters : Dictionary.Sorted parameters) (name : String) :
    Dictionary.find? (withParameters method parameters) name =
      (Dictionary.find? parameters name).or
        (Dictionary.find? (method.defaultPayload.getD []) name) := by
  unfold withParameters
  rw [hfield]
  show Dictionary.find? (Dictionary.insertAll parameters _) name = _
  rw [Dictionary.find?_insertAll, ← Dictionary.find?_ofList,
    Dictionary.ofList_of_sorted hparameters]

theorem sorted_withParameters {method : Method}
    (hdefaults : Dictionary.Sorted (method.defaultPayload.getD [])) (parameters : Members) :
    Dictionary.Sorted (withParameters method parameters) := by
  unfold withParameters
  cases nonEmpty method.paramsField with
  | some field => exact Dictionary.sorted_insert field _ hdefaults
  | none => exact Dictionary.sorted_insertAll parameters hdefaults

theorem sorted_defaults {method : Method}
    (hdefaults : forall defaults, method.defaultPayload = some defaults ->
      Dictionary.Sorted defaults) :
    Dictionary.Sorted (method.defaultPayload.getD []) := by
  cases hpayload : method.defaultPayload with
  | none => exact Dictionary.sorted_nil
  | some defaults => exact hdefaults defaults hpayload

theorem mem_defaults_iff (method : Method) (entry : String × Json) :
    entry ∈ method.defaultPayload.getD [] ↔
      exists defaults, method.defaultPayload = some defaults ∧ entry ∈ defaults := by
  cases method.defaultPayload with
  | none => simp
  | some defaults => simp

/-!
## The highest layer
-/

section Holding

variable {method : Method} {parameters : Members} {query name : String} {value : Json}

theorem holds_iff_of_query (hquery : CarriesQuery method name) :
    Holds method parameters query name value ↔ value = .text query := by
  constructor
  · intro hholds
    cases hholds with
    | query _ => rfl
    | together hother _ => exact absurd hquery hother
    | beside hother _ _ _ _ => exact absurd hquery hother
    | parameter hother _ _ => exact absurd hquery hother
    | default hother _ _ _ _ => exact absurd hquery hother
  · intro hvalue
    rw [hvalue]
    exact .query hquery

theorem holds_iff_of_field (hother : ¬ CarriesQuery method name) {field : String}
    (hfield : Declares method.paramsField field) :
    Holds method parameters query name value ↔
      if field = name then value = .object parameters
      else (name, value) ∈ method.defaultPayload.getD [] := by
  constructor
  · intro hholds
    cases hholds with
    | query hquery => exact absurd hquery hother
    | together _ hname =>
        have hsame : field = name := Option.some.inj (hfield.left.symm.trans hname.left)
        rw [if_pos hsame]
    | @beside other defaults _ _ hname hne hpayload hmem =>
        have hsame : field = other := Option.some.inj (hfield.left.symm.trans hname.left)
        rw [hsame, if_neg (Ne.symm hne)]
        exact (mem_defaults_iff method _).mpr ⟨defaults, hpayload, hmem⟩
    | parameter _ hnone _ => exact absurd hfield (hnone field)
    | default _ hnone _ _ _ => exact absurd hfield (hnone field)
  · intro hvalue
    by_cases hname : field = name
    · rw [if_pos hname] at hvalue
      rw [hvalue]
      exact .together hother (hname ▸ hfield)
    · rw [if_neg hname] at hvalue
      rcases (mem_defaults_iff method _).mp hvalue with ⟨defaults, hpayload, hmem⟩
      exact .beside hother hfield (Ne.symm hname) hpayload hmem

theorem holds_iff_of_none (hother : ¬ CarriesQuery method name)
    (hnone : forall field, ¬ Declares method.paramsField field) :
    Holds method parameters query name value ↔
      (name, value) ∈ parameters ∨
        name ∉ parameters.map Prod.fst ∧ (name, value) ∈ method.defaultPayload.getD [] := by
  constructor
  · intro hholds
    cases hholds with
    | query hquery => exact absurd hquery hother
    | together _ hfield => exact absurd hfield (hnone name)
    | beside _ hfield _ _ _ => exact absurd hfield (hnone _)
    | parameter _ _ hmem => exact Or.inl hmem
    | default _ _ habsent hpayload hmem =>
        exact Or.inr ⟨habsent, (mem_defaults_iff method _).mpr ⟨_, hpayload, hmem⟩⟩
  · intro hvalue
    rcases hvalue with hmem | ⟨habsent, hmem⟩
    · exact .parameter hother hnone hmem
    · rcases (mem_defaults_iff method _).mp hmem with ⟨defaults, hpayload, hmem⟩
      exact .default hother hnone habsent hpayload hmem

end Holding

/--
A posted body has its names in order.  Under each name it holds what the highest
layer with that name says, and under any other name nothing.
-/
theorem postBody_by_precedence (method : Method) (parameters : Members) (query : String)
    (hparameters : Dictionary.Sorted parameters)
    (hdefaults : forall defaults, method.defaultPayload = some defaults ->
      Dictionary.Sorted defaults) :
    Dictionary.Sorted (postBody method parameters query) ∧
      forall name value, (name, value) ∈ postBody method parameters query ↔
        Holds method parameters query name value := by
  have hlowest := sorted_defaults hdefaults
  have hsorted : Dictionary.Sorted (postBody method parameters query) :=
    Dictionary.sorted_insert _ _ (sorted_withParameters hlowest parameters)
  refine ⟨hsorted, ?_⟩
  intro name value
  rw [← Dictionary.find?_eq_some_iff hsorted, postBody, Dictionary.find?_insert]
  by_cases hquery : queryFieldOf method = name
  · rw [if_pos hquery, holds_iff_of_query ((carriesQuery_iff method name).mpr hquery),
      Option.some.injEq]
    exact eq_comm
  · have hother : ¬ CarriesQuery method name := mt (carriesQuery_iff method name).mp hquery
    rw [if_neg hquery]
    cases hfield : nonEmpty method.paramsField with
    | some field =>
        rw [find?_withParameters_of_some hfield,
          holds_iff_of_field hother ((nonEmpty_eq_some_iff _ _).mp hfield)]
        by_cases hname : field = name
        · rw [if_pos hname, if_pos hname, Option.some.injEq]
          exact eq_comm
        · rw [if_neg hname, if_neg hname]
          exact Dictionary.find?_eq_some_iff hlowest name value
    | none =>
        rw [find?_withParameters_of_none hfield hparameters,
          holds_iff_of_none hother ((nonEmpty_eq_none_iff _).mp hfield), Option.or_eq_some_iff,
          Dictionary.find?_eq_some_iff hparameters, Dictionary.find?_eq_some_iff hlowest,
          ← Dictionary.isSome_find?_iff, Bool.not_eq_true, Option.isSome_eq_false_iff,
          Option.isNone_iff_eq_none]

/-- A parameter that has the name of the query field, one that is over a default, and a default. -/
theorem postBody_by_precedence_overlapping :
    let defaults : Members := [("jql", .null), ("limit", .ofNat 10), ("page", .ofNat 1)]
    let method : Method :=
      { Method.plain "search" .httpPost "/search" with
        queryField := some "jql", paramsField := some "", defaultPayload := some defaults }
    let parameters : Members := [("jql", .text "open"), ("limit", .ofNat 5)]
    Dictionary.Sorted parameters ∧
      (forall payload, method.defaultPayload = some payload -> Dictionary.Sorted payload) ∧
      ("jql", .text "q") ∈ postBody method parameters "q" ∧
      ("limit", .ofNat 5) ∈ postBody method parameters "q" ∧
      ("page", .ofNat 1) ∈ postBody method parameters "q" := by
  intro defaults method parameters
  have hparameters : Dictionary.Sorted parameters := by
    unfold Dictionary.Sorted
    decide
  have hdefaults : forall payload, method.defaultPayload = some payload ->
      Dictionary.Sorted payload := by
    intro payload hpayload
    cases hpayload
    unfold Dictionary.Sorted
    decide
  have hbody := (postBody_by_precedence method parameters "q" hparameters hdefaults).right
  have hother : forall name, name ≠ "jql" -> ¬ CarriesQuery method name := by
    intro name hname hcarries
    rw [carriesQuery_iff] at hcarries
    exact hname hcarries.symm
  have hnone : forall field, ¬ Declares method.paramsField field :=
    (nonEmpty_eq_none_iff _).mp rfl
  refine ⟨hparameters, hdefaults, ?_, ?_, ?_⟩
  · exact (hbody _ _).mpr (.query (Or.inl ⟨rfl, by decide⟩))
  · exact (hbody _ _).mpr (.parameter (hother _ (by decide)) hnone (.tail _ (.head _)))
  · exact (hbody _ _).mpr
      (.default (hother _ (by decide)) hnone (by decide) rfl (.tail _ (.tail _ (.head _))))

/-- The query text wins also over all parameters together. -/
example :
    postBody { Method.plain "search" .httpPost "/search" with paramsField := some "query" }
      [("limit", .ofNat 5)] "q" = [("query", .text "q")] :=
  rfl

end Remote
end QueryGateway
