import QueryGateway.Engine.Job
import QueryGateway.Proofs.Rows.Pipeline

/-!
# Declared transformations

Of the transformations that a request names, those that the system declares are
applied in the order of the request.  Whether they fail is decided by their
declarations alone: the payload of the response has no part in it.
-/

namespace QueryGateway
namespace Engine
namespace Job

open Catalog

/-- A system declares an aggregation under a name that cannot be evaluated. -/
def Faulty (system : Backend) (name : String) (failure : Failure) : Prop :=
  exists aggregation, Dictionary.find? system.transforms name = some (.aggregate aggregation) ∧
    aggregation.fault? = some failure

/-- The first fault in the order of a request. -/
def FirstFault (system : Backend) (requested : List String) (failure : Failure) : Prop :=
  exists before name after, requested = before ++ name :: after ∧ Faulty system name failure ∧
    forall earlier, earlier ∈ before -> forall other, ¬ Faulty system earlier other

def declares (system : Backend) (name : String) : Bool :=
  (Dictionary.find? system.transforms name).isSome

variable {system : Backend} {requested : List String}

/-!
# What is declared
-/

def declaredFault? (system : Backend) (name : String) : Option Failure :=
  (Dictionary.find? system.transforms name).bind Rows.Transform.fault?

theorem declaredFault?_eq_some_iff {name : String} {failure : Failure} :
    declaredFault? system name = some failure ↔ Faulty system name failure := by
  unfold declaredFault? Faulty
  rw [Option.bind_eq_some_iff]
  constructor
  · rintro ⟨transform, hfound, hfault⟩
    cases transform with
    | aggregate aggregation => exact ⟨aggregation, hfound, hfault⟩
    | _ => cases hfault
  · rintro ⟨aggregation, hfound, hfault⟩
    exact ⟨.aggregate aggregation, hfound, hfault⟩

theorem declaredFault?_eq_none_iff {name : String} :
    declaredFault? system name = none ↔ forall failure, ¬ Faulty system name failure := by
  rw [Option.eq_none_iff_forall_ne_some]
  exact forall_congr' fun failure => not_congr declaredFault?_eq_some_iff

theorem firstFault_iff {failure : Failure} :
    FirstFault system requested failure ↔
      requested.findSome? (declaredFault? system) = some failure := by
  rw [List.findSome?_eq_some_iff]
  simp only [FirstFault, declaredFault?_eq_some_iff, declaredFault?_eq_none_iff]

theorem findSome?_fault? (system : Backend) (requested : List String) :
    (requested.filterMap (Dictionary.find? system.transforms)).findSome? Rows.Transform.fault? =
      requested.findSome? (declaredFault? system) := by
  rw [← List.head?_filterMap, List.filterMap_filterMap, List.head?_filterMap]
  rfl

theorem map_snd_declared (system : Backend) (requested : List String) :
    (declared system requested).map Prod.snd =
      requested.filterMap (Dictionary.find? system.transforms) := by
  unfold declared
  rw [List.map_filterMap]
  simp only [Option.map_map, Function.comp_def, Option.map_id']

theorem map_fst_declared (system : Backend) (requested : List String) :
    (declared system requested).map Prod.fst = requested.filter (declares system) := by
  unfold declared
  rw [List.map_filterMap, ← List.filterMap_eq_filter]
  congr 1
  funext name
  cases hfound : Dictionary.find? system.transforms name with
  | none => simp [declares, Option.guard, hfound]
  | some transform => simp [declares, Option.guard, hfound]

/-!
# What becomes of a payload
-/

theorem applyDeclared_eq (system : Backend) (requested : List String) (payload : Json) :
    applyDeclared system requested payload =
      (Rows.applyAll (requested.filterMap (Dictionary.find? system.transforms)) payload).map
        fun data => (data, requested.filter (declares system)) := by
  rw [← map_snd_declared, ← map_fst_declared]
  rfl

theorem applyDeclared_of_fault {failure : Failure}
    (hfault : requested.findSome? (declaredFault? system) = some failure) (payload : Json) :
    applyDeclared system requested payload = .error failure := by
  rw [← findSome?_fault?] at hfault
  rw [applyDeclared_eq, Rows.applyAll_of_fault hfault]
  rfl

theorem applyDeclared_of_valid
    (hvalid : requested.findSome? (declaredFault? system) = none) (payload : Json) :
    exists data, applyDeclared system requested payload =
        .ok (data, requested.filter (declares system)) ∧
      Rows.Applied (requested.filterMap (Dictionary.find? system.transforms)) payload data := by
  rw [← findSome?_fault?] at hvalid
  rcases Rows.applyAll_of_valid hvalid payload with ⟨data, happly, happlied⟩
  refine ⟨data, ?_, happlied⟩
  rw [applyDeclared_eq, happly]
  rfl

/--
Declared transformations fail exactly if a requested one is an aggregation that cannot
be evaluated, and then with the fault of the first such one.  Else the requested ones
that are declared are applied one after the other, and their names are told in the order
of the request.  So a request fails on every payload, and alike, or on none, as far as
it returns: the sorting of an aggregation may give up where its keys do not order the rows.
-/
theorem failure_decided_by_declarations (system : Backend) (requested : List String) :
    (forall payload failure,
      applyDeclared system requested payload = .error failure ↔
        FirstFault system requested failure) ∧
      (forall payload,
        (forall name, name ∈ requested -> forall failure, ¬ Faulty system name failure) ->
          exists data, applyDeclared system requested payload =
              .ok (data, requested.filter (declares system)) ∧
            Rows.Applied (requested.filterMap (Dictionary.find? system.transforms)) payload data) ∧
      forall payload payload',
        (exists failure, applyDeclared system requested payload = .error failure ∧
          applyDeclared system requested payload' = .error failure) ∨
        exists data data' names, applyDeclared system requested payload = .ok (data, names) ∧
          applyDeclared system requested payload' = .ok (data', names) := by
  refine ⟨?_, ?_, ?_⟩
  · intro payload failure
    rw [firstFault_iff]
    constructor
    · intro hfailed
      cases hfault : requested.findSome? (declaredFault? system) with
      | some first =>
          cases (applyDeclared_of_fault hfault payload).symm.trans hfailed
          rfl
      | none =>
          rcases applyDeclared_of_valid hfault payload with ⟨data, happly, _⟩
          cases happly.symm.trans hfailed
    · intro hfault
      exact applyDeclared_of_fault hfault payload
  · intro payload hvalid
    apply applyDeclared_of_valid
    rw [List.findSome?_eq_none_iff]
    intro name hmem
    exact declaredFault?_eq_none_iff.mpr (hvalid name hmem)
  · intro payload payload'
    cases hfault : requested.findSome? (declaredFault? system) with
    | some failure =>
        exact Or.inl ⟨failure, applyDeclared_of_fault hfault payload,
          applyDeclared_of_fault hfault payload'⟩
    | none =>
        rcases applyDeclared_of_valid hfault payload with ⟨data, happly, _⟩
        rcases applyDeclared_of_valid hfault payload' with ⟨data', happly', _⟩
        exact Or.inr ⟨data, data', _, happly, happly'⟩

/-!
# A system with faulty reports
-/

namespace Reports

/-- A total needs a field, and there is no field without a name. -/
def tracker : Backend :=
  { Backend.plain (Uuid.ofNat 7) "tracker" "http://tracker.test" with
    transforms :=
      [("nameless", .aggregate ⟨[""], [], [], [], none⟩),
       ("newest", .sort [⟨"created", .descending⟩]),
       ("open", .filter [⟨"status", .equals, .text "open"⟩]),
       ("total", .aggregate ⟨[], [⟨none, .sum, none, none⟩], [], [], none⟩)] }

def issues : Json :=
  .array [.object [("status", .text "open")], .object [("status", .text "closed")]]

theorem failure_decided_by_declarations_tracker :
    applyDeclared tracker ["open", "total", "nameless"] issues =
        .error (.validation "aggregation metric 'sum' requires a field") ∧
      exists data, applyDeclared tracker ["open", "unknown", "newest", "open"] issues =
        .ok (data, ["open", "newest", "open"]) := by
  have hdecided := failure_decided_by_declarations tracker
  constructor
  · apply ((hdecided _).left issues _).mpr
    refine ⟨["open"], "total", ["nameless"], rfl, declaredFault?_eq_some_iff.mp (by decide), ?_⟩
    intro earlier hmem
    rw [List.mem_singleton.mp hmem]
    exact declaredFault?_eq_none_iff.mp (by decide)
  · have hvalid : forall name, name ∈ ["open", "unknown", "newest", "open"] ->
        declaredFault? tracker name = none := by
      decide
    rcases (hdecided _).right.left issues fun name hmem =>
      declaredFault?_eq_none_iff.mp (hvalid name hmem) with ⟨data, happly, _⟩
    have hnames : ["open", "unknown", "newest", "open"].filter (declares tracker) =
        ["open", "newest", "open"] := by
      decide
    rw [hnames] at happly
    exact ⟨data, happly⟩

end Reports
end Job
end Engine
end QueryGateway
