import QueryGateway.Proofs.Json.Path
import QueryGateway.Proofs.Rows.Chaining

/-!
# Pipelines

A step takes the rows from its input and nothing else, so the number of records
that is told of a payload is the number of rows that a further step is given.
A step fails only over an aggregation that cannot be evaluated, whatever rows
there are, so a pipeline fails with the first fault among its aggregations.
-/

namespace QueryGateway
namespace Rows

/-!
# Numbers of records
-/

theorem recordCount_eq (value : Json) : recordCount value = (coerce value).length := by
  cases value with
  | object members =>
      rw [coerce_object, recordCount]
      cases nestedRows? members with
      | none => rfl
      | some items => rfl
  | _ => rfl

theorem recordCount_toJson (out : Aggregated) : recordCount out.toJson = out.rows.length := by
  rw [recordCount_eq, coerce_toJson]

theorem lookup_metadata {path name : String} (hne : path ≠ "")
    (hsegments : Json.segments path = ["metadata", name]) (out : Aggregated) :
    out.toJson.lookup path =
      Dictionary.find?
        [("processed_count", .ofNat out.processedCount),
          ("original_count", .ofNat out.countBefore), ("metrics", .ofTexts out.metrics),
          ("group_by", .ofTexts out.groupBy)] name := by
  have haccount : Json.step? out.toJson "metadata" =
      some (.ofMembers
        [("group_by", .ofTexts out.groupBy), ("metrics", .ofTexts out.metrics),
          ("original_count", .ofNat out.countBefore),
          ("processed_count", .ofNat out.processedCount)]) := by
    show Dictionary.find? (Dictionary.ofList _) "metadata" = _
    rw [Dictionary.find?_ofList]
    rfl
  rw [Json.lookup_of_segments hne hsegments, haccount]
  show (Dictionary.find? (Dictionary.ofList _) name).bind some = _
  rw [Option.bind_fun_some, Dictionary.find?_ofList]
  rfl

theorem lookup_processedCount (out : Aggregated) :
    out.toJson.lookup "metadata.processed_count" = some (.ofNat out.processedCount) := by
  have hsegments : Json.segments "metadata.processed_count" = ["metadata", "processed_count"] := by
    decide
  rw [lookup_metadata (by decide) hsegments]
  rfl

theorem lookup_countBefore (out : Aggregated) :
    out.toJson.lookup "metadata.original_count" = some (.ofNat out.countBefore) := by
  have hsegments : Json.segments "metadata.original_count" = ["metadata", "original_count"] := by
    decide
  rw [lookup_metadata (by decide) hsegments]
  rfl

namespace Transform

variable {transform : Transform}

theorem apply_rows (transform : Transform) (value : Json) :
    transform.apply (.array (coerce value)) = transform.apply value := by
  cases transform with
  | aggregate a => rfl
  | _ => rfl

/-- What a step makes of the number of records; an aggregation tells both numbers. -/
def Recounts (transform : Transform) (before after : Json) : Prop :=
  match transform with
  | .filter _ => recordCount after ≤ recordCount before
  | .map _ => recordCount after = recordCount before
  | .sort _ => recordCount after = recordCount before
  | .aggregate _ =>
      after.lookup "metadata.processed_count" = some (.ofNat (recordCount after)) ∧
        after.lookup "metadata.original_count" = some (.ofNat (recordCount before))

def fault? : Transform -> Option Failure
  | .aggregate a => a.fault?
  | _ => none

theorem apply_of_fault {failure : Failure} (hfault : transform.fault? = some failure)
    (value : Json) : transform.apply value = .error failure := by
  cases transform with
  | aggregate a =>
      have hinvalid : a.fault? = some failure := hfault
      show (a.apply value).map Aggregated.toJson = _
      unfold Aggregation.apply
      rw [hinvalid]
      rfl
  | _ => cases hfault

theorem apply_of_valid (hvalid : transform.fault? = none) (before : Json) :
    exists after, transform.apply before = .ok after ∧ transform.Recounts before after := by
  cases transform with
  | filter conditions =>
      refine ⟨_, rfl, ?_⟩
      rw [Recounts, recordCount_eq before]
      exact List.length_filter_le _ _
  | map fields =>
      refine ⟨_, rfl, ?_⟩
      rw [Recounts, recordCount_eq before]
      exact List.length_map _
  | sort keys =>
      refine ⟨_, rfl, ?_⟩
      rw [Recounts, recordCount_eq before]
      exact (perm_sortRows keys (coerce before)).length_eq
  | aggregate a =>
      have happly := Aggregation.apply_of_valid hvalid before
      refine ⟨_, congrArg (Except.map Aggregated.toJson) happly, ?_⟩
      rw [Recounts, lookup_processedCount, lookup_countBefore, recordCount_toJson,
        recordCount_eq before]
      exact ⟨rfl, rfl⟩

theorem recounts_apply {before after : Json} (happly : transform.apply before = .ok after) :
    transform.Recounts before after := by
  cases hfault : transform.fault? with
  | some failure => cases happly.symm.trans (apply_of_fault hfault before)
  | none =>
      rcases apply_of_valid hfault before with ⟨other, hother, hrecounts⟩
      cases happly.symm.trans hother
      exact hrecounts

end Transform

/-!
# Whole pipelines
-/

/-- A value that comes of another by steps, each applied to the result of the one before. -/
inductive Applied : List Transform -> Json -> Json -> Prop where
  | nil (value : Json) : Applied [] value value
  | cons {first : Transform} {rest : List Transform} {value next last : Json}
      (hfirst : first.apply value = .ok next) (hrest : Applied rest next last) :
      Applied (first :: rest) value last

theorem applyAll_of_valid {steps : List Transform} (hvalid : steps.findSome? Transform.fault? = none)
    (value : Json) : exists last, applyAll steps value = .ok last ∧ Applied steps value last := by
  induction steps generalizing value with
  | nil => exact ⟨value, rfl, .nil value⟩
  | cons first rest ih =>
      rw [List.findSome?_cons] at hvalid
      cases hfirst : first.fault? with
      | some failure =>
          rw [hfirst] at hvalid
          cases hvalid
      | none =>
          rw [hfirst] at hvalid
          rcases Transform.apply_of_valid hfirst value with ⟨next, hnext, _⟩
          rcases ih hvalid next with ⟨last, hlast, happlied⟩
          refine ⟨last, ?_, .cons hnext happlied⟩
          show (first.apply value).bind (applyAll rest) = _
          rw [hnext]
          exact hlast

/-- A pipeline fails with the first fault of its steps, which no payload can prevent. -/
theorem applyAll_of_fault {steps : List Transform} {failure : Failure}
    (hfault : steps.findSome? Transform.fault? = some failure) (value : Json) :
    applyAll steps value = .error failure := by
  induction steps generalizing value with
  | nil => cases hfault
  | cons first rest ih =>
      show (first.apply value).bind (applyAll rest) = _
      rw [List.findSome?_cons] at hfault
      cases hfirst : first.fault? with
      | some other =>
          rw [hfirst] at hfault
          cases hfault
          rw [Transform.apply_of_fault hfirst]
          rfl
      | none =>
          rw [hfirst] at hfault
          rcases Transform.apply_of_valid hfirst value with ⟨next, hnext, _⟩
          rw [hnext]
          exact ih hfault next

end Rows
end QueryGateway
