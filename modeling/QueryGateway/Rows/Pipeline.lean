import QueryGateway.Rows.Aggregate

/-!
# Pipelines

A pipeline applies transformations one after the other, each to the result of
the one before it, and stops at the first that fails.
-/

namespace QueryGateway
namespace Rows

def project (fields : Dictionary String) (row : Json) : Json :=
  .object (fields.map fun (target, source) => (target, fieldOf row source))

def Transform.apply (transform : Transform) (input : Json) : Except Failure Json :=
  match transform with
  | .filter conditions => .ok (.array (filterRows conditions (coerce input)))
  | .map fields => .ok (.array ((coerce input).map (project fields)))
  | .sort keys => .ok (.array (sortRows keys (coerce input)))
  | .aggregate aggregation => (aggregation.apply input).map Aggregated.toJson

def applyAll (steps : List Transform) (input : Json) : Except Failure Json :=
  steps.foldlM (fun value step => step.apply value) input

end Rows
end QueryGateway
