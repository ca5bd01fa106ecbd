import QueryGateway.Json.Path

/-!
# Where paths lead

A name without dots is a path of one step.  In an object a path goes first to the
member that its first part names, and nowhere if there is no such member.
-/

namespace QueryGateway
namespace Json

/-- A name that is also a path to what it names. -/
def Plain (name : String) : Prop :=
  name ≠ "" ∧ '.' ∉ name.toList

instance (name : String) : Decidable (Plain name) :=
  inferInstanceAs (Decidable (_ ∧ _))

def leading (path : String) : String :=
  (segments path).headD ""

theorem segments_ne_nil (path : String) : segments path ≠ [] := by
  intro hnil
  exact List.splitOn_ne_nil _ _ (List.map_eq_nil_iff.mp hnil)

theorem segments_of_plain {name : String} (hplain : Plain name) : segments name = [name] := by
  have hsplit : name.toList.splitOn '.' = [name.toList] := by
    apply List.splitOnP_eq_singleton
    intro c hmem
    rw [beq_eq_false_iff_ne]
    intro hdot
    rw [hdot] at hmem
    exact hplain.right hmem
  unfold segments
  rw [hsplit, List.map_singleton, String.ofList_toList]

theorem lookup_of_ne {path : String} (hne : path ≠ "") (value : Json) :
    lookup value path = (segments path).foldlM step? value := by
  have hnonempty : path.isEmpty ≠ true := by
    rw [ne_eq, String.isEmpty_iff]
    exact hne
  exact if_neg hnonempty

theorem lookup_of_segments {path first : String} {rest : List String} (hne : path ≠ "")
    (hsegments : segments path = first :: rest) (value : Json) :
    lookup value path = (step? value first).bind fun next => rest.foldlM step? next := by
  rw [lookup_of_ne hne, hsegments]
  rfl

/-- In an object the first part of a path names a member, and the others lead on from there. -/
theorem lookup_object {path : String} (hne : path ≠ "") (members : Members) :
    lookup (.object members) path =
      (Dictionary.find? members (leading path)).bind fun next =>
        (segments path).tail.foldlM step? next := by
  unfold leading
  cases hsegments : segments path with
  | nil => exact absurd hsegments (segments_ne_nil path)
  | cons first rest => exact lookup_of_segments hne hsegments (.object members)

theorem lookup_of_plain {name : String} (hplain : Plain name) (members : Members) :
    lookup (.object members) name = Dictionary.find? members name := by
  rw [lookup_object hplain.left]
  unfold leading
  rw [segments_of_plain hplain]
  exact Option.bind_fun_some _

theorem lookup_eq_none {path : String} (hne : path ≠ "") {members : Members}
    (hfirst : Dictionary.find? members (leading path) = none) :
    lookup (.object members) path = none := by
  rw [lookup_object hne, hfirst, Option.bind_none]

end Json
end QueryGateway
