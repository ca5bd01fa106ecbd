import QueryGateway.Cache.Key
import QueryGateway.Catalog.Selection
import QueryGateway.Proofs.Json.Canonical
import QueryGateway.Proofs.Json.Text
import QueryGateway.Proofs.Uuid

/-!
# What a cache key tells apart

The text that is fingerprinted determines everything that identifies a result,
except that a method not named and an empty name are not told apart.  Choosing
a method does not tell them apart either.
-/

namespace QueryGateway
namespace Cache
namespace Identity

open Catalog

structure Agree (a b : Identity) : Prop where
  systemId : a.systemId = b.systemId
  method : a.method.getD "" = b.method.getD ""
  query : a.query = b.query
  parameters : a.parameters = b.parameters
  transformations : a.transformations = b.transformations
  queryId : a.queryId = b.queryId

/-!
# From the text back to the identity
-/

theorem toJson_eq (a : Identity) :
    a.toJson = .object
      [("method", .text (a.method.getD "")), ("parameters", .object a.parameters),
       ("query", .text a.query),
       ("query_id", .ofOption (a.queryId.map fun id => .text id.render)),
       ("system_id", .text a.systemId.render),
       ("transformations", .ofTexts a.transformations)] := by
  simp only [toJson, Json.ofMembers, Dictionary.ofList, Dictionary.insertAll, Dictionary.insert,
    List.foldl_cons, List.foldl_nil, String.reduceLT, String.reduceEq, if_true, if_false]

theorem ofTexts_injective {xs ys : List String} (hsame : Json.ofTexts xs = Json.ofTexts ys) :
    xs = ys := by
  injection hsame with hitems
  exact (List.map_inj_right fun _ _ htext => Json.text.inj htext).mp hitems

theorem queryId_eq_of_json {m n : Option Uuid}
    (hsame : Json.ofOption (m.map fun id => .text id.render) =
      Json.ofOption (n.map fun id => .text id.render)) : m = n := by
  cases m with
  | none =>
      cases n with
      | none => rfl
      | some j => cases hsame
  | some i =>
      cases n with
      | none => cases hsame
      | some j =>
          injection hsame with htext
          rw [Uuid.render_injective htext]

theorem agree_of_toJson_eq {a b : Identity} (hsame : a.toJson = b.toJson) : Agree a b := by
  rw [toJson_eq, toJson_eq] at hsame
  simp only [Json.object.injEq, List.cons.injEq, Prod.mk.injEq, true_and, and_true,
    Json.text.injEq] at hsame
  rcases hsame with ⟨hmethod, hparameters, hquery, hqueryId, hsystemId, htransformations⟩
  exact
    { systemId := Uuid.render_injective hsystemId
      method := hmethod
      query := hquery
      parameters := hparameters
      transformations := ofTexts_injective htransformations
      queryId := queryId_eq_of_json hqueryId }

theorem toJson_eq_of_agree {a b : Identity} (hagree : Agree a b) : a.toJson = b.toJson := by
  rw [toJson_eq, toJson_eq, hagree.systemId, hagree.method, hagree.query, hagree.parameters,
    hagree.transformations, hagree.queryId]

theorem key_eq_of_agree (fingerprint : String -> String) {a b : Identity} (hagree : Agree a b) :
    a.key fingerprint = b.key fingerprint := by
  unfold key text
  rw [toJson_eq_of_agree hagree]

theorem agree_of_key_eq {fingerprint : String -> String}
    (hinjective : Function.Injective fingerprint) {a b : Identity}
    (hsame : a.key fingerprint = b.key fingerprint) : Agree a b := by
  injection hsame with hfingerprints
  exact agree_of_toJson_eq (Json.render_injective (hinjective hfingerprints))

/-!
# Methods not named
-/

theorem filter_nonempty_eq (requested : Option String) :
    (requested.filter fun name => !name.isEmpty) =
      if (requested.getD "").isEmpty then none else some (requested.getD "") := by
  cases requested with
  | none => rfl
  | some name =>
      cases hempty : name.isEmpty with
      | true => simp [Option.filter, hempty]
      | false => simp [Option.filter, hempty]

theorem chooseMethod_congr (system : Backend) {m n : Option String}
    (hsame : m.getD "" = n.getD "") : system.chooseMethod m = system.chooseMethod n := by
  unfold Backend.chooseMethod
  rw [filter_nonempty_eq m, filter_nonempty_eq n, hsame]

/-!
# Separation
-/

/-- Identities that are the same but for the order of members and for the empty method name. -/
structure SameRequest (a b : Identity) : Prop where
  systemId : a.systemId = b.systemId
  method : a.method.getD "" = b.method.getD ""
  query : a.query = b.query
  parameters : Json.Alike (.object a.parameters) (.object b.parameters)
  transformations : a.transformations = b.transformations
  queryId : a.queryId = b.queryId

theorem sameRequest_iff_agree {a b : Identity} (ha : Json.Canonical (.object a.parameters))
    (hb : Json.Canonical (.object b.parameters)) : SameRequest a b ↔ Agree a b := by
  constructor
  · intro hsame
    exact
      { systemId := hsame.systemId
        method := hsame.method
        query := hsame.query
        parameters := Json.object.inj ((Json.alike_iff_eq ha hb).mp hsame.parameters)
        transformations := hsame.transformations
        queryId := hsame.queryId }
  · intro hagree
    exact
      { systemId := hagree.systemId
        method := hagree.method
        query := hagree.query
        parameters := (Json.alike_iff_eq ha hb).mpr (congrArg Json.object hagree.parameters)
        transformations := hagree.transformations
        queryId := hagree.queryId }

/--
Keys are equal exactly for the same request, and then every system chooses the
same method or fails in the same way.  Numbers count as they are written: an
integer is not a real, and zero with a sign is not zero without.
-/
theorem key_eq_iff_sameRequest {fingerprint : String -> String}
    (hinjective : Function.Injective fingerprint) (a b : Identity)
    (ha : Json.Canonical (.object a.parameters)) (hb : Json.Canonical (.object b.parameters)) :
    (a.key fingerprint = b.key fingerprint ↔ SameRequest a b) ∧
      (a.key fingerprint = b.key fingerprint ->
        forall system : Backend, system.chooseMethod a.method = system.chooseMethod b.method) := by
  have hagree : a.key fingerprint = b.key fingerprint ↔ Agree a b :=
    ⟨agree_of_key_eq hinjective, key_eq_of_agree fingerprint⟩
  constructor
  · rw [hagree, sameRequest_iff_agree ha hb]
  · intro hkeys system
    exact chooseMethod_congr system (hagree.mp hkeys).method

/-- No method and an empty method name, and names of transformations that look like two. -/
theorem key_eq_iff_sameRequest_nested :
    let parameters : Members := [("filter", .object [("depth", .number (.integer 1))])]
    let named : Identity := ⟨Uuid.ofNat 1, some "", "q", parameters, ["a", "b"], none⟩
    let unnamed : Identity := ⟨Uuid.ofNat 1, none, "q", parameters, ["a", "b"], none⟩
    let joined : Identity := ⟨Uuid.ofNat 1, none, "q", parameters, ["a\",\"b"], none⟩
    named.key id = unnamed.key id ∧ unnamed.key id ≠ joined.key id ∧
      forall system : Backend, system.chooseMethod (some "") = system.chooseMethod none := by
  intro parameters named unnamed joined
  have hinner : Json.Canonical (.object [("depth", .number (.integer 1))]) := by
    refine Json.Canonical.object (List.pairwise_singleton _ _) ?_
    intro name value hmem
    cases List.mem_singleton.mp hmem
    exact Json.Canonical.number _
  have hcanonical : Json.Canonical (.object parameters) := by
    refine Json.Canonical.object (List.pairwise_singleton _ _) ?_
    intro name value hmem
    cases List.mem_singleton.mp hmem
    exact hinner
  have hunnamed :=
    key_eq_iff_sameRequest Function.injective_id named unnamed hcanonical hcanonical
  have hjoined :=
    key_eq_iff_sameRequest Function.injective_id unnamed joined hcanonical hcanonical
  have hkeys : named.key id = unnamed.key id :=
    hunnamed.left.mpr
      { systemId := rfl
        method := rfl
        query := rfl
        parameters := Json.alike_refl hcanonical
        transformations := rfl
        queryId := rfl }
  refine ⟨hkeys, ?_, hunnamed.right hkeys⟩
  intro hsame
  have htransformations := (hjoined.left.mp hsame).transformations
  revert htransformations
  decide

end Identity
end Cache
end QueryGateway
