import QueryGateway.Proofs.Schema.Tagged
import QueryGateway.Rows.Declaration

/-!
# Declared transformations are recovered

Of a declaration only the values to compare with and the names of projected
fields have a canonical form; everything else is recovered as it is.
-/

namespace QueryGateway
namespace Rows

open Schema

/-!
# Parts
-/

theorem Operator.faithful : Faithful reader toJson (fun _ => True) := by
  apply faithful_choice
  intro operator
  cases operator <;> rfl

theorem Direction.faithful : Faithful reader toJson (fun _ => True) := by
  apply faithful_choice
  intro direction
  cases direction <;> rfl

theorem MetricFunction.faithful : Faithful reader toJson (fun _ => True) := by
  apply faithful_choice
  intro function
  cases function <;> rfl

def Predicate.Canonical (p : Predicate) : Prop :=
  p.value.Canonical

theorem Predicate.faithful : Faithful reader toJson Canonical := by
  have hrecord : record.Faithful _ _ :=
    .required (faithful_text _) rfl
      (.required Operator.faithful rfl
        (.withDefault faithful_json .null rfl .nil))
  exact hrecord.build _ _ (fun p : Predicate => (p.field, p.operator, p.value, ()))
    (fun _ => rfl) (fun _ hvalue => ⟨trivial, trivial, hvalue, trivial⟩)
    (fun _ hrow => hrow.right.right.left)

theorem SortKey.faithful : Faithful reader toJson (fun _ => True) := by
  have hrecord : record.Faithful _ _ :=
    .required (faithful_text _) rfl (.withDefault Direction.faithful trivial rfl .nil)
  exact hrecord.build _ _ (fun key : SortKey => (key.field, key.direction, ()))
    (fun _ => rfl) (fun _ _ => ⟨trivial, trivial, trivial⟩) (fun _ _ => trivial)

theorem Metric.faithful : Faithful reader toJson (fun _ => True) := by
  have hrecord : record.Faithful _ _ :=
    .optional (faithful_text _) text_ne_null rfl
      (.required MetricFunction.faithful rfl
        (.optional (faithful_text _) text_ne_null rfl
          (.optional (faithful_text _) text_ne_null rfl .nil)))
  exact hrecord.build _ _
    (fun m : Metric => (m.field, m.function, m.label, m.separator, ()))
    (fun _ => rfl) (fun _ _ => by simp) (fun _ _ => trivial)

/-!
# Aggregations
-/

namespace Aggregation

def Canonical (a : Aggregation) : Prop :=
  forall p, p ∈ a.filters -> p.Canonical

def row (a : Aggregation) :
    List String × List Metric × List Predicate × List SortKey × Option UInt64 × Unit :=
  (a.groupBy, a.metrics, a.filters, a.sort, a.limit, ())

theorem record_faithful :
    record.Faithful
      (fun row => members ⟨row.1, row.2.1, row.2.2.1, row.2.2.2.1, row.2.2.2.2.1⟩)
      (fun row => forall p, p ∈ row.2.2.1 -> p.Canonical) := by
  have hrecord : record.Faithful _ _ :=
    .cons (faithful_list (faithful_text _)) (fun _ _ _ _ => trivial) (fun _ _ _ _ => trivial) rfl
      (.list Metric.faithful rfl
        (.list Predicate.faithful rfl
          (.list SortKey.faithful rfl
            (.optional faithful_count nofun rfl .nil))))
  apply hrecord.of_iff
  intro row
  simp

theorem faithful : Faithful reader toJson Canonical :=
  record_faithful.build _ _ row (fun _ => rfl) (fun _ hfilters => hfilters)
    (fun _ hfilters => hfilters)

/-- An aggregation is read from its members, in whatever order they stand. -/
theorem reader_members {a : Aggregation} (hcanonical : a.Canonical)
    {shuffled : List (String × Json)} (hperm : shuffled.Perm a.members) (extent : Json.Extent) :
    reader .buffered (.object (Json.toMembers shuffled) none none extent) = .ok a := by
  have hbuffered : Origin.buffered.isText = false := rfl
  have hfilters : forall p, p ∈ a.row.2.2.1 -> p.Canonical := hcanonical
  have hread := record_faithful.reader_toMembers "struct AggregationSpec" hbuffered hfilters hperm
    extent
  simp only [reader, hread]
  rfl

end Aggregation

/-!
# Transformations
-/

namespace Transform

def Canonical : Transform -> Prop
  | .filter conditions => forall p, p ∈ conditions -> p.Canonical
  | .map fields => Dictionary.Sorted fields
  | .sort _ => True
  | .aggregate aggregation => aggregation.Canonical

theorem filterRecord_faithful :
    filterRecord.Faithful
      (fun row => [("conditions", .array (row.1.map Predicate.toJson))])
      (fun row => forall p, p ∈ row.1 -> p.Canonical) := by
  have hrecord : filterRecord.Faithful _ _ := .list Predicate.faithful rfl .nil
  apply hrecord.of_iff
  intro row
  simp

theorem mapRecord_faithful :
    mapRecord.Faithful
      (fun row => [("fields", .object (row.1.map fun (name, path) => (name, .text path)))])
      (fun row => Dictionary.Sorted row.1) := by
  have hrecord : mapRecord.Faithful _ _ :=
    .required (faithful_dictionary (faithful_text _)) rfl .nil
  apply hrecord.of_iff
  intro row
  simp

theorem sortRecord_faithful :
    sortRecord.Faithful (fun row => [("keys", .array (row.1.map SortKey.toJson))])
      (fun _ => True) := by
  have hrecord : sortRecord.Faithful _ _ := .required (faithful_list SortKey.faithful) rfl .nil
  apply hrecord.of_iff
  intro row
  simp

theorem faithful : Faithful reader toJson Canonical where
  recovers {origin transform} _ hcanonical := by
    cases transform with
    | filter conditions =>
        have hpick : tagged.choice.pick "filter" = .ok (Tagged.fields _ filterRecord _) := rfl
        exact Tagged.reader_fields hpick filterRecord_faithful (by decide) (conditions, ())
          hcanonical origin
    | map fields =>
        have hpick : tagged.choice.pick "map" = .ok (Tagged.fields _ mapRecord _) := rfl
        exact Tagged.reader_fields hpick mapRecord_faithful (by decide) (fields, ()) hcanonical
          origin
    | sort keys =>
        have hpick : tagged.choice.pick "sort" = .ok (Tagged.fields _ sortRecord _) := rfl
        exact Tagged.reader_fields hpick sortRecord_faithful (by decide) (keys, ()) trivial origin
    | aggregate aggregation =>
        have hpick : tagged.choice.pick "aggregate" =
            .ok fun origin doc => (Aggregation.reader origin doc).map .aggregate := rfl
        have hnames : aggregation.members.map Prod.fst = Aggregation.record.names :=
          Aggregation.record_faithful.names_eq aggregation.row
        have hnodup : (tagged.tag :: aggregation.members.map Prod.fst).Nodup := by
          rw [hnames]
          decide
        apply Tagged.reader_ofMembers hpick hnodup
        intro shuffled hperm
        rw [Aggregation.reader_members hcanonical hperm]
        rfl
  canonical {origin doc transform} hread := by
    rcases Tagged.exists_variant hread with ⟨name, variant, hmem, origin, doc, hvariant⟩
    simp only [tagged, List.mem_cons, Prod.mk.injEq, List.not_mem_nil, or_false] at hmem
    rcases hmem with ⟨_, hfilter⟩ | ⟨_, hmap⟩ | ⟨_, hsort⟩ | ⟨_, haggregate⟩
    · rw [hfilter] at hvariant
      exact Tagged.canonical_fields filterRecord_faithful (fun _ hrow => hrow) hvariant
    · rw [hmap] at hvariant
      refine Tagged.canonical_fields mapRecord_faithful ?_ hvariant
      intro row hrow
      exact hrow
    · rw [hsort] at hvariant
      exact Tagged.canonical_fields sortRecord_faithful (fun _ _ => trivial) hvariant
    · rw [haggregate] at hvariant
      rcases exists_ok_of_map hvariant with ⟨aggregation, haggregation, hsame⟩
      rw [← hsame]
      exact Aggregation.faithful.canonical haggregation

end Transform

end Rows
end QueryGateway
