import QueryGateway.Proofs.Schema.Record

/-!
# Tagged alternatives that are recovered

The tag is found among the other members wherever it stands, and the rest is
read by the alternative that it names.  What is read was read by one of the
alternatives.
-/

namespace QueryGateway
namespace Schema

open Json (Doc Key)

/-!
# Taking in a value
-/

mutual

theorem exists_takeIn : forall value : Json, exists taken, takeIn value.toDoc = .ok taken
  | .null => ⟨_, rfl⟩
  | .bool _ => ⟨_, rfl⟩
  | .number _ => ⟨_, rfl⟩
  | .text _ => ⟨_, rfl⟩
  | .array items => by
      rcases exists_takeInItems items 0 with ⟨taken, htaken⟩
      exact ⟨.array taken, by simp only [Json.toDoc, takeIn, htaken]⟩
  | .object members => by
      rcases exists_takeInMembers members with ⟨taken, htaken⟩
      exact ⟨.object (Dictionary.ofList taken), by simp only [Json.toDoc, takeIn, htaken]⟩

theorem exists_takeInItems : forall (items : List Json) (index : Nat),
    exists taken, takeInItems index (Json.toDocs items) = .ok taken
  | [], _ => ⟨[], rfl⟩
  | item :: items, index => by
      rcases exists_takeIn item with ⟨first, hfirst⟩
      rcases exists_takeInItems items (index + 1) with ⟨rest, hrest⟩
      exact ⟨first :: rest, by simp only [Json.toDocs, takeInItems, hfirst, hrest, Except.map]⟩

theorem exists_takeInMembers : forall members : List (String × Json),
    exists taken, takeInMembers (Json.toMembers members) = .ok taken
  | [] => ⟨[], rfl⟩
  | (name, value) :: members => by
      rcases exists_takeIn value with ⟨first, hfirst⟩
      rcases exists_takeInMembers members with ⟨rest, hrest⟩
      exact ⟨(name, first) :: rest,
        by simp only [Json.toMembers, takeInMembers, hfirst, hrest, Except.map]⟩

end

namespace Tagged

variable {α τ : Type} {tagged : Tagged α}

/-!
# Finding the tag
-/

theorem collect_of_others {origin : Origin} {members : List (String × Json)}
    (hothers : tagged.tag ∉ members.map Prod.fst) (found : Option (Reader α)) (left : Nat) :
    exists stop, tagged.collect origin found left (Json.toMembers members) =
      .ok (found, Json.toMembers members, stop) := by
  induction members generalizing left with
  | nil => exact ⟨left, rfl⟩
  | cons member members ih =>
      rcases member with ⟨name, value⟩
      have hname : name ≠ tagged.tag := by
        intro hsame
        apply hothers
        rw [← hsame]
        exact List.mem_cons_self
      rcases exists_takeIn value with ⟨taken, htaken⟩
      rcases ih (fun hmem => hothers (List.mem_cons_of_mem _ hmem)) value.toDoc.stop with
        ⟨stop, hrest⟩
      refine ⟨stop, ?_⟩
      simp only [Json.toMembers, collect, hname, if_false, htaken, hrest]
      rfl

theorem collect_of_tag {name : String} {reader : Reader α}
    (hpick : tagged.choice.pick name = .ok reader) {before after : List (String × Json)}
    (hothers : tagged.tag ∉ (before ++ after).map Prod.fst) (origin : Origin) (left : Nat) :
    exists stop,
      tagged.collect origin none left
          (Json.toMembers (before ++ (tagged.tag, .text name) :: after)) =
        .ok (some reader, Json.toMembers (before ++ after), stop) := by
  induction before generalizing left with
  | nil =>
      have hpicked : tagged.choice.readPicked origin (Json.text name).toDoc = .ok reader := by
        simp only [Json.toDoc, Choice.readPicked, Choice.readName, readText, hpick]
        rfl
      simp only [List.nil_append, Json.toMembers, collect, if_true, hpicked]
      exact collect_of_others hothers (some reader) _
  | cons member before ih =>
      rcases member with ⟨other, value⟩
      have hother : other ≠ tagged.tag := by
        intro hsame
        apply hothers
        rw [← hsame]
        exact List.mem_cons_self
      rcases exists_takeIn value with ⟨taken, htaken⟩
      rcases ih (fun hmem => hothers (List.mem_cons_of_mem _ hmem)) value.toDoc.stop with
        ⟨stop, hrest⟩
      refine ⟨stop, ?_⟩
      simp only [List.cons_append, Json.toMembers, collect, hother, if_false, htaken, hrest]
      rfl

/-- An alternative is read from its tag and its members, in whatever order they are written. -/
theorem reader_ofMembers {name : String} {reader : Reader α}
    (hpick : tagged.choice.pick name = .ok reader) {members : List (String × Json)}
    (hnodup : (tagged.tag :: members.map Prod.fst).Nodup) {x : α}
    (hreads : forall shuffled, List.Perm shuffled members ->
      reader .buffered (.object (Json.toMembers shuffled) none none Json.nowhere) = .ok x)
    (origin : Origin) :
    tagged.reader origin (Json.ofMembers ((tagged.tag, .text name) :: members)).toDoc = .ok x := by
  have hperm : (Dictionary.ofList ((tagged.tag, .text name) :: members)).Perm
      ((tagged.tag, .text name) :: members) := Dictionary.ofList_perm hnodup
  have hmem := hperm.mem_iff.mpr List.mem_cons_self
  rcases List.append_of_mem hmem with ⟨before, after, hsplit⟩
  rw [hsplit] at hperm
  have hothers : (before ++ after).Perm members :=
    List.Perm.cons_inv (List.perm_middle.symm.trans hperm)
  have hapart : tagged.tag ∉ (before ++ after).map Prod.fst := by
    rw [(hothers.map Prod.fst).mem_iff]
    exact (List.nodup_cons.mp hnodup).left
  rcases collect_of_tag hpick hapart origin (Json.nowhere.start + 1) with ⟨stop, hcollect⟩
  simp only [Json.ofMembers, hsplit, Json.toDoc, Tagged.reader, hcollect]
  exact hreads _ hothers

/-!
# Which alternative was read
-/

theorem mem_of_readPicked {origin : Origin} {doc : Doc} {reader : Reader α}
    (hpicked : tagged.choice.readPicked origin doc = .ok reader) :
    exists name, (name, reader) ∈ tagged.variants := by
  unfold Choice.readPicked at hpicked
  split at hpicked
  · cases hpicked
  · rename_i name _
    unfold Choice.pick choice at hpicked
    dsimp only at hpicked
    cases hfound : tagged.variants.find? (·.1 == name) with
    | none =>
        rw [hfound] at hpicked
        cases hpicked
    | some variant =>
        rw [hfound] at hpicked
        cases hpicked
        exact ⟨variant.1, List.mem_of_find?_eq_some hfound⟩

theorem mem_of_collect {origin : Origin} {found : Option (Reader α)} {left : Nat}
    {members others : List (Key × Doc)} {reader : Reader α} {stop : Nat}
    (hcollect : tagged.collect origin found left members = .ok (some reader, others, stop))
    (hfound : forall earlier, found = some earlier ->
      exists name, (name, earlier) ∈ tagged.variants) :
    exists name, (name, reader) ∈ tagged.variants := by
  induction members generalizing found left others stop with
  | nil =>
      cases hcollect
      exact hfound reader rfl
  | cons member members ih =>
      rcases member with ⟨key, value⟩
      unfold collect at hcollect
      split at hcollect
      · split at hcollect
        · cases hcollect
        · split at hcollect
          · cases hcollect
          · rename_i picked hpicked
            apply ih hcollect
            intro earlier hsame
            cases hsame
            exact mem_of_readPicked hpicked
      · split at hcollect
        · cases hcollect
        · rcases exists_ok_of_map hcollect with ⟨⟨later, rest, stop'⟩, hrest, hsame⟩
          cases hsame
          exact ih hrest hfound

theorem exists_variant {origin : Origin} {doc : Doc} {x : α}
    (hread : tagged.reader origin doc = .ok x) :
    exists name reader, (name, reader) ∈ tagged.variants ∧
      exists origin doc, reader origin doc = .ok x := by
  unfold Tagged.reader at hread
  split at hread
  · split at hread
    · cases hread
    · cases hread
    · cases hread
    · rename_i reader others stop hcollect
      rcases mem_of_collect hcollect nofun with ⟨name, hmem⟩
      exact ⟨name, reader, hmem, _, _, hread⟩
  · split at hread
    · cases hread
    · cases hread
  · split at hread
    · cases hread
    · rename_i reader hpicked
      rcases mem_of_readPicked hpicked with ⟨name, hmem⟩
      split at hread
      · cases hread
      · cases hread
      · exact ⟨name, reader, hmem, _, _, hread⟩
  · cases hread

/-!
# Alternatives with fields
-/

theorem reader_fields {name kind : String} {record : Record τ} {build : τ -> α}
    (hpick : tagged.choice.pick name = .ok (fields kind record build))
    {members : τ -> List (String × Json)} {Canonical : τ -> Prop}
    (hfaithful : record.Faithful members Canonical) (htag : tagged.tag ∉ record.names) (row : τ)
    (hrow : Canonical row) (origin : Origin) :
    tagged.reader origin (Json.ofMembers ((tagged.tag, .text name) :: members row)).toDoc =
      .ok (build row) := by
  apply reader_ofMembers hpick
  · rw [hfaithful.names_eq]
    exact List.nodup_cons.mpr ⟨htag, hfaithful.nodup⟩
  · intro shuffled hperm
    have hbuffered : Origin.buffered.isText = false := rfl
    have hread := hfaithful.reader_toMembers ("struct variant " ++ kind) hbuffered hrow hperm
      Json.nowhere
    simp only [fields, hread]
    rfl

theorem canonical_fields {kind : String} {record : Record τ} {build : τ -> α}
    {members : τ -> List (String × Json)} {CanonicalRow : τ -> Prop}
    (hfaithful : record.Faithful members CanonicalRow) {Canonical : α -> Prop}
    (hbuild : forall row, CanonicalRow row -> Canonical (build row)) {origin : Origin} {doc : Doc}
    {x : α} (hread : fields kind record build origin doc = .ok x) : Canonical x := by
  rcases exists_ok_of_map hread with ⟨row, hrow, hsame⟩
  rw [← hsame]
  exact hbuild row (hfaithful.canonical_of_drawn (Record.drawn_reader hrow))

theorem eq_of_empty {value x : α} {origin : Origin} {doc : Doc}
    (hread : empty value origin doc = .ok x) : x = value := by
  unfold empty at hread
  split at hread
  · split at hread
    · cases hread
      rfl
    · cases hread
  · cases hread
    rfl

end Tagged
end Schema
end QueryGateway
