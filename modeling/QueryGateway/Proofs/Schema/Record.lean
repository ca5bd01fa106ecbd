import QueryGateway.Proofs.Schema.Faithful

/-!
# Records that recover what is written

A record whose fields have faithful readers recovers a row from the members
that are written of it, whatever their order.  A row that is read is drawn from
what the readers of its fields read and from their defaults, whether it comes
from an object or from a list.
-/

namespace QueryGateway
namespace Schema
namespace Record

open Json (Doc Key)

variable {τ : Type}

def names : {τ : Type} -> Record τ -> List String
  | _, .nil => []
  | _, .cons field rest => field.name :: rest.names

/--
Records with faithful readers and canonical defaults, none of whose fields
answers to the name of a later one: what is written of a row, and when a row is
canonical.
-/
inductive Faithful : {τ : Type} -> Record τ -> (τ -> List (String × Json)) -> (τ -> Prop) ->
    Prop where
  | nil : Faithful .nil (fun _ => []) (fun _ => True)
  | cons {α β : Type} {field : Field α} {rest : Record β} {write : α -> Json}
      {Canonical : α -> Prop} {members : β -> List (String × Json)} {CanonicalRest : β -> Prop}
      (hfield : Schema.Faithful field.reader write Canonical)
      (habsent : forall x, field.absent = some x -> Canonical x)
      (homitted : forall x, field.omitted = some x -> Canonical x)
      (hapart : (rest.names.all fun name => !field.answersTo name) = true)
      (hrest : Faithful rest members CanonicalRest) :
      Faithful (.cons field rest) (fun row => (field.name, write row.1) :: members row.2)
        (fun row => Canonical row.1 ∧ CanonicalRest row.2)

section Fields

variable {α β : Type} {name : String} {reader : Reader α} {write : α -> Json}
  {Canonical : α -> Prop} {rest : Record β} {members : β -> List (String × Json)}
  {CanonicalRest : β -> Prop}

theorem Faithful.required (hreader : Schema.Faithful reader write Canonical)
    (hapart : (rest.names.all fun other => !(Field.required name reader).answersTo other) = true)
    (hrest : Faithful rest members CanonicalRest) :
    Faithful (.cons (.required name reader) rest)
      (fun row => (name, write row.1) :: members row.2)
      (fun row => Canonical row.1 ∧ CanonicalRest row.2) :=
  .cons hreader nofun nofun hapart hrest

theorem Faithful.withDefault (hreader : Schema.Faithful reader write Canonical) {value : α}
    (hvalue : Canonical value)
    (hapart : (rest.names.all fun other =>
      !(Field.withDefault name reader value).answersTo other) = true)
    (hrest : Faithful rest members CanonicalRest) :
    Faithful (.cons (.withDefault name reader value) rest)
      (fun row => (name, write row.1) :: members row.2)
      (fun row => Canonical row.1 ∧ CanonicalRest row.2) := by
  have hdefault : forall x, some value = some x -> Canonical x := by
    intro x hsame
    cases hsame
    exact hvalue
  exact .cons hreader hdefault hdefault hapart hrest

theorem Faithful.optional (hreader : Schema.Faithful reader write Canonical)
    (hnull : forall x, write x ≠ .null)
    (hapart : (rest.names.all fun other => !(Field.optional name reader).answersTo other) = true)
    (hrest : Faithful rest members CanonicalRest) :
    Faithful (.cons (.optional name reader) rest)
      (fun row => (name, .ofOption (row.1.map write)) :: members row.2)
      (fun row => (forall x, row.1 = some x -> Canonical x) ∧ CanonicalRest row.2) :=
  Faithful.withDefault (faithful_option hreader hnull) nofun hapart hrest

theorem Faithful.list (hreader : Schema.Faithful reader write Canonical)
    (hapart : (rest.names.all fun other =>
      !(Field.withDefault name (readList reader) []).answersTo other) = true)
    (hrest : Faithful rest members CanonicalRest) :
    Faithful (.cons (.withDefault name (readList reader) []) rest)
      (fun row => (name, .array (row.1.map write)) :: members row.2)
      (fun row => (forall x, x ∈ row.1 -> Canonical x) ∧ CanonicalRest row.2) :=
  Faithful.withDefault (faithful_list hreader) nofun hapart hrest

theorem Faithful.of_iff {record : Record τ} {members : τ -> List (String × Json)}
    {Canonical Canonical' : τ -> Prop} (hfaithful : record.Faithful members Canonical)
    (hiff : forall row, Canonical' row ↔ Canonical row) : record.Faithful members Canonical' := by
  have hsame : Canonical' = Canonical := funext fun row => propext (hiff row)
  rw [hsame]
  exact hfaithful

end Fields

theorem Faithful.names_eq {record : Record τ} {members : τ -> List (String × Json)}
    {Canonical : τ -> Prop} (hfaithful : record.Faithful members Canonical) (row : τ) :
    (members row).map Prod.fst = record.names := by
  induction hfaithful with
  | nil => rfl
  | cons hfield habsent homitted hapart hrest ih => exact congrArg (_ :: ·) (ih row.2)

theorem Faithful.nodup {record : Record τ} {members : τ -> List (String × Json)}
    {Canonical : τ -> Prop} (hfaithful : record.Faithful members Canonical) :
    record.names.Nodup := by
  induction hfaithful with
  | nil => exact List.nodup_nil
  | @cons α β field rest write _ members _ hfield habsent homitted hapart hrest ih =>
      refine List.nodup_cons.mpr ⟨?_, ih⟩
      intro hmem
      have hother := List.all_eq_true.mp hapart field.name hmem
      simp [Field.answersTo] at hother

/-!
# Reading an object
-/

section Feeding

variable {α β : Type} {origin : Origin} {field : Field α} {rest : Record β}

theorem feed_of_other {name : String} (hother : field.answersTo name = false) (value : Doc)
    (slot : Option α) (others : rest.Slots) :
    feed origin name value (.cons field rest) (slot, others) =
      (feed origin name value rest others).map fun others => (slot, others) := by
  simp only [feed, hother, Bool.false_eq_true, if_false]

theorem feedAll_of_other {key : Key} {value : Doc} {members : List (Key × Doc)}
    {others : rest.Slots} {left : Nat} {final : rest.Slots × Nat}
    (hother : field.answersTo key.name = false)
    (hread : feedAll origin rest others left ((key, value) :: members) = .ok final) :
    exists next, feedAll origin rest next value.stop members = .ok final ∧
      forall slot start further,
        feedAll origin (.cons field rest) (slot, others) start ((key, value) :: further) =
          feedAll origin (.cons field rest) (slot, next) value.stop further := by
  unfold feedAll at hread
  cases hfeed : feed origin key.name value rest others with
  | unknown =>
      rw [hfeed] at hread
      cases hskip : value.skipFault with
      | some fault => simp [hskip] at hread
      | none =>
          simp only [hskip] at hread
          refine ⟨others, hread, ?_⟩
          intro slot start further
          rw [feedAll, feed_of_other hother, hfeed]
          simp only [Feeding.map, hskip]
  | duplicate name =>
      rw [hfeed] at hread
      cases hread
  | read slots =>
      rw [hfeed] at hread
      cases slots with
      | error fault => cases hread
      | ok next =>
          refine ⟨next, hread, ?_⟩
          intro slot start further
          rw [feedAll, feed_of_other hother, hfeed]
          rfl

theorem feedAll_of_others {members : List (Key × Doc)} {others : rest.Slots} {left : Nat}
    {final : rest.Slots × Nat}
    (hothers : forall member, member ∈ members -> field.answersTo member.1.name = false)
    (hread : feedAll origin rest others left members = .ok final) (slot : Option α) (start : Nat) :
    exists stop, feedAll origin (.cons field rest) (slot, others) start members =
      .ok ((slot, final.1), stop) := by
  induction members generalizing others left start with
  | nil =>
      cases hread
      exact ⟨start, rfl⟩
  | cons member members ih =>
      rcases feedAll_of_other (hothers member List.mem_cons_self) hread with ⟨next, hnext, hstep⟩
      rw [hstep]
      exact ih (fun other hmem => hothers other (List.mem_cons_of_mem _ hmem)) hnext _

theorem feedAll_of_member {before after : List (Key × Doc)} {key : Key} {value : Doc} {x : α}
    {others : rest.Slots} {left : Nat} {final : rest.Slots × Nat}
    (hkey : field.answersTo key.name = true) (hvalue : field.reader origin value = .ok x)
    (hothers : forall member, member ∈ before ++ after -> field.answersTo member.1.name = false)
    (hread : feedAll origin rest others left (before ++ after) = .ok final) (start : Nat) :
    exists stop,
      feedAll origin (.cons field rest) (none, others) start (before ++ (key, value) :: after) =
        .ok ((some x, final.1), stop) := by
  induction before generalizing others left start with
  | nil =>
      have hfeed : feed origin key.name value (.cons field rest) (none, others) =
          .read (.ok (some x, others)) := by
        simp only [feed, hkey, if_true, hvalue]
        rfl
      rw [List.nil_append, feedAll, hfeed]
      exact feedAll_of_others hothers hread (some x) value.stop
  | cons member before ih =>
      rcases feedAll_of_other (hothers member List.mem_cons_self) hread with ⟨next, hnext, hstep⟩
      rw [List.cons_append, hstep]
      exact ih (fun other hmem => hothers other (List.mem_cons_of_mem _ hmem)) hnext _

end Feeding

theorem Faithful.feedAll_toMembers {record : Record τ} {members : τ -> List (String × Json)}
    {Canonical : τ -> Prop} (hfaithful : record.Faithful members Canonical) {origin : Origin}
    (horigin : origin.isText = false) {row : τ} (hrow : Canonical row)
    {shuffled : List (String × Json)} (hperm : shuffled.Perm (members row)) (start : Nat) :
    exists slots stop,
      feedAll origin record record.emptySlots start (Json.toMembers shuffled) =
          .ok (slots, stop) ∧
        record.finish slots = .ok row := by
  induction hfaithful generalizing shuffled start with
  | nil =>
      rw [hperm.eq_nil]
      exact ⟨(), start, rfl, rfl⟩
  | @cons α β field rest write _ members _ hfield habsent homitted hapart hrest ih =>
      rcases row with ⟨x, row⟩
      have hmem : (field.name, write x) ∈ shuffled := hperm.mem_iff.mpr List.mem_cons_self
      rcases List.append_of_mem hmem with ⟨before, after, hsplit⟩
      have hothers : (before ++ after).Perm (members row) := by
        rw [hsplit] at hperm
        exact List.Perm.cons_inv (List.perm_middle.symm.trans hperm)
      rcases ih hrow.right hothers start with ⟨slots, stop, hread, hfinish⟩
      have hname : field.answersTo (Key.mk field.name 0).name = true := by
        simp [Field.answersTo]
      have hanswers : forall member,
          member ∈ Json.toMembers before ++ Json.toMembers after ->
            field.answersTo member.1.name = false := by
        intro member hmember
        rw [← toMembers_append, toMembers_eq_map] at hmember
        rcases List.mem_map.mp hmember with ⟨other, hother, hsame⟩
        have hwritten : other.1 ∈ rest.names := by
          rw [← hrest.names_eq row]
          exact List.mem_map_of_mem (hothers.mem_iff.mp hother)
        rw [← hsame]
        simpa using List.all_eq_true.mp hapart other.1 hwritten
      rw [toMembers_append] at hread
      rcases feedAll_of_member hname (hfield.recovers horigin hrow.left) hanswers hread start with
        ⟨stop', hall⟩
      refine ⟨(some x, slots), stop', ?_, ?_⟩
      · rw [hsplit, toMembers_append]
        exact hall
      · simp only [finish, Option.some_or, hfinish]
        rfl

theorem Faithful.reader_toMembers {record : Record τ} {members : τ -> List (String × Json)}
    {Canonical : τ -> Prop} (hfaithful : record.Faithful members Canonical) (kind : String)
    {origin : Origin} (horigin : origin.isText = false) {row : τ} (hrow : Canonical row)
    {shuffled : List (String × Json)} (hperm : shuffled.Perm (members row)) (extent : Json.Extent) :
    record.reader kind origin (.object (Json.toMembers shuffled) none none extent) = .ok row := by
  rcases hfaithful.feedAll_toMembers horigin hrow hperm (extent.start + 1) with
    ⟨slots, stop, hread, hfinish⟩
  simp only [reader, hread, hfinish]
  rfl

/-!
# Where the values of a row come from
-/

def Given : {τ : Type} -> (record : Record τ) -> record.Slots -> Prop
  | _, .nil, _ => True
  | _, @cons α _ field rest, slots =>
      let (slot, others) : Option α × rest.Slots := slots
      (forall x, slot = some x -> exists origin doc, field.reader origin doc = .ok x) ∧
        rest.Given others

/-- Each value of a row was read by the reader of its field, or is a default. -/
def Drawn : {τ : Type} -> Record τ -> τ -> Prop
  | _, .nil, _ => True
  | _, .cons field rest, row =>
      ((exists origin doc, field.reader origin doc = .ok row.1) ∨ field.absent = some row.1 ∨
        field.omitted = some row.1) ∧ rest.Drawn row.2

theorem given_emptySlots : forall {τ : Type} (record : Record τ), record.Given record.emptySlots
  | _, .nil => trivial
  | _, .cons _ rest => ⟨nofun, given_emptySlots rest⟩

theorem given_feed {origin : Origin} {name : String} {value : Doc} :
    forall {τ : Type} {record : Record τ} {slots after : record.Slots},
      feed origin name value record slots = .read (.ok after) -> record.Given slots ->
        record.Given after
  | _, .nil, slots, after, hfeed, _ => by
      cases hfeed
  | _, @cons α β field rest, (slot, others), after, hfeed, hgiven => by
      unfold feed at hfeed
      dsimp only at hfeed
      split at hfeed
      · cases slot with
        | some x => cases hfeed
        | none =>
            injection hfeed with hread
            rcases exists_ok_of_map hread with ⟨x, hx, hsame⟩
            rw [← hsame]
            refine ⟨?_, hgiven.right⟩
            intro y hy
            cases hy
            exact ⟨origin, value, hx⟩
      · cases hrest : feed origin name value rest others with
        | unknown =>
            rw [hrest] at hfeed
            cases hfeed
        | duplicate name =>
            rw [hrest] at hfeed
            cases hfeed
        | read next =>
            rw [hrest] at hfeed
            injection hfeed with hmap
            rcases exists_ok_of_map hmap with ⟨others', hothers', hsame⟩
            rw [hothers'] at hrest
            rw [← hsame]
            exact ⟨hgiven.left, given_feed hrest hgiven.right⟩

theorem given_feedAll {origin : Origin} {record : Record τ} {members : List (Key × Doc)}
    {slots : record.Slots} {left : Nat} {final : record.Slots × Nat}
    (hread : feedAll origin record slots left members = .ok final) (hgiven : record.Given slots) :
    record.Given final.1 := by
  induction members generalizing slots left with
  | nil =>
      cases hread
      exact hgiven
  | cons member members ih =>
      rcases member with ⟨key, value⟩
      unfold feedAll at hread
      split at hread
      · split at hread
        · cases hread
        · exact ih hread hgiven
      · cases hread
      · cases hread
      · rename_i next hfeed
        exact ih hread (given_feed hfeed hgiven)

theorem drawn_finish : forall {τ : Type} {record : Record τ} {slots : record.Slots} {row : τ},
    record.finish slots = .ok row -> record.Given slots -> record.Drawn row
  | _, .nil, _, _, _, _ => trivial
  | _, @cons α β field rest, (slot, others), row, hfinish, hgiven => by
      unfold finish at hfinish
      dsimp only at hfinish
      split at hfinish
      · cases hfinish
      · rename_i x hx
        cases hrest : rest.finish others with
        | error cause =>
            rw [hrest] at hfinish
            cases hfinish
        | ok values =>
            rw [hrest] at hfinish
            cases hfinish
            refine ⟨?_, drawn_finish hrest hgiven.right⟩
            cases slot with
            | some y =>
                cases hx
                exact .inl (hgiven.left x rfl)
            | none => exact .inr (.inl hx)

theorem drawn_takeItems {origin : Origin} {expected : String} :
    forall {τ : Type} {record : Record τ} {broken : Option Json.SyntaxFault} {index left : Nat}
      {items : List Doc} {row : τ} {surplus : List Doc × Nat},
      takeItems origin expected broken record index left items = .ok (row, surplus) ->
        record.Drawn row
  | _, .nil, _, _, _, _, _, _, _ => trivial
  | _, .cons field rest, broken, index, left, item :: items, row, surplus, htaken => by
      unfold takeItems at htaken
      split at htaken
      · cases htaken
      · rename_i x hx
        split at htaken
        · cases htaken
        · rename_i values left' hrest
          cases htaken
          exact ⟨.inl ⟨origin, item, hx⟩, drawn_takeItems hrest⟩
  | _, .cons field rest, broken, index, left, [], row, surplus, htaken => by
      unfold takeItems at htaken
      split at htaken
      · cases htaken
      · cases htaken
      · rename_i x hx
        split at htaken
        · cases htaken
        · rename_i values left' hrest
          cases htaken
          exact ⟨.inr (.inr hx), drawn_takeItems hrest⟩

theorem drawn_reader {record : Record τ} {kind : String} {origin : Origin} {doc : Doc} {row : τ}
    (hread : record.reader kind origin doc = .ok row) : record.Drawn row := by
  unfold reader at hread
  split at hread
  · dsimp only at hread
    split at hread
    · cases hread
    · rename_i values surplus left htaken
      split at hread
      · cases hread
      · cases hread
        exact drawn_takeItems htaken
  · split at hread
    · cases hread
    · rename_i slots left hall
      split at hread
      · cases hread
      · cases hfinish : record.finish slots with
        | error cause =>
            rw [hfinish] at hread
            cases hread
        | ok values =>
            rw [hfinish] at hread
            cases hread
            exact drawn_finish hfinish (given_feedAll hall (given_emptySlots record))
  · cases hread

theorem Faithful.canonical_of_drawn {record : Record τ} {members : τ -> List (String × Json)}
    {Canonical : τ -> Prop} (hfaithful : record.Faithful members Canonical) {row : τ}
    (hdrawn : record.Drawn row) : Canonical row := by
  induction hfaithful with
  | nil => trivial
  | cons hfield habsent homitted hapart hrest ih =>
      refine ⟨?_, ih hdrawn.right⟩
      rcases hdrawn.left with ⟨origin, doc, hread⟩ | hdefault | hdefault
      · exact hfield.canonical hread
      · exact habsent _ hdefault
      · exact homitted _ hdefault

/-!
# Types that are read as records
-/

theorem Faithful.build {α : Type} {record : Record τ} {members : τ -> List (String × Json)}
    {CanonicalRow : τ -> Prop} (hfaithful : record.Faithful members CanonicalRow) (kind : String)
    (build : τ -> α) (parts : α -> τ) {Canonical : α -> Prop}
    (hparts : forall x, build (parts x) = x)
    (hwritten : forall x, Canonical x -> CanonicalRow (parts x))
    (hread : forall row, CanonicalRow row -> Canonical (build row)) :
    Schema.Faithful (fun origin doc => (record.reader kind origin doc).map build)
      (fun x => .ofMembers (members (parts x))) Canonical where
  recovers {origin x} horigin hx := by
    have hnodup : ((members (parts x)).map Prod.fst).Nodup := by
      rw [hfaithful.names_eq]
      exact hfaithful.nodup
    have hrow := hfaithful.reader_toMembers kind horigin (hwritten x hx)
      (Dictionary.ofList_perm hnodup) Json.nowhere
    simp only [Json.ofMembers, Json.toDoc, hrow]
    exact congrArg Except.ok (hparts x)
  canonical {origin doc x} hx := by
    rcases exists_ok_of_map hx with ⟨row, hrow, hsame⟩
    rw [← hsame]
    exact hread row (hfaithful.canonical_of_drawn (drawn_reader hrow))

end Record
end Schema
end QueryGateway
