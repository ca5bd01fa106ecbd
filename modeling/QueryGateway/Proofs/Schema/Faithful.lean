import QueryGateway.Proofs.Json.Canonical
import QueryGateway.Schema.Choice

/-!
# Readers that recover what is written

A type has a reader, a way to write its values as JSON, and values that are in
their canonical form.  The reader is faithful if it recovers these from what is
written, and never comes to a value that is not one of them.  Readers of
collections are faithful if those of their parts are.
-/

namespace QueryGateway
namespace Schema

open Json (Doc Key)

variable {α : Type}

/--
The values that can be written are recovered, from a value as well as from a
part that was taken in, and only such values are read, from whatever source.
-/
structure Faithful (reader : Reader α) (write : α -> Json) (Canonical : α -> Prop) : Prop where
  recovers : forall {origin : Origin} {x : α}, origin.isText = false -> Canonical x ->
    reader origin (write x).toDoc = .ok x
  canonical : forall {origin : Origin} {doc : Doc} {x : α}, reader origin doc = .ok x -> Canonical x

namespace Faithful

variable {reader : Reader α} {write : α -> Json} {Canonical : α -> Prop}

theorem rereads (hfaithful : Faithful reader write Canonical) {origin : Origin} {doc : Doc} {x : α}
    (hread : reader origin doc = .ok x) : reader.ofJson (write x) = .ok x :=
  hfaithful.recovers rfl (hfaithful.canonical hread)

end Faithful

theorem exists_ok_of_map {β : Type} {read : Except Fault α} {f : α -> β} {y : β}
    (hmap : read.map f = .ok y) : exists x, read = .ok x ∧ f x = y := by
  cases read with
  | error fault => cases hmap
  | ok x =>
      cases hmap
      exact ⟨x, rfl, rfl⟩

/-!
# Scalars
-/

theorem faithful_text (expected : String) :
    Faithful (readText expected) Json.text (fun _ => True) where
  recovers _ _ := rfl
  canonical _ := trivial

theorem text_ne_null (s : String) : Json.text s ≠ .null := by
  intro hsame
  cases hsame

theorem faithful_bool : Faithful readBool Json.bool (fun _ => True) where
  recovers _ _ := rfl
  canonical _ := trivial

theorem readNatural_ofNat {bound n : Nat} (hbound : n < bound) (expected : String)
    (origin : Origin) : readNatural bound expected origin (Json.ofNat n).toDoc = .ok n := by
  have hin : (0 ≤ (n : Int) && (n : Int) < (bound : Int)) = true := by
    simp [hbound]
  unfold Json.ofNat Json.toDoc readNatural
  simp only [hin, if_true, Int.toNat_natCast]

theorem faithful_natural {bound : Nat} {expected : String} {toNat : α -> Nat} {ofNat : Nat -> α}
    (hbound : forall n, toNat n < bound) (hofNat : forall n, ofNat (toNat n) = n) :
    Faithful (fun origin doc => (readNatural bound expected origin doc).map ofNat)
      (fun n => .ofNat (toNat n)) (fun _ => True) where
  recovers {origin n} _ _ := by
    rw [readNatural_ofNat (hbound n)]
    exact congrArg Except.ok (hofNat n)
  canonical _ := trivial

theorem faithful_uint64 : Faithful readUInt64 (fun n => .ofNat n.toNat) (fun _ => True) :=
  faithful_natural UInt64.toNat_lt fun _ => UInt64.ofNat_toNat

theorem faithful_count : Faithful readCount (fun n => .ofNat n.toNat) (fun _ => True) :=
  faithful_natural UInt64.toNat_lt fun _ => UInt64.ofNat_toNat

theorem faithful_uint32 : Faithful readUInt32 (fun n => .ofNat n.toNat) (fun _ => True) :=
  faithful_natural UInt32.toNat_lt fun _ => UInt32.ofNat_toNat

theorem faithful_uint16 : Faithful readUInt16 (fun n => .ofNat n.toNat) (fun _ => True) :=
  faithful_natural UInt16.toNat_lt fun _ => UInt16.ofNat_toNat

theorem faithful_parsed {expected : String} {parse : String -> Except String α}
    {render : α -> String} (hparse : forall x, parse (render x) = .ok x) :
    Faithful (readParsed expected parse) (fun x => .text (render x)) (fun _ => True) where
  recovers {origin x} _ _ := by
    simp only [Json.toDoc, readParsed, hparse x]
  canonical _ := trivial

theorem faithful_choice {choice : Choice α} {name : α -> String}
    (hpick : forall x, choice.pick (name x) = .ok x) :
    Faithful choice.reader (fun x => .text (name x)) (fun _ => True) where
  recovers {origin x} horigin _ := by
    cases origin with
    | text bytes => cases horigin
    | value =>
        simp only [Json.toDoc, Choice.reader, hpick x]
        rfl
    | buffered =>
        simp only [Json.toDoc, Choice.reader, hpick x]
        rfl
  canonical _ := trivial

/-!
# What may be null
-/

theorem faithful_option {reader : Reader α} {write : α -> Json} {Canonical : α -> Prop}
    (hfaithful : Faithful reader write Canonical) (hnull : forall x, write x ≠ .null) :
    Faithful (readOption reader) (fun o => .ofOption (o.map write))
      (fun o => forall x, o = some x -> Canonical x) where
  recovers {origin o} horigin hcanonical := by
    cases o with
    | none => rfl
    | some x =>
        have hread := hfaithful.recovers horigin (hcanonical x rfl)
        have hwritten : readOption reader origin (write x).toDoc =
            (reader origin (write x).toDoc).map some := by
          have hne := hnull x
          cases hwrite : write x with
          | null => exact absurd hwrite hne
          | _ => rfl
        show readOption reader origin (write x).toDoc = _
        rw [hwritten, hread]
        rfl
  canonical {origin doc o} hread := by
    intro x hsome
    unfold readOption at hread
    split at hread
    · cases hread
      cases hsome
    · rcases exists_ok_of_map hread with ⟨y, hy, hsame⟩
      rw [hsome] at hsame
      cases hsame
      exact hfaithful.canonical hy

/-!
# Any value
-/

theorem toMembers_eq_map (members : List (String × Json)) :
    Json.toMembers members = members.map fun (name, value) => (⟨name, 0⟩, value.toDoc) := by
  induction members with
  | nil => rfl
  | cons member rest ih => rw [Json.toMembers, ih, List.map_cons]

theorem toMembers_append (xs ys : List (String × Json)) :
    Json.toMembers (xs ++ ys) = Json.toMembers xs ++ Json.toMembers ys := by
  rw [toMembers_eq_map, toMembers_eq_map, toMembers_eq_map, List.map_append]

theorem takeInItems_toDocs {items : List Json}
    (hitems : forall item, item ∈ items -> takeIn item.toDoc = .ok item) (index : Nat) :
    takeInItems index (Json.toDocs items) = .ok items := by
  induction items generalizing index with
  | nil => rfl
  | cons item rest ih =>
      rw [Json.toDocs, takeInItems, hitems item List.mem_cons_self]
      dsimp only
      rw [ih (fun other hmem => hitems other (List.mem_cons_of_mem _ hmem))]
      rfl

theorem takeInMembers_toMembers {members : Members}
    (hmembers : forall name value, (name, value) ∈ members -> takeIn value.toDoc = .ok value) :
    takeInMembers (Json.toMembers members) = .ok members := by
  induction members with
  | nil => rfl
  | cons member rest ih =>
      rcases member with ⟨name, value⟩
      rw [Json.toMembers, takeInMembers, hmembers name value List.mem_cons_self]
      dsimp only
      rw [ih (fun other v hmem => hmembers other v (List.mem_cons_of_mem _ hmem))]
      rfl

theorem takeIn_toDoc {value : Json} (hcanonical : value.Canonical) :
    takeIn value.toDoc = .ok value := by
  induction hcanonical with
  | null => rfl
  | bool b => rfl
  | number n => rfl
  | text s => rfl
  | array hitems ih =>
      simp only [Json.toDoc, takeIn, takeInItems_toDocs ih]
  | object hsorted hmembers ih =>
      simp only [Json.toDoc, takeIn, takeInMembers_toMembers ih,
        Dictionary.ofList_of_sorted hsorted]

theorem faithful_json : Faithful readJson (fun value => value) Json.Canonical where
  recovers _ hcanonical := takeIn_toDoc hcanonical
  canonical hread := canonical_takeIn hread

/-!
# Collections
-/

section Collections

variable {reader : Reader α} {write : α -> Json} {Canonical : α -> Prop}

theorem readItems_toDocs (hfaithful : Faithful reader write Canonical) {origin : Origin}
    (horigin : origin.isText = false) {xs : List α} (hxs : forall x, x ∈ xs -> Canonical x)
    (index : Nat) :
    readItems reader origin index (Json.toDocs (xs.map write)) = .ok xs := by
  induction xs generalizing index with
  | nil => rfl
  | cons x rest ih =>
      rw [List.map_cons, Json.toDocs, readItems,
        hfaithful.recovers horigin (hxs x List.mem_cons_self)]
      dsimp only
      rw [ih (fun other hmem => hxs other (List.mem_cons_of_mem _ hmem))]
      rfl

theorem canonical_readItems (hfaithful : Faithful reader write Canonical) {origin : Origin}
    {index : Nat} {items : List Doc} {xs : List α}
    (hread : readItems reader origin index items = .ok xs) : forall x, x ∈ xs -> Canonical x := by
  induction items generalizing index xs with
  | nil =>
      cases hread
      nofun
  | cons item rest ih =>
      unfold readItems at hread
      cases hitem : reader origin item with
      | error fault => simp [hitem] at hread
      | ok first =>
          simp only [hitem] at hread
          rcases exists_ok_of_map hread with ⟨others, hothers, hsame⟩
          intro x hmem
          rw [← hsame] at hmem
          rcases List.mem_cons.mp hmem with heq | hmem
          · rw [heq]
            exact hfaithful.canonical hitem
          · exact ih hothers x hmem

theorem faithful_list (hfaithful : Faithful reader write Canonical) :
    Faithful (readList reader) (fun xs => .array (xs.map write))
      (fun xs => forall x, x ∈ xs -> Canonical x) where
  recovers {origin xs} horigin hxs := by
    simp only [Json.toDoc, readList, readItems_toDocs hfaithful horigin hxs]
  canonical {origin doc xs} hread := by
    unfold readList at hread
    split at hread
    · rename_i items broken _ _
      cases hitems : readItems reader origin 0 items with
      | error fault => simp [hitems] at hread
      | ok values =>
          cases broken with
          | some fault => simp [hitems] at hread
          | none =>
              simp only [hitems, Except.ok.injEq] at hread
              rw [← hread]
              exact canonical_readItems hfaithful hitems
    · cases hread

theorem readEntries_toMembers (hfaithful : Faithful reader write Canonical) {origin : Origin}
    (horigin : origin.isText = false) {entries : Dictionary α}
    (hentries : forall name x, (name, x) ∈ entries -> Canonical x) :
    readEntries reader origin
        (Json.toMembers (entries.map fun (name, x) => (name, write x))) = .ok entries := by
  induction entries with
  | nil => rfl
  | cons entry rest ih =>
      rcases entry with ⟨name, x⟩
      rw [List.map_cons, Json.toMembers, readEntries,
        hfaithful.recovers horigin (hentries name x List.mem_cons_self)]
      dsimp only
      rw [ih (fun other v hmem => hentries other v (List.mem_cons_of_mem _ hmem))]
      rfl

theorem canonical_readEntries (hfaithful : Faithful reader write Canonical)
    {origin : Origin} {members : List (Key × Doc)} {entries : List (String × α)}
    (hread : readEntries reader origin members = .ok entries) :
    forall name x, (name, x) ∈ entries -> Canonical x := by
  induction members generalizing entries with
  | nil =>
      cases hread
      nofun
  | cons member rest ih =>
      rcases member with ⟨key, doc⟩
      unfold readEntries at hread
      cases hdoc : reader origin doc with
      | error fault => simp [hdoc] at hread
      | ok first =>
          simp only [hdoc] at hread
          rcases exists_ok_of_map hread with ⟨others, hothers, hsame⟩
          intro name x hmem
          rw [← hsame] at hmem
          rcases List.mem_cons.mp hmem with heq | hmem
          · injection heq with _ hx
            rw [hx]
            exact hfaithful.canonical hdoc
          · exact ih hothers name x hmem

theorem faithful_dictionary (hfaithful : Faithful reader write Canonical) :
    Faithful (readDictionary reader)
      (fun entries => .object (entries.map fun (name, x) => (name, write x)))
      (fun entries => Dictionary.Sorted entries ∧
        forall name x, (name, x) ∈ entries -> Canonical x) where
  recovers {origin entries} horigin hentries := by
    simp only [Json.toDoc, readDictionary,
      readEntries_toMembers hfaithful horigin hentries.right,
      Dictionary.ofList_of_sorted hentries.left]
  canonical {origin doc entries} hread := by
    unfold readDictionary at hread
    split at hread
    · rename_i members broken _ _
      cases hmembers : readEntries reader origin members with
      | error fault => simp [hmembers] at hread
      | ok values =>
          cases broken with
          | some fault => simp [hmembers] at hread
          | none =>
              simp only [hmembers, Except.ok.injEq] at hread
              rw [← hread]
              refine ⟨Dictionary.sorted_ofList values, ?_⟩
              intro name x hmem
              exact canonical_readEntries hfaithful hmembers name x
                (Dictionary.mem_ofList hmem)
    · cases hread

end Collections

theorem Faithful.congr {reader : Reader α} {write write' : α -> Json}
    {Canonical Canonical' : α -> Prop} (hfaithful : Faithful reader write Canonical)
    (hwrite : forall x, write' x = write x) (hcanonical : forall x, Canonical' x ↔ Canonical x) :
    Faithful reader write' Canonical' where
  recovers {origin x} horigin hx := by
    rw [hwrite x]
    exact hfaithful.recovers horigin ((hcanonical x).mp hx)
  canonical {origin doc x} hread := (hcanonical x).mpr (hfaithful.canonical hread)

theorem canonical_object_iff {members : Members} :
    Json.Canonical (.object members) ↔
      Dictionary.Sorted members ∧
        forall name value, (name, value) ∈ members -> Json.Canonical value := by
  constructor
  · intro hcanonical
    cases hcanonical with
    | object hsorted hmembers => exact ⟨hsorted, hmembers⟩
  · rintro ⟨hsorted, hmembers⟩
    exact Json.Canonical.object hsorted hmembers

theorem canonical_nil : Json.Canonical (.object []) :=
  Json.Canonical.object Dictionary.sorted_nil nofun

theorem faithful_members :
    Faithful readMembers Json.object (fun members => Json.Canonical (.object members)) := by
  apply (faithful_dictionary faithful_json).congr
  · intro members
    rw [List.map_id'']
    intro member
    rfl
  · intro members
    exact canonical_object_iff

end Schema
end QueryGateway
