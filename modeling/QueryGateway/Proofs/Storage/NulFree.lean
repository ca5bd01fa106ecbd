import Mathlib.Data.List.Nodup
import QueryGateway.Proofs.Json.Canonical
import QueryGateway.Storage.LogTable

/-!
# Removing NUL

What is bound to a statement holds no NUL in any text or name, however deep, so
the database finds none to refuse.  Apart from that a value stays what it was
as long as the names of each of its objects stay different.  If two of them
become the same, the value of the later one takes the place of the other.
-/

namespace QueryGateway
namespace Storage

open Execution

/-!
## Texts
-/

theorem nul_not_mem_stripText (text : String) : nul ∉ (stripText text).toList := by
  unfold stripText
  rw [String.toList_ofList, List.mem_filter]
  rintro ⟨_, hkept⟩
  exact of_decide_eq_true hkept rfl

theorem stripText_eq_self {text : String} (hfree : nul ∉ text.toList) : stripText text = text := by
  unfold stripText
  have hkept : text.toList.filter (· ≠ nul) = text.toList := by
    rw [List.filter_eq_self]
    intro c hmem
    apply decide_eq_true
    intro hnul
    rw [hnul] at hmem
    exact hfree hmem
  rw [hkept, String.ofList_toList]

/-!
## Values
-/

def stripMember (member : String × Json) : String × Json :=
  (stripText member.1, stripNul member.2)

theorem stripItems_eq_map (items : List Json) : stripItems items = items.map stripNul := by
  induction items with
  | nil => rfl
  | cons item rest ih => rw [stripItems, ih, List.map_cons]

theorem stripMembers_eq_map (members : Members) :
    stripMembers members = members.map stripMember := by
  induction members with
  | nil => rfl
  | cons member rest ih =>
      rw [stripMembers, ih, List.map_cons]
      rfl

theorem stripNul_array (items : List Json) :
    stripNul (.array items) = .array (items.map stripNul) := by
  rw [stripNul, stripItems_eq_map]

theorem stripNul_object (members : Members) :
    stripNul (.object members) = .object (Dictionary.ofList (members.map stripMember)) := by
  rw [stripNul, stripMembers_eq_map]

inductive NulFree : Json -> Prop where
  | null : NulFree .null
  | bool (b : Bool) : NulFree (.bool b)
  | number (n : Number) : NulFree (.number n)
  | text {s : String} (htext : nul ∉ s.toList) : NulFree (.text s)
  | array {items : List Json} (hitems : forall item, item ∈ items -> NulFree item) :
      NulFree (.array items)
  | object {members : Members}
      (hnames : forall name value, (name, value) ∈ members -> nul ∉ name.toList)
      (hmembers : forall name value, (name, value) ∈ members -> NulFree value) :
      NulFree (.object members)

theorem exists_of_mem_strip {members : Members} {name : String} {value : Json}
    (hmem : (name, value) ∈ Dictionary.ofList (members.map stripMember)) :
    exists whole before, (whole, before) ∈ members ∧ name = stripText whole ∧
      value = stripNul before := by
  rcases List.mem_map.mp (Dictionary.mem_ofList hmem) with ⟨⟨whole, before⟩, hbefore, heq⟩
  injection heq with hname hvalue
  exact ⟨whole, before, hbefore, hname.symm, hvalue.symm⟩

theorem clean_stripNul (value : Json) : NulFree (stripNul value) ∧ (stripNul value).Canonical := by
  induction value using Json.induct with
  | null => exact ⟨NulFree.null, Json.Canonical.null⟩
  | bool b => exact ⟨NulFree.bool b, Json.Canonical.bool b⟩
  | number n => exact ⟨NulFree.number n, Json.Canonical.number n⟩
  | text s => exact ⟨NulFree.text (nul_not_mem_stripText s), Json.Canonical.text (stripText s)⟩
  | array items ih =>
      have hclean : forall item, item ∈ items.map stripNul -> NulFree item ∧ item.Canonical := by
        intro item hmem
        rcases List.mem_map.mp hmem with ⟨before, hbefore, hitem⟩
        rw [← hitem]
        exact ih before hbefore
      rw [stripNul_array]
      constructor
      · exact NulFree.array fun item hmem => (hclean item hmem).left
      · exact Json.Canonical.array fun item hmem => (hclean item hmem).right
  | object members ih =>
      have hclean : forall name value,
          (name, value) ∈ Dictionary.ofList (members.map stripMember) ->
            nul ∉ name.toList ∧ NulFree value ∧ value.Canonical := by
        intro name value hmem
        rcases exists_of_mem_strip hmem with ⟨whole, before, hbefore, hname, hvalue⟩
        rw [hname, hvalue]
        exact ⟨nul_not_mem_stripText whole, ih whole before hbefore⟩
      rw [stripNul_object]
      constructor
      · apply NulFree.object
        · exact fun name value hmem => (hclean name value hmem).left
        · exact fun name value hmem => (hclean name value hmem).right.left
      · apply Json.Canonical.object (Dictionary.sorted_ofList _)
        exact fun name value hmem => (hclean name value hmem).right.right

theorem stripNul_eq_self {value : Json} (hfree : NulFree value) :
    value.Canonical -> stripNul value = value := by
  induction hfree with
  | null =>
      intro _
      rfl
  | bool b =>
      intro _
      rfl
  | number n =>
      intro _
      rfl
  | text htext =>
      intro _
      rw [stripNul, stripText_eq_self htext]
  | @array items hitems ih =>
      intro hcanonical
      cases hcanonical with
      | array hcanonical =>
          have hsame : items.map stripNul = items.map id := by
            apply List.map_congr_left
            intro item hmem
            exact ih item hmem (hcanonical item hmem)
          rw [stripNul_array, hsame, List.map_id]
  | @object members hnames hmembers ih =>
      intro hcanonical
      cases hcanonical with
      | object hsorted hcanonical =>
          have hsame : members.map stripMember = members.map id := by
            apply List.map_congr_left
            rintro ⟨name, value⟩ hmem
            show (stripText name, stripNul value) = (name, value)
            rw [stripText_eq_self (hnames name value hmem),
              ih name value hmem (hcanonical name value hmem)]
          rw [stripNul_object, hsame, List.map_id, Dictionary.ofList_of_sorted hsorted]

theorem stripNul_eq_self_iff (value : Json) :
    stripNul value = value ↔ NulFree value ∧ value.Canonical := by
  constructor
  · intro hsame
    rw [← hsame]
    exact clean_stripNul value
  · rintro ⟨hfree, hcanonical⟩
    exact stripNul_eq_self hfree hcanonical

/-!
## What is bound
-/

/-- Rows without NUL in what they bind as text or as a document. -/
structure LogRow.NulFree (row : LogRow) : Prop where
  status : nul ∉ row.status.name.toList
  snapshot : forall snapshot, row.resultSnapshot = some snapshot -> Storage.NulFree snapshot
  message : forall message, row.errorMessage = some message -> nul ∉ message.toList

theorem LogRow.nulFree_ofEntry (entry : LogEntry) : (LogRow.ofEntry entry).NulFree where
  status := by
    show nul ∉ entry.status.name.toList
    cases entry.status <;> decide
  snapshot := by
    intro snapshot hsnapshot
    rcases Option.map_eq_some_iff.mp hsnapshot with ⟨value, _, hvalue⟩
    rw [← hvalue]
    exact (clean_stripNul value).left
  message := by
    intro message hmessage
    rcases Option.map_eq_some_iff.mp hmessage with ⟨text, _, htext⟩
    rw [← htext]
    exact nul_not_mem_stripText text

inductive Statement.NulFree : Statement -> Prop where
  | begin : NulFree .begin
  | savepoint : NulFree .savepoint
  | insert {row : LogRow} (hrow : row.NulFree) : NulFree (.insert row)
  | release : NulFree .release
  | rollbackTo : NulFree .rollbackTo
  | commit : NulFree .commit

/-- Two databases that differ only about statements that bind NUL. -/
def Refusal.Agree (refusal other : Refusal) : Prop :=
  forall position (statement : Statement), statement.NulFree ->
    refusal position statement = other position statement

namespace LogTable

variable {refusal other : Refusal}

theorem send_congr (hagree : refusal.Agree other) {statement : Statement}
    (hfree : statement.NulFree) : send refusal statement = send other statement := by
  funext connection
  unfold send
  rw [hagree connection.sent statement hfree]

theorem attempt_congr (hagree : refusal.Agree other) {statement : Statement}
    (hfree : statement.NulFree) : attempt refusal statement = attempt other statement := by
  funext connection
  unfold attempt
  rw [send_congr hagree hfree]

theorem writeRow_congr (hagree : refusal.Agree other) {row : LogRow} (hrow : row.NulFree) :
    writeRow refusal row = writeRow other row := by
  have hclose : forall taken : Bool,
      send refusal (if taken then .release else .rollbackTo) =
        send other (if taken then .release else .rollbackTo) := by
    intro taken
    cases taken with
    | false => exact send_congr hagree .rollbackTo
    | true => exact send_congr hagree .release
  unfold writeRow
  simp only [send_congr hagree .savepoint, attempt_congr hagree (.insert hrow), hclose]

theorem writeRows_congr (hagree : refusal.Agree other) {rows : List LogRow}
    (hrows : forall row, row ∈ rows -> row.NulFree) :
    writeRows refusal rows = writeRows other rows := by
  induction rows with
  | nil => rfl
  | cons row rest ih =>
      have hrow := writeRow_congr hagree (hrows row List.mem_cons_self)
      have hrest := ih fun row hmem => hrows row (List.mem_cons_of_mem _ hmem)
      unfold writeRows
      rw [hrow, hrest]

theorem transact_congr (hagree : refusal.Agree other) {rows : List LogRow}
    (hrows : forall row, row ∈ rows -> row.NulFree) :
    transact refusal rows = transact other rows := by
  unfold transact
  rw [send_congr hagree .begin, writeRows_congr hagree hrows, send_congr hagree .commit]

theorem insertLogs_congr (hagree : refusal.Agree other) (entries : List LogEntry)
    (table : LogTable) : insertLogs refusal entries table = insertLogs other entries table := by
  have hrows : forall row, row ∈ entries.map LogRow.ofEntry -> row.NulFree := by
    intro row hmem
    rcases List.mem_map.mp hmem with ⟨entry, _, hrow⟩
    rw [← hrow]
    exact LogRow.nulFree_ofEntry entry
  unfold insertLogs
  rw [transact_congr hagree hrows]

end LogTable

/--
No row binds NUL, so no database can take offence at it; removing NUL a second
time does nothing, and the values that stay as they are are those that hold none.
-/
theorem bound_without_nul :
    (forall entry : LogEntry, (LogRow.ofEntry entry).NulFree) ∧
    (forall (refusal other : Refusal) (entries : List LogEntry) (table : LogTable),
      refusal.Agree other ->
        table.insertLogs refusal entries = table.insertLogs other entries) ∧
    (forall value : Json, stripNul (stripNul value) = stripNul value) ∧
    (forall value : Json, stripNul value = value ↔ NulFree value ∧ value.Canonical) := by
  refine ⟨LogRow.nulFree_ofEntry, ?_, ?_, stripNul_eq_self_iff⟩
  · intro refusal other entries table hagree
    exact LogTable.insertLogs_congr hagree entries table
  · intro value
    exact (stripNul_eq_self_iff (stripNul value)).mpr (clean_stripNul value)

namespace Strict

def refusal : Refusal
  | _, .insert row =>
      if (row.errorMessage.getD "").toList.contains nul then
        some "invalid byte sequence for encoding \"UTF8\": 0x00"
      else
        none
  | _, _ => none

def snapshot : Json :=
  .object [("ti\x00tle", .array [.text "a\x00b", .null])]

def entry : LogEntry :=
  { LogEntry.plain (Uuid.ofNat 1) (Uuid.ofNat 0xa1) .failed ⟨19723, 0, 0⟩ with
    resultSnapshot := some snapshot
    errorMessage := some "up\x00stream" }

def stored : Json :=
  .object [("title", .array [.text "ab", .null])]

theorem agree_lenient : refusal.Agree fun _ _ => none := by
  intro position statement hfree
  cases hfree with
  | @insert row hrow =>
      show (if (row.errorMessage.getD "").toList.contains nul then some _ else none) = none
      apply if_neg
      intro hnul
      cases hmessage : row.errorMessage with
      | none =>
          rw [hmessage] at hnul
          cases hnul
      | some message =>
          rw [hmessage] at hnul
          exact hrow.message message hmessage (List.contains_iff_mem.mp hnul)
  | _ => rfl

theorem bound_without_nul_failed :
    (LogRow.ofEntry entry).resultSnapshot = some stored ∧ (LogRow.ofEntry entry).NulFree ∧
    LogTable.empty.insertLogs refusal [entry] =
      LogTable.empty.insertLogs (fun _ _ => none) [entry] ∧
    NulFree stored ∧ stripNul stored = stored := by
  rcases bound_without_nul with ⟨hbound, hagree, hagain, hsame⟩
  have hstripped : stripNul snapshot = stored := by rfl
  have hstored : stripNul stored = stored := by
    rw [← hstripped]
    exact hagain snapshot
  have hfree : NulFree stored := ((hsame stored).mp hstored).left
  exact ⟨congrArg some hstripped, hbound entry, hagree refusal _ [entry] .empty agree_lenient,
    hfree, hstored⟩

end Strict

/-!
## Members that disappear
-/

/--
The second value is the first one without NUL: nothing else of it is changed,
and no object has lost or gained a member, in whatever order they are.
-/
inductive SameButNul : Json -> Json -> Prop where
  | null : SameButNul .null .null
  | bool (b : Bool) : SameButNul (.bool b) (.bool b)
  | number (n : Number) : SameButNul (.number n) (.number n)
  | text (s : String) : SameButNul (.text s) (.text (stripText s))
  | array {xs ys : List Json} (hlength : xs.length = ys.length)
      (hitems : forall (i : Nat) (x y : Json),
        xs[i]? = some x -> ys[i]? = some y -> SameButNul x y) :
      SameButNul (.array xs) (.array ys)
  | object {xs ys : Members} (listed : Members) (hlisted : listed.Perm ys)
      (hnames : listed.map Prod.fst = xs.map fun member => stripText member.1)
      (hvalues : forall (i : Nat) (x y : String × Json),
        xs[i]? = some x -> listed[i]? = some y -> SameButNul x.2 y.2) :
      SameButNul (.object xs) (.object ys)

/-- The names in every object stay different without NUL. -/
inductive NamesApart : Json -> Prop where
  | null : NamesApart .null
  | bool (b : Bool) : NamesApart (.bool b)
  | number (n : Number) : NamesApart (.number n)
  | text (s : String) : NamesApart (.text s)
  | array {items : List Json} (hitems : forall item, item ∈ items -> NamesApart item) :
      NamesApart (.array items)
  | object {members : Members} (hnames : (members.map fun member => stripText member.1).Nodup)
      (hmembers : forall name value, (name, value) ∈ members -> NamesApart value) :
      NamesApart (.object members)

theorem eq_of_getElem?_map {α β : Type} {f : α -> β} {xs : List α} {i : Nat} {x : α} {y : β}
    (hx : xs[i]? = some x) (hy : (xs.map f)[i]? = some y) : f x = y := by
  rw [List.getElem?_map, hx] at hy
  exact Option.some.inj hy

theorem sameButNul_of_namesApart {value : Json} (hapart : NamesApart value) :
    SameButNul value (stripNul value) := by
  induction hapart with
  | null => exact SameButNul.null
  | bool b => exact SameButNul.bool b
  | number n => exact SameButNul.number n
  | text s => exact SameButNul.text s
  | @array items hitems ih =>
      rw [stripNul_array]
      apply SameButNul.array (List.length_map stripNul).symm
      intro i x y hx hy
      rw [← eq_of_getElem?_map hx hy]
      exact ih x (List.mem_of_getElem? hx)
  | @object members hnames hmembers ih =>
      have hnodup : ((members.map stripMember).map Prod.fst).Nodup := by
        rw [List.map_map]
        exact hnames
      rw [stripNul_object]
      apply SameButNul.object (members.map stripMember) (Dictionary.ofList_perm hnodup).symm
      · rw [List.map_map]
        rfl
      · intro i x y hx hy
        rw [← eq_of_getElem?_map hx hy]
        exact ih x.1 x.2 (List.mem_of_getElem? hx)

theorem namesApart_of_sameButNul (value : Json) :
    SameButNul value (stripNul value) -> NamesApart value := by
  induction value using Json.induct with
  | null =>
      intro _
      exact NamesApart.null
  | bool b =>
      intro _
      exact NamesApart.bool b
  | number n =>
      intro _
      exact NamesApart.number n
  | text s =>
      intro _
      exact NamesApart.text s
  | array items ih =>
      intro hsame
      rw [stripNul_array] at hsame
      cases hsame with
      | array hlength hitems =>
          apply NamesApart.array
          intro item hmem
          rcases List.getElem?_of_mem hmem with ⟨i, hitem⟩
          apply ih item hmem
          apply hitems i item (stripNul item) hitem
          rw [List.getElem?_map, hitem]
          rfl
  | object members ih =>
      intro hsame
      rw [stripNul_object] at hsame
      cases hsame with
      | object listed hlisted hnames hvalues =>
          have hsorted := Dictionary.sorted_ofList (members.map stripMember)
          have hnodup : (members.map fun member => stripText member.1).Nodup := by
            rw [← hnames]
            exact (hlisted.map Prod.fst).nodup_iff.mpr (Dictionary.nodup_of_sorted hsorted)
          apply NamesApart.object hnodup
          intro name value hmem
          rcases List.getElem?_of_mem hmem with ⟨i, hmember⟩
          have hname := congrArg (fun names => names[i]?) hnames
          simp only [List.getElem?_map, hmember, Option.map_some] at hname
          rcases Option.map_eq_some_iff.mp hname with ⟨kept, hkept, hbound⟩
          -- Of the members that are left only one bears that name, so it is this one's.
          have hbefore := Dictionary.mem_ofList (hlisted.mem_iff.mp (List.mem_of_getElem? hkept))
          have hstripped : stripMember (name, value) ∈ members.map stripMember :=
            List.mem_map_of_mem hmem
          have hnames : ((members.map stripMember).map Prod.fst).Nodup := by
            rw [List.map_map]
            exact hnodup
          have hvalue := hvalues i (name, value) kept hmember hkept
          rw [List.inj_on_of_nodup_map hnames hbefore hstripped hbound] at hvalue
          exact ih name value hmem hvalue

/-- Of the members whose names become the same the last one is kept. -/
theorem get?_stripNul (members : Members) (name : String) :
    (stripNul (.object members)).get? name =
      (members.reverse.find? fun member => stripText member.1 == name).map
        fun member => stripNul member.2 := by
  rw [stripNul_object]
  show Dictionary.find? (Dictionary.ofList (members.map stripMember)) name = _
  rw [Dictionary.find?_ofList, ← List.map_reverse]
  unfold Dictionary.find?
  rw [List.find?_map, Option.map_map]
  rfl

theorem sameButNul_iff (value : Json) : SameButNul value (stripNul value) ↔ NamesApart value :=
  ⟨namesApart_of_sameButNul value, sameButNul_of_namesApart⟩

/--
A value loses nothing but NUL exactly if the names in each of its objects stay
different, and so does the snapshot of an entry when it is bound.  An object
has under each name the last member whose name becomes that one.
-/
theorem members_kept_iff (value : Json) :
    (SameButNul value (stripNul value) ↔ NamesApart value) ∧
    (forall (members : Members) (name : String), value = .object members ->
      (stripNul value).get? name =
        (members.reverse.find? fun member => stripText member.1 == name).map
          fun member => stripNul member.2) ∧
    (forall entry : LogEntry, entry.resultSnapshot = some value ->
      exists bound, (LogRow.ofEntry entry).resultSnapshot = some bound ∧
        (SameButNul value bound ↔ NamesApart value)) := by
  refine ⟨sameButNul_iff value, ?_, ?_⟩
  · intro members name hvalue
    rw [hvalue]
    exact get?_stripNul members name
  · intro entry hsnapshot
    refine ⟨stripNul value, ?_, sameButNul_iff value⟩
    show entry.resultSnapshot.map stripNul = some (stripNul value)
    rw [hsnapshot, Option.map_some]

theorem members_kept_iff_title :
    exists bound, (LogRow.ofEntry Strict.entry).resultSnapshot = some bound ∧
      SameButNul Strict.snapshot bound := by
  rcases members_kept_iff Strict.snapshot with ⟨_, _, hkept⟩
  rcases hkept Strict.entry rfl with ⟨bound, hbound, hiff⟩
  refine ⟨bound, hbound, hiff.mpr ?_⟩
  apply NamesApart.object
  · exact List.nodup_singleton (stripText "ti\x00tle")
  · intro name value hmem
    injection List.mem_singleton.mp hmem with _ hvalue
    rw [hvalue]
    apply NamesApart.array
    intro item hmem
    rcases List.mem_pair.mp hmem with heq | heq
    · rw [heq]
      exact NamesApart.text _
    · rw [heq]
      exact NamesApart.null

namespace Meeting

/-- Two names that are the same but for NUL. -/
def snapshot : Json :=
  .object [("a", .ofNat 1), ("a\x00", .ofNat 2)]

def entry : LogEntry :=
  { LogEntry.plain (Uuid.ofNat 1) (Uuid.ofNat 0xa1) .completed ⟨19723, 0, 0⟩ with
    resultSnapshot := some snapshot }

theorem member_replaced :
    snapshot.Canonical ∧
    (LogRow.ofEntry entry).resultSnapshot = some (.object [("a", .ofNat 2)]) ∧
    ¬ SameButNul snapshot (.object [("a", .ofNat 2)]) := by
  have hbound : stripNul snapshot = .object [("a", .ofNat 2)] := by rfl
  refine ⟨?_, congrArg some hbound, ?_⟩
  · apply Json.Canonical.object
    · show List.Pairwise _ [_, _]
      decide
    · intro name value hmem
      rcases List.mem_pair.mp hmem with heq | heq
      all_goals
        injection heq with _ hvalue
        rw [hvalue]
        exact Json.Canonical.number _
  · rw [← hbound]
    intro hsame
    cases namesApart_of_sameButNul snapshot hsame with
    | object hnames hmembers =>
        have hmet : stripText "a" = stripText "a\x00" := by decide
        exact (List.nodup_cons.mp hnames).left (List.mem_singleton.mpr hmet)

end Meeting

end Storage
end QueryGateway
