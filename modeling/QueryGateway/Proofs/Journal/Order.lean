import Mathlib.Data.List.Induction
import QueryGateway.Proofs.Journal.Balance

/-!
# The order of recorded entries

An entry that is recorded when the journal is full is dropped at once.  All
others leave the journal in the order in which they came, and each of them is
handed to the store in one batch.  Operators hear of the entries in the order in
which they were recorded, and of a drop right after the entry itself.
-/

namespace QueryGateway
namespace Journal

open Execution

variable {σ : Type}

/-!
# Places
-/

inductive Place where
  | dropped
  | handed (batch : Nat)
  | waiting
deriving DecidableEq

def Place.isDropped : Place -> Bool
  | .dropped => true
  | _ => false

def entriesAt (place : Place) (entries : List LogEntry) (places : List Place) : List LogEntry :=
  ((entries.zip places).filter fun e => e.2 = place).map Prod.fst

def keptEntries (entries : List LogEntry) (places : List Place) : List LogEntry :=
  ((entries.zip places).filter fun e => !e.2.isDropped).map Prod.fst

/-- The places after the oldest waiting entries, at most so many, have been handed over. -/
def handOver (batch : Nat) : Nat -> List Place -> List Place
  | _, [] => []
  | 0, places => places
  | count + 1, .waiting :: places => .handed batch :: handOver batch count places
  | count + 1, place :: places => place :: handOver batch (count + 1) places

theorem entriesAt_cons (place first : Place) (entry : LogEntry) (entries : List LogEntry)
    (places : List Place) :
    entriesAt place (entry :: entries) (first :: places) =
      if first = place then entry :: entriesAt place entries places
      else entriesAt place entries places := by
  unfold entriesAt
  rw [List.zip_cons_cons, List.filter_cons]
  by_cases hfirst : first = place
  · simp [hfirst]
  · simp [hfirst]

theorem entriesAt_concat (place last : Place) (entry : LogEntry) {entries : List LogEntry}
    {places : List Place} (hlength : places.length = entries.length) :
    entriesAt place (entries ++ [entry]) (places ++ [last]) =
      entriesAt place entries places ++ if last = place then [entry] else [] := by
  unfold entriesAt
  rw [List.zip_append hlength.symm, List.filter_append, List.map_append]
  by_cases hlast : last = place
  · simp [hlast]
  · simp [hlast]

theorem keptEntries_concat (last : Place) (entry : LogEntry) {entries : List LogEntry}
    {places : List Place} (hlength : places.length = entries.length) :
    keptEntries (entries ++ [entry]) (places ++ [last]) =
      keptEntries entries places ++ if last.isDropped then [] else [entry] := by
  unfold keptEntries
  rw [List.zip_append hlength.symm, List.filter_append, List.map_append]
  cases hlast : last.isDropped with
  | true => simp [hlast]
  | false => simp [hlast]

theorem keptEntries_sublist {entries : List LogEntry} {places : List Place}
    (hlength : places.length = entries.length) : (keptEntries entries places).Sublist entries := by
  have hzip : (entries.zip places).map Prod.fst = entries :=
    List.map_fst_zip (Nat.le_of_eq hlength.symm)
  have hfilter := (List.filter_sublist (l := entries.zip places)
    (p := fun e => !e.2.isDropped)).map Prod.fst
  rw [hzip] at hfilter
  exact hfilter

/-!
# Handing over
-/

theorem length_handOver (batch count : Nat) (places : List Place) :
    (handOver batch count places).length = places.length := by
  fun_induction handOver batch count places with
  | case1 count => rfl
  | case2 places => rfl
  | case3 count places ih => rw [List.length_cons, List.length_cons, ih]
  | case4 count place places _ ih => rw [List.length_cons, List.length_cons, ih]

theorem isDropped_handOver (batch count : Nat) (places : List Place) :
    (handOver batch count places).map Place.isDropped = places.map Place.isDropped := by
  fun_induction handOver batch count places with
  | case1 count => rfl
  | case2 places => rfl
  | case3 count places ih => rw [List.map_cons, List.map_cons, ih]; rfl
  | case4 count place places _ ih => rw [List.map_cons, List.map_cons, ih]

theorem mem_handOver {batch count : Nat} {places : List Place} {place : Place}
    (hmem : place ∈ handOver batch count places) : place = .handed batch ∨ place ∈ places := by
  fun_induction handOver batch count places with
  | case1 count => cases hmem
  | case2 places => exact Or.inr hmem
  | case3 count places ih =>
      rcases List.mem_cons.mp hmem with heq | hmem
      · exact Or.inl heq
      · exact (ih hmem).imp_right (List.mem_cons_of_mem _)
  | case4 count first places _ ih =>
      rcases List.mem_cons.mp hmem with heq | hmem
      · exact Or.inr (List.mem_cons.mpr (Or.inl heq))
      · exact (ih hmem).imp_right (List.mem_cons_of_mem _)

theorem handOver_of_not_mem {places : List Place} (habsent : Place.waiting ∉ places)
    (batch count : Nat) : handOver batch count places = places := by
  fun_induction handOver batch count places with
  | case1 count => rfl
  | case2 places => rfl
  | case3 count places ih => exact absurd List.mem_cons_self habsent
  | case4 count place places _ ih =>
      rw [ih fun hmem => habsent (List.mem_cons_of_mem _ hmem)]

/-- Of the place of an entry only whether it was dropped counts for what was kept. -/
theorem keptEntries_congr {places places' : List Place}
    (hsame : places.map Place.isDropped = places'.map Place.isDropped)
    (entries : List LogEntry) : keptEntries entries places = keptEntries entries places' := by
  induction entries generalizing places places' with
  | nil => rfl
  | cons entry entries ih =>
      cases places with
      | nil =>
          rw [List.map_nil, List.nil_eq, List.map_eq_nil_iff] at hsame
          rw [hsame]
      | cons place places =>
          cases places' with
          | nil => cases hsame
          | cons place' places' =>
              injection hsame with hfirst hrest
              have hkept := ih hrest
              unfold keptEntries at hkept ⊢
              rw [List.zip_cons_cons, List.zip_cons_cons, List.filter_cons, List.filter_cons]
              cases hplace : place.isDropped with
              | true =>
                  rw [hplace] at hfirst
                  simpa [← hfirst] using hkept
              | false =>
                  rw [hplace] at hfirst
                  simpa [← hfirst] using hkept

theorem entriesAt_nil (place : Place) (entries : List LogEntry) :
    entriesAt place entries [] = [] := by
  rw [entriesAt, List.zip_nil_right]
  rfl

theorem entriesAt_eq_nil_iff (place : Place) {entries : List LogEntry} {places : List Place}
    (hlength : places.length = entries.length) :
    entriesAt place entries places = [] ↔ place ∉ places := by
  induction places generalizing entries with
  | nil => simp [entriesAt_nil]
  | cons first places ih =>
      cases entries with
      | nil => cases hlength
      | cons entry entries =>
          rw [entriesAt_cons, List.mem_cons, not_or, ← ih (Nat.succ.inj hlength)]
          by_cases hfirst : first = place
          · simp [hfirst]
          · simp [hfirst, Ne.symm hfirst]

theorem count_dropped (places : List Place) :
    places.count .dropped = (places.map Place.isDropped).count true := by
  induction places with
  | nil => rfl
  | cons place places ih =>
      rw [List.map_cons, List.count_cons, List.count_cons, ih]
      cases place with
      | dropped => rfl
      | handed batch => rfl
      | waiting => rfl

/-- Handing over takes the oldest of what waits, puts it in the batch, and moves nothing else. -/
theorem entriesAt_handOver {batch : Nat} {places : List Place}
    (hfresh : Place.handed batch ∉ places) (count : Nat) {entries : List LogEntry}
    (hlength : places.length = entries.length) (place : Place) :
    entriesAt place entries (handOver batch count places) =
      if place = .waiting then (entriesAt .waiting entries places).drop count
      else if place = .handed batch then (entriesAt .waiting entries places).take count
      else entriesAt place entries places := by
  -- No place is left, nothing more is handed over, or the first place waits or does not.
  fun_induction handOver batch count places generalizing entries with
  | case1 count =>
      rw [entriesAt_nil, entriesAt_nil, List.drop_nil, List.take_nil, ite_self, ite_self]
  | case2 places =>
      rw [List.drop_zero, List.take_zero]
      split
      · rename_i hwaiting
        rw [hwaiting]
      · split
        · rename_i hhanded
          rw [hhanded, (entriesAt_eq_nil_iff _ hlength).mpr hfresh]
        · rfl
  | case3 count places ih =>
      cases entries with
      | nil => cases hlength
      | cons entry entries =>
          have hrest := ih (fun hmem => hfresh (List.mem_cons_of_mem _ hmem))
            (Nat.succ.inj hlength)
          rw [entriesAt_cons, entriesAt_cons, entriesAt_cons, hrest, if_pos rfl]
          cases place with
          | dropped => rfl
          | waiting => rfl
          | handed other =>
              by_cases hother : batch = other
              · simp [hother]
              · simp [hother, Ne.symm hother]
  | case4 count first places hfirst ih =>
      cases entries with
      | nil => cases hlength
      | cons entry entries =>
          have hrest := ih (fun hmem => hfresh (List.mem_cons_of_mem _ hmem))
            (Nat.succ.inj hlength)
          have hwaiting : first ≠ .waiting := hfirst
          have hbatch : first ≠ .handed batch := by
            intro hsame
            rw [hsame] at hfresh
            exact hfresh List.mem_cons_self
          rw [entriesAt_cons, entriesAt_cons, entriesAt_cons, hrest, if_neg hwaiting]
          by_cases hplace : first = place
          · subst hplace
            simp [hwaiting, hbatch]
          · rw [if_neg hplace, if_neg hplace]

structure Placed (entries : List LogEntry) (places : List Place) (deliveries : List Delivery)
    (pending : List LogEntry) : Prop where
  length : places.length = entries.length
  batches : forall i delivery, deliveries[i]? = some delivery ->
    delivery.batch = entriesAt (.handed i) entries places
  numbered : forall i, Place.handed i ∈ places -> i < deliveries.length
  waiting : pending = entriesAt .waiting entries places
  kept : deliveries.flatMap Delivery.batch ++ pending = keptEntries entries places

namespace Placed

variable {entries pending : List LogEntry} {places : List Place} {deliveries : List Delivery}

theorem nothing : Placed [] [] [] [] where
  length := rfl
  batches := by
    intro i delivery hdelivery
    cases hdelivery
  numbered := by
    intro i hmem
    cases hmem
  waiting := rfl
  kept := rfl

theorem batches_concat (hplaced : Placed entries places deliveries pending) (place : Place)
    (hplace : forall batch, place ≠ .handed batch) (entry : LogEntry) :
    (forall i delivery, deliveries[i]? = some delivery ->
        delivery.batch = entriesAt (.handed i) (entries ++ [entry]) (places ++ [place])) ∧
      forall i, Place.handed i ∈ places ++ [place] -> i < deliveries.length := by
  constructor
  · intro i delivery hdelivery
    rw [entriesAt_concat _ _ _ hplaced.length, if_neg (hplace i), List.append_nil]
    exact hplaced.batches i delivery hdelivery
  · intro i hmem
    rcases List.mem_append.mp hmem with hmem | hmem
    · exact hplaced.numbered i hmem
    · exact absurd (List.mem_singleton.mp hmem).symm (hplace i)

theorem waits (hplaced : Placed entries places deliveries pending) (entry : LogEntry) :
    Placed (entries ++ [entry]) (places ++ [.waiting]) deliveries (pending ++ [entry]) := by
  have hbatches := hplaced.batches_concat .waiting (by intro batch hsame; cases hsame) entry
  constructor
  case length => simp [hplaced.length]
  case batches => exact hbatches.left
  case numbered => exact hbatches.right
  case waiting => rw [entriesAt_concat _ _ _ hplaced.length, if_pos rfl, hplaced.waiting]
  case kept =>
    rw [keptEntries_concat _ _ hplaced.length, ← List.append_assoc, hplaced.kept]
    rfl

theorem drops (hplaced : Placed entries places deliveries pending) (entry : LogEntry) :
    Placed (entries ++ [entry]) (places ++ [.dropped]) deliveries pending := by
  have hbatches := hplaced.batches_concat .dropped (by intro batch hsame; cases hsame) entry
  constructor
  case length => simp [hplaced.length]
  case batches => exact hbatches.left
  case numbered => exact hbatches.right
  case waiting =>
    rw [entriesAt_concat _ _ _ hplaced.length, if_neg (by intro hsame; cases hsame),
      List.append_nil, hplaced.waiting]
  case kept =>
    rw [keptEntries_concat _ _ hplaced.length, hplaced.kept]
    exact (List.append_nil _).symm

theorem not_mem_next (hplaced : Placed entries places deliveries pending) :
    Place.handed deliveries.length ∉ places := by
  intro hmem
  exact Nat.lt_irrefl _ (hplaced.numbered deliveries.length hmem)

/-- A batch with the oldest of the waiting entries leaves the journal. -/
theorem handsOver (hplaced : Placed entries places deliveries pending) (max : Nat)
    (answer : Written) :
    Placed entries (handOver deliveries.length max places)
      (deliveries ++ [⟨pending.take max, answer⟩]) (pending.drop max) := by
  have hat := entriesAt_handOver hplaced.not_mem_next max hplaced.length
  rw [← hplaced.waiting] at hat
  constructor
  case length => rw [length_handOver, hplaced.length]
  case batches =>
    intro i delivery hdelivery
    rw [List.getElem?_append] at hdelivery
    split at hdelivery
    · rename_i hbefore
      have hother : Place.handed i ≠ .handed deliveries.length := by
        intro hsame
        injection hsame with hsame
        exact Nat.ne_of_lt hbefore hsame
      rw [hat, if_neg (by intro hsame; cases hsame), if_neg hother]
      exact hplaced.batches i delivery hdelivery
    · rename_i hlast
      rcases List.getElem?_eq_some_iff.mp hdelivery with ⟨hlength, hsame⟩
      have hi : i = deliveries.length := by
        rw [List.length_singleton] at hlength
        omega
      have hbatch : delivery.batch = pending.take max := by
        rw [← hsame]
        simp
      rw [hbatch, hi, hat, if_neg (by intro hsame; cases hsame), if_pos rfl]
  case numbered =>
    intro i hmem
    rw [List.length_append, List.length_singleton]
    rcases mem_handOver hmem with hsame | hmem
    · injection hsame with hsame
      rw [hsame]
      exact Nat.lt_succ_self _
    · exact Nat.lt_succ_of_lt (hplaced.numbered i hmem)
  case waiting => rw [hat, if_pos rfl]
  case kept =>
    rw [List.flatMap_append, List.append_assoc, keptEntries_congr (isDropped_handOver ..),
      ← hplaced.kept]
    simp

theorem handOver_eq (hplaced : Placed entries places deliveries pending) {max : Nat}
    (hnone : pending.take max = []) (batch : Nat) : handOver batch max places = places := by
  rcases List.take_eq_nil_iff.mp hnone with hzero | hempty
  · rw [hzero]
    cases places with
    | nil => rfl
    | cons place places => rfl
  · have hwaiting : Place.waiting ∉ places := by
      rw [← entriesAt_eq_nil_iff _ hplaced.length, ← hplaced.waiting]
      exact hempty
    exact handOver_of_not_mem hwaiting batch max

end Placed

/-!
# What operators are told
-/

def notice (entry : LogEntry) (dropped : Bool) : List Event :=
  .execution entry :: if dropped then [.logDropped entry.systemId entry.queryId] else []

/--
The events are the notices of the entries in their order, with the reports of
refused batches between notices and never inside one.
-/
inductive Tells : List (LogEntry × Bool) -> List Event -> Prop where
  | nothing : Tells [] []
  | recorded {entries : List (LogEntry × Bool)} {events : List Event} (entry : LogEntry)
      (dropped : Bool) (htells : Tells entries events) :
      Tells (entries ++ [(entry, dropped)]) (events ++ notice entry dropped)
  | refused {entries : List (LogEntry × Bool)} {events : List Event} (size : Nat)
      (error : String) (htells : Tells entries events) :
      Tells entries (events ++ [.logFlushFailed size error])

def marked (entries : List LogEntry) (places : List Place) : List (LogEntry × Bool) :=
  entries.zip (places.map Place.isDropped)

theorem marked_concat {entries : List LogEntry} {places : List Place}
    (hlength : places.length = entries.length) (entry : LogEntry) (place : Place) :
    marked (entries ++ [entry]) (places ++ [place]) =
      marked entries places ++ [(entry, place.isDropped)] := by
  unfold marked
  rw [List.map_append, List.zip_append (by rw [List.length_map, hlength])]
  rfl

theorem marked_handOver (entries : List LogEntry) (batch count : Nat) (places : List Place) :
    marked entries (handOver batch count places) = marked entries places := by
  unfold marked
  rw [isDropped_handOver]

/-!
# Along a session
-/

section Sessions

variable {write : List LogEntry -> σ -> Written × σ}

/-- Where the entries of a session are whose store notes what it is handed. -/
structure Located (capacity : Nat) (entries : List LogEntry) (places : List Place)
    (session : Session (Noting σ)) : Prop where
  placed : Placed entries places session.store.deliveries session.journal.pending
  limit : session.journal.capacity = capacity
  room : session.journal.depth ≤ session.journal.capacity
  dropped : session.journal.counters.dropped = places.count .dropped
  told : Tells (marked entries places) session.events
  recorded : session.journal.counters.recorded = entries.length
  flushed : session.journal.counters.flushed =
    (session.store.deliveries.map Delivery.written).sum

theorem located_start (capacity : Nat) (store : σ) :
    Located capacity [] [] (Session.start capacity (Noting.mk store [])) where
  placed := Placed.nothing
  limit := rfl
  room := Nat.zero_le capacity
  dropped := rfl
  told := Tells.nothing
  recorded := rfl
  flushed := rfl

def placeIn (journal : Journal) : Place :=
  if journal.depth < journal.capacity then .waiting else .dropped

theorem placeIn_eq_dropped_iff {journal : Journal} (hroom : journal.depth ≤ journal.capacity) :
    placeIn journal = .dropped ↔ journal.depth = journal.capacity := by
  unfold placeIn
  split
  · rename_i hlt
    constructor
    · intro hsame
      cases hsame
    · intro hfull
      exact absurd hlt (Nat.not_lt.mpr (Nat.le_of_eq hfull.symm))
  · rename_i hnot
    constructor
    · intro _
      exact Nat.le_antisymm hroom (Nat.not_lt.mp hnot)
    · intro _
      rfl

theorem dropped_tally (status : Status) (counters : Counters) :
    (counters.tally status).dropped = counters.dropped := by
  cases status <;> rfl

theorem located_record {capacity : Nat} {entries : List LogEntry} {places : List Place}
    {session : Session (Noting σ)} (hlocated : Located capacity entries places session)
    (entry : LogEntry) :
    Located capacity (entries ++ [entry]) (places ++ [placeIn session.journal])
      (session.apply (noting write) (.record entry)) := by
  have hrecorded := (recorded_tally entry.status session.journal.counters).trans
    (congrArg Nat.succ hlocated.recorded)
  by_cases hroom : session.journal.depth < session.journal.capacity
  · have hplace : placeIn session.journal = .waiting := if_pos hroom
    simp only [Session.apply, record_of_room hroom, hplace]
    constructor
    case placed => exact hlocated.placed.waits entry
    case limit => exact hlocated.limit
    case room => simpa [depth, Nat.succ_le_iff] using hroom
    case dropped => simp [dropped_tally, hlocated.dropped]
    case told =>
      rw [marked_concat hlocated.placed.length]
      exact Tells.recorded entry false hlocated.told
    case recorded =>
      rw [List.length_append]
      exact hrecorded
    case flushed => simpa using hlocated.flushed
  · have hplace : placeIn session.journal = .dropped := if_neg hroom
    simp only [Session.apply, record_of_full hroom, hplace]
    constructor
    case placed => exact hlocated.placed.drops entry
    case limit => exact hlocated.limit
    case room => exact hlocated.room
    case dropped => simp [dropped_tally, hlocated.dropped]
    case told =>
      rw [marked_concat hlocated.placed.length]
      exact Tells.recorded entry true hlocated.told
    case recorded =>
      rw [List.length_append]
      exact hrecorded
    case flushed => simpa using hlocated.flushed

theorem located_flush {capacity : Nat} {entries : List LogEntry} {places : List Place}
    {session : Session (Noting σ)} (hlocated : Located capacity entries places session)
    (max : Nat) :
    Located capacity entries (handOver session.store.deliveries.length max places)
      (session.apply (noting write) (.flush max)) := by
  rcases session with ⟨journal, ⟨store, deliveries⟩, events⟩
  have hroom : (journal.pending.drop max).length ≤ journal.capacity := by
    rw [List.length_drop]
    exact Nat.le_trans (Nat.sub_le _ _) hlocated.room
  cases hempty : (journal.pending.take max).isEmpty with
  | true =>
      have hnil : journal.pending.take max = [] := List.isEmpty_iff.mp hempty
      have hsplit : journal.pending.drop max = journal.pending := by
        have happend := List.take_append_drop max journal.pending
        rw [hnil] at happend
        exact happend
      simp only [Session.apply, flush_of_isEmpty hempty, List.append_nil, hsplit,
        hlocated.placed.handOver_eq hnil]
      exact hlocated
  | false =>
      -- The answer decides what is told and counted, but not where the entries are.
      have hplaced := hlocated.placed.handsOver max (write (journal.pending.take max) store).1
      have hdropped : journal.counters.dropped =
          (handOver deliveries.length max places).count .dropped := by
        rw [count_dropped, isDropped_handOver, ← count_dropped]
        exact hlocated.dropped
      cases hanswer : (write (journal.pending.take max) store).1 with
      | ok written =>
          have hnoted : (noting write (journal.pending.take max) ⟨store, deliveries⟩).1 =
              .ok written := hanswer
          rw [hanswer] at hplaced
          simp only [Session.apply, flush_of_ok hempty hnoted, noting, hanswer]
          constructor
          case placed => exact hplaced
          case limit => exact hlocated.limit
          case room => exact hroom
          case dropped => exact hdropped
          case told =>
            rw [marked_handOver, List.append_nil]
            exact hlocated.told
          case recorded => exact hlocated.recorded
          case flushed => simpa [Delivery.written] using hlocated.flushed
      | error failure =>
          have hnoted : (noting write (journal.pending.take max) ⟨store, deliveries⟩).1 =
              .error failure := hanswer
          rw [hanswer] at hplaced
          simp only [Session.apply, flush_of_error hempty hnoted, noting, hanswer]
          constructor
          case placed => exact hplaced
          case limit => exact hlocated.limit
          case room => exact hroom
          case dropped => exact hdropped
          case told =>
            rw [marked_handOver]
            exact Tells.refused _ _ hlocated.told
          case recorded => exact hlocated.recorded
          case flushed => simpa [Delivery.written] using hlocated.flushed

theorem run_concat (write : List LogEntry -> σ -> Written × σ) (session : Session σ)
    (operations : List Operation) (operation : Operation) :
    session.run write (operations ++ [operation]) =
      (session.run write operations).apply write operation := by
  unfold Session.run
  rw [List.foldl_append]
  rfl

theorem recorded_concat (operations : List Operation) (operation : Operation) :
    recorded (operations ++ [operation]) =
      recorded operations ++ operation.recorded?.toList := by
  unfold recorded
  rw [List.filterMap_append]
  cases operation with
  | record entry => rfl
  | flush max => rfl

theorem length_recorded_take_lt {operations : List Operation} {index : Nat} {entry : LogEntry}
    (hrecord : operations[index]? = some (.record entry)) :
    (recorded (operations.take index)).length < (recorded operations).length := by
  rcases List.getElem?_eq_some_iff.mp hrecord with ⟨hindex, hentry⟩
  have hsplit : operations =
      operations.take index ++ .record entry :: operations.drop (index + 1) := by
    rw [← hentry, ← List.drop_eq_getElem_cons hindex, List.take_append_drop]
  have hrecorded : recorded operations =
      recorded (operations.take index) ++ entry :: recorded (operations.drop (index + 1)) := by
    have hcons : recorded (.record entry :: operations.drop (index + 1)) =
        entry :: recorded (operations.drop (index + 1)) := rfl
    rw [← hcons]
    unfold recorded
    rw [← List.filterMap_append, ← hsplit]
  rw [hrecorded, List.length_append, List.length_cons]
  omega

theorem getElem?_eq_dropped_iff (places : List Place) (index : Nat) :
    places[index]? = some .dropped ↔ (places.map Place.isDropped)[index]? = some true := by
  rw [List.getElem?_map]
  cases places[index]? with
  | none => simp
  | some place => cases place <;> simp [Place.isDropped]

def DropsWhenFull (write : List LogEntry -> σ -> Written × σ) (start : Session σ)
    (operations : List Operation) (places : List Place) : Prop :=
  forall index entry, operations[index]? = some (.record entry) ->
    (places[(recorded (operations.take index)).length]? = some .dropped ↔
      (start.run write (operations.take index)).journal.depth = start.journal.capacity)

/-- One more operation decides about its own entry and leaves the earlier ones as they were. -/
theorem DropsWhenFull.concat {start : Session σ} {operations : List Operation}
    {places places' : List Place} (hdrops : DropsWhenFull write start operations places)
    {operation : Operation}
    (hbefore : forall index, index < (recorded operations).length ->
      (places'[index]? = some .dropped ↔ places[index]? = some .dropped))
    (hlast : forall entry, operation = .record entry ->
      (places'[(recorded operations).length]? = some .dropped ↔
        (start.run write operations).journal.depth = start.journal.capacity)) :
    DropsWhenFull write start (operations ++ [operation]) places' := by
  intro index entry hrecord
  rw [List.getElem?_append] at hrecord
  split at hrecord
  · rename_i hindex
    rw [List.take_append_of_le_length (Nat.le_of_lt hindex),
      hbefore _ (length_recorded_take_lt hrecord)]
    exact hdrops index entry hrecord
  · rename_i hindex
    rcases List.getElem?_eq_some_iff.mp hrecord with ⟨hlength, _⟩
    have hend : index = operations.length := by
      rw [List.length_singleton] at hlength
      omega
    rw [hend, List.take_left]
    exact hlast entry (List.mem_singleton.mp (List.mem_of_getElem? hrecord)).symm

theorem located_run (write : List LogEntry -> σ -> Written × σ) (capacity : Nat) (store : σ)
    (operations : List Operation) :
    exists places,
      Located capacity (recorded operations) places
        ((Session.start capacity (Noting.mk store [])).run (noting write) operations) ∧
      DropsWhenFull write (Session.start capacity store) operations places := by
  induction operations using List.reverseRecOn with
  | nil =>
      refine ⟨[], located_start capacity store, ?_⟩
      intro index entry hrecord
      cases hrecord
  | append_singleton operations operation ih =>
      rcases ih with ⟨places, hlocated, hdrops⟩
      have hlength : places.length = (recorded operations).length := hlocated.placed.length
      rw [run_concat, recorded_concat]
      cases operation with
      | record entry =>
          refine ⟨_, located_record hlocated entry, hdrops.concat ?_ ?_⟩
          · intro index hindex
            rw [List.getElem?_append_left (by rw [hlength]; exact hindex)]
          · intro _ _
            have hjournal : (Session.run write operations
                (Session.start capacity store)).journal =
              ((Session.start capacity (Noting.mk store [])).run (noting write)
                operations).journal :=
              congrArg Session.journal
                (forget_run write (Session.start capacity (Noting.mk store [])) operations).symm
            rw [← hlength, List.getElem?_concat_length, Option.some.injEq, hjournal,
              placeIn_eq_dropped_iff hlocated.room, hlocated.limit]
            rfl
      | flush max =>
          have hnothing : recorded operations ++ (Operation.flush max).recorded?.toList =
              recorded operations := List.append_nil _
          rw [hnothing]
          refine ⟨_, located_flush hlocated max, hdrops.concat ?_ ?_⟩
          · intro index _
            rw [getElem?_eq_dropped_iff, isDropped_handOver, ← getElem?_eq_dropped_iff]
          · intro entry hsame
            cases hsame

/--
Every entry that is recorded has one place: it was dropped when it was recorded,
because the journal was full, or it was handed to the store in one batch, or it
waits.  All that was handed over, followed by all that waits, is what was not
dropped in the order in which it was recorded.
-/
theorem run_in_order (write : List LogEntry -> σ -> Written × σ) (capacity : Nat) (store : σ)
    (operations : List Operation) :
    let start := Session.start capacity store
    let session := start.run write operations
    let deliveries :=
      ((Session.start capacity (Noting.mk store [])).run (noting write) operations).store.deliveries
    let entries := recorded operations
    let counters := session.journal.counters
    exists places : List Place,
      Placed entries places deliveries session.journal.pending ∧
        (keptEntries entries places).Sublist entries ∧
        DropsWhenFull write start operations places ∧
        counters.dropped = places.count .dropped ∧
        Tells (marked entries places) session.events ∧
        counters.completed + counters.failed + counters.cached = entries.length ∧
        counters.flushed = (deliveries.map Delivery.written).sum := by
  intro start session deliveries entries counters
  rcases located_run write capacity store operations with ⟨places, hlocated, hdrops⟩
  have hsession : session =
      ((Session.start capacity (Noting.mk store [])).run (noting write) operations).forget :=
    (forget_run write (Session.start capacity (Noting.mk store [])) operations).symm
  refine ⟨places, ?_, keptEntries_sublist hlocated.placed.length, hdrops, ?_, ?_, ?_, ?_⟩
  · rw [hsession]
    exact hlocated.placed
  · rw [show counters = session.journal.counters from rfl, hsession]
    exact hlocated.dropped
  · rw [hsession]
    exact hlocated.told
  · rw [show counters = session.journal.counters from rfl, hsession]
    exact hlocated.recorded
  · rw [show counters = session.journal.counters from rfl, hsession]
    exact hlocated.flushed

end Sessions
end Journal
end QueryGateway
