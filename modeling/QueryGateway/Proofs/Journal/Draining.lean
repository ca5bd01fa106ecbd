import QueryGateway.Proofs.Journal.Balance

/-!
# Draining a journal

A journal is drained in rounds.  Each round takes a batch of the oldest entries
and hands it to the store, whatever became of the batch before.  After a batch of
which nothing was written there is no further round, and none when nothing waits.
Every round makes the journal shorter, so there are only as many as there are
batches in it.
-/

namespace QueryGateway

namespace Journal

open Execution

variable {σ : Type}

/-!
# Rounds
-/

namespace Delivery

/-- Nothing of the batch was written: it was refused, or none of its entries was taken. -/
def IsFruitless (delivery : Delivery) : Prop :=
  delivery.answer = .ok 0 ∨ exists failure, delivery.answer = .error failure

def news (delivery : Delivery) : List Event :=
  match delivery.answer with
  | .ok _ => []
  | .error failure => [.logFlushFailed delivery.batch.length failure.message]

theorem written_eq_zero_iff (delivery : Delivery) :
    delivery.written = 0 ↔ delivery.IsFruitless := by
  rcases delivery with ⟨batch, answer⟩
  cases answer with
  | ok count => simp [Delivery.written, IsFruitless]
  | error failure => simp [Delivery.written, IsFruitless]

end Delivery

def Flushed.andThen (first later : Flushed σ) : Flushed σ :=
  { later with
    written := first.written + later.written
    events := first.events ++ later.events }

def nextDelivery (write : List LogEntry -> σ -> Written × σ) (soFar : Flushed σ) : Delivery :=
  let batch := soFar.journal.pending.take batchSize
  ⟨batch, (write batch soFar.store).1⟩

def nextFlush (write : List LogEntry -> σ -> Written × σ) (soFar : Flushed σ) : Flushed σ :=
  soFar.journal.flush write batchSize soFar.store

/--
The loop of a drain, from what has been done so far to its end, with the batches
that it hands over one in each round.
-/
inductive Rounds (write : List LogEntry -> σ -> Written × σ) :
    List Delivery -> Flushed σ -> Flushed σ -> Prop where
  | empty {soFar : Flushed σ} (hempty : soFar.journal.pending = []) : Rounds write [] soFar soFar
  | stuck {soFar : Flushed σ} (hwaiting : soFar.journal.pending ≠ [])
      (hnothing : (nextFlush write soFar).written = 0) :
      Rounds write [nextDelivery write soFar] soFar (soFar.andThen (nextFlush write soFar))
  | again {soFar final : Flushed σ} {deliveries : List Delivery}
      (hwaiting : soFar.journal.pending ≠ [])
      (hsome : (nextFlush write soFar).written ≠ 0)
      (hrest : Rounds write deliveries (soFar.andThen (nextFlush write soFar)) final) :
      Rounds write (nextDelivery write soFar :: deliveries) soFar final

/-- A journal of which the oldest entries have left in batches that were answered. -/
def after (deliveries : List Delivery) (journal : Journal) : Journal :=
  { journal with
    pending := journal.pending.drop (batchSize * deliveries.length)
    counters :=
      { journal.counters with
        flushed := journal.counters.flushed + (deliveries.map Delivery.written).sum
        flushFailures :=
          journal.counters.flushFailures + (deliveries.filterMap Delivery.refusal?).length } }

theorem after_append (first later : List Delivery) (journal : Journal) :
    journal.after (first ++ later) = (journal.after first).after later := by
  simp only [after, List.length_append, Nat.mul_add, List.drop_drop, List.map_append,
    List.sum_append, List.filterMap_append, Nat.add_assoc]

theorem nextFlush_eq (write : List LogEntry -> σ -> Written × σ) {soFar : Flushed σ}
    (hwaiting : soFar.journal.pending ≠ []) :
    nextFlush write soFar =
      ⟨(nextDelivery write soFar).written, (nextDelivery write soFar).news,
        soFar.journal.after [nextDelivery write soFar],
        (write (nextDelivery write soFar).batch soFar.store).2⟩ := by
  have hsome : (soFar.journal.pending.take batchSize).isEmpty = false := by
    cases hpending : soFar.journal.pending with
    | nil => exact absurd hpending hwaiting
    | cons entry rest => rfl
  unfold nextFlush
  cases hanswer : (write (soFar.journal.pending.take batchSize) soFar.store).1 with
  | ok written =>
      rw [flush_of_ok hsome hanswer]
      simp [nextDelivery, hanswer, Delivery.written, Delivery.news, after, Delivery.refusal?]
  | error failure =>
      rw [flush_of_error hsome hanswer]
      simp [nextDelivery, hanswer, Delivery.written, Delivery.news, after, Delivery.refusal?]

/-!
# Every drain comes to its end
-/

theorem andThen_assoc (first second third : Flushed σ) :
    (first.andThen second).andThen third = first.andThen (second.andThen third) := by
  simp only [Flushed.andThen, Nat.add_assoc, List.append_assoc]

theorem pending_nextFlush (write : List LogEntry -> σ -> Written × σ) (soFar : Flushed σ) :
    (nextFlush write soFar).journal.pending = soFar.journal.pending.drop batchSize :=
  flush_pending write batchSize soFar.journal soFar.store

/-- Whatever the store answers, a round makes the journal shorter. -/
theorem length_nextFlush_lt (write : List LogEntry -> σ -> Written × σ) {soFar : Flushed σ}
    (hwaiting : soFar.journal.pending ≠ []) :
    (nextFlush write soFar).journal.pending.length < soFar.journal.pending.length := by
  have hsome : 0 < soFar.journal.pending.length := List.length_pos_iff.mpr hwaiting
  rw [pending_nextFlush, List.length_drop]
  simp only [batchSize]
  omega

theorem drain_of_empty (write : List LogEntry -> σ -> Written × σ) {journal : Journal}
    (hempty : journal.pending = []) (store : σ) :
    journal.drain write store = ⟨0, [], journal, store⟩ := by
  rw [drain, hempty]
  rfl

theorem drain_of_stuck (write : List LogEntry -> σ -> Written × σ) {journal : Journal} {store : σ}
    (hwaiting : journal.pending ≠ [])
    (hnothing : (journal.flush write batchSize store).written = 0) :
    journal.drain write store = journal.flush write batchSize store := by
  rw [drain, if_neg (by simpa using hwaiting)]
  exact if_pos hnothing

theorem drain_of_progress (write : List LogEntry -> σ -> Written × σ) {journal : Journal}
    {store : σ} (hwaiting : journal.pending ≠ [])
    (hsome : (journal.flush write batchSize store).written ≠ 0) :
    journal.drain write store =
      (journal.flush write batchSize store).andThen
        ((journal.flush write batchSize store).journal.drain write
          (journal.flush write batchSize store).store) := by
  rw [drain, if_neg (by simpa using hwaiting)]
  exact if_neg hsome

def Flushed.noted (deliveries : List Delivery) (flushed : Flushed σ) : Flushed (Noting σ) :=
  ⟨flushed.written, flushed.events, flushed.journal, ⟨flushed.store, deliveries⟩⟩

theorem flush_noting (write : List LogEntry -> σ -> Written × σ) {soFar : Flushed σ}
    (hwaiting : soFar.journal.pending ≠ []) (deliveries : List Delivery) :
    soFar.journal.flush (noting write) batchSize ⟨soFar.store, deliveries⟩ =
      (nextFlush write soFar).noted (deliveries ++ [nextDelivery write soFar]) := by
  rw [nextFlush_eq write hwaiting]
  show nextFlush (noting write) (soFar.noted deliveries) = _
  rw [nextFlush_eq (noting write) hwaiting]
  rfl

/--
From any point the loop comes to its end, where the drain is, and it hands over the
batches that a store that takes notes finds in them.
-/
theorem exists_rounds (write : List LogEntry -> σ -> Written × σ) (soFar : Flushed σ)
    (before : List Delivery) :
    exists deliveries,
      Rounds write deliveries soFar (soFar.andThen (soFar.journal.drain write soFar.store)) ∧
        soFar.journal.drain (noting write) ⟨soFar.store, before⟩ =
          (soFar.journal.drain write soFar.store).noted (before ++ deliveries) := by
  -- Every round that is not the last makes the journal shorter.
  induction hlength : soFar.journal.pending.length using Nat.strongRecOn
    generalizing soFar before with
  | ind length ih =>
      by_cases hempty : soFar.journal.pending = []
      · refine ⟨[], ?_, ?_⟩
        · rw [drain_of_empty write hempty]
          have hsame : soFar.andThen ⟨0, [], soFar.journal, soFar.store⟩ = soFar := by
            simp [Flushed.andThen]
          rw [hsame]
          exact .empty hempty
        · rw [drain_of_empty write hempty, drain_of_empty (noting write) hempty,
            List.append_nil]
          rfl
      · have hnoting := flush_noting write hempty before
        by_cases hnothing : (nextFlush write soFar).written = 0
        · refine ⟨[nextDelivery write soFar], ?_, ?_⟩
          · rw [drain_of_stuck write hempty hnothing]
            exact .stuck hempty hnothing
          · rw [drain_of_stuck write hempty hnothing,
              drain_of_stuck (noting write) hempty (by rw [hnoting]; exact hnothing), hnoting]
            rfl
        · have hshorter : (soFar.andThen (nextFlush write soFar)).journal.pending.length <
              length := by
            rw [← hlength]
            exact length_nextFlush_lt write hempty
          rcases ih _ hshorter (soFar.andThen (nextFlush write soFar))
            (before ++ [nextDelivery write soFar]) rfl with ⟨deliveries, hrounds, hdrain⟩
          refine ⟨nextDelivery write soFar :: deliveries, ?_, ?_⟩
          · rw [drain_of_progress write hempty hnothing, ← andThen_assoc]
            exact .again hempty hnothing hrounds
          · rw [drain_of_progress write hempty hnothing,
              drain_of_progress (noting write) hempty (by rw [hnoting]; exact hnothing), hnoting]
            rw [List.append_assoc] at hdrain
            exact congrArg ((nextFlush write soFar).noted _).andThen hdrain

/-!
# The batches of a drain
-/

/--
Batches cut off one after the other from what waits, none of them empty.  One is the
last exactly if nothing of it was written or nothing waits after it.
-/
structure Batches (pending : List LogEntry) (deliveries : List Delivery) : Prop where
  cut : forall i delivery, deliveries[i]? = some delivery ->
    delivery.batch = (pending.drop (batchSize * i)).take batchSize ∧ delivery.batch ≠ []
  ends : forall i delivery, deliveries[i]? = some delivery ->
    (i + 1 = deliveries.length ↔
      delivery.IsFruitless ∨ pending.drop (batchSize * (i + 1)) = [])
  idle : deliveries = [] ↔ pending = []

namespace Batches

variable {pending : List LogEntry} {first : Delivery} {deliveries : List Delivery}

theorem nothing : Batches [] [] where
  cut := by
    intro i delivery hdelivery
    cases hdelivery
  ends := by
    intro i delivery hdelivery
    cases hdelivery
  idle := iff_of_true rfl rfl

theorem batch_ne_nil (hbatch : first.batch = pending.take batchSize) (hwaiting : pending ≠ []) :
    first.batch ≠ [] := by
  rw [hbatch]
  cases pending with
  | nil => exact absurd rfl hwaiting
  | cons entry rest => exact List.cons_ne_nil _ _

theorem single (hbatch : first.batch = pending.take batchSize) (hwaiting : pending ≠ [])
    (hfruitless : first.IsFruitless) : Batches pending [first] where
  cut := by
    intro i delivery hdelivery
    rcases List.getElem?_eq_some_iff.mp hdelivery with ⟨hi, hsame⟩
    have hzero : i = 0 := Nat.lt_one_iff.mp hi
    subst hzero
    cases hsame
    exact ⟨hbatch, batch_ne_nil hbatch hwaiting⟩
  ends := by
    intro i delivery hdelivery
    rcases List.getElem?_eq_some_iff.mp hdelivery with ⟨hi, hsame⟩
    have hzero : i = 0 := Nat.lt_one_iff.mp hi
    subst hzero
    cases hsame
    exact iff_of_true rfl (Or.inl hfruitless)
  idle := iff_of_false (List.cons_ne_nil _ _) hwaiting

theorem cons (hbatch : first.batch = pending.take batchSize) (hwaiting : pending ≠ [])
    (hfruitful : ¬ first.IsFruitless) (hrest : Batches (pending.drop batchSize) deliveries) :
    Batches pending (first :: deliveries) := by
  have hdrop : forall i, (pending.drop batchSize).drop (batchSize * i) =
      pending.drop (batchSize * (i + 1)) := by
    intro i
    rw [List.drop_drop, Nat.mul_succ, Nat.add_comm]
  constructor
  case cut =>
    intro i delivery hdelivery
    cases i with
    | zero =>
        cases hdelivery
        exact ⟨hbatch, batch_ne_nil hbatch hwaiting⟩
    | succ i =>
        rw [← hdrop]
        exact hrest.cut i delivery hdelivery
  case ends =>
    intro i delivery hdelivery
    cases i with
    | zero =>
        cases hdelivery
        rw [List.length_cons, Nat.add_right_cancel_iff, or_iff_right hfruitful, Nat.zero_add,
          Nat.mul_one, ← hrest.idle, eq_comm, List.length_eq_zero_iff]
    | succ i =>
        rw [List.length_cons, Nat.add_right_cancel_iff, ← hdrop]
        exact hrest.ends i delivery hdelivery
  case idle => exact iff_of_false (List.cons_ne_nil _ _) hwaiting

theorem length_lt (hbatches : Batches pending deliveries) :
    batchSize * deliveries.length < pending.length + batchSize := by
  cases hlength : deliveries.length with
  | zero =>
      simp only [batchSize]
      omega
  | succ last =>
      have hlast : last < deliveries.length := by omega
      have hcut := hbatches.cut last _ (List.getElem?_eq_getElem hlast)
      have hsome : pending.drop (batchSize * last) ≠ [] := by
        intro hnil
        rw [hnil] at hcut
        exact hcut.right hcut.left
      have hbound : batchSize * last < pending.length :=
        Nat.lt_of_not_le (mt List.drop_eq_nil_iff.mpr hsome)
      rw [Nat.mul_succ]
      omega

end Batches

section Ends

variable {write : List LogEntry -> σ -> Written × σ} {deliveries : List Delivery}
  {soFar final : Flushed σ}

theorem Rounds.batches (hrounds : Rounds write deliveries soFar final) :
    Batches soFar.journal.pending deliveries := by
  induction hrounds with
  | empty hempty =>
      rw [hempty]
      exact .nothing
  | @stuck soFar hwaiting hnothing =>
      rw [nextFlush_eq write hwaiting] at hnothing
      exact .single rfl hwaiting ((Delivery.written_eq_zero_iff _).mp hnothing)
  | @again soFar final deliveries hwaiting hsome hrest ih =>
      have hpending : (soFar.andThen (nextFlush write soFar)).journal.pending =
          soFar.journal.pending.drop batchSize :=
        pending_nextFlush write soFar
      rw [hpending] at ih
      rw [nextFlush_eq write hwaiting] at hsome
      exact .cons rfl hwaiting (mt (Delivery.written_eq_zero_iff _).mpr hsome) ih

theorem Rounds.final_eq (hrounds : Rounds write deliveries soFar final) :
    final.written = soFar.written + (deliveries.map Delivery.written).sum ∧
      final.events = soFar.events ++ deliveries.flatMap Delivery.news ∧
      final.journal = soFar.journal.after deliveries := by
  induction hrounds with
  | empty hempty => exact ⟨rfl, (List.append_nil _).symm, rfl⟩
  | @stuck soFar hwaiting hnothing =>
      rw [nextFlush_eq write hwaiting]
      refine ⟨?_, ?_, rfl⟩
      · simp [Flushed.andThen]
      · simp [Flushed.andThen]
  | @again soFar final deliveries hwaiting hsome hrest ih =>
      rw [nextFlush_eq write hwaiting] at ih
      rcases ih with ⟨hwritten, hevents, hjournal⟩
      refine ⟨?_, ?_, ?_⟩
      · rw [hwritten, List.map_cons, List.sum_cons]
        exact Nat.add_assoc _ _ _
      · rw [hevents, List.flatMap_cons]
        exact List.append_assoc _ _ _
      · rw [hjournal]
        exact (after_append [nextDelivery write soFar] deliveries soFar.journal).symm

/-- Each entry that waited is handed over once, in its place, or waits still. -/
theorem Rounds.flatMap_batch (hrounds : Rounds write deliveries soFar final) :
    deliveries.flatMap Delivery.batch ++ final.journal.pending = soFar.journal.pending := by
  have hfirst : forall soFar : Flushed σ,
      (nextDelivery write soFar).batch ++ (nextFlush write soFar).journal.pending =
        soFar.journal.pending := by
    intro soFar
    rw [pending_nextFlush]
    exact List.take_append_drop batchSize soFar.journal.pending
  induction hrounds with
  | empty hempty => rfl
  | @stuck soFar hwaiting hnothing =>
      rw [List.flatMap_singleton]
      exact hfirst soFar
  | @again soFar final deliveries hwaiting hsome hrest ih =>
      rw [List.flatMap_cons, List.append_assoc, ih]
      exact hfirst soFar

end Ends

/--
A drain comes to its end after as many rounds as it hands over batches, and these
are no more than there are in what waits.  The batches are cut off from what waits,
the oldest entries first, up to the first of which nothing is written or the last
that there is.  What is told as written is the sum over them, which is also what
the counter of written entries gains, and what waits after them is left.
-/
theorem drain_ends_in_place (write : List LogEntry -> σ -> Written × σ) (journal : Journal)
    (store : σ) :
    let drained := journal.drain write store
    let deliveries := (journal.drain (noting write) ⟨store, []⟩).store.deliveries
    Rounds write deliveries ⟨0, [], journal, store⟩ drained ∧
      batchSize * deliveries.length < journal.pending.length + batchSize ∧
      Batches journal.pending deliveries ∧
      deliveries.flatMap Delivery.batch ++ drained.journal.pending = journal.pending ∧
      drained.written = (deliveries.map Delivery.written).sum ∧
      drained.journal.counters.flushed = journal.counters.flushed + drained.written ∧
      drained.journal.pending = journal.pending.drop (batchSize * deliveries.length) ∧
      drained.journal = journal.after deliveries ∧
      drained.events = deliveries.flatMap Delivery.news := by
  intro drained deliveries
  rcases exists_rounds write ⟨0, [], journal, store⟩ [] with ⟨handed, hrounds, hnoted⟩
  have hdeliveries : deliveries = handed :=
    congrArg (fun flushed : Flushed (Noting σ) => flushed.store.deliveries) hnoted
  have hdrained : (Flushed.mk 0 [] journal store).andThen drained = drained := by
    simp [Flushed.andThen]
  rw [← hdeliveries, hdrained] at hrounds
  have hbatches := hrounds.batches
  rcases hrounds.final_eq with ⟨hwritten, hevents, hjournal⟩
  have hsum : drained.written = (deliveries.map Delivery.written).sum := by
    rw [hwritten]
    exact Nat.zero_add _
  refine ⟨hrounds, hbatches.length_lt, hbatches, hrounds.flatMap_batch, hsum, ?_, ?_, hjournal,
    hevents⟩
  · rw [hsum, hjournal]
    rfl
  · rw [hjournal]
    rfl

end Journal
end QueryGateway
