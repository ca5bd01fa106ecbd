import Mathlib.Algebra.GroupWithZero.Nat
import QueryGateway.Journal.Basic
import QueryGateway.Proofs.Storage.Batch
import QueryGateway.Storage.Database

/-!
# What becomes of recorded entries

An entry that is recorded waits in the journal, or finds no room there and is
dropped.  What waits is handed to a store in batches, and the store writes a
batch, writes a part of it, or refuses it.  Operators are told of every entry
that is dropped and of every batch that is refused.  They are not told of what
is missing from a batch of which the store writes a part.
-/

namespace QueryGateway
namespace Journal

open Execution

variable {σ : Type}

inductive Operation where
  | record (entry : LogEntry)
  | flush (max : Nat)

def Operation.recorded? : Operation -> Option LogEntry
  | .record entry => some entry
  | .flush _ => none

def recorded (operations : List Operation) : List LogEntry :=
  operations.filterMap Operation.recorded?

/-- A journal, the store that it is written to, and what operators have been told. -/
structure Session (σ : Type) where
  journal : Journal
  store : σ
  events : List Event

namespace Session

def start (capacity : Nat) (store : σ) : Session σ :=
  ⟨.empty capacity, store, []⟩

def apply (write : List LogEntry -> σ -> Written × σ) (session : Session σ) :
    Operation -> Session σ
  | .record entry =>
      let (events, journal) := session.journal.record entry
      { session with journal, events := session.events ++ events }
  | .flush max =>
      let flushed := session.journal.flush write max session.store
      ⟨flushed.journal, flushed.store, session.events ++ flushed.events⟩

def run (write : List LogEntry -> σ -> Written × σ) (operations : List Operation)
    (session : Session σ) : Session σ :=
  operations.foldl (apply write) session

end Session

/-!
# What operators are told
-/

def dropNotice? : Event -> Option (Uuid × Option Uuid)
  | .logDropped systemId queryId => some (systemId, queryId)
  | _ => none

def refusalNotice? : Event -> Option (Nat × String)
  | .logFlushFailed size error => some (size, error)
  | _ => none

def droppedCount (events : List Event) : Nat :=
  (events.filterMap dropNotice?).length

def refusedCount (events : List Event) : Nat :=
  ((events.filterMap refusalNotice?).map Prod.fst).sum

/-!
# What a store is handed
-/

structure Delivery where
  batch : List LogEntry
  answer : Written

namespace Delivery

def written (delivery : Delivery) : Nat :=
  match delivery.answer with
  | .ok written => written
  | .error _ => 0

def refusal? (delivery : Delivery) : Option (Nat × String) :=
  match delivery.answer with
  | .ok _ => none
  | .error failure => some (delivery.batch.length, failure.message)

/-- How many entries are missing from a batch that is not refused. -/
def missing (delivery : Delivery) : Nat :=
  match delivery.answer with
  | .ok written => delivery.batch.length - written
  | .error _ => 0

/-- A batch that is refused, or else written to its last entry. -/
def IsWhole (delivery : Delivery) : Prop :=
  forall written, delivery.answer = .ok written -> written = delivery.batch.length

end Delivery

/-- A store that notes what it is handed. -/
structure Noting (σ : Type) where
  store : σ
  deliveries : List Delivery

def noting (write : List LogEntry -> σ -> Written × σ) (batch : List LogEntry)
    (noted : Noting σ) : Written × Noting σ :=
  let (answer, store) := write batch noted.store
  (answer, ⟨store, noted.deliveries ++ [⟨batch, answer⟩]⟩)

/-!
# Single operations
-/

theorem record_of_room {journal : Journal} (hroom : journal.depth < journal.capacity)
    (entry : LogEntry) :
    journal.record entry =
      ([.execution entry],
        { journal with
          pending := journal.pending ++ [entry]
          counters := journal.counters.tally entry.status }) := by
  have hdepth : journal.pending.length < journal.capacity := hroom
  simp only [record, push?, depth, hdepth, if_true]

theorem record_of_full {journal : Journal} (hfull : ¬ journal.depth < journal.capacity)
    (entry : LogEntry) :
    journal.record entry =
      ([.execution entry, .logDropped entry.systemId entry.queryId],
        { journal with
          counters :=
            { journal.counters.tally entry.status with
              dropped := (journal.counters.tally entry.status).dropped + 1 } }) := by
  have hdepth : ¬ journal.pending.length < journal.capacity := hfull
  simp only [record, push?, depth, hdepth, if_false]

theorem record_cases (entry : LogEntry) (journal : Journal) :
    journal.record entry =
        ([.execution entry],
          { journal with
            pending := journal.pending ++ [entry]
            counters := journal.counters.tally entry.status }) ∨
      journal.record entry =
        ([.execution entry, .logDropped entry.systemId entry.queryId],
          { journal with
            counters :=
              { journal.counters.tally entry.status with
                dropped := (journal.counters.tally entry.status).dropped + 1 } }) := by
  by_cases hroom : journal.depth < journal.capacity
  · exact Or.inl (record_of_room hroom entry)
  · exact Or.inr (record_of_full hroom entry)

@[simp] theorem flushed_tally (status : Status) (counters : Counters) :
    (counters.tally status).flushed = counters.flushed := by
  cases status <;> rfl

theorem recorded_tally (status : Status) (counters : Counters) :
    (counters.tally status).recorded = counters.recorded + 1 := by
  cases status with
  | completed =>
      simp only [Counters.tally, Counters.recorded]
      omega
  | failed =>
      simp only [Counters.tally, Counters.recorded]
      omega
  | cached =>
      simp only [Counters.tally, Counters.recorded]
      omega

/-!
# Entries that are recorded while a batch is with the store
-/

theorem settle_tally (status : Status) (size : Nat) (answer : Written) (journal : Journal) :
    (journal.settle size answer).2.2.counters.tally status =
      ({ journal with counters := journal.counters.tally status }.settle size
        answer).2.2.counters := by
  cases answer with
  | ok written => cases status <;> rfl
  | error failure => cases status <;> rfl

/-- An entry that is recorded before the answer of a store may as well be recorded after it. -/
theorem record_settle (entry : LogEntry) (size : Nat) (answer : Written) (journal : Journal) :
    (journal.settle size answer).2.2.record entry =
      ((journal.record entry).1, ((journal.record entry).2.settle size answer).2.2) := by
  have hdepth : (journal.settle size answer).2.2.depth = journal.depth :=
    congrArg List.length (settle_pending size answer journal)
  have hcapacity : (journal.settle size answer).2.2.capacity = journal.capacity := by
    cases answer <;> rfl
  by_cases hroom : journal.depth < journal.capacity
  · have hlater : (journal.settle size answer).2.2.depth <
        (journal.settle size answer).2.2.capacity := by rwa [hdepth, hcapacity]
    rw [record_of_room hlater, record_of_room hroom, settle_tally]
    cases answer <;> rfl
  · have hlater : ¬ (journal.settle size answer).2.2.depth <
        (journal.settle size answer).2.2.capacity := by rwa [hdepth, hcapacity]
    rw [record_of_full hlater, record_of_full hroom, settle_tally]
    cases answer <;> rfl

def recordAll : List LogEntry -> Journal -> List Event × Journal
  | [], journal => ([], journal)
  | entry :: rest, journal =>
      let (events, journal) := journal.record entry
      let (further, journal) := recordAll rest journal
      (events ++ further, journal)

theorem recordAll_settle (entries : List LogEntry) (size : Nat) (answer : Written)
    (journal : Journal) :
    (journal.settle size answer).2.2.recordAll entries =
      ((journal.recordAll entries).1, ((journal.recordAll entries).2.settle size answer).2.2) := by
  induction entries generalizing journal with
  | nil => rfl
  | cons entry rest ih => simp only [recordAll, record_settle, ih]

theorem Session.run_records (write : List LogEntry -> σ -> Written × σ) (entries : List LogEntry)
    (session : Session σ) :
    session.run write (entries.map .record) =
      ⟨(session.journal.recordAll entries).2, session.store,
        session.events ++ (session.journal.recordAll entries).1⟩ := by
  induction entries generalizing session with
  | nil =>
      show session = ⟨session.journal, session.store, session.events ++ []⟩
      rw [List.append_nil]
  | cons entry rest ih =>
      have hfirst : session.run write ((entry :: rest).map .record) =
          (session.apply write (.record entry)).run write (rest.map .record) := rfl
      rw [hfirst, ih]
      simp only [apply, recordAll, List.append_assoc]

theorem settle_events (size : Nat) (answer : Written) (journal other : Journal) :
    (journal.settle size answer).2.1 = (other.settle size answer).2.1 := by
  cases answer with
  | ok written => rfl
  | error failure => rfl

/--
A batch is taken from a journal, entries are recorded, and then the answer of the store
comes.  Journal and store are the same as if the batch had been written at one moment
and the entries recorded after it, and operators are told the same, in another order.
-/
theorem flush_among_records (write : List LogEntry -> σ -> Written × σ) (max : Nat)
    (entries : List LogEntry) (session : Session σ)
    (hsome : (session.journal.pending.take max).isEmpty = false) :
    let batch := (session.journal.pop max).1
    let meanwhile :=
      { session with journal := (session.journal.pop max).2 }.run write (entries.map .record)
    let answer := (write batch session.store).1
    let settled := meanwhile.journal.settle batch.length answer
    let whole := session.run write (.flush max :: entries.map .record)
    settled.2.2 = whole.journal ∧ (write batch meanwhile.store).2 = whole.store ∧
      (meanwhile.events ++ settled.2.1).Perm whole.events := by
  intro batch meanwhile answer settled whole
  let rest := (session.journal.pop max).2
  have hmeanwhile : meanwhile = ⟨(rest.recordAll entries).2, session.store,
      session.events ++ (rest.recordAll entries).1⟩ :=
    Session.run_records write entries { session with journal := rest }
  have hflush : session.apply write (.flush max) =
      ⟨(rest.settle batch.length answer).2.2, (write batch session.store).2,
        session.events ++ (rest.settle batch.length answer).2.1⟩ := by
    simp only [Session.apply, flush, pop, hsome, Bool.false_eq_true, if_false]
    rfl
  have hwhole : whole =
      ⟨((rest.recordAll entries).2.settle batch.length answer).2.2,
        (write batch session.store).2,
        session.events ++ (rest.settle batch.length answer).2.1 ++
          (rest.recordAll entries).1⟩ := by
    have hfirst : whole =
        (session.apply write (.flush max)).run write (entries.map .record) := rfl
    rw [hfirst, hflush, Session.run_records, recordAll_settle]
  have hsettled : settled = (rest.recordAll entries).2.settle batch.length answer :=
    congrArg (fun session => session.journal.settle batch.length answer) hmeanwhile
  rw [hsettled, hmeanwhile, hwhole]
  refine ⟨rfl, rfl, ?_⟩
  rw [settle_events _ _ _ rest, List.append_assoc, List.append_assoc]
  exact List.Perm.append_left session.events List.perm_append_comm

section Accounts

variable {write : List LogEntry -> σ -> Written × σ}

theorem flush_of_isEmpty {max : Nat} {journal : Journal}
    (hempty : (journal.pending.take max).isEmpty = true) (store : σ) :
    journal.flush write max store =
      ⟨0, [], { journal with pending := journal.pending.drop max }, store⟩ := by
  simp only [flush, pop, hempty, if_true]

theorem flush_of_ok {max : Nat} {journal : Journal} {store : σ} {written : Nat}
    (hsome : (journal.pending.take max).isEmpty = false)
    (hanswer : (write (journal.pending.take max) store).1 = .ok written) :
    journal.flush write max store =
      ⟨written, [],
        { journal with
          pending := journal.pending.drop max
          counters := { journal.counters with flushed := journal.counters.flushed + written } },
        (write (journal.pending.take max) store).2⟩ := by
  simp only [flush, pop, hsome, Bool.false_eq_true, if_false, hanswer, settle]

theorem flush_of_error {max : Nat} {journal : Journal} {store : σ} {failure : Failure}
    (hsome : (journal.pending.take max).isEmpty = false)
    (hanswer : (write (journal.pending.take max) store).1 = .error failure) :
    journal.flush write max store =
      ⟨0, [.logFlushFailed (journal.pending.take max).length failure.message],
        { journal with
          pending := journal.pending.drop max
          counters :=
            { journal.counters with flushFailures := journal.counters.flushFailures + 1 } },
        (write (journal.pending.take max) store).2⟩ := by
  simp only [flush, pop, hsome, Bool.false_eq_true, if_false, hanswer, settle]

/-!
# Accounts

The entries that were recorded, some of them dropped, as they stand in a
session whose store notes what it is handed.
-/

structure Accounts (entries dropped : List LogEntry) (session : Session (Noting σ)) : Prop where
  whereabouts : entries.Perm
    (dropped ++ session.store.deliveries.flatMap Delivery.batch ++ session.journal.pending)
  drops : session.events.filterMap dropNotice? =
    dropped.map fun entry => (entry.systemId, entry.queryId)
  refusals : session.events.filterMap refusalNotice? =
    session.store.deliveries.filterMap Delivery.refusal?
  flushed : session.journal.counters.flushed =
    (session.store.deliveries.map Delivery.written).sum
  bounded : forall delivery, delivery ∈ session.store.deliveries ->
    delivery.written ≤ delivery.batch.length

theorem accounts_start (capacity : Nat) (store : σ) :
    Accounts [] [] (Session.start capacity (Noting.mk store [])) where
  whereabouts := List.Perm.refl []
  drops := rfl
  refusals := rfl
  flushed := rfl
  bounded := by
    intro delivery hmem
    cases hmem

theorem accounts_record (write : List LogEntry -> σ -> Written × σ)
    {entries dropped : List LogEntry} {session : Session (Noting σ)}
    (haccounts : Accounts entries dropped session) (entry : LogEntry) :
    exists dropped', Accounts (entries ++ [entry]) dropped'
      (session.apply (noting write) (.record entry)) := by
  have hentries := haccounts.whereabouts.append_right [entry]
  rcases record_cases entry session.journal with hwaits | hdrops
  · refine ⟨dropped, ?_⟩
    simp only [Session.apply, hwaits]
    constructor
    · simpa using hentries
    · rw [List.filterMap_append, haccounts.drops]
      exact List.append_nil _
    · rw [List.filterMap_append, haccounts.refusals]
      exact List.append_nil _
    · simpa using haccounts.flushed
    · exact haccounts.bounded
  · refine ⟨dropped ++ [entry], ?_⟩
    simp only [Session.apply, hdrops]
    constructor
    · -- The dropped entry moves in front of all that was handed over or waits.
      refine hentries.trans ?_
      simp only [List.append_assoc]
      refine List.Perm.append_left dropped ?_
      rw [← List.append_assoc]
      exact List.perm_append_comm
    · rw [List.filterMap_append, haccounts.drops, List.map_append]
      rfl
    · rw [List.filterMap_append, haccounts.refusals]
      exact List.append_nil _
    · simpa using haccounts.flushed
    · exact haccounts.bounded

theorem accounts_flush {entries dropped : List LogEntry} {session : Session (Noting σ)}
    (hwrite : forall batch store written, (write batch store).1 = .ok written ->
      written ≤ batch.length)
    (haccounts : Accounts entries dropped session) (max : Nat) :
    Accounts entries dropped (session.apply (noting write) (.flush max)) := by
  rcases session with ⟨journal, ⟨store, deliveries⟩, events⟩
  have hsplit : journal.pending.take max ++ journal.pending.drop max = journal.pending :=
    List.take_append_drop max journal.pending
  cases hempty : (journal.pending.take max).isEmpty with
  | true =>
      have hnil : journal.pending.take max = [] := List.isEmpty_iff.mp hempty
      have hdrop : journal.pending.drop max = journal.pending := by
        rw [hnil] at hsplit
        exact hsplit
      simp only [Session.apply, flush_of_isEmpty hempty, List.append_nil, hdrop]
      exact haccounts
  | false =>
      -- Whatever the answer is, the batch goes from the journal to the deliveries.
      have hwhereabouts : entries.Perm
          (dropped ++ (deliveries.flatMap Delivery.batch ++ journal.pending.take max) ++
            journal.pending.drop max) := by
        simpa [List.append_assoc] using haccounts.whereabouts
      have hrefusals : events.filterMap refusalNotice? =
          deliveries.filterMap Delivery.refusal? := haccounts.refusals
      cases hanswer : (write (journal.pending.take max) store).1 with
      | ok written =>
          have hnoted : (noting write (journal.pending.take max) ⟨store, deliveries⟩).1 =
              .ok written := hanswer
          simp only [Session.apply, flush_of_ok hempty hnoted, noting, hanswer]
          constructor
          · simpa using hwhereabouts
          · simpa using haccounts.drops
          · rw [List.append_nil, List.filterMap_append]
            exact hrefusals.trans (List.append_nil _).symm
          · simpa [Delivery.written] using haccounts.flushed
          · intro delivery hmem
            rcases List.mem_append.mp hmem with hbefore | hlast
            · exact haccounts.bounded delivery hbefore
            · rw [List.mem_singleton.mp hlast]
              exact hwrite _ _ _ hanswer
      | error failure =>
          have hnoted : (noting write (journal.pending.take max) ⟨store, deliveries⟩).1 =
              .error failure := hanswer
          simp only [Session.apply, flush_of_error hempty hnoted, noting, hanswer]
          constructor
          · simpa using hwhereabouts
          · rw [List.filterMap_append]
            exact (List.append_nil _).trans haccounts.drops
          · rw [List.filterMap_append, List.filterMap_append, hrefusals]
            rfl
          · simpa [Delivery.written] using haccounts.flushed
          · intro delivery hmem
            rcases List.mem_append.mp hmem with hbefore | hlast
            · exact haccounts.bounded delivery hbefore
            · rw [List.mem_singleton.mp hlast]
              exact Nat.zero_le _

theorem accounts_run {entries dropped : List LogEntry} {session : Session (Noting σ)}
    (hwrite : forall batch store written, (write batch store).1 = .ok written ->
      written ≤ batch.length)
    (operations : List Operation) (haccounts : Accounts entries dropped session) :
    exists dropped', Accounts (entries ++ recorded operations) dropped'
      (session.run (noting write) operations) := by
  induction operations generalizing entries dropped session with
  | nil =>
      refine ⟨dropped, ?_⟩
      rw [recorded, List.filterMap_nil, List.append_nil]
      exact haccounts
  | cons operation operations ih =>
      cases operation with
      | record entry =>
          rcases accounts_record write haccounts entry with ⟨dropped', hafter⟩
          have hrest := ih hafter
          rw [List.append_assoc] at hrest
          exact hrest
      | flush max => exact ih (accounts_flush hwrite haccounts max)

/-!
# The balance
-/

theorem length_deliveries {deliveries : List Delivery}
    (hbounded : forall delivery, delivery ∈ deliveries ->
      delivery.written ≤ delivery.batch.length) :
    (deliveries.flatMap Delivery.batch).length =
      (deliveries.map Delivery.written).sum +
        ((deliveries.filterMap Delivery.refusal?).map Prod.fst).sum +
          (deliveries.map Delivery.missing).sum := by
  induction deliveries with
  | nil => rfl
  | cons delivery deliveries ih =>
      have hfirst := hbounded delivery List.mem_cons_self
      have hrest := ih fun other hmem => hbounded other (List.mem_cons_of_mem _ hmem)
      rcases delivery with ⟨batch, answer⟩
      cases answer with
      | ok written =>
          have hwritten : written ≤ batch.length := hfirst
          simp only [List.flatMap_cons, List.length_append, hrest, List.map_cons, List.sum_cons,
            List.filterMap_cons, Delivery.written, Delivery.refusal?, Delivery.missing]
          omega
      | error failure =>
          simp only [List.flatMap_cons, List.length_append, hrest, List.map_cons, List.sum_cons,
            List.filterMap_cons, Delivery.written, Delivery.refusal?, Delivery.missing]
          omega

theorem missing_eq_zero_iff {delivery : Delivery}
    (hbounded : delivery.written ≤ delivery.batch.length) :
    delivery.missing = 0 ↔ delivery.IsWhole := by
  rcases delivery with ⟨batch, answer⟩
  cases answer with
  | ok written =>
      have hwritten : written ≤ batch.length := hbounded
      constructor
      · intro hmissing other hother
        have hzero : batch.length - written = 0 := hmissing
        cases hother
        show written = batch.length
        omega
      · intro hwhole
        have hlength : written = batch.length := hwhole written rfl
        show batch.length - written = 0
        omega
  | error failure =>
      constructor
      · intro _ other hother
        cases hother
      · intro _
        rfl

theorem sum_missing_eq_zero_iff {deliveries : List Delivery}
    (hbounded : forall delivery, delivery ∈ deliveries ->
      delivery.written ≤ delivery.batch.length) :
    (deliveries.map Delivery.missing).sum = 0 ↔
      forall delivery, delivery ∈ deliveries -> delivery.IsWhole := by
  rw [List.sum_eq_zero_iff_forall_eq_nat]
  constructor
  · intro hzero delivery hmem
    exact (missing_eq_zero_iff (hbounded delivery hmem)).mp
      (hzero _ (List.mem_map_of_mem hmem))
  · intro hwhole missing hmem
    rcases List.mem_map.mp hmem with ⟨delivery, hdelivery, hmissing⟩
    rw [← hmissing]
    exact (missing_eq_zero_iff (hbounded delivery hdelivery)).mpr (hwhole delivery hdelivery)

/-!
# Notes change nothing
-/

def Session.forget (session : Session (Noting σ)) : Session σ :=
  ⟨session.journal, session.store.store, session.events⟩

theorem forget_apply (session : Session (Noting σ)) (operation : Operation) :
    (session.apply (noting write) operation).forget = session.forget.apply write operation := by
  cases operation with
  | record entry => rfl
  | flush max =>
      rcases session with ⟨journal, ⟨store, deliveries⟩, events⟩
      cases hempty : (journal.pending.take max).isEmpty with
      | true =>
          simp only [Session.forget, Session.apply, flush_of_isEmpty hempty]
      | false =>
          cases hanswer : (write (journal.pending.take max) store).1 with
          | ok written =>
              have hnoted : (noting write (journal.pending.take max) ⟨store, deliveries⟩).1 =
                  .ok written := hanswer
              simp only [Session.forget, Session.apply, flush_of_ok hempty hnoted,
                flush_of_ok hempty hanswer, noting]
          | error failure =>
              have hnoted : (noting write (journal.pending.take max) ⟨store, deliveries⟩).1 =
                  .error failure := hanswer
              simp only [Session.forget, Session.apply, flush_of_error hempty hnoted,
                flush_of_error hempty hanswer, noting]

theorem forget_run (write : List LogEntry -> σ -> Written × σ) (session : Session (Noting σ))
    (operations : List Operation) :
    (session.run (noting write) operations).forget = session.forget.run write operations := by
  induction operations generalizing session with
  | nil => rfl
  | cons operation operations ih =>
      show ((session.apply (noting write) operation).run (noting write) operations).forget = _
      rw [ih, forget_apply]
      rfl

/--
Every entry that is recorded was dropped, was handed to the store, or waits, and
operators are told of each that was dropped and of each batch that was refused.
The count of these, of the entries written and of those that wait falls short
of the entries recorded by what is missing from batches written in part; it is
complete exactly when there is no such batch.
-/
theorem run_balance
    (hwrite : forall batch store written, (write batch store).1 = .ok written ->
      written ≤ batch.length)
    (capacity : Nat) (store : σ) (operations : List Operation) :
    let session := (Session.start capacity store).run write operations
    let deliveries :=
      ((Session.start capacity (Noting.mk store [])).run (noting write) operations).store.deliveries
    let accounted := session.journal.counters.flushed + session.journal.depth +
      droppedCount session.events + refusedCount session.events
    (exists dropped : List LogEntry,
        (recorded operations).Perm
            (dropped ++ deliveries.flatMap Delivery.batch ++ session.journal.pending) ∧
          session.events.filterMap dropNotice? =
            dropped.map fun entry => (entry.systemId, entry.queryId)) ∧
      session.events.filterMap refusalNotice? = deliveries.filterMap Delivery.refusal? ∧
      session.journal.counters.flushed = (deliveries.map Delivery.written).sum ∧
      (recorded operations).length = accounted + (deliveries.map Delivery.missing).sum ∧
      ((recorded operations).length = accounted ↔
        forall delivery, delivery ∈ deliveries -> delivery.IsWhole) := by
  intro session deliveries accounted
  have hforget := forget_run write (Session.start capacity (Noting.mk store []))
    operations
  rcases accounts_run hwrite operations (accounts_start capacity store) with ⟨dropped, haccounts⟩
  have hsession : session =
      ((Session.start capacity (Noting.mk store [])).run (noting write) operations).forget :=
    hforget.symm
  have hwhereabouts : (recorded operations).Perm
      (dropped ++ deliveries.flatMap Delivery.batch ++ session.journal.pending) := by
    rw [hsession]
    exact haccounts.whereabouts
  have hdrops : session.events.filterMap dropNotice? =
      dropped.map fun entry => (entry.systemId, entry.queryId) := by
    rw [hsession]
    exact haccounts.drops
  have hrefusals : session.events.filterMap refusalNotice? =
      deliveries.filterMap Delivery.refusal? := by
    rw [hsession]
    exact haccounts.refusals
  have hflushed : session.journal.counters.flushed = (deliveries.map Delivery.written).sum := by
    rw [hsession]
    exact haccounts.flushed
  have hbounded : forall delivery, delivery ∈ deliveries ->
      delivery.written ≤ delivery.batch.length := haccounts.bounded
  have hbalance : (recorded operations).length =
      accounted + (deliveries.map Delivery.missing).sum := by
    have hdropped : droppedCount session.events = dropped.length := by
      rw [droppedCount, hdrops, List.length_map]
    have hrefused : refusedCount session.events =
        ((deliveries.filterMap Delivery.refusal?).map Prod.fst).sum := by
      rw [refusedCount, hrefusals]
    calc (recorded operations).length
        = dropped.length + (deliveries.flatMap Delivery.batch).length +
            session.journal.pending.length := by
          rw [hwhereabouts.length_eq, List.length_append, List.length_append]
      _ = session.journal.counters.flushed + session.journal.depth +
            droppedCount session.events + refusedCount session.events +
            (deliveries.map Delivery.missing).sum := by
          rw [length_deliveries hbounded, hdropped, hrefused, hflushed, depth]
          omega
  refine ⟨⟨dropped, hwhereabouts, hdrops⟩, hrefusals, hflushed, hbalance, ?_⟩
  rw [← sum_missing_eq_zero_iff hbounded, hbalance]
  exact Nat.add_eq_left

end Accounts

/-!
# The log table

It tells how many rows of a batch it took, and this is never more than the batch has.
-/

theorem writeLogs_le (batch : List LogEntry) (database : Storage.Database) (written : Nat)
    (hanswer : (database.writeLogs batch).1 = .ok written) : written ≤ batch.length := by
  let verdicts := database.logs.judge database.refusal batch
  change (database.logs.insertLogs database.refusal batch).1 = .ok written at hanswer
  by_cases hgranted :
      Storage.LogTable.Granted database.refusal 0 (Storage.Verdict.script verdicts)
  · rw [Storage.LogTable.insertLogs_of_granted hgranted] at hanswer
    cases hanswer
    calc (Storage.Verdict.taken verdicts).length
        ≤ verdicts.length := Storage.Verdict.length_taken_le verdicts
      _ = (batch.map Storage.LogRow.ofEntry).length := Storage.LogTable.length_verdicts _ _ _ _
      _ = batch.length := List.length_map Storage.LogRow.ofEntry
  · rcases Storage.LogTable.insertLogs_of_not_granted hgranted with ⟨message, hfailed⟩
    rw [hfailed] at hanswer
    cases hanswer

/-- A log table that refuses one row. -/
def refusingSecond : Storage.Database :=
  { Storage.Database.empty with rejected := [Uuid.ofNat 2] }

def entryOf (id : Nat) : LogEntry :=
  .plain (Uuid.ofNat id) (Uuid.ofNat 0xa1) .completed ⟨19723, 0, 0⟩

/-- Of four entries, one is written, one is missing, one is dropped and one waits. -/
theorem run_balance_refusingSecond :
    let operations : List Operation :=
      [.record (entryOf 1), .record (entryOf 2), .record (entryOf 3), .flush 10,
       .record (entryOf 4)]
    let session := (Session.start 2 refusingSecond).run Storage.Database.writeLogs operations
    let deliveries :=
      ((Session.start 2 (Noting.mk refusingSecond [])).run (noting Storage.Database.writeLogs)
        operations).store.deliveries
    (forall batch database written, (Storage.Database.writeLogs batch database).1 = .ok written ->
        written ≤ batch.length) ∧
      (recorded operations).length =
        session.journal.counters.flushed + session.journal.depth +
          droppedCount session.events + refusedCount session.events +
          (deliveries.map Delivery.missing).sum ∧
      session.journal.counters.flushed = 1 ∧ session.journal.depth = 1 ∧
      droppedCount session.events = 1 ∧ refusedCount session.events = 0 ∧
      (deliveries.map Delivery.missing).sum = 1 := by
  intro operations session deliveries
  refine ⟨writeLogs_le, ?_, ?_, ?_, ?_, ?_, ?_⟩
  · exact (run_balance writeLogs_le 2 refusingSecond operations).right.right.right.left
  · decide
  · decide
  · decide
  · decide
  · decide

/-- Of two entries that are recorded, one is neither written nor waits, and nobody is told. -/
theorem refusingSecond_unbalanced :
    let operations : List Operation :=
      [.record (entryOf 1), .record (entryOf 2), .flush 10]
    let session := (Session.start 1000 refusingSecond).run Storage.Database.writeLogs operations
    session.store.logs.rows.map Storage.LogRow.id = [Uuid.ofNat 1] ∧
      session.journal.pending.map LogEntry.id = [] ∧
      session.events = [.execution (entryOf 1), .execution (entryOf 2)] ∧
      session.journal.counters.flushed + session.journal.depth + droppedCount session.events +
        refusedCount session.events ≠ (recorded operations).length := by
  intro operations session
  refine ⟨?_, ?_, ?_, ?_⟩
  · decide
  · decide
  · rfl
  · decide

end Journal
end QueryGateway
