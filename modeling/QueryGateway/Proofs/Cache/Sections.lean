import QueryGateway.Proofs.Cache.History

/-!
# Searches that others come between

A search that finds a stale entry lets go of the store before it looks again to
remove the entry.  Until then others may have their turn, and one of them may
have stored a new entry under the key.  Because the second section looks at the
age of what is there by then, it removes nothing that is still fresh.  So what
searches find is the same as if both sections of each took place at one moment.
-/

namespace QueryGateway
namespace Cache

open Execution

/-- What is done to a store without letting go of it. -/
inductive Section where
  | look (key : Key)
  | recheck (key : Key)
  | whole (operation : Operation)

structure Turn where
  time : Nat
  part : Section

/-- A store, and the keys of the searches that have found something stale and are to look again. -/
structure Shared where
  store : Store
  waiting : List Key

namespace Turn

def apply (turn : Turn) (shared : Shared) : Shared :=
  match turn.part with
  | .look key =>
      let finding := shared.store.look turn.time key
      { store := shared.store.count finding
        waiting :=
          match finding with
          | .stale => key :: shared.waiting
          | _ => shared.waiting }
  | .recheck key =>
      if key ∈ shared.waiting then
        { store := shared.store.dropStale turn.time key, waiting := shared.waiting.erase key }
      else
        shared
  | .whole operation => { shared with store := Event.apply ⟨turn.time, operation⟩ shared.store }

/-- The event that a turn counts as: a section of a search is a search. -/
def event (turn : Turn) : Event :=
  match turn.part with
  | .look key => ⟨turn.time, .get key⟩
  | .recheck key => ⟨turn.time, .get key⟩
  | .whole operation => ⟨turn.time, operation⟩

end Turn

abbrev Interleaving := List Turn

namespace Interleaving

def run (interleaving : Interleaving) : Shared :=
  interleaving.foldl (fun shared turn => turn.apply shared) ⟨.empty, []⟩

def history (interleaving : Interleaving) : History :=
  interleaving.map Turn.event

end Interleaving

/-!
# Single turns
-/

theorem Store.look_eq_fresh_iff (now : Nat) (key : Key) (store : Store) (result : Outcome) :
    store.look now key = .fresh result ↔
      (freshAt now (store.entries.get? key)).map Entry.result = some result := by
  unfold look freshAt
  cases hentry : store.entries.get? key with
  | none => simp
  | some entry =>
      cases hfresh : entry.isFresh now with
      | true => simp [hfresh, Option.filter]
      | false => simp [hfresh, Option.filter]

def Shared.Removable (now : Nat) (key : Key) (shared : Shared) : Prop :=
  key ∈ shared.waiting ∧
    exists entry, shared.store.entries.get? key = some entry ∧
      entry.lifetime ≤ now - entry.storedAt

namespace Turn

theorem entries_look (time : Nat) (key : Key) (shared : Shared) :
    (Turn.apply ⟨time, .look key⟩ shared).store.entries = shared.store.entries :=
  Store.entries_count _ _

theorem entries_recheck_of_removable {time : Nat} {key : Key} {shared : Shared}
    (hremovable : shared.Removable time key) :
    (Turn.apply ⟨time, .recheck key⟩ shared).store.entries = shared.store.entries.erase key := by
  rcases hremovable with ⟨hwaiting, entry, hentry, hage⟩
  have hstale : entry.isFresh time = false := decide_eq_false (Nat.not_lt.mpr hage)
  simp [apply, hwaiting, Store.dropStale, hentry, hstale]

theorem entries_recheck_of_not_removable {time : Nat} {key : Key} {shared : Shared}
    (hnot : ¬ shared.Removable time key) :
    (Turn.apply ⟨time, .recheck key⟩ shared).store.entries = shared.store.entries := by
  by_cases hwaiting : key ∈ shared.waiting
  · cases hentry : shared.store.entries.get? key with
    | none => simp [apply, hwaiting, Store.dropStale, hentry]
    | some entry =>
        have hfresh : entry.isFresh time = true :=
          decide_eq_true (Nat.lt_of_not_le fun hage => hnot ⟨hwaiting, entry, hentry, hage⟩)
        simp [apply, hwaiting, Store.dropStale, hentry, hfresh]
  · simp [apply, hwaiting]

theorem store_recheck_look (time : Nat) (key : Key) (shared : Shared) :
    (Turn.apply ⟨time, .recheck key⟩ (Turn.apply ⟨time, .look key⟩ shared)).store =
      (shared.store.get time key).2 := by
  cases hentry : shared.store.entries.get? key with
  | none =>
      by_cases hwaiting : key ∈ shared.waiting
      · simp [apply, Store.get, Store.look, Store.dropStale, hentry, hwaiting]
      · simp [apply, Store.get, Store.look, hentry, hwaiting]
  | some entry =>
      cases hfresh : entry.isFresh time with
      | true =>
          by_cases hwaiting : key ∈ shared.waiting
          · simp [apply, Store.get, Store.look, Store.dropStale, hentry, hfresh, hwaiting]
          · simp [apply, Store.get, Store.look, hentry, hfresh, hwaiting]
      | false => simp [apply, Store.get, Store.look, hentry, hfresh]

theorem unique_apply (turn : Turn) (shared : Shared) (hunique : shared.store.entries.Unique) :
    (turn.apply shared).store.entries.Unique := by
  rcases turn with ⟨time, part⟩
  cases part with
  | look key =>
      rw [entries_look]
      exact hunique
  | recheck key =>
      by_cases hwaiting : key ∈ shared.waiting
      · simp only [apply, if_pos hwaiting]
        exact Store.unique_dropStale time key shared.store hunique
      · simp only [apply, if_neg hwaiting]
        exact hunique
  | whole operation => exact Store.unique_apply ⟨time, operation⟩ shared.store hunique

theorem freshAt_apply (turn : Turn) (shared : Shared) (hunique : shared.store.entries.Unique)
    (key : Key) {now : Nat} (hle : turn.event.time ≤ now) :
    freshAt now ((turn.apply shared).store.entries.get? key) =
      freshAt now (turn.event.update key (shared.store.entries.get? key)) := by
  rcases turn with ⟨time, part⟩
  cases part with
  | look other =>
      rw [entries_look, Event.update_of_stored?_eq_none _ _ _ rfl fun _ => rfl]
  | recheck other =>
      rw [Event.update_of_stored?_eq_none _ _ _ rfl fun _ => rfl]
      by_cases hwaiting : other ∈ shared.waiting
      · simp only [apply, if_pos hwaiting, Store.get?_dropStale]
        by_cases hkey : other = key
        · rw [if_pos hkey]
          exact freshAt_freshAt hle _
        · rw [if_neg hkey]
      · simp only [apply, if_neg hwaiting]
  | whole operation => exact Store.freshAt_apply ⟨time, operation⟩ shared.store hunique key hle

end Turn

/-!
# Whole interleavings
-/

namespace Interleaving

theorem run_snoc (interleaving : Interleaving) (turn : Turn) :
    run (interleaving ++ [turn]) = turn.apply interleaving.run := by
  unfold run
  rw [List.foldl_append]
  rfl

theorem history_snoc (interleaving : Interleaving) (turn : Turn) :
    history (interleaving ++ [turn]) = interleaving.history ++ [turn.event] :=
  List.map_append

theorem unique_run (interleaving : Interleaving) : interleaving.run.store.entries.Unique := by
  induction interleaving using List.reverseRecOn with
  | nil => exact Table.unique_empty
  | append_singleton interleaving turn ih =>
      rw [run_snoc]
      exact turn.unique_apply (run interleaving) ih

/-- What is fresh is what the plain account of the history says, whoever came between. -/
theorem freshAt_run (interleaving : Interleaving) (key : Key) {now : Nat}
    (hclock : interleaving.history.Chronological now) :
    freshAt now (interleaving.run.store.entries.get? key) =
      freshAt now (interleaving.history.kept key) := by
  induction interleaving using List.reverseRecOn generalizing now with
  | nil => rfl
  | append_singleton interleaving turn ih =>
      rw [history_snoc] at hclock ⊢
      have hparts := (History.chronological_snoc (history interleaving) turn.event now).mp hclock
      rw [run_snoc, History.kept_snoc,
        turn.freshAt_apply (run interleaving) (unique_run interleaving) key hparts.right]
      exact Event.freshAt_update turn.event key hparts.right (ih hparts.left)

/--
A search finds exactly what the history keeps and still holds fresh, whatever came
between the sections of the searches before it.
-/
theorem look_run_eq_fresh_iff (interleaving : Interleaving) (key : Key) (result : Outcome)
    {now : Nat} (hclock : interleaving.history.Chronological now) :
    interleaving.run.store.look now key = .fresh result ↔
      exists entry, interleaving.history.Keeps key entry ∧
        now - entry.storedAt < entry.lifetime ∧ entry.result = result := by
  rw [Store.look_eq_fresh_iff, freshAt_run interleaving key hclock]
  exact History.result_freshAt_kept_iff interleaving.history key result now

/--
At any point of an interleaving a second section removes the entry under its key if a
search waits for it and the time of the entry is over by then, and otherwise it
removes nothing.  So a search finds the entry that was stored last under its key, up
to the end of its time, unless something has dropped it since.  With nobody
between them the two sections are a search as a whole.
-/
theorem recheck_spares_fresh (interleaving : Interleaving) (key : Key) (now : Nat)
    (hclock : interleaving.history.Chronological now) :
    let shared := interleaving.run
    let rechecked := (Turn.apply ⟨now, .recheck key⟩ shared).store
    (shared.Removable now key -> rechecked.entries = shared.store.entries.erase key) ∧
      (¬ shared.Removable now key -> rechecked.entries = shared.store.entries) ∧
      (forall result, shared.store.look now key = .fresh result ↔
        exists entry, interleaving.history.Keeps key entry ∧
          now - entry.storedAt < entry.lifetime ∧ entry.result = result) ∧
      (Turn.apply ⟨now, .recheck key⟩ (Turn.apply ⟨now, .look key⟩ shared)).store =
        (shared.store.get now key).2 := by
  intro shared rechecked
  refine ⟨?_, ?_, ?_, Turn.store_recheck_look now key shared⟩
  · intro hremovable
    exact Turn.entries_recheck_of_removable hremovable
  · intro hnot
    exact Turn.entries_recheck_of_not_removable hnot
  · intro result
    exact look_run_eq_fresh_iff interleaving key result hclock

/--
While a search that found something stale is between its sections, a new entry is
stored under its key; the second section leaves it, and it is found later.
-/
theorem recheck_spares_fresh_replaced :
    let first : Outcome := ⟨.null, 0, "tracker", "search", []⟩
    let second : Outcome := ⟨.bool true, 1, "tracker", "search", []⟩
    let between : Interleaving :=
      [⟨0, .whole (.insert ⟨"k"⟩ first 5 (.ofNat 1) none)⟩,
       ⟨6, .look ⟨"k"⟩⟩,
       ⟨6, .whole (.insert ⟨"k"⟩ second 10 (.ofNat 1) none)⟩]
    let interleaving : Interleaving := between ++ [⟨7, .recheck ⟨"k"⟩⟩]
    between.history.Chronological 7 ∧ ⟨"k"⟩ ∈ between.run.waiting ∧
      (Turn.apply ⟨7, .recheck ⟨"k"⟩⟩ between.run).store.entries = between.run.store.entries ∧
      interleaving.history.Chronological 12 ∧
      interleaving.run.store.look 12 ⟨"k"⟩ = .fresh second := by
  intro first second between interleaving
  have hbetween : between.history.Chronological 7 := by
    constructor
    · decide
    · decide
  have hclock : interleaving.history.Chronological 12 := by
    constructor
    · decide
    · decide
  have hnot : ¬ between.run.Removable 7 ⟨"k"⟩ := by
    intro hremovable
    rcases hremovable with ⟨_, entry, hentry, hage⟩
    cases hentry
    exact absurd hage (by decide)
  have hspares := recheck_spares_fresh between ⟨"k"⟩ 7 hbetween
  have hfinds := recheck_spares_fresh interleaving ⟨"k"⟩ 12 hclock
  refine ⟨hbetween, by decide, hspares.right.left hnot, hclock,
    (hfinds.right.right.left second).mpr ?_⟩
  refine ⟨⟨second, 6, 10, .ofNat 1, none⟩,
    ⟨interleaving.history.take 2, _, interleaving.history.drop 3, rfl, rfl, ?_⟩, by decide, rfl⟩
  intro later hmem
  have hlater : later = ⟨7, .get ⟨"k"⟩⟩ := List.mem_singleton.mp hmem
  rw [hlater]
  exact ⟨rfl, rfl⟩

end Interleaving
end Cache
end QueryGateway
