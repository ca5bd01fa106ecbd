import Mathlib.Data.List.Induction
import QueryGateway.Proofs.Cache.Store

/-!
# Histories of a store

A store drops entries lazily: a stale one stays until it is looked for or swept
out.  Beside it stands the plain account of a history, in which a key has the
entry that was last stored under it until something drops that entry, and age
is looked at only when the key is asked for.  The two cannot be told apart by
searches, as long as time does not run backwards.
-/

namespace QueryGateway
namespace Cache

open Execution

inductive Operation where
  | get (key : Key)
  | insert (key : Key) (result : Outcome) (lifetime : Nat) (systemId : Uuid)
      (queryId : Option Uuid)
  | invalidateQuery (queryId : Uuid)
  | invalidateSystem (systemId : Uuid)
  | purgeExpired
  | clear

structure Event where
  time : Nat
  operation : Operation

namespace Event

def apply (event : Event) (store : Store) : Store :=
  match event.operation with
  | .get key => (store.get event.time key).2
  | .insert key result lifetime systemId queryId =>
      store.insert event.time key result lifetime systemId queryId
  | .invalidateQuery queryId => (store.invalidateQuery queryId).2
  | .invalidateSystem systemId => (store.invalidateSystem systemId).2
  | .purgeExpired => (store.purgeExpired event.time).2
  | .clear => store.clear

def answer? (event : Event) (store : Store) : Option (Option Outcome) :=
  match event.operation with
  | .get key => some (store.get event.time key).1
  | _ => none

def isGet (event : Event) : Bool :=
  match event.operation with
  | .get _ => true
  | _ => false

/-- The entry that an event stores under a key; none is stored for no time. -/
def stored? (key : Key) (event : Event) : Option Entry :=
  match event.operation with
  | .insert other result lifetime systemId queryId =>
      if other = key ∧ lifetime ≠ 0 then
        some ⟨result, event.time, lifetime, systemId, queryId⟩
      else
        none
  | _ => none

def drops (event : Event) (entry : Entry) : Bool :=
  match event.operation with
  | .invalidateQuery queryId => entry.queryId = some queryId
  | .invalidateSystem systemId => entry.systemId = systemId
  | .clear => true
  | _ => false

/-- Searches, sweeps and inserts for no time. -/
def Idle (event : Event) : Prop :=
  match event.operation with
  | .get _ => True
  | .purgeExpired => True
  | .insert _ _ lifetime _ _ => lifetime = 0
  | _ => False

end Event

abbrev History := List Event

namespace History

def run (history : History) : Store :=
  history.foldl (fun store event => event.apply store) .empty

def answersFrom (store : Store) : History -> List (Option Outcome)
  | [] => []
  | event :: rest =>
      (event.answer? store).toList ++ answersFrom (event.apply store) rest

def answers (history : History) : List (Option Outcome) :=
  history.answersFrom .empty

def Chronological (history : History) (now : Nat) : Prop :=
  history.Pairwise (fun earlier later => earlier.time ≤ later.time) ∧
    forall event, event ∈ history -> event.time ≤ now

/--
The last event that stored anything under a key stored this entry, and no event
after it dropped the entry.
-/
def Keeps (history : History) (key : Key) (entry : Entry) : Prop :=
  exists before event after,
    history = before ++ event :: after ∧ event.stored? key = some entry ∧
      forall later, later ∈ after -> later.stored? key = none ∧ later.drops entry = false

/-!
# The plain account of a history
-/

end History

def Event.update (key : Key) (event : Event) (kept : Option Entry) : Option Entry :=
  match event.stored? key with
  | some entry => some entry
  | none => kept.filter fun entry => !event.drops entry

namespace History

def kept (key : Key) (history : History) : Option Entry :=
  history.foldl (fun entry event => event.update key entry) none

theorem run_snoc (history : History) (event : Event) :
    run (history ++ [event]) = event.apply history.run := by
  unfold run
  rw [List.foldl_append]
  rfl

theorem kept_snoc (key : Key) (history : History) (event : Event) :
    kept key (history ++ [event]) = event.update key (history.kept key) := by
  unfold kept
  rw [List.foldl_append]
  rfl

theorem keeps_snoc (history : History) (event : Event) (key : Key) (entry : Entry) :
    Keeps (history ++ [event]) key entry ↔
      event.stored? key = some entry ∨
        (event.stored? key = none ∧ event.drops entry = false ∧ history.Keeps key entry) := by
  constructor
  · intro hkeeps
    rcases hkeeps with ⟨before, stored, after, hsplit, hstored, hlater⟩
    rcases List.eq_nil_or_concat after with hnil | ⟨front, last, hsnoc⟩
    · subst hnil
      have hends := List.append_inj' hsplit rfl
      have hevent : event = stored := by simpa using hends.right
      rw [hevent]
      exact Or.inl hstored
    · subst hsnoc
      have hsplit' : history ++ [event] = (before ++ stored :: front) ++ [last] := by
        simpa using hsplit
      have hends := List.append_inj' hsplit' rfl
      have hevent : event = last := by simpa using hends.right
      have hlast := hlater last (by simp)
      rw [hevent]
      refine Or.inr ⟨hlast.left, hlast.right, before, stored, front, hends.left, hstored, ?_⟩
      intro later hmem
      exact hlater later (by simp [hmem])
  · intro hcases
    rcases hcases with hstored | ⟨hnone, hdrops, before, stored, after, hsplit, hstored, hlater⟩
    · exact ⟨history, event, [], rfl, hstored, by simp⟩
    · refine ⟨before, stored, after ++ [event], by simp [hsplit], hstored, ?_⟩
      intro later hmem
      rcases List.mem_append.mp hmem with hfront | hlast
      · exact hlater later hfront
      · rw [List.mem_singleton.mp hlast]
        exact ⟨hnone, hdrops⟩

theorem kept_eq_some_iff (key : Key) (history : History) (entry : Entry) :
    history.kept key = some entry ↔ history.Keeps key entry := by
  induction history using List.reverseRecOn with
  | nil =>
      constructor
      · intro hkept
        cases hkept
      · intro hkeeps
        rcases hkeeps with ⟨before, event, after, hsplit, _⟩
        cases before <;> cases hsplit
  | append_singleton history event ih =>
      rw [kept_snoc, keeps_snoc, ← ih]
      unfold Event.update
      cases hstored : event.stored? key with
      | some stored => simp
      | none =>
          rw [Option.filter_eq_some_iff]
          simp [and_comm]

/-!
# Lazy dropping cannot be observed
-/

end History

theorem Store.unique_apply (event : Event) (store : Store) (hunique : store.entries.Unique) :
    (event.apply store).entries.Unique := by
  rcases event with ⟨time, operation⟩
  cases operation with
  | get key => exact unique_get time key store hunique
  | insert key result lifetime systemId queryId =>
      exact unique_insert time key result lifetime systemId queryId store hunique
  | invalidateQuery queryId => exact unique_dropWhere _ store hunique
  | invalidateSystem systemId => exact unique_dropWhere _ store hunique
  | purgeExpired => exact unique_dropWhere _ store hunique
  | clear => exact Table.unique_empty

def freshAt (now : Nat) (kept : Option Entry) : Option Entry :=
  kept.filter (Entry.isFresh now)

theorem freshAt_freshAt {earlier now : Nat} (hle : earlier ≤ now) (kept : Option Entry) :
    freshAt now (freshAt earlier kept) = freshAt now kept := by
  cases kept with
  | none => rfl
  | some entry =>
      cases hfresh : entry.isFresh now with
      | true =>
          have hearlier := Entry.isFresh_of_le hle hfresh
          simp [freshAt, Option.filter, hearlier]
      | false =>
          cases hearlier : entry.isFresh earlier with
          | true => simp [freshAt, Option.filter, hearlier]
          | false => simp [freshAt, Option.filter, hfresh, hearlier]

theorem Event.update_of_stored?_eq_none (key : Key) (event : Event) (kept : Option Entry)
    (hnone : event.stored? key = none) (hdrops : forall entry, event.drops entry = false) :
    event.update key kept = kept := by
  unfold update
  rw [hnone]
  show kept.filter _ = kept
  cases kept with
  | none => rfl
  | some entry => simp [Option.filter, hdrops]

/-- An event does to the fresh part of a key what the plain account says. -/
theorem Store.freshAt_apply (event : Event) (store : Store) (hunique : store.entries.Unique)
    (key : Key) {now : Nat} (hle : event.time ≤ now) :
    freshAt now ((event.apply store).entries.get? key) =
      freshAt now (event.update key (store.entries.get? key)) := by
  rcases event with ⟨time, operation⟩
  cases operation with
  | get other =>
      show freshAt now ((store.get time other).2.entries.get? key) = _
      rw [get?_get, Event.update_of_stored?_eq_none _ _ _ rfl fun _ => rfl]
      by_cases hkey : other = key
      · rw [if_pos hkey]
        exact freshAt_freshAt hle _
      · rw [if_neg hkey]
  | insert other result lifetime systemId queryId =>
      show freshAt now ((store.insert time other result lifetime systemId queryId).entries.get?
        key) = _
      rw [get?_insert]
      by_cases hstored : other = key ∧ lifetime ≠ 0
      · simp [Event.update, Event.stored?, hstored]
      · have hnone : Event.stored? key
            ⟨time, .insert other result lifetime systemId queryId⟩ = none :=
          if_neg hstored
        rw [if_neg hstored, Event.update_of_stored?_eq_none _ _ _ hnone fun _ => rfl]
  | invalidateQuery queryId =>
      show freshAt now ((store.dropWhere _).2.entries.get? key) = _
      rw [get?_dropWhere _ key store hunique]
      rfl
  | invalidateSystem systemId =>
      show freshAt now ((store.dropWhere _).2.entries.get? key) = _
      rw [get?_dropWhere _ key store hunique]
      rfl
  | purgeExpired =>
      show freshAt now ((store.dropWhere _).2.entries.get? key) = _
      rw [get?_dropWhere _ key store hunique,
        Event.update_of_stored?_eq_none _ _ _ rfl fun _ => rfl]
      simp only [Bool.not_not]
      exact freshAt_freshAt hle _
  | clear =>
      cases hentry : store.entries.get? key with
      | none => rfl
      | some entry => rfl

theorem Event.freshAt_update (event : Event) (key : Key) {now : Nat} (hle : event.time ≤ now)
    {stored kept : Option Entry} (hsame : freshAt event.time stored = freshAt event.time kept) :
    freshAt now (event.update key stored) = freshAt now (event.update key kept) := by
  unfold update
  cases event.stored? key with
  | some entry => rfl
  | none =>
      have hswap : forall entry : Option Entry,
          freshAt now (entry.filter fun entry => !event.drops entry) =
            (freshAt now (freshAt event.time entry)).filter fun entry => !event.drops entry := by
        intro entry
        rw [freshAt_freshAt hle]
        unfold freshAt
        rw [Option.filter_filter, Option.filter_filter]
        congr 1
        funext entry
        exact Bool.and_comm _ _
      show freshAt now (stored.filter _) = freshAt now (kept.filter _)
      rw [hswap, hswap, hsame]

namespace History

theorem chronological_snoc (history : History) (event : Event) (now : Nat) :
    Chronological (history ++ [event]) now ↔
      history.Chronological event.time ∧ event.time ≤ now := by
  unfold Chronological
  rw [List.pairwise_append]
  constructor
  · intro hclock
    rcases hclock with ⟨⟨hpairs, _, hlast⟩, hbound⟩
    have hends : forall earlier, earlier ∈ history -> earlier.time ≤ event.time := by
      intro earlier hmem
      exact hlast earlier hmem event (by simp)
    exact ⟨⟨hpairs, hends⟩, hbound event (by simp)⟩
  · intro hclock
    rcases hclock with ⟨⟨hpairs, hends⟩, hnow⟩
    refine ⟨⟨hpairs, List.pairwise_singleton _ _, ?_⟩, ?_⟩
    · intro earlier hmem last hlast
      rw [List.mem_singleton.mp hlast]
      exact hends earlier hmem
    · intro other hmem
      rcases List.mem_append.mp hmem with hfront | hlast
      · exact Nat.le_trans (hends other hfront) hnow
      · rw [List.mem_singleton.mp hlast]
        exact hnow

theorem unique_run (history : History) : history.run.entries.Unique := by
  induction history using List.reverseRecOn with
  | nil => exact Table.unique_empty
  | append_singleton history event ih =>
      rw [run_snoc]
      exact Store.unique_apply event (run history) ih

/-- A store and the plain account of its history agree on what is fresh. -/
theorem freshAt_run (history : History) (key : Key) {now : Nat}
    (hclock : history.Chronological now) :
    freshAt now (history.run.entries.get? key) = freshAt now (history.kept key) := by
  induction history using List.reverseRecOn generalizing now with
  | nil => rfl
  | append_singleton history event ih =>
      have hparts := (chronological_snoc history event now).mp hclock
      rw [run_snoc, kept_snoc,
        Store.freshAt_apply event (run history) (unique_run history) key hparts.right]
      exact Event.freshAt_update event key hparts.right (ih hparts.left)

/-- What the plain account has fresh under a key is what the history keeps and is still fresh. -/
theorem result_freshAt_kept_iff (history : History) (key : Key) (result : Outcome) (now : Nat) :
    (freshAt now (history.kept key)).map Entry.result = some result ↔
      exists entry, history.Keeps key entry ∧ now - entry.storedAt < entry.lifetime ∧
        entry.result = result := by
  rw [Option.map_eq_some_iff]
  unfold freshAt
  constructor
  · intro hfound
    rcases hfound with ⟨entry, hentry, hresult⟩
    have hparts := Option.filter_eq_some_iff.mp hentry
    exact ⟨entry, (kept_eq_some_iff key history entry).mp hparts.left,
      of_decide_eq_true hparts.right, hresult⟩
  · intro hkeeps
    rcases hkeeps with ⟨entry, hkept, hage, hresult⟩
    refine ⟨entry, Option.filter_eq_some_iff.mpr ⟨?_, decide_eq_true hage⟩, hresult⟩
    exact (kept_eq_some_iff key history entry).mpr hkept

theorem get_run_eq_some_iff (history : History) (key : Key) (result : Outcome) {now : Nat}
    (hclock : history.Chronological now) :
    (history.run.get now key).1 = some result ↔
      exists entry, history.Keeps key entry ∧ now - entry.storedAt < entry.lifetime ∧
        entry.result = result := by
  rw [Store.get_fst, ← freshAt, freshAt_run history key hclock]
  exact result_freshAt_kept_iff history key result now

/-!
# What is idle
-/

end History

theorem Event.update_of_idle (key : Key) (event : Event) (hidle : event.Idle)
    (kept : Option Entry) : event.update key kept = kept := by
  rcases event with ⟨time, operation⟩
  cases operation with
  | get other => exact update_of_stored?_eq_none _ _ _ rfl fun _ => rfl
  | purgeExpired => exact update_of_stored?_eq_none _ _ _ rfl fun _ => rfl
  | insert other result lifetime systemId queryId =>
      have hzero : lifetime = 0 := hidle
      have hnone : stored? key ⟨time, .insert other result lifetime systemId queryId⟩ = none :=
        if_neg fun hstored => hstored.right hzero
      exact update_of_stored?_eq_none _ _ _ hnone fun _ => rfl
  | invalidateQuery queryId => cases hidle
  | invalidateSystem systemId => cases hidle
  | clear => cases hidle

namespace History

theorem kept_append_idle (key : Key) (before after : History) (event : Event)
    (hidle : event.Idle) :
    kept key (before ++ event :: after) = kept key (before ++ after) := by
  unfold kept
  rw [List.foldl_append, List.foldl_append, List.foldl_cons, Event.update_of_idle key event hidle]

theorem Chronological.without {before after : History} {event : Event} {now : Nat}
    (hclock : Chronological (before ++ event :: after) now) :
    Chronological (before ++ after) now := by
  have hsublist : (before ++ after).Sublist (before ++ event :: after) :=
    (List.Sublist.refl before).append (List.sublist_cons_self event after)
  constructor
  · exact hclock.left.sublist hsublist
  · intro other hmem
    exact hclock.right other (hsublist.subset hmem)

theorem get_run_append_idle (before after : History) (event : Event) (hidle : event.Idle)
    (key : Key) {now : Nat} (hclock : Chronological (before ++ event :: after) now) :
    ((run (before ++ event :: after)).get now key).1 =
      ((run (before ++ after)).get now key).1 := by
  rw [Store.get_fst, Store.get_fst]
  have hwith := freshAt_run _ key hclock
  have hwithout := freshAt_run _ key hclock.without
  unfold freshAt at hwith hwithout
  rw [hwith, hwithout, kept_append_idle key before after event hidle]

end History

/-!
# Counting searches
-/

theorem Store.hits_apply (event : Event) (store : Store) :
    (event.apply store).hits =
      store.hits + (event.answer? store).toList.countP Option.isSome := by
  rcases event with ⟨time, operation⟩
  cases operation with
  | get key =>
      show (store.get time key).2.hits = store.hits + [(store.get time key).1].countP _
      rw [hits_get, List.countP_singleton]
  | insert key result lifetime systemId queryId =>
      exact hits_insert time key result lifetime systemId queryId store
  | invalidateQuery queryId => rfl
  | invalidateSystem systemId => rfl
  | purgeExpired => rfl
  | clear => rfl

theorem Store.searches_apply (event : Event) (store : Store) :
    (event.apply store).hits + (event.apply store).misses =
      store.hits + store.misses + (event.answer? store).toList.length := by
  rcases event with ⟨time, operation⟩
  cases operation with
  | get key => exact searches_get time key store
  | insert key result lifetime systemId queryId =>
      show (store.insert time key result lifetime systemId queryId).hits +
        (store.insert time key result lifetime systemId queryId).misses = _
      rw [hits_insert, misses_insert]
      rfl
  | invalidateQuery queryId => rfl
  | invalidateSystem systemId => rfl
  | purgeExpired => rfl
  | clear => rfl

theorem Event.length_answer? (event : Event) (store : Store) :
    (event.answer? store).toList.length = if event.isGet then 1 else 0 := by
  rcases event with ⟨time, operation⟩
  cases operation <;> rfl

namespace History

theorem hits_foldl (store : Store) (history : History) :
    (history.foldl (fun store event => event.apply store) store).hits =
      store.hits + (answersFrom store history).countP Option.isSome := by
  induction history generalizing store with
  | nil => rfl
  | cons event rest ih =>
      rw [List.foldl_cons, ih, Store.hits_apply, answersFrom, List.countP_append]
      omega

theorem searches_foldl (store : Store) (history : History) :
    (history.foldl (fun store event => event.apply store) store).hits +
        (history.foldl (fun store event => event.apply store) store).misses =
      store.hits + store.misses + (answersFrom store history).length := by
  induction history generalizing store with
  | nil => rfl
  | cons event rest ih =>
      rw [List.foldl_cons, ih, Store.searches_apply, answersFrom, List.length_append]
      omega

theorem length_answersFrom (store : Store) (history : History) :
    (answersFrom store history).length = history.countP Event.isGet := by
  induction history generalizing store with
  | nil => rfl
  | cons event rest ih =>
      rw [answersFrom, List.length_append, Event.length_answer?, ih, List.countP_cons]
      omega

/-!
# The store and the plain account
-/

/--
A search finds exactly what the plain account of the history keeps and still
holds fresh; leaving out idle events changes no search; and the counters tell
how many searches found something, and how many there were.
-/
theorem run_refines (history : History) (key : Key) (now : Nat)
    (hclock : history.Chronological now) :
    (forall result, (history.run.get now key).1 = some result ↔
      exists entry, history.Keeps key entry ∧ now - entry.storedAt < entry.lifetime ∧
        entry.result = result) ∧
    (forall before event after, history = before ++ event :: after -> event.Idle ->
      ((run (before ++ after)).get now key).1 = (history.run.get now key).1) ∧
    history.run.hits = history.answers.countP Option.isSome ∧
    history.run.hits + history.run.misses = history.countP Event.isGet := by
  refine ⟨?_, ?_, ?_, ?_⟩
  · intro result
    exact get_run_eq_some_iff history key result hclock
  · intro before event after hsplit hidle
    subst hsplit
    exact (get_run_append_idle before after event hidle key hclock).symm
  · have hhits := hits_foldl .empty history
    have hzero : Store.empty.hits = 0 := rfl
    rw [hzero, Nat.zero_add] at hhits
    exact hhits
  · have hsearches := searches_foldl .empty history
    have hzero : Store.empty.hits + Store.empty.misses = 0 := rfl
    rw [length_answersFrom, hzero, Nat.zero_add] at hsearches
    exact hsearches

/--
Of two inserts the second counts, neither a sweep nor an insert for no time
takes anything from it, and it is found up to the end of its own time.
-/
theorem run_refines_overwritten :
    let outcome : Outcome := ⟨.null, 0, "tracker", "search", []⟩
    let history : History :=
      [⟨0, .insert ⟨"k"⟩ outcome 5 (.ofNat 1) none⟩,
       ⟨3, .insert ⟨"k"⟩ outcome 10 (.ofNat 1) (some (.ofNat 2))⟩,
       ⟨6, .purgeExpired⟩,
       ⟨6, .insert ⟨"k"⟩ outcome 0 (.ofNat 1) none⟩,
       ⟨7, .invalidateQuery (.ofNat 3)⟩]
    history.Chronological 12 ∧ (history.run.get 12 ⟨"k"⟩).1 = some outcome := by
  intro outcome history
  have hclock : history.Chronological 12 := by
    constructor
    · decide
    · decide
  refine ⟨hclock, ((run_refines history ⟨"k"⟩ 12 hclock).left outcome).mpr ?_⟩
  refine ⟨⟨outcome, 3, 10, .ofNat 1, some (.ofNat 2)⟩,
    ⟨history.take 1, _, history.drop 2, rfl, rfl, ?_⟩, by decide, rfl⟩
  intro later hmem
  simp only [history, List.drop, List.mem_cons, List.not_mem_nil, or_false] at hmem
  rcases hmem with hmem | hmem | hmem
  · subst hmem
    exact ⟨rfl, rfl⟩
  · subst hmem
    exact ⟨rfl, rfl⟩
  · subst hmem
    exact ⟨rfl, by decide⟩

end History
end Cache
end QueryGateway
