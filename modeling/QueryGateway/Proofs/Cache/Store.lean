import QueryGateway.Cache.Store
import QueryGateway.Proofs.Table

/-!
# Entries of a store

What each operation on a store does to the entry of a key.  Keys have one entry
each in every store that operations lead to, and bulk removal relies on it.
-/

namespace QueryGateway
namespace Cache

open Execution

namespace Entry

theorem isFresh_of_le {entry : Entry} {earlier now : Nat} (hle : earlier ≤ now)
    (hfresh : entry.isFresh now = true) : entry.isFresh earlier = true := by
  unfold isFresh at hfresh ⊢
  have hage : now - entry.storedAt < entry.lifetime := of_decide_eq_true hfresh
  exact decide_eq_true (by omega)

end Entry

namespace Store

/-!
## The entry of a key after an operation
-/

@[simp] theorem entries_count (finding : Finding) (store : Store) :
    (store.count finding).entries = store.entries := by
  cases finding <;> rfl

theorem get?_dropStale (now : Nat) (key other : Key) (store : Store) :
    (store.dropStale now key).entries.get? other =
      if key = other then (store.entries.get? other).filter (Entry.isFresh now)
      else store.entries.get? other := by
  by_cases hkey : key = other
  · subst hkey
    rw [if_pos rfl]
    unfold dropStale
    cases hentry : store.entries.get? key with
    | none => simp [hentry]
    | some entry =>
        cases hfresh : entry.isFresh now with
        | true => simp [hentry, hfresh, Option.filter]
        | false => simp [hfresh, Table.get?_erase, Option.filter]
  · rw [if_neg hkey]
    unfold dropStale
    split
    · split
      · rfl
      · simp [Table.get?_erase, hkey]
    · rfl

theorem get_fst (now : Nat) (key : Key) (store : Store) :
    (store.get now key).1 =
      ((store.entries.get? key).filter (Entry.isFresh now)).map Entry.result := by
  unfold get look
  cases hentry : store.entries.get? key with
  | none => rfl
  | some entry =>
      cases hfresh : entry.isFresh now with
      | true => simp [hfresh, Option.filter]
      | false => simp [hfresh, Option.filter]

theorem get?_get (now : Nat) (key other : Key) (store : Store) :
    (store.get now key).2.entries.get? other =
      if key = other then (store.entries.get? other).filter (Entry.isFresh now)
      else store.entries.get? other := by
  unfold get look
  cases hentry : store.entries.get? key with
  | none =>
      by_cases hkey : key = other
      · subst hkey
        simp [hentry]
      · simp [hkey]
  | some entry =>
      cases hfresh : entry.isFresh now with
      | true =>
          by_cases hkey : key = other
          · subst hkey
            simp [hentry, hfresh, Option.filter]
          · simp [hfresh, hkey]
      | false =>
          simp only [hfresh, Bool.false_eq_true, if_false]
          rw [get?_dropStale, entries_count]

/-- Entries after something that may have removed a stale one, and no other. -/
def Spared (now : Nat) (key : Key) (before after : Table Key Entry) : Prop :=
  after = before ∨
    exists entry, before.get? key = some entry ∧ entry.isFresh now = false ∧
      after = before.erase key

theorem spared_get (now : Nat) (key : Key) (store : Store) :
    Spared now key store.entries (store.get now key).2.entries := by
  unfold get look
  cases hentry : store.entries.get? key with
  | none => exact .inl (entries_count .absent store)
  | some entry =>
      cases hfresh : entry.isFresh now with
      | true => exact .inl (by simp [hfresh])
      | false =>
          refine .inr ⟨entry, hentry, hfresh, ?_⟩
          simp [hfresh, dropStale, hentry]

theorem Spared.get?_of_isFresh {now : Nat} {key other : Key} {before after : Table Key Entry}
    {entry : Entry} (hspared : Spared now key before after)
    (hentry : before.get? other = some entry) (hfresh : entry.isFresh now = true) :
    after.get? other = some entry := by
  rcases hspared with hsame | ⟨stale, hstale, hnotFresh, herased⟩
  · rw [hsame, hentry]
  · have hkey : key ≠ other := by
      intro hkey
      rw [← hkey, hstale] at hentry
      injection hentry with hentry
      rw [hentry, hfresh] at hnotFresh
      cases hnotFresh
    rw [herased, Table.get?_erase, if_neg hkey, hentry]

theorem get?_insert (now : Nat) (key other : Key) (result : Outcome) (lifetime : Nat)
    (systemId : Uuid) (queryId : Option Uuid) (store : Store) :
    (store.insert now key result lifetime systemId queryId).entries.get? other =
      if key = other ∧ lifetime ≠ 0 then some ⟨result, now, lifetime, systemId, queryId⟩
      else store.entries.get? other := by
  unfold insert
  by_cases hzero : lifetime = 0
  · simp [hzero]
  · simp [hzero]

theorem get?_dropWhere (condition : Entry -> Bool) (key : Key) (store : Store)
    (hunique : store.entries.Unique) :
    (store.dropWhere condition).2.entries.get? key =
      (store.entries.get? key).filter fun entry => !condition entry :=
  Table.get?_filter store.entries hunique _ key

theorem dropWhere_fst (condition : Entry -> Bool) (store : Store) :
    (store.dropWhere condition).1 = store.entries.entries.countP fun e => condition e.2 := by
  have hlength : store.entries.entries.length =
      (store.entries.entries.countP fun e => condition e.2) +
        store.entries.entries.countP fun e => decide ¬ condition e.2 = true :=
    List.length_eq_countP_add_countP _
  have hkept : (store.entries.entries.filter fun e => !condition e.2).length =
      store.entries.entries.countP fun e => decide ¬ condition e.2 = true := by
    rw [List.countP_eq_length_filter]
    simp only [Bool.not_eq_true, Bool.decide_eq_false]
  show store.entries.entries.length -
    (store.entries.entries.filter fun e => !condition e.2).length = _
  omega

/-!
## Counters
-/

@[simp] theorem hits_dropStale (now : Nat) (key : Key) (store : Store) :
    (store.dropStale now key).hits = store.hits := by
  unfold dropStale
  split
  · split <;> rfl
  · rfl

@[simp] theorem misses_dropStale (now : Nat) (key : Key) (store : Store) :
    (store.dropStale now key).misses = store.misses := by
  unfold dropStale
  split
  · split <;> rfl
  · rfl

theorem hits_get (now : Nat) (key : Key) (store : Store) :
    (store.get now key).2.hits =
      store.hits + if (store.get now key).1.isSome then 1 else 0 := by
  unfold get
  cases store.look now key with
  | fresh result => rfl
  | stale => simp [count]
  | absent => rfl

theorem searches_get (now : Nat) (key : Key) (store : Store) :
    (store.get now key).2.hits + (store.get now key).2.misses =
      store.hits + store.misses + 1 := by
  unfold get
  cases store.look now key with
  | fresh result =>
      simp only [count]
      omega
  | stale =>
      simp only [hits_dropStale, misses_dropStale, count]
      omega
  | absent =>
      simp only [count]
      omega

@[simp] theorem hits_insert (now : Nat) (key : Key) (result : Outcome) (lifetime : Nat)
    (systemId : Uuid) (queryId : Option Uuid) (store : Store) :
    (store.insert now key result lifetime systemId queryId).hits = store.hits := by
  unfold insert
  split <;> rfl

@[simp] theorem misses_insert (now : Nat) (key : Key) (result : Outcome) (lifetime : Nat)
    (systemId : Uuid) (queryId : Option Uuid) (store : Store) :
    (store.insert now key result lifetime systemId queryId).misses = store.misses := by
  unfold insert
  split <;> rfl

/-!
## Keys stay apart
-/

theorem unique_dropStale (now : Nat) (key : Key) (store : Store)
    (hunique : store.entries.Unique) : (store.dropStale now key).entries.Unique := by
  unfold dropStale
  split
  · split
    · exact hunique
    · exact Table.unique_erase _ hunique key
  · exact hunique

theorem unique_get (now : Nat) (key : Key) (store : Store) (hunique : store.entries.Unique) :
    (store.get now key).2.entries.Unique := by
  have hcounted : (store.count (store.look now key)).entries.Unique := by
    rw [entries_count]
    exact hunique
  unfold get
  cases hfound : store.look now key with
  | fresh result => simpa [hfound] using hcounted
  | stale => exact unique_dropStale now key _ (by simpa [hfound] using hcounted)
  | absent => simpa [hfound] using hcounted

theorem unique_insert (now : Nat) (key : Key) (result : Outcome) (lifetime : Nat)
    (systemId : Uuid) (queryId : Option Uuid) (store : Store)
    (hunique : store.entries.Unique) :
    (store.insert now key result lifetime systemId queryId).entries.Unique := by
  unfold insert
  split
  · exact hunique
  · exact Table.unique_set _ hunique key _

theorem unique_dropWhere (condition : Entry -> Bool) (store : Store)
    (hunique : store.entries.Unique) : (store.dropWhere condition).2.entries.Unique :=
  Table.unique_filter _ hunique _

/-!
## What holds of every entry
-/

theorem all_dropStale {P : Key -> Entry -> Prop} {store : Store} (hall : store.entries.All P)
    (now : Nat) (key : Key) : (store.dropStale now key).entries.All P := by
  unfold dropStale
  split
  · split
    · exact hall
    · intro other entry hmem
      exact (Table.all_erase hall key other entry hmem).left
  · exact hall

theorem all_insert {P : Key -> Entry -> Prop} {store : Store} (hall : store.entries.All P)
    {now : Nat} {key : Key} {result : Outcome} {lifetime : Nat} {systemId : Uuid}
    {queryId : Option Uuid}
    (hentry : lifetime ≠ 0 -> P key ⟨result, now, lifetime, systemId, queryId⟩) :
    (store.insert now key result lifetime systemId queryId).entries.All P := by
  unfold insert
  split
  · exact hall
  · rename_i hlifetime
    exact Table.all_set hall (hentry hlifetime)

theorem all_dropWhere {P : Key -> Entry -> Prop} {store : Store} (hall : store.entries.All P)
    (condition : Entry -> Bool) :
    (store.dropWhere condition).2.entries.All fun key entry =>
      P key entry ∧ condition entry = false := by
  intro key entry hmem
  rcases Table.all_filter hall _ key entry hmem with ⟨hP, hkeep⟩
  exact ⟨hP, by simpa using hkeep⟩

end Store
end Cache
end QueryGateway
