import Mathlib.Data.List.Induction
import QueryGateway.Proofs.Engine.Execute
import QueryGateway.Proofs.Table

/-!
# Histories of the registry

The registry goes by what it remembers of a system, whatever has become of the
system in the store.  What it remembers can be told from the history alone: it
is what the store held when the system could be resolved for the first time
since it was last forgotten.  A system that could never be resolved since then
is as the store says now.
-/

namespace QueryGateway
namespace Registry

open Catalog

abbrev Store := Uuid -> Loaded

inductive Event where
  | resolve (id : Uuid)
  | clear (id : Option Uuid)
  /-- Systems are edited, and from now on the store tells this. -/
  | edit (store : Store)

structure Session where
  store : Store
  registry : Registry

namespace Session

def answer (id : Uuid) (session : Session) : Except Failure Resolved :=
  (session.registry.resolve session.store id).1

end Session

namespace Event

def apply (event : Event) (session : Session) : Session :=
  match event with
  | .resolve id => { session with registry := (session.registry.resolve session.store id).2 }
  | .clear id => { session with registry := session.registry.clear id }
  | .edit store => { session with store }

def Forgets (id : Uuid) : Event -> Prop
  | .clear none => True
  | .clear (some other) => other = id
  | _ => False

end Event

def run (store : Store) (history : List Event) : Session :=
  history.foldl (fun session event => event.apply session) ⟨store, ∅⟩

theorem run_concat (store : Store) (history : List Event) (event : Event) :
    run store (history ++ [event]) = event.apply (run store history) := by
  unfold run
  rw [List.foldl_append]
  rfl

def Keeps (id : Uuid) (stretch : List Event) : Prop :=
  forall event, event ∈ stretch -> ¬ event.Forgets id

theorem keeps_concat {id : Uuid} {stretch : List Event} {event : Event} :
    Keeps id (stretch ++ [event]) ↔ Keeps id stretch ∧ ¬ event.Forgets id := by
  constructor
  · intro hkeeps
    constructor
    · intro other hmem
      exact hkeeps other (List.mem_append_left _ hmem)
    · exact hkeeps event (List.mem_append_right _ (List.mem_singleton_self event))
  · rintro ⟨hkeeps, hlast⟩ other hmem
    rcases List.mem_append.mp hmem with hstretch | hsingle
    · exact hkeeps other hstretch
    · rw [List.mem_singleton.mp hsingle]
      exact hlast

/--
Of the times when a system was resolved since it was last forgotten, the one
after `before` is the first that succeeded.
-/
structure FirstResolved (store : Store) (history : List Event) (id : Uuid)
    (before : List Event) : Prop where
  since : exists after, history = before ++ .resolve id :: after ∧ Keeps id after
  succeeds : exists resolved, (run store before).answer id = .ok resolved
  first : forall sooner between, before = sooner ++ .resolve id :: between -> Keeps id between ->
    exists failure, (run store sooner).answer id = .error failure

/-- What is told of a system that is not remembered, by what the store tells. -/
inductive Reflects (id : Uuid) : Loaded -> Except Failure Resolved -> Prop where
  | outOfOrder {failure : Failure} : Reflects id (.error failure) (.error failure)
  | missing : Reflects id (.ok none) (.error (.notFound ("system " ++ id.render)))
  | inactive {system : Backend} (hinactive : system.isActive = false) :
      Reflects id (.ok (some system)) (.error (.systemInactive id))
  | unidentified {system : Backend} {detail : String} (hactive : system.isActive = true)
      (hheaders : Remote.headersOf system = .error (.authentication detail)) :
      Reflects id (.ok (some system)) (.error (.authentication detail))
  | usable {system : Backend} {headers : Remote.Headers} (hactive : system.isActive = true)
      (hheaders : Remote.headersOf system = .ok headers) :
      Reflects id (.ok (some system)) (.ok ⟨system, headers⟩)

/-- A store tells under an identifier only of the system that has it. -/
def Filed (store : Store) : Prop :=
  forall id system, store id = .ok (some system) -> system.id = id

/-!
# Vetting
-/

/-- Nothing can go wrong but that a credential is missing. -/
def Identifies {α : Type} (attempt : Except Failure α) : Prop :=
  forall failure, attempt = .error failure -> exists detail, failure = .authentication detail

theorem identifies_ok {α : Type} (value : α) : Identifies (.ok value) := by
  intro failure hfailed
  cases hfailed

theorem Identifies.bind {α β : Type} {first : Except Failure α} {second : α -> Except Failure β}
    (hfirst : Identifies first) (hsecond : forall value, Identifies (second value)) :
    Identifies (first >>= second) := by
  cases first with
  | error failure =>
      intro other hfailed
      cases hfailed
      exact hfirst failure rfl
  | ok value => exact hsecond value

theorem identifies_required (scheme field : String) (value : Option String) :
    Identifies (Remote.required scheme field value) := by
  unfold Remote.required
  split
  · exact identifies_ok _
  · intro failure hfailed
    cases hfailed
    exact ⟨_, rfl⟩

theorem identifies_credentialHeaders (auth : Credentials) :
    Identifies (Remote.credentialHeaders auth) := by
  cases auth with
  | none => exact identifies_ok _
  | custom headers => exact identifies_ok _
  | basic username password =>
      apply (identifies_required "basic" "username" username).bind
      intro name
      exact (identifies_required "basic" "password" password).bind fun word => identifies_ok _
  | bearer token =>
      exact (identifies_required "bearer" "token" token).bind fun given => identifies_ok _
  | apiKey key headerName =>
      exact (identifies_required "api_key" "key" key).bind fun given => identifies_ok _
  | oauth accessToken refreshToken =>
      exact (identifies_required "oauth" "access_token" accessToken).bind
        fun given => identifies_ok _

theorem identifies_headersOf (system : Backend) : Identifies (Remote.headersOf system) := by
  have hcredentials := identifies_credentialHeaders system.auth
  unfold Remote.headersOf Remote.buildHeaders
  cases hheaders : Remote.credentialHeaders system.auth with
  | ok headers => exact identifies_ok _
  | error failure =>
      intro other hfailed
      cases hfailed
      exact hcredentials failure hheaders

theorem reflects_vet (id : Uuid) (loaded : Loaded) : Reflects id loaded (vet id loaded) := by
  cases loaded with
  | error failure => exact .outOfOrder
  | ok found =>
      cases found with
      | none => exact .missing
      | some system =>
          cases hactive : system.isActive with
          | false =>
              have hvet : vet id (.ok (some system)) = .error (.systemInactive id) := by
                simp [vet, bind, Except.bind, hactive, throw, throwThe, MonadExceptOf.throw]
              rw [hvet]
              exact .inactive hactive
          | true =>
              cases hheaders : Remote.headersOf system with
              | error failure =>
                  have hvet : vet id (.ok (some system)) = .error failure := by
                    simp [vet, bind, Except.bind, hactive, hheaders]
                  rcases identifies_headersOf system failure hheaders with ⟨detail, hdetail⟩
                  rw [hdetail] at hvet hheaders
                  rw [hvet]
                  exact .unidentified hactive hheaders
              | ok headers =>
                  have hvet : vet id (.ok (some system)) = .ok ⟨system, headers⟩ := by
                    simp [vet, bind, Except.bind, hactive, hheaders, pure, Except.pure]
                  rw [hvet]
                  exact .usable hactive hheaders

/-!
# One event
-/

variable {session : Session} {id : Uuid} {resolved : Resolved}

theorem answer_of_some (hfound : session.registry.get? id = some resolved) :
    session.answer id = .ok resolved := by
  unfold Session.answer resolve
  rw [hfound]

theorem answer_of_none (hfound : session.registry.get? id = none) :
    session.answer id = vet id (session.store id) := by
  unfold Session.answer resolve
  rw [hfound]
  dsimp only
  cases vet id (session.store id) with
  | error failure => rfl
  | ok loaded => rfl

theorem apply_resolve_of_error {failure : Failure}
    (hfailed : session.answer id = .error failure) :
    (Event.resolve id).apply session = session := by
  have hresolve := Engine.resolve_of_error hfailed
  show Session.mk session.store _ = session
  rw [hresolve]

theorem registry_apply_resolve (hanswer : session.answer id = .ok resolved) :
    ((Event.resolve id).apply session).registry = session.registry ∧
        session.registry.get? id = some resolved ∨
      ((Event.resolve id).apply session).registry = session.registry.set id resolved ∧
        session.registry.get? id = none ∧ vet id (session.store id) = .ok resolved := by
  rcases Engine.resolve_cases hanswer with hfound | ⟨hfound, hvet⟩
  · left
    refine ⟨?_, hfound⟩
    show (session.registry.resolve session.store id).2 = session.registry
    unfold resolve
    rw [hfound]
  · right
    refine ⟨?_, hfound, hvet⟩
    show (session.registry.resolve session.store id).2 = session.registry.set id resolved
    unfold resolve
    rw [hfound]
    dsimp only
    rw [hvet]

theorem get?_apply_resolve (hanswer : session.answer id = .ok resolved) :
    ((Event.resolve id).apply session).registry.get? id = some resolved := by
  rcases registry_apply_resolve hanswer with ⟨hsame, hfound⟩ | ⟨hset, _, _⟩
  · rw [hsame, hfound]
  · rw [hset, Table.get?_set, if_pos rfl]

theorem get?_clear_of_forgets {cleared : Option Uuid} (hforgets : (Event.clear cleared).Forgets id)
    (registry : Registry) : (registry.clear cleared).get? id = none := by
  cases cleared with
  | none => rfl
  | some other =>
      show (registry.erase other).get? id = none
      rw [Table.get?_erase]
      exact if_pos hforgets

theorem get?_clear_of_keeps {cleared : Option Uuid} (hkeeps : ¬ (Event.clear cleared).Forgets id)
    (registry : Registry) : (registry.clear cleared).get? id = registry.get? id := by
  cases cleared with
  | none => exact absurd trivial hkeeps
  | some other =>
      show (registry.erase other).get? id = registry.get? id
      rw [Table.get?_erase]
      exact if_neg hkeeps

theorem get?_apply_of_some {event : Event} (hkeeps : ¬ event.Forgets id)
    (hfound : session.registry.get? id = some resolved) :
    (event.apply session).registry.get? id = some resolved := by
  cases event with
  | edit store => exact hfound
  | clear cleared =>
      show (session.registry.clear cleared).get? id = some resolved
      rw [get?_clear_of_keeps hkeeps, hfound]
  | resolve other =>
      cases hanswer : session.answer other with
      | error failure =>
          rw [apply_resolve_of_error hanswer]
          exact hfound
      | ok found =>
          rcases registry_apply_resolve hanswer with ⟨hsame, _⟩ | ⟨hset, hnone, _⟩
          · rw [hsame, hfound]
          · have hother : ¬ other = id := by
              intro hid
              rw [hid, hfound] at hnone
              cases hnone
            rw [hset, Table.get?_set, if_neg hother, hfound]

theorem get?_apply_cases {event : Event}
    (hfound : (event.apply session).registry.get? id = some resolved) :
    (¬ event.Forgets id ∧ session.registry.get? id = some resolved) ∨
      (event = .resolve id ∧ session.registry.get? id = none ∧
        session.answer id = .ok resolved) := by
  cases event with
  | edit store => exact Or.inl ⟨not_false, hfound⟩
  | clear cleared =>
      have hfound : (session.registry.clear cleared).get? id = some resolved := hfound
      by_cases hforgets : (Event.clear cleared).Forgets id
      · rw [get?_clear_of_forgets hforgets] at hfound
        cases hfound
      · rw [get?_clear_of_keeps hforgets] at hfound
        exact Or.inl ⟨hforgets, hfound⟩
  | resolve other =>
      cases hanswer : session.answer other with
      | error failure =>
          rw [apply_resolve_of_error hanswer] at hfound
          exact Or.inl ⟨not_false, hfound⟩
      | ok found =>
          rcases registry_apply_resolve hanswer with ⟨hsame, _⟩ | ⟨hset, hnone, _⟩
          · rw [hsame] at hfound
            exact Or.inl ⟨not_false, hfound⟩
          · rw [hset, Table.get?_set] at hfound
            by_cases hother : other = id
            · rw [if_pos hother] at hfound
              cases hfound
              subst hother
              exact Or.inr ⟨rfl, hnone, hanswer⟩
            · rw [if_neg hother] at hfound
              exact Or.inl ⟨not_false, hfound⟩

/-- Every system that is remembered is active and is kept under its own identifier. -/
def Orderly (registry : Registry) : Prop :=
  registry.All fun id resolved => resolved.system.isActive = true ∧ resolved.system.id = id

theorem orderly_apply (hfiled : Filed session.store) (horderly : Orderly session.registry)
    (event : Event) : Orderly (event.apply session).registry := by
  cases event with
  | edit store => exact horderly
  | clear cleared =>
      cases cleared with
      | none => exact Table.all_empty _
      | some other =>
          intro key kept hmem
          exact (Table.all_erase horderly other key kept hmem).left
  | resolve other =>
      cases hanswer : session.answer other with
      | error failure =>
          rw [apply_resolve_of_error hanswer]
          exact horderly
      | ok found =>
          rcases registry_apply_resolve hanswer with ⟨hsame, _⟩ | ⟨hset, _, hvet⟩
          · rw [hsame]
            exact horderly
          · rcases Engine.loaded_of_vet hvet with ⟨hloaded, hactive, _⟩
            rw [hset]
            exact Table.all_set horderly ⟨hactive, hfiled other found.system hloaded⟩

/-!
# A history
-/

theorem filed_run {store : Store} {history : List Event} (hstore : Filed store)
    (hedits : forall edited, .edit edited ∈ history -> Filed edited) :
    Filed (run store history).store := by
  induction history using List.reverseRecOn with
  | nil => exact hstore
  | append_singleton history event ih =>
      rw [run_concat]
      have hbefore : Filed (run store history).store := by
        apply ih
        intro edited hmem
        exact hedits edited (List.mem_append_left _ hmem)
      cases event with
      | edit edited =>
          exact hedits edited (List.mem_append_right _ (List.mem_singleton_self _))
      | clear cleared => exact hbefore
      | resolve other => exact hbefore

theorem orderly_run {store : Store} {history : List Event} (hstore : Filed store)
    (hedits : forall edited, .edit edited ∈ history -> Filed edited) :
    Orderly (run store history).registry := by
  induction history using List.reverseRecOn with
  | nil => exact Table.all_empty _
  | append_singleton history event ih =>
      rw [run_concat]
      have hbefore : forall edited, .edit edited ∈ history -> Filed edited := by
        intro edited hmem
        exact hedits edited (List.mem_append_left _ hmem)
      exact orderly_apply (filed_run hstore hbefore) (ih hbefore) event

theorem get?_run_of_answer {store : Store} {before after : List Event}
    (hanswer : (run store before).answer id = .ok resolved) (hkeeps : Keeps id after) :
    (run store (before ++ .resolve id :: after)).registry.get? id = some resolved := by
  induction after using List.reverseRecOn with
  | nil =>
      rw [run_concat]
      exact get?_apply_resolve hanswer
  | append_singleton after event ih =>
      have hsplit : before ++ .resolve id :: (after ++ [event]) =
          (before ++ .resolve id :: after) ++ [event] := by simp
      rcases keeps_concat.mp hkeeps with ⟨hafter, hlast⟩
      rw [hsplit, run_concat]
      exact get?_apply_of_some hlast (ih hafter)

theorem exists_of_get?_run {store : Store} {history : List Event}
    (hfound : (run store history).registry.get? id = some resolved) :
    exists before after, history = before ++ .resolve id :: after ∧ Keeps id after ∧
      (run store before).registry.get? id = none ∧
      (run store before).answer id = .ok resolved := by
  induction history using List.reverseRecOn with
  | nil => cases hfound
  | append_singleton history event ih =>
      rw [run_concat] at hfound
      rcases get?_apply_cases hfound with ⟨hlast, hbefore⟩ | ⟨hevent, hnone, hanswer⟩
      · rcases ih hbefore with ⟨before, after, hhistory, hkeeps, hnone, hanswer⟩
        refine ⟨before, after ++ [event], ?_, keeps_concat.mpr ⟨hkeeps, hlast⟩, hnone, hanswer⟩
        rw [hhistory]
        simp
      · refine ⟨history, [], by rw [hevent], ?_, hnone, hanswer⟩
        intro event hmem
        cases hmem

theorem FirstResolved.get?_eq_none {store : Store} {history before : List Event}
    (hfirst : FirstResolved store history id before) :
    (run store before).registry.get? id = none := by
  cases hfound : (run store before).registry.get? id with
  | none => rfl
  | some remembered =>
      rcases exists_of_get?_run hfound with ⟨sooner, between, hbefore, hkeeps, _, hanswer⟩
      rcases hfirst.first sooner between hbefore hkeeps with ⟨failure, hfailed⟩
      rw [hanswer] at hfailed
      cases hfailed

theorem FirstResolved.answer_run {store : Store} {history before : List Event}
    (hfirst : FirstResolved store history id before) :
    exists system headers, (run store before).store id = .ok (some system) ∧
      Remote.headersOf system = .ok headers ∧
      (run store history).answer id = .ok ⟨system, headers⟩ := by
  rcases hfirst.succeeds with ⟨resolved, hanswer⟩
  rcases hfirst.since with ⟨after, hhistory, hkeeps⟩
  have hvet : vet id ((run store before).store id) = .ok resolved := by
    rw [← answer_of_none hfirst.get?_eq_none]
    exact hanswer
  rcases Engine.loaded_of_vet hvet with ⟨hloaded, _, hheaders⟩
  refine ⟨resolved.system, resolved.headers, hloaded, hheaders, ?_⟩
  rw [hhistory]
  exact answer_of_some (get?_run_of_answer hanswer hkeeps)

theorem exists_firstResolved {store : Store} {history : List Event}
    (hfound : (run store history).registry.get? id = some resolved) :
    exists before, FirstResolved store history id before := by
  rcases exists_of_get?_run hfound with ⟨before, after, hhistory, hkeeps, hnone, hanswer⟩
  refine ⟨before, ⟨after, hhistory, hkeeps⟩, ⟨resolved, hanswer⟩, ?_⟩
  intro sooner between hbefore hbetween
  cases hsooner : (run store sooner).answer id with
  | error failure => exact ⟨failure, rfl⟩
  | ok earlier =>
      have hearlier := get?_run_of_answer hsooner hbetween
      rw [← hbefore, hnone] at hearlier
      cases hearlier

/-!
# What the registry promises
-/

theorem answer_congr {other : Session} (hstore : other.store = session.store)
    (hget : other.registry.get? id = session.registry.get? id) :
    other.answer id = session.answer id := by
  cases hfound : session.registry.get? id with
  | some remembered => rw [answer_of_some hfound, answer_of_some (hget.trans hfound)]
  | none => rw [answer_of_none hfound, answer_of_none (hget.trans hfound), hstore]

/--
A system that could be resolved since it was last forgotten is what the store
held when that succeeded first, with the headers built from it; any other is
what the store tells now.  Where that is a failure the registry is left as it
was.  All that is remembered is active and under its own identifier.  What is
forgotten is as the store says from then on, and nothing else changes by that.
-/
theorem resolve_run (store : Store) (history : List Event) (hstore : Filed store)
    (hedits : forall edited, .edit edited ∈ history -> Filed edited) :
    let session := run store history
    (forall id before, FirstResolved store history id before ->
      exists system headers, (run store before).store id = .ok (some system) ∧
        Remote.headersOf system = .ok headers ∧
        session.answer id = .ok ⟨system, headers⟩) ∧
    (forall id, (¬ exists before, FirstResolved store history id before) ->
      Reflects id (session.store id) (session.answer id)) ∧
    (forall id failure, session.answer id = .error failure ->
      (Event.resolve id).apply session = session) ∧
    Orderly session.registry ∧
    (forall id forgotten, (Event.clear forgotten).Forgets id ->
      Reflects id (session.store id) (((Event.clear forgotten).apply session).answer id)) ∧
    (forall id other, other ≠ id ->
      let cleared := (Event.clear (some id)).apply session
      cleared.registry.get? other = session.registry.get? other ∧
        cleared.answer other = session.answer other) := by
  intro session
  refine ⟨?_, ?_, ?_, orderly_run hstore hedits, ?_, ?_⟩
  · intro id before hfirst
    exact hfirst.answer_run
  · intro id hnever
    have hnone : session.registry.get? id = none := by
      cases hfound : session.registry.get? id with
      | none => rfl
      | some remembered => exact absurd (exists_firstResolved hfound) hnever
    rw [answer_of_none hnone]
    exact reflects_vet id (session.store id)
  · intro id failure hfailed
    exact apply_resolve_of_error hfailed
  · intro id forgotten hforgets
    rw [answer_of_none (get?_clear_of_forgets hforgets session.registry)]
    exact reflects_vet id (session.store id)
  · intro id other hother cleared
    have hkeeps : ¬ (Event.clear (some id)).Forgets other := fun hsame => hother hsame.symm
    have hget : cleared.registry.get? other = session.registry.get? other :=
      get?_clear_of_keeps hkeeps session.registry
    exact ⟨hget, answer_congr rfl hget⟩

/-!
# A system that is deactivated
-/

def holding (system : Backend) : Store := fun id =>
  .ok (if id = system.id then some system else none)

theorem filed_holding (system : Backend) : Filed (holding system) := by
  intro id found hfound
  unfold holding at hfound
  split at hfound
  · rename_i hid
    cases hfound
    exact hid.symm
  · cases hfound

def guarded : Backend :=
  { Backend.plain (Uuid.ofNat 7) "tracker" "http://tracker" with auth := .bearer (some "key") }

/-- The system is resolved, and then it is deactivated and another one is cleared. -/
def deactivated : List Event :=
  [.resolve (Uuid.ofNat 7), .edit (holding { guarded with isActive := false }),
   .clear (some (Uuid.ofNat 8))]

/-- That a system is no longer active takes effect when it is cleared, and not before. -/
theorem resolve_run_deactivated :
    let session := run (holding guarded) deactivated
    Filed (holding guarded) ∧
      (forall edited, .edit edited ∈ deactivated -> Filed edited) ∧
      session.answer (Uuid.ofNat 7) = .ok ⟨guarded, [("Authorization", "Bearer key")]⟩ ∧
      ((Event.clear (some (Uuid.ofNat 7))).apply session).answer (Uuid.ofNat 7) =
        .error (.systemInactive (Uuid.ofNat 7)) := by
  intro session
  have hedits : forall edited, .edit edited ∈ deactivated -> Filed edited := by
    intro edited hmem
    simp only [deactivated, List.mem_cons, Event.edit.injEq, reduceCtorEq, List.not_mem_nil,
      or_false, false_or] at hmem
    rw [hmem]
    exact filed_holding _
  have hfirst : FirstResolved (holding guarded) deactivated (Uuid.ofNat 7) [] := by
    refine ⟨⟨deactivated.drop 1, rfl, ?_⟩, ⟨_, rfl⟩, ?_⟩
    · intro event hmem
      simp only [deactivated, List.drop, List.mem_cons, List.not_mem_nil, or_false] at hmem
      rcases hmem with hedit | hclear
      · rw [hedit]
        exact not_false
      · rw [hclear]
        show ¬ Uuid.ofNat 8 = Uuid.ofNat 7
        decide
    · intro sooner between hsplit
      cases sooner <;> cases hsplit
  rcases resolve_run (holding guarded) deactivated (filed_holding guarded) hedits with
    ⟨hremembered, _, _, _, hforgotten, _⟩
  refine ⟨filed_holding guarded, hedits, ?_, ?_⟩
  · rcases hremembered (Uuid.ofNat 7) [] hfirst with
      ⟨system, headers, hheld, hheaders, hanswer⟩
    cases hheld
    cases hheaders
    exact hanswer
  · have hreflects := hforgotten (Uuid.ofNat 7) (some (Uuid.ofNat 7)) rfl
    have hheld : session.store (Uuid.ofNat 7) =
        .ok (some { guarded with isActive := false }) := rfl
    rw [hheld] at hreflects
    generalize ((Event.clear (some (Uuid.ofNat 7))).apply session).answer (Uuid.ofNat 7) =
      answer at hreflects ⊢
    cases hreflects with
    | inactive _ => rfl
    | unidentified hactive _ => cases hactive
    | usable hactive _ => cases hactive

end Registry
end QueryGateway
