import QueryGateway.Proofs.Engine.Activity
import QueryGateway.Service.Gateway

/-!
# What calls ask of the engine

A call that is understood begins an execution, or it drops results that are
kept.  All other calls leave the results alone.  Calls arrive while executions
are under way and while records are edited; answering a call with nothing in
between is one way in which this can happen.
-/

namespace QueryGateway
namespace Service

open Engine

variable {σ : Type}

/-!
# Calls as actions
-/

def Route.askId (name segment : String) (ask : Uuid -> Option (Action σ)) : Option (Action σ) :=
  match pathId name segment with
  | .ok id => ask id
  | .error _ => none

def Route.action? (call : Call) : Route -> Option (Action σ)
  | .execute segment =>
      askId "system_id" segment fun id =>
        match Gateway.executionInput call with
        | .ok (user, body) => some (.execute (body.toRequest id) user)
        | .error _ => none
  | .executeSaved segment =>
      askId "query_id" segment fun id =>
        match Gateway.savedInput call with
        | .ok (user, forceRefresh) => some (.executeSaved id user forceRefresh)
        | .error _ => none
  | .test segment => askId "system_id" segment fun _ => none
  | .clearAll => some (.clearCache none)
  | .clearSystem segment => askId "system_id" segment fun id => some (.clearCache (some id))
  | .invalidateQuery segment => askId "query_id" segment fun id => some (.invalidateQuery id)
  | _ => none

def Call.action? (call : Call) : Option (Action σ) :=
  match Route.ofPath call.path with
  | none => none
  | some route => if route.answersTo call.verb then route.action? call else none

/-- Only routes that are read answer for the head alone, and these ask for nothing. -/
theorem Route.action?_of_head {route : Route} (hverb : route.answersTo "HEAD" = true)
    (call : Call) : (route.action? call : Option (Action σ)) = none := by
  cases route with
  | health => rfl
  | ready => rfl
  | metrics => rfl
  | stream => rfl
  | _ => simp [answersTo, isRead, verb] at hverb

theorem Route.exists_of_askId {name segment : String} {ask : Uuid -> Option (Action σ)}
    {action : Action σ} (hask : askId name segment ask = some action) :
    exists id, ask id = some action := by
  unfold askId at hask
  split at hask
  · exact ⟨_, hask⟩
  · cases hask

theorem Call.exists_of_action? {call : Call} {action : Action σ}
    (haction : call.action? = some action) :
    exists route : Route, route.action? call = some action := by
  unfold action? at haction
  split at haction
  · cases haction
  · rename_i route hroute
    split at haction
    · exact ⟨route, haction⟩
    · cases haction

theorem userOf_of_ok {α : Type} {call : Call} {rest : Except Refusal α} {user : Option Uuid}
    {value : α}
    (hinput : (do
      let user ← userOf call
      let value ← rest
      pure (user, value)) = .ok (user, value)) :
    userOf call = .ok user := by
  cases huser : userOf call with
  | error refusal =>
      rw [huser] at hinput
      cases hinput
  | ok named =>
      rw [huser] at hinput
      cases hrest : rest with
      | error refusal =>
          rw [hrest] at hinput
          cases hinput
      | ok read =>
          rw [hrest] at hinput
          cases hinput
          rfl

/-- A call executes on behalf of the user that it names, or else it executes nothing. -/
theorem Call.action?_cases {call : Call} {action : Action σ}
    (haction : call.action? = some action) :
    (exists (id : Uuid) (body : Body) (user : Option Uuid),
        userOf call = .ok user ∧ action = .execute (body.toRequest id) user) ∨
      (exists id user forceRefresh,
        userOf call = .ok user ∧ action = .executeSaved id user forceRefresh) ∨
      forall outside world, action.request? outside world = none := by
  rcases exists_of_action? haction with ⟨route, hroute⟩
  cases route with
  | execute segment =>
      rcases Route.exists_of_askId hroute with ⟨id, hid⟩
      split at hid
      · rename_i user body hinput
        cases hid
        exact Or.inl ⟨id, body, user, userOf_of_ok hinput, rfl⟩
      · cases hid
  | executeSaved segment =>
      rcases Route.exists_of_askId hroute with ⟨id, hid⟩
      split at hid
      · rename_i user forceRefresh hinput
        cases hid
        exact Or.inr (Or.inl ⟨id, user, forceRefresh, userOf_of_ok hinput, rfl⟩)
      · cases hid
  | test segment =>
      rcases Route.exists_of_askId hroute with ⟨id, hid⟩
      cases hid
  | clearAll =>
      cases hroute
      exact Or.inr (Or.inr fun outside world => rfl)
  | clearSystem segment =>
      rcases Route.exists_of_askId hroute with ⟨id, hid⟩
      cases hid
      exact Or.inr (Or.inr fun outside world => rfl)
  | invalidateQuery segment =>
      rcases Route.exists_of_askId hroute with ⟨id, hid⟩
      cases hid
      exact Or.inr (Or.inr fun outside world => rfl)
  | _ => cases hroute

/-!
# Answers to calls
-/

namespace Gateway

def Remembers (before after : State) : Prop :=
  after = before ∨ exists systemId resolved,
    after = { before with registry := before.registry.set systemId resolved }

/-- What is done about a call is what it asks of the engine; a result is told as it is. -/
def Obeys (policy : Policy) (outside : Outside σ) (gateway : Gateway) (world : σ)
    (asked : Option (Action σ)) (answered : Answer × Gateway × σ) : Prop :=
  match asked with
  | none => Remembers gateway.engine answered.2.1.engine
  | some action =>
      (answered.2.1.engine, answered.2.2) = action.apply policy outside (gateway.engine, world) ∧
        forall result, action.result? policy outside (gateway.engine, world) = some result ->
          answered.1 = .json 200 result.toJson

theorem resolve_remembers (load : Uuid -> Registry.Loaded) (systemId : Uuid) (state : State) :
    Remembers state { state with registry := (state.registry.resolve load systemId).2 } := by
  unfold Registry.resolve
  split
  · exact Or.inl rfl
  · split
    · rename_i resolved hresolved
      exact Or.inr ⟨systemId, resolved, rfl⟩
    · exact Or.inl rfl

theorem testConnection_remembers (policy : Policy) (outside : Outside σ) (systemId : Uuid)
    (state : State) (world : σ) :
    Remembers state (testConnection policy outside systemId state world).2.1 := by
  have hresolved := resolve_remembers (fun id => outside.loadSystem id world) systemId state
  unfold testConnection
  generalize state.registry.resolve (fun id => outside.loadSystem id world) systemId = found
    at hresolved ⊢
  rcases found with ⟨resolved, registry⟩
  cases resolved with
  | error failure => exact hresolved
  | ok resolved =>
      dsimp only
      split
      · exact hresolved
      · exact hresolved

variable {policy : Policy} {outside : Outside σ} {gateway : Gateway} {world : σ}

theorem obeys_withId {name segment : String} {ask : Uuid -> Option (Action σ)}
    {act : Uuid -> Answer × Gateway × σ}
    (hact : forall id, gateway.Obeys policy outside world (ask id) (act id)) :
    gateway.Obeys policy outside world (Route.askId name segment ask)
      (gateway.withId name segment world act) := by
  unfold Route.askId withId
  cases pathId name segment with
  | error text => exact Or.inl rfl
  | ok id => exact hact id

theorem obeys_serve (surroundings : Surroundings σ) (route : Route) (call : Call) :
    gateway.Obeys policy surroundings.outside world (route.action? call)
      (gateway.serve policy surroundings route call world) := by
  cases route with
  | execute segment =>
      apply obeys_withId
      intro id
      unfold execute
      cases executionInput call with
      | error refusal => exact Or.inl rfl
      | ok input =>
          constructor
          · rfl
          · intro result hresult
            cases hresult
            rfl
  | executeSaved segment =>
      apply obeys_withId
      intro id
      unfold executeSaved
      cases savedInput call with
      | error refusal => exact Or.inl rfl
      | ok input =>
          constructor
          · rfl
          · intro result hresult
            cases hresult
            rfl
  | test segment =>
      apply obeys_withId
      intro id
      exact testConnection_remembers policy surroundings.outside id gateway.engine world
  | clearAll =>
      constructor
      · rfl
      · intro result hresult
        cases hresult
  | clearSystem segment =>
      apply obeys_withId
      intro id
      constructor
      · rfl
      · intro result hresult
        cases hresult
  | invalidateQuery segment =>
      apply obeys_withId
      intro id
      constructor
      · rfl
      · intro result hresult
        cases hresult
  | _ => exact Or.inl rfl

theorem obeys_handle (surroundings : Surroundings σ) (call : Call) :
    gateway.Obeys policy surroundings.outside world call.action?
      (gateway.handle policy surroundings call world) := by
  unfold Call.action? handle
  cases Route.ofPath call.path with
  | none => exact Or.inl rfl
  | some route =>
      dsimp only
      by_cases hverb : route.answersTo call.verb = true
      · rw [if_pos hverb, if_pos hverb]
        have hserved : gateway.Obeys policy surroundings.outside world (route.action? call)
            (gateway.serve policy surroundings route call world) :=
          obeys_serve surroundings route call
        -- Without its body an answer tells no result, but then none is asked for.
        by_cases hhead : call.verb = "HEAD"
        · rw [hhead] at hverb
          rw [Route.action?_of_head hverb] at hserved ⊢
          exact hserved
        · rw [if_neg hhead]
          exact hserved
      · rw [if_neg hverb, if_neg hverb]
        exact Or.inl rfl

end Gateway

/-!
# Calls among other things
-/

inductive Occurrence (σ : Type) where
  | call (call : Call)
  /-- An execution takes a step. -/
  | advance (index : Nat)
  /-- A test of a connection has loaded a system. -/
  | remember (systemId : Uuid) (resolved : Resolved)
  /-- Results that are no longer fresh are dropped. -/
  | purge
  /-- Log entries are written. -/
  | flush (max : Nat)
  /-- Time passes, or saved queries and systems are edited. -/
  | edit (change : σ -> σ)

namespace Occurrence

def happening? : Occurrence σ -> Option (Happening σ)
  | .call received => received.action?.map .act
  | .advance index => some (.advance index)
  | .remember systemId resolved => some (.remember systemId resolved)
  | .purge => some (.act .purgeExpired)
  | .flush max => some (.flush max)
  | .edit change => some (.act (.outside change))

def play (policy : Policy) (outside : Outside σ) (occurrences : List (Occurrence σ))
    (activity : Activity σ) : Activity σ :=
  Happening.play policy outside (occurrences.filterMap happening?) activity

variable {policy : Policy} {outside : Outside σ}

theorem play_of_none {received : Call}
    (hnone : (received.action? : Option (Action σ)) = none) (rest : List (Occurrence σ))
    (activity : Activity σ) :
    play policy outside (.call received :: rest) activity = play policy outside rest activity := by
  unfold play
  rw [List.filterMap_cons_none]
  simp only [happening?, hnone, Option.map_none]

theorem play_of_some {received : Call} {action : Action σ}
    (haction : received.action? = some action) (rest : List (Occurrence σ))
    (activity : Activity σ) :
    play policy outside (.call received :: rest) activity =
      Happening.play policy outside (.act action :: rest.filterMap happening?) activity := by
  unfold play
  rw [List.filterMap_cons_some]
  simp only [happening?, haction, Option.map_some]

def IsInternal (occurrence : Occurrence σ) : Prop :=
  forall received, occurrence ≠ .call received

theorem isInternal_advance (index : Nat) : (advance index : Occurrence σ).IsInternal := by
  intro received hcall
  cases hcall

theorem isInternal_remember (systemId : Uuid) (resolved : Resolved) :
    (remember systemId resolved : Occurrence σ).IsInternal := by
  intro received hcall
  cases hcall

theorem isInternal_edit (change : σ -> σ) : (edit change).IsInternal := by
  intro received hcall
  cases hcall

end Occurrence

/-!
# Calls that are answered at once
-/

/--
An activity has gone on with a call as a service does that answers it at once: an
execution that the call begins has come to its end, and the answer tells the result.
-/
structure Gateway.Accounted (policy : Policy) (outside : Outside σ) (call : Call)
    (before after : Activity σ) (answer : Answer) : Prop where
  executed : forall action, call.action? = some action ->
    forall request, action.request? outside before.world = some request ->
      exists final result, after.attempts = before.attempts ++ [final] ∧
        final.origin = ⟨action, before.world, request⟩ ∧ final.run.stage = .done result ∧
        (forall source, final.source = some source ->
          exists key, before.keepers.get? key = some source) ∧
        action.result? policy outside (before.state, before.world) = some result
  idle : (forall action, call.action? = some action ->
      action.request? outside before.world = none) ->
    after.attempts = before.attempts
  told : forall action, call.action? = some action ->
    forall result, action.result? policy outside (before.state, before.world) = some result ->
      answer = .json 200 result.toJson

namespace Gateway

theorem accounted_of_action?_eq_none {policy : Policy} {outside : Outside σ} {call : Call}
    {before after : Activity σ} {answer : Answer}
    (hnone : (call.action? : Option (Action σ)) = none)
    (hsame : after.attempts = before.attempts) :
    Accounted policy outside call before after answer where
  executed := by
    intro action haction
    rw [hnone] at haction
    cases haction
  idle := fun _ => hsame
  told := by
    intro action haction
    rw [hnone] at haction
    cases haction

/--
What is done about a call with nothing in between is what happens when it
arrives and its execution takes its steps.
-/
theorem handle_play (policy : Policy) (surroundings : Surroundings σ) (call : Call)
    {gateway : Gateway} {before : Activity σ} (hengine : before.state = gateway.engine) :
    exists others : List (Occurrence σ), (forall other, other ∈ others -> other.IsInternal) ∧
      let handled := gateway.handle policy surroundings call before.world
      let after := Occurrence.play policy surroundings.outside (.call call :: others) before
      (after.state, after.world) = (handled.2.1.engine, handled.2.2) ∧
        Accounted policy surroundings.outside call before after handled.1 := by
  have hobeys : gateway.Obeys policy surroundings.outside before.world call.action?
      (gateway.handle policy surroundings call before.world) := obeys_handle surroundings call
  generalize gateway.handle policy surroundings call before.world = handled at hobeys ⊢
  rcases handled with ⟨answer, handled, later⟩
  dsimp only
  cases haction : (call.action? : Option (Action σ)) with
  | none =>
      -- What such a call does to the engine and to the world may happen without it.
      rw [haction] at hobeys
      rcases hobeys with hsame | ⟨systemId, resolved, hremembered⟩
      · refine ⟨[.edit fun _ => later], ?_, ?_⟩
        · intro other hmem
          rw [List.mem_singleton.mp hmem]
          exact Occurrence.isInternal_edit _
        · rw [Occurrence.play_of_none haction, hsame, ← hengine]
          exact ⟨rfl, accounted_of_action?_eq_none haction rfl⟩
      · refine ⟨[.remember systemId resolved, .edit fun _ => later], ?_, ?_⟩
        · intro other hmem
          rcases List.mem_cons.mp hmem with hfirst | hsecond
          · rw [hfirst]
            exact Occurrence.isInternal_remember systemId resolved
          · rw [List.mem_singleton.mp hsecond]
            exact Occurrence.isInternal_edit _
        · rw [Occurrence.play_of_none haction, hremembered, ← hengine]
          exact ⟨rfl, accounted_of_action?_eq_none haction rfl⟩
  | some action =>
      rw [haction] at hobeys
      rcases hobeys with ⟨happly, hanswer⟩
      rw [← hengine] at happly hanswer
      rcases @Happening.play_act σ policy surroundings.outside action before with
        ⟨count, hreached, hidle, hdone⟩
      have hsteps : (List.replicate count (.advance before.attempts.length)).filterMap
          (@Occurrence.happening? σ) = List.replicate count (.advance before.attempts.length) :=
        List.filterMap_replicate_of_some rfl
      refine ⟨List.replicate count (.advance before.attempts.length), ?_, ?_⟩
      · intro other hmem
        rw [List.eq_of_mem_replicate hmem]
        exact Occurrence.isInternal_advance _
      · rw [Occurrence.play_of_some haction, hsteps]
        refine ⟨hreached.trans happly.symm, ?_, ?_, ?_⟩
        · intro other hasked
          rw [haction] at hasked
          cases hasked
          exact hdone
        · intro hnone
          exact hidle (hnone action haction)
        · intro other hasked
          rw [haction] at hasked
          cases hasked
          exact hanswer

theorem Accounted.origins {policy : Policy} {outside : Outside σ} {call : Call}
    {before after : Activity σ} {answer : Answer}
    (haccounted : Accounted policy outside call before after answer) {origin : Origin σ}
    (hmem : origin ∈ after.origins) :
    origin ∈ before.origins ∨ call.action? = some origin.action ∧ origin.moment = before.world := by
  unfold Activity.origins at hmem
  by_cases hbegins : exists action request, call.action? = some action ∧
      action.request? outside before.world = some request
  · rcases hbegins with ⟨action, request, haction, hrequest⟩
    rcases haccounted.executed action haction request hrequest with
      ⟨final, _, hattempts, hfinal, -⟩
    rw [hattempts, List.map_append, List.map_singleton, hfinal] at hmem
    rcases List.mem_append.mp hmem with hbefore | hlast
    · exact Or.inl hbefore
    · rw [List.mem_singleton.mp hlast]
      exact Or.inr ⟨haction, rfl⟩
  · have hidle : after.attempts = before.attempts := by
      apply haccounted.idle
      intro action haction
      rw [Option.eq_none_iff_forall_ne_some]
      intro request hrequest
      exact hbegins ⟨action, request, haction, hrequest⟩
    rw [hidle] at hmem
    exact Or.inl hmem

end Gateway

/-!
# Runs of the service
-/

namespace Occurrence

/-- A call is answered before anything else happens, so that no execution is ever under way. -/
def attend (policy : Policy) (surroundings : Surroundings σ) (reached : Gateway × σ) :
    Occurrence σ -> Gateway × σ
  | .call received => (reached.1.handle policy surroundings received reached.2).2
  | .advance _ => reached
  | .remember systemId resolved =>
      let registry := reached.1.engine.registry.set systemId resolved
      ({ reached.1 with engine := { reached.1.engine with registry } }, reached.2)
  | .purge =>
      let now := surroundings.outside.clock reached.2
      ({ reached.1 with engine := (reached.1.engine.purgeExpired now).2 }, reached.2)
  | .flush max =>
      let (_, engine, world) := reached.1.engine.flush surroundings.outside max reached.2
      ({ reached.1 with engine }, world)
  | .edit change => (reached.1, change reached.2)

def attended (policy : Policy) (surroundings : Surroundings σ) (occurrences : List (Occurrence σ))
    (start : Gateway × σ) : Gateway × σ :=
  occurrences.foldl (attend policy surroundings) start

/-- What is executed came with one of the calls, and the world was what it was at that call. -/
def Began (policy : Policy) (surroundings : Surroundings σ) (occurrences : List (Occurrence σ))
    (start : Gateway × σ) (origin : Origin σ) : Prop :=
  exists earlier call later, occurrences = earlier ++ .call call :: later ∧
    call.action? = some origin.action ∧
      origin.moment = (attended policy surroundings earlier start).2

variable {policy : Policy} {surroundings : Surroundings σ}

theorem attended_concat (earlier : List (Occurrence σ)) (last : Occurrence σ)
    (start : Gateway × σ) :
    attended policy surroundings (earlier ++ [last]) start =
      attend policy surroundings (attended policy surroundings earlier start) last :=
  List.foldl_concat ..

theorem play_append (earlier later : List (Occurrence σ)) (activity : Activity σ) :
    play policy surroundings.outside (earlier ++ later) activity =
      play policy surroundings.outside later
        (play policy surroundings.outside earlier activity) := by
  unfold play
  rw [List.filterMap_append, Happening.play_append]

theorem Began.append {earlier : List (Occurrence σ)} {start : Gateway × σ} {origin : Origin σ}
    (hbegan : Began policy surroundings earlier start origin) (more : List (Occurrence σ)) :
    Began policy surroundings (earlier ++ more) start origin := by
  rcases hbegan with ⟨before, call, later, hearlier, haction, hmoment⟩
  refine ⟨before, call, later ++ more, ?_, haction, hmoment⟩
  rw [hearlier, List.append_assoc, List.cons_append]

theorem attend_play (policy : Policy) (surroundings : Surroundings σ) (occurrence : Occurrence σ)
    {gateway : Gateway} {before : Activity σ} (hengine : before.state = gateway.engine) :
    exists played : List (Occurrence σ),
      let reached := attend policy surroundings (gateway, before.world) occurrence
      let after := play policy surroundings.outside played before
      (after.state, after.world) = (reached.1.engine, reached.2) ∧
        forall origin, origin ∈ after.origins -> origin ∈ before.origins ∨
          exists call, occurrence = .call call ∧ call.action? = some origin.action ∧
            origin.moment = before.world := by
  cases occurrence with
  | call received =>
      rcases Gateway.handle_play policy surroundings received hengine with
        ⟨others, -, hreached, haccounted⟩
      refine ⟨.call received :: others, hreached, ?_⟩
      intro origin hmem
      rcases haccounted.origins hmem with hbefore | hbegun
      · exact Or.inl hbefore
      · exact Or.inr ⟨received, rfl, hbegun⟩
  | advance index => exact ⟨[], congrArg (·, before.world) hengine, fun origin => Or.inl⟩
  | remember systemId resolved =>
      refine ⟨[.remember systemId resolved], ?_, fun origin => Or.inl⟩
      rw [attend, ← hengine]
      rfl
  | purge =>
      refine ⟨[.purge], ?_, fun origin => Or.inl⟩
      rw [attend, ← hengine]
      rfl
  | flush max =>
      refine ⟨[.flush max], ?_, fun origin => Or.inl⟩
      rw [attend, ← hengine]
      rfl
  | edit change =>
      refine ⟨[.edit change], ?_, fun origin => Or.inl⟩
      rw [attend, ← hengine]
      rfl

/-- A service that answers each call at once goes through one of its activities. -/
theorem attended_play (policy : Policy) (surroundings : Surroundings σ)
    (occurrences : List (Occurrence σ)) {gateway : Gateway} {start : Activity σ}
    (hengine : start.state = gateway.engine) :
    exists played : List (Occurrence σ),
      let reached := attended policy surroundings occurrences (gateway, start.world)
      let activity := play policy surroundings.outside played start
      (activity.state, activity.world) = (reached.1.engine, reached.2) ∧
        forall origin, origin ∈ activity.origins -> origin ∈ start.origins ∨
          Began policy surroundings occurrences (gateway, start.world) origin := by
  -- The last occurrence is taken off, because an execution begins where the earlier ones lead.
  induction occurrences using List.reverseRecOn with
  | nil => exact ⟨[], congrArg (·, start.world) hengine, fun origin => Or.inl⟩
  | append_singleton earlier last ih =>
      rcases ih with ⟨played, hreached, horigins⟩
      dsimp only at hreached horigins ⊢
      rw [attended_concat]
      generalize hafter : attended policy surroundings earlier (gateway, start.world) = reached
        at hreached ⊢
      rcases reached with ⟨reachedGateway, world⟩
      rcases Prod.mk.inj hreached with ⟨hstate, hworld⟩
      rcases attend_play policy surroundings last hstate with ⟨more, hmore, hbegun⟩
      refine ⟨played ++ more, ?_, ?_⟩
      · rw [play_append, hmore, hworld]
      · intro origin hmem
        rw [play_append] at hmem
        rcases hbegun origin hmem with hbefore | ⟨call, hlast, haction, hmoment⟩
        · rcases horigins origin hbefore with hfirst | hbegan
          · exact Or.inl hfirst
          · exact Or.inr (hbegan.append [last])
        · refine Or.inr ⟨earlier, call, [], by rw [hlast], haction, ?_⟩
          rw [hmoment, hafter]
          exact hworld

end Occurrence
end Service
end QueryGateway
