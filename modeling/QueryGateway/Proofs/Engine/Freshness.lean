import QueryGateway.Proofs.Engine.Activity

/-!
# How old results from the cache are

A result that an execution finds in the cache was kept by a step of an earlier
one for the same key, less than a lifetime before: the lifetime that the one
who kept it asked for.  For how long the one who finds it would keep results is
not looked at.
-/

namespace QueryGateway
namespace Engine

open Execution

variable {σ : Type}

/-!
# Where executions stand
-/

namespace Stage

/-- The outcome from the cache that is or will be told. -/
def Tells (outcome : Outcome) : Stage -> Prop
  | .reporting (.ok found) true => found = outcome
  | .done result => exists elapsedMs date, result = succeeded outcome elapsedMs true date
  | _ => False

end Stage

namespace Run

variable {policy : Policy} {outside : Outside σ}

theorem tells_step {run : Run} {outcome : Outcome} (htells : run.stage.Tells outcome)
    (state : State) (world : σ) :
    (run.step policy outside state world).1.stage.Tells outcome := by
  rcases run with ⟨request, userId, startedAt, stage⟩
  cases stage with
  | reporting told cacheHit =>
      cases told with
      | error failure => cases htells
      | ok found =>
          cases cacheHit with
          | false => cases htells
          | true =>
              cases htells
              exact ⟨_, _, rfl⟩
  | done result => exact htells
  | _ => cases htells

theorem tells_search {run : Run} {searched : Cache.Key} (hstage : run.stage = .searching searched)
    {state : State} {world : σ}
    (hhit : (run.step policy outside state world).1.stage.isHit = true) :
    exists entry, state.cache.entries.get? searched = some entry ∧
      entry.isFresh (outside.clock world) = true ∧
      (run.step policy outside state world).1.stage.Tells entry.result := by
  rw [isHit_step_searching hstage, Option.any_eq_true] at hhit
  rcases hhit with ⟨entry, hentry, hfresh⟩
  refine ⟨entry, hentry, hfresh, ?_⟩
  simp only [step, next, hstage, search, Cache.Store.look, hentry, hfresh, if_true]
  exact rfl

end Run

namespace Activity

def StandsAt (activity : Activity σ) (place : Nat) (origin : Origin σ) (stage : Stage) : Prop :=
  exists attempt, activity.attempts[place]? = some attempt ∧ attempt.origin = origin ∧
    attempt.run.stage = stage

def IsInitial (activity : Activity σ) : Prop :=
  exists logCapacity feedCapacity world, activity = initial logCapacity feedCapacity world

variable {policy : Policy} {outside : Outside σ} {activity start : Activity σ}

theorem IsInitial.sound (hstart : start.IsInitial) : start.Sound policy outside := by
  rcases hstart with ⟨logCapacity, feedCapacity, world, rfl⟩
  exact sound_initial logCapacity feedCapacity world

theorem IsInitial.not_standsAt (hstart : start.IsInitial) {place : Nat} {origin : Origin σ}
    {stage : Stage} : ¬ start.StandsAt place origin stage := by
  rcases hstart with ⟨logCapacity, feedCapacity, world, rfl⟩
  rintro ⟨attempt, hattempt, -⟩
  cases hattempt

theorem IsInitial.get?_cache (hstart : start.IsInitial) (key : Cache.Key) :
    start.state.cache.entries.get? key = none := by
  rcases hstart with ⟨logCapacity, feedCapacity, world, rfl⟩
  rfl

end Activity

namespace Happening

variable {policy : Policy} {outside : Outside σ} {activity start : Activity σ}

/-- An execution stands where it stood, it has taken a step, or it has just begun. -/
theorem standsAt_apply {happening : Happening σ} {place : Nat} {origin : Origin σ} {stage : Stage}
    (hstands : (apply policy outside activity happening).StandsAt place origin stage) :
    activity.StandsAt place origin stage ∨
      (happening = .advance place ∧
        exists attempt, activity.attempts[place]? = some attempt ∧ attempt.origin = origin ∧
          (attempt.run.step policy outside activity.state activity.world).1.stage = stage) ∨
      (origin.moment = activity.world ∧ stage.isHit = false) := by
  rcases hstands with ⟨attempt, hattempt, horigin, hstage⟩
  cases happening with
  | act action =>
      cases hrequest : action.request? outside activity.world with
      | none =>
          rw [apply, Activity.act_of_none hrequest] at hattempt
          exact .inl ⟨attempt, hattempt, horigin, hstage⟩
      | some request =>
          rw [apply, Activity.act_of_some hrequest, List.getElem?_append] at hattempt
          split at hattempt
          · exact .inl ⟨attempt, hattempt, horigin, hstage⟩
          · rw [List.mem_singleton.mp (List.mem_of_getElem? hattempt)] at horigin hstage
            rw [← horigin, ← hstage]
            exact .inr (.inr ⟨rfl, Run.isHit_start _ _ _ _⟩)
  | advance index =>
      cases hstepping : activity.attempts[index]? with
      | none =>
          rw [apply, Activity.advance, hstepping] at hattempt
          exact .inl ⟨attempt, hattempt, horigin, hstage⟩
      | some stepping =>
          rw [apply, Activity.advance_of_attempt hstepping, List.getElem?_set] at hattempt
          split at hattempt
          · rename_i hplace
            split at hattempt
            · cases hattempt
              rw [hplace] at hstepping ⊢
              exact .inr (.inl ⟨rfl, stepping, hstepping, horigin, hstage⟩)
            · cases hattempt
          · exact .inl ⟨attempt, hattempt, horigin, hstage⟩
  | remember systemId resolved => exact .inl ⟨attempt, hattempt, horigin, hstage⟩
  | flush max => exact .inl ⟨attempt, hattempt, horigin, hstage⟩

/-- An entry of the cache was there, or an execution has just kept it for its own lifetime. -/
theorem get?_apply (hsound : activity.Sound policy outside) {happening : Happening σ}
    {key : Cache.Key} {entry : Cache.Entry}
    (hentry : (apply policy outside activity happening).state.cache.entries.get? key =
      some entry) :
    activity.state.cache.entries.get? key = some entry ∨
      exists place keeper, happening = .advance place ∧
        activity.StandsAt place keeper (.keeping entry.result) ∧
        Run.key policy keeper.request = key ∧ Run.lifetime keeper.request = some entry.lifetime ∧
        entry.storedAt = outside.clock activity.world := by
  cases happening with
  | act action =>
      cases hrequest : action.request? outside activity.world with
      | none =>
          rw [apply, Activity.act_of_none hrequest] at hentry
          have hreached : action.request? outside (activity.state, activity.world).2 = none :=
            hrequest
          exact .inl ((Action.subset_apply policy hreached hsound.unique).right key entry hentry)
      | some request =>
          rw [apply, Activity.act_of_some hrequest] at hentry
          exact .inl hentry
  | advance index =>
      cases hattempt : activity.attempts[index]? with
      | none =>
          rw [apply, Activity.advance, hattempt] at hentry
          exact .inl hentry
      | some attempt =>
          have hmem := List.mem_of_getElem? hattempt
          rw [apply, Activity.advance_of_attempt hattempt] at hentry
          rcases Run.get?_of_step hentry with hbefore | ⟨⟨outcome, hstage⟩, hkey, -⟩
          · exact .inl hbefore
          · have hproper := hsound.proper attempt hmem
            simp only [Run.Proper, hstage] at hproper
            rcases hproper with ⟨lifetime, hlifetime⟩
            rw [Run.get?_step_keeping hstage hlifetime, if_pos hkey] at hentry
            cases hentry
            rw [hsound.requests attempt hmem] at hkey hlifetime
            exact .inr ⟨index, attempt.origin, rfl, ⟨attempt, hattempt, rfl, hstage⟩, hkey,
              hlifetime, rfl⟩
  | remember systemId resolved => exact .inl hentry
  | flush max => exact .inl hentry

/-!
# Where results come from
-/

/-- Among the happenings there is a step that kept an entry. -/
def Kept (policy : Policy) (outside : Outside σ) (start : Activity σ)
    (happenings : List (Happening σ)) (key : Cache.Key) (entry : Cache.Entry) : Prop :=
  exists earlier place later keeper,
    happenings = earlier ++ .advance place :: later ∧
      (play policy outside earlier start).StandsAt place keeper (.keeping entry.result) ∧
      Run.key policy keeper.request = key ∧ Run.lifetime keeper.request = some entry.lifetime ∧
      entry.storedAt = outside.clock (play policy outside earlier start).world

def Found (policy : Policy) (outside : Outside σ) (start : Activity σ)
    (happenings : List (Happening σ)) (place : Nat) (origin : Origin σ) (outcome : Outcome) :
    Prop :=
  exists earlier later entry,
    happenings = earlier ++ .advance place :: later ∧
      (play policy outside earlier start).StandsAt place origin
        (.searching (Run.key policy origin.request)) ∧
      (play policy outside earlier start).state.cache.entries.get?
        (Run.key policy origin.request) = some entry ∧
      entry.isFresh (outside.clock (play policy outside earlier start).world) = true ∧
      entry.result = outcome

theorem Kept.append {happenings : List (Happening σ)} {key : Cache.Key} {entry : Cache.Entry}
    (hkept : Kept policy outside start happenings key entry) (more : List (Happening σ)) :
    Kept policy outside start (happenings ++ more) key entry := by
  rcases hkept with ⟨earlier, place, later, keeper, hsplit, hkeeper⟩
  refine ⟨earlier, place, later ++ more, keeper, ?_, hkeeper⟩
  rw [hsplit, List.append_assoc, List.cons_append]

theorem Found.append {happenings : List (Happening σ)} {place : Nat} {origin : Origin σ}
    {outcome : Outcome} (hfound : Found policy outside start happenings place origin outcome)
    (more : List (Happening σ)) :
    Found policy outside start (happenings ++ more) place origin outcome := by
  rcases hfound with ⟨earlier, later, entry, hsplit, hentry⟩
  refine ⟨earlier, later ++ more, entry, ?_, hentry⟩
  rw [hsplit, List.append_assoc, List.cons_append]

theorem kept_play (hstart : start.IsInitial) {happenings : List (Happening σ)} {key : Cache.Key}
    {entry : Cache.Entry}
    (hentry : (play policy outside happenings start).state.cache.entries.get? key = some entry) :
    Kept policy outside start happenings key entry := by
  -- The last happening is taken off, so that what came before it stays a beginning of all.
  induction happenings using List.reverseRecOn with
  | nil =>
      rw [play, List.foldl_nil, hstart.get?_cache] at hentry
      cases hentry
  | append_singleton happenings happening ih =>
      rw [play_append] at hentry
      rcases get?_apply (sound_play happenings hstart.sound) hentry with
        hbefore | ⟨place, keeper, hnow, hkeeper⟩
      · exact (ih hbefore).append [happening]
      · rw [hnow]
        exact ⟨happenings, place, [], keeper, rfl, hkeeper⟩

theorem found_play (hstart : start.IsInitial) {happenings : List (Happening σ)} {place : Nat}
    {origin : Origin σ} {stage : Stage}
    (hstands : (play policy outside happenings start).StandsAt place origin stage)
    (hhit : stage.isHit = true) :
    exists outcome, stage.Tells outcome ∧
      Found policy outside start happenings place origin outcome := by
  induction happenings using List.reverseRecOn generalizing stage with
  | nil => exact absurd hstands hstart.not_standsAt
  | append_singleton happenings happening ih =>
      have hsound : (play policy outside happenings start).Sound policy outside :=
        sound_play happenings hstart.sound
      rw [play_append] at hstands
      rcases standsAt_apply hstands with
        hbefore | ⟨hnow, attempt, hattempt, horigin, hstage⟩ | ⟨-, hmiss⟩
      · rcases ih hbefore hhit with ⟨outcome, htells, hfound⟩
        exact ⟨outcome, htells, hfound.append [happening]⟩
      · have hmem := List.mem_of_getElem? hattempt
        rw [← hstage] at hhit ⊢
        by_cases hsearching : exists searched, attempt.run.stage = .searching searched
        · rcases hsearching with ⟨searched, hsearching⟩
          have hsearched := hsound.proper attempt hmem
          simp only [Run.Proper, hsearching, hsound.requests attempt hmem, horigin] at hsearched
          rw [hsearched] at hsearching
          rcases Run.tells_search hsearching hhit with ⟨entry, hentry, hfresh, htells⟩
          rw [hnow]
          exact ⟨entry.result, htells, happenings, [], entry, rfl,
            ⟨attempt, hattempt, horigin, hsearching⟩, hentry, hfresh, rfl⟩
        · have hnone : forall searched, attempt.run.stage ≠ .searching searched := by
            intro searched hstage
            exact hsearching ⟨searched, hstage⟩
          rw [Run.isHit_step hnone] at hhit
          rcases ih ⟨attempt, hattempt, horigin, rfl⟩ hhit with ⟨outcome, htells, hfound⟩
          exact ⟨outcome, Run.tells_step htells _ _, hfound.append [happening]⟩
      · rw [hmiss] at hhit
        cases hhit

/-!
# The passing of time
-/

/-- No happening sets the clock back. -/
def Forward (policy : Policy) (outside : Outside σ) : List (Happening σ) -> Activity σ -> Prop
  | [], _ => True
  | happening :: rest, activity =>
      outside.clock activity.world ≤
          outside.clock (apply policy outside activity happening).world ∧
        Forward policy outside rest (apply policy outside activity happening)

instance decidableForward : (happenings : List (Happening σ)) -> (activity : Activity σ) ->
    Decidable (Forward policy outside happenings activity)
  | [], _ => .isTrue trivial
  | happening :: rest, activity =>
      have : Decidable (Forward policy outside rest (apply policy outside activity happening)) :=
        decidableForward rest (apply policy outside activity happening)
      inferInstanceAs (Decidable (_ ∧ _))

theorem forward_append {happenings more : List (Happening σ)} :
    Forward policy outside (happenings ++ more) activity ↔
      Forward policy outside happenings activity ∧
        Forward policy outside more (play policy outside happenings activity) := by
  induction happenings generalizing activity with
  | nil => simp [Forward, play]
  | cons happening happenings ih =>
      rw [List.cons_append, Forward, Forward, ih, and_assoc]
      rfl

theorem Forward.clock_le {happenings : List (Happening σ)}
    (hforward : Forward policy outside happenings activity) :
    outside.clock activity.world ≤
      outside.clock (play policy outside happenings activity).world := by
  induction happenings generalizing activity with
  | nil => exact Nat.le_refl _
  | cons happening happenings ih => exact Nat.le_trans hforward.left (ih hforward.right)

/-- No execution was begun later than now. -/
theorem moment_le (hstart : start.IsInitial) {happenings : List (Happening σ)}
    (hforward : Forward policy outside happenings start) {place : Nat} {origin : Origin σ}
    {stage : Stage} (hstands : (play policy outside happenings start).StandsAt place origin stage) :
    outside.clock origin.moment ≤
      outside.clock (play policy outside happenings start).world := by
  induction happenings using List.reverseRecOn generalizing stage with
  | nil => exact absurd hstands hstart.not_standsAt
  | append_singleton happenings happening ih =>
      rcases forward_append.mp hforward with ⟨hearlier, hlast⟩
      rw [play_append] at hstands ⊢
      apply Nat.le_trans _ hlast.clock_le
      rcases standsAt_apply hstands with hbefore | ⟨-, attempt, hattempt, horigin, -⟩ | ⟨hnow, -⟩
      · exact ih hearlier hbefore
      · exact ih hearlier ⟨attempt, hattempt, horigin, rfl⟩
      · rw [hnow]

/--
A result that is told from the cache is the outcome that a step of an execution
for the same key kept, and that a later step found.  Between the two it is less
than the lifetime that the request of the former asked for.
-/
theorem told_within_lifetime {happenings : List (Happening σ)} (hstart : start.IsInitial)
    (hforward : Forward policy outside happenings start) {place : Nat} {origin : Origin σ}
    {result : Result}
    (hstands : (play policy outside happenings start).StandsAt place origin (.done result))
    (hhit : result.metadata.cacheHit = true) :
    exists outcome elapsedMs date earlier keeping between later keeper lifetime,
      let kept := play policy outside earlier start
      let found := play policy outside (earlier ++ .advance keeping :: between) start
      result = succeeded outcome elapsedMs true date ∧
        happenings = earlier ++ .advance keeping :: (between ++ .advance place :: later) ∧
        kept.StandsAt keeping keeper (.keeping outcome) ∧
        keeper.action.request? outside keeper.moment = some keeper.request ∧
        Run.key policy keeper.request = Run.key policy origin.request ∧
        Run.lifetime keeper.request = some lifetime ∧
        found.StandsAt place origin (.searching (Run.key policy origin.request)) ∧
        outside.clock kept.world ≤ outside.clock found.world ∧
        outside.clock origin.moment ≤ outside.clock found.world ∧
        outside.clock found.world < outside.clock kept.world + lifetime := by
  rcases found_play hstart hstands hhit with
    ⟨outcome, ⟨elapsedMs, date, hresult⟩, found, later, entry, hsplit, hsearching, hentry, hfresh,
      houtcome⟩
  rcases kept_play hstart hentry with
    ⟨earlier, keeping, between, keeper, hbefore, hkeeper, hkey, hlifetime, hstored⟩
  subst hbefore
  rcases forward_append.mp (hsplit ▸ hforward) with ⟨hfound, -⟩
  have hsound : (play policy outside earlier start).Sound policy outside :=
    sound_play earlier hstart.sound
  have hpassed := (forward_append.mp hfound).right.clock_le
  rw [← play_append] at hpassed
  refine ⟨outcome, elapsedMs, date, earlier, keeping, between, later, keeper, entry.lifetime,
    hresult, ?_, houtcome ▸ hkeeper, ?_, hkey, hlifetime, hsearching, hpassed,
    moment_le hstart hfound hsearching, ?_⟩
  · rw [hsplit, List.append_assoc, List.cons_append]
  · rcases hkeeper with ⟨attempt, hattempt, horigin, -⟩
    rw [← horigin]
    exact hsound.begun _ (List.mem_map_of_mem (List.mem_of_getElem? hattempt))
  · have hage : outside.clock (play policy outside (earlier ++ .advance keeping :: between)
        start).world - entry.storedAt < entry.lifetime := of_decide_eq_true hfresh
    rw [hstored] at hage
    omega

end Happening

/-!
# A result older than the one who is told it would keep it
-/

namespace Outlasting

open Happening Repeating

def echo : Outside Nat :=
  Action.echoing fun _ => .ok (some system)

/-- The question, from one who would keep its result for a second only. -/
def impatient : Request :=
  { question none with cacheTtlSecs := some 1 }

def askedTwice : List (Happening Nat) :=
  whole (.execute (question none) none) 0 7 ++
    [.act (.outside fun world => world + 10000), .act (.execute impatient none)]

def answeredTwice : List (Happening Nat) :=
  askedTwice ++ [.advance 1, .advance 1]

/-- The second execution is answered from the cache, with what was put there ten seconds ago. -/
theorem answered_impatient :
    exists (origin : Origin Nat) (result : Result) (entry : Cache.Entry),
      (play plainKeys echo answeredTwice (.initial 10 10 0)).StandsAt 1 origin (.done result) ∧
        (play plainKeys echo askedTwice (.initial 10 10 0)).state.cache.entries.get?
          (Run.key plainKeys impatient) = some entry ∧
        result.metadata.cacheHit = true ∧ Run.lifetime origin.request = some 1000 ∧
        origin.moment = 10000 ∧ entry.storedAt = 0 := by
  have hanswered : (play plainKeys echo answeredTwice (.initial 10 10 0)).attempts[1]?.any
      (fun attempt => attempt.run.stage.result?.any fun result =>
        ((play plainKeys echo askedTwice (.initial 10 10 0)).state.cache.entries.get?
          (Run.key plainKeys impatient)).any fun entry =>
            decide (result.metadata.cacheHit = true ∧
              Run.lifetime attempt.origin.request = some 1000 ∧ attempt.origin.moment = 10000 ∧
              entry.storedAt = 0)) = true := by
    decide +kernel
  simp only [Option.any_eq_true, decide_eq_true_eq] at hanswered
  rcases hanswered with ⟨attempt, hattempt, result, hresult, entry, hentry, htold⟩
  exact ⟨attempt.origin, result, entry, ⟨attempt, hattempt, rfl, Stage.eq_done_of_result? hresult⟩,
    hentry, htold⟩

/-- The second execution is told what the first has kept. -/
theorem told_within_lifetime_impatient :
    exists (origin : Origin Nat) (result : Result) (outcome : Outcome) (keeper : Origin Nat)
        (earlier between : List (Happening Nat)) (keeping lifetime : Nat),
      let kept := play plainKeys echo earlier (.initial 10 10 0)
      let found := play plainKeys echo (earlier ++ .advance keeping :: between) (.initial 10 10 0)
      (play plainKeys echo answeredTwice (.initial 10 10 0)).StandsAt 1 origin (.done result) ∧
        result.metadata.cacheHit = true ∧ result.data = some outcome.data ∧
        kept.StandsAt keeping keeper (.keeping outcome) ∧
        Run.key plainKeys keeper.request = Run.key plainKeys origin.request ∧
        Run.lifetime keeper.request = some lifetime ∧ found.world < kept.world + lifetime := by
  rcases answered_impatient with ⟨origin, result, _, hstands, -, hhit, -⟩
  have hforward : Forward plainKeys echo answeredTwice (.initial 10 10 0) := by
    decide +kernel
  rcases told_within_lifetime ⟨10, 10, 0, rfl⟩ hforward hstands hhit with
    ⟨outcome, _, _, earlier, keeping, between, _, keeper, lifetime, hresult, -, hkeeper, -, hkey,
      hlifetime, -, -, -, hfresh⟩
  refine ⟨origin, result, outcome, keeper, earlier, between, keeping, lifetime, hstands, hhit, ?_,
    hkeeper, hkey, hlifetime, hfresh⟩
  rw [hresult]
  rfl

/-- A result is told that was kept for longer than the one who is told it asked for. -/
theorem told_beyond_own_lifetime :
    exists (origin : Origin Nat) (result : Result) (entry : Cache.Entry) (lifetime : Nat),
      (play plainKeys echo answeredTwice (.initial 10 10 0)).StandsAt 1 origin (.done result) ∧
        (play plainKeys echo askedTwice (.initial 10 10 0)).state.cache.entries.get?
          (Run.key plainKeys impatient) = some entry ∧
        result.metadata.cacheHit = true ∧ Run.lifetime origin.request = some lifetime ∧
        entry.storedAt + lifetime ≤ echo.clock origin.moment := by
  rcases answered_impatient with
    ⟨origin, result, entry, hstands, hentry, hhit, hlifetime, hmoment, hstored⟩
  refine ⟨origin, result, entry, 1000, hstands, hentry, hhit, hlifetime, ?_⟩
  rw [hmoment, hstored]
  decide

end Outlasting
end Engine
end QueryGateway
