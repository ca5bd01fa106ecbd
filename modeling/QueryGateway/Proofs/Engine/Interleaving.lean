import QueryGateway.Proofs.Cache.Identity
import QueryGateway.Proofs.Engine.Execute
import QueryGateway.Proofs.Engine.Sources

/-!
# Interleaved executions

Any number of executions take their steps in any order, while records of
systems are edited and caches are cleared.  What an execution that started
before a clearing has not written back yet, it writes back afterwards, and
later executions find it.  Apart from that no execution that starts after the
clearing is told anything that comes from before the edit.
-/

namespace QueryGateway
namespace Engine

open Catalog Execution

/-- The engine, the world, and the executions so far in the order of their start. -/
structure Configuration (σ : Type) where
  state : State
  world : σ
  runs : List Run

inductive Move (σ : Type) where
  | start (request : Request) (userId : Option Uuid)
  | advance (index : Nat)
  | clearCache (systemId : Option Uuid)
  /-- Records are edited, or time passes. -/
  | outside (change : σ -> σ)

variable {σ : Type}

namespace Configuration

def initial (logCapacity feedCapacity : Nat) (world : σ) : Configuration σ :=
  ⟨.initial logCapacity feedCapacity, world, []⟩

def start (policy : Policy) (outside : Outside σ) (request : Request) (userId : Option Uuid)
    (c : Configuration σ) : Configuration σ :=
  { c with runs := c.runs ++ [Run.start policy request userId (outside.clock c.world)] }

def advance (policy : Policy) (outside : Outside σ) (index : Nat) (c : Configuration σ) :
    Configuration σ :=
  match c.runs[index]? with
  | none => c
  | some run =>
      let (run, state, world) := run.step policy outside c.state c.world
      ⟨state, world, c.runs.set index run⟩

theorem advance_of_getElem? (policy : Policy) (outside : Outside σ) {index : Nat}
    {c : Configuration σ} {run : Run} (hrun : c.runs[index]? = some run) :
    c.advance policy outside index =
      ⟨(run.step policy outside c.state c.world).2.1, (run.step policy outside c.state c.world).2.2,
        c.runs.set index (run.step policy outside c.state c.world).1⟩ := by
  unfold advance
  rw [hrun]

end Configuration

namespace Move

def apply (policy : Policy) (outside : Outside σ) (c : Configuration σ) :
    Move σ -> Configuration σ
  | .start request userId => c.start policy outside request userId
  | .advance index => c.advance policy outside index
  | .clearCache systemId => { c with state := c.state.clearCache systemId }
  | .outside change => { c with world := change c.world }

def play (policy : Policy) (outside : Outside σ) (moves : List (Move σ)) (c : Configuration σ) :
    Configuration σ :=
  moves.foldl (apply policy outside) c

def worlds (policy : Policy) (outside : Outside σ) : List (Move σ) -> Configuration σ -> List σ
  | [], c => [c.world]
  | move :: moves, c => c.world :: worlds policy outside moves (apply policy outside c move)

variable {policy : Policy} {outside : Outside σ}

theorem play_append (first second : List (Move σ)) (c : Configuration σ) :
    play policy outside (first ++ second) c =
      play policy outside second (play policy outside first c) :=
  List.foldl_append

theorem mem_worlds_append_left {first : List (Move σ)} (second : List (Move σ))
    {c : Configuration σ} {world : σ} (hmem : world ∈ worlds policy outside first c) :
    world ∈ worlds policy outside (first ++ second) c := by
  induction first generalizing c with
  | nil =>
      rw [List.mem_singleton.mp hmem]
      cases second with
      | nil => exact List.mem_singleton_self _
      | cons move second => exact List.mem_cons_self
  | cons move first ih =>
      rcases List.mem_cons.mp hmem with heq | hmem
      · rw [heq]
        exact List.mem_cons_self
      · exact List.mem_cons_of_mem _ (ih hmem)

theorem mem_worlds_append_right {first second : List (Move σ)} {c : Configuration σ} {world : σ}
    (hmem : world ∈ worlds policy outside second (play policy outside first c)) :
    world ∈ worlds policy outside (first ++ second) c := by
  induction first generalizing c with
  | nil => exact hmem
  | cons move first ih => exact List.mem_cons_of_mem _ (ih hmem)

end Move

/-!
# Conditions in interleavings

The executions may follow different courses, as long as what they share is the
same.
-/

structure Configuration.Sound (holdings : Holdings) (course : Nat -> Course) (policy : Policy)
    (c : Configuration σ) : Prop where
  state : holdings.Hold c.state
  runs : forall index run, c.runs[index]? = some run ->
    (course index).Follows holdings policy run

namespace Move

variable {policy : Policy} {outside : Outside σ} {holdings : Holdings} {course : Nat -> Course}

theorem sound_start (request : Request) (userId : Option Uuid) {c : Configuration σ}
    (hsound : c.Sound holdings course policy) :
    (c.start policy outside request userId).Sound holdings course policy := by
  refine ⟨hsound.state, ?_⟩
  intro index run hrun
  unfold Configuration.start at hrun
  rw [List.getElem?_append] at hrun
  split at hrun
  · exact hsound.runs index run hrun
  · rw [List.mem_singleton.mp (List.mem_of_getElem? hrun)]
    exact Course.follows_start request userId (outside.clock c.world)

theorem sound_advance (index : Nat) {c : Configuration σ}
    (hadmits : (course index).Admits holdings policy outside c.world)
    (hsound : c.Sound holdings course policy) :
    (c.advance policy outside index).Sound holdings course policy := by
  cases hrun : c.runs[index]? with
  | none =>
      unfold Configuration.advance
      rw [hrun]
      exact hsound
  | some run =>
      rcases Course.follows_step hadmits hsound.state (hsound.runs index run hrun) with
        ⟨hfollows, hstate⟩
      rw [Configuration.advance_of_getElem? policy outside hrun]
      refine ⟨hstate, ?_⟩
      intro other after hafter
      dsimp only at hafter
      rw [List.getElem?_set] at hafter
      split at hafter
      · rename_i hsame
        split at hafter
        · injection hafter with hafter
          rw [← hsame, ← hafter]
          exact hfollows
        · cases hafter
      · exact hsound.runs other after hafter

theorem sound_apply (move : Move σ) {c : Configuration σ}
    (hadmits : forall index, (course index).Admits holdings policy outside c.world)
    (hsound : c.Sound holdings course policy) :
    (apply policy outside c move).Sound holdings course policy := by
  cases move with
  | start request userId => exact sound_start request userId hsound
  | advance index => exact sound_advance index (hadmits index) hsound
  | clearCache systemId => exact ⟨hsound.state.clearCache systemId, hsound.runs⟩
  | outside change => exact ⟨hsound.state, hsound.runs⟩

theorem sound_play (moves : List (Move σ)) {c : Configuration σ}
    (hadmits : forall world, world ∈ worlds policy outside moves c ->
      forall index, (course index).Admits holdings policy outside world)
    (hsound : c.Sound holdings course policy) :
    (play policy outside moves c).Sound holdings course policy := by
  induction moves generalizing c with
  | nil => exact hsound
  | cons move moves ih =>
      apply ih
      · intro world hmem
        exact hadmits world (List.mem_cons_of_mem _ hmem)
      · exact sound_apply move (hadmits c.world List.mem_cons_self) hsound

end Move

/-!
# Owners

Whatever happens, an entry of the cache belongs to the system of a request
with its key.
-/

section Owners

variable {policy : Policy} {outside : Outside σ}

def owned (policy : Policy) : Holdings where
  remembered _ _ := True
  kept key entry := exists request, key = Run.key policy request ∧
    entry.systemId = request.systemId

theorem owned_admits (world : σ) : anyCourse.Admits (owned policy) policy outside world where
  loaded _ _ _ := trivial
  refused _ _ _ := trivial
  of_remembered _ _ _ := trivial
  answered _ _ _ := trivial
  performed _ _ _ _ _ _ := trivial
  inserted request _ _ _ _ := ⟨request, rfl, rfl⟩
  of_pending _ _ _ := trivial
  of_kept _ _ _ _ := trivial

theorem owned_play (moves : List (Move σ)) (logCapacity feedCapacity : Nat) (world : σ) :
    (Move.play policy outside moves (.initial logCapacity feedCapacity world)).Sound
      (owned policy) (fun _ => anyCourse) policy := by
  apply Move.sound_play
  · intro world _ _
    exact owned_admits world
  · constructor
    · exact Holdings.hold_initial _ logCapacity feedCapacity
    · intro index run hrun
      cases hrun

end Owners

/-!
# What comes from a stretch of time

The states of the world that are passed through stand for a stretch of time.
-/

section Since

variable {policy : Policy} {outside : Outside σ} {id : Uuid} {since later : List σ}

/-- A usable definition of a system that its store held at some time. -/
def Held (outside : Outside σ) (id : Uuid) (since : List σ) (resolved : Resolved) : Prop :=
  exists world, world ∈ since ∧ Registry.vet id (outside.loadSystem id world) = .ok resolved

/-- An outcome that was computed for the key of a request from a definition then held. -/
def Computed (policy : Policy) (outside : Outside σ) (id : Uuid) (since : List σ)
    (request : Request) (outcome : Outcome) : Prop :=
  exists other resolved world, Run.key policy request = Run.key policy other ∧
    Held outside id since resolved ∧ world ∈ since ∧
      (Run.perform policy outside other resolved world).1 = .ok outcome

/-- What a request comes to from definitions held at some time, or from there being none. -/
def Answered (policy : Policy) (outside : Outside σ) (id : Uuid) (since : List σ)
    (request : Request) : Except Failure Outcome -> Prop
  | .ok outcome => Computed policy outside id since request outcome
  | .error failure =>
      (exists world, world ∈ since ∧
        Registry.vet id (outside.loadSystem id world) = .error failure) ∨
      exists resolved world, Held outside id since resolved ∧ world ∈ since ∧
        (Run.perform policy outside request resolved world).1 = .error failure

/-- Nothing that an execution is about to write back comes from another time. -/
def Clean (policy : Policy) (outside : Outside σ) (id : Uuid) (since : List σ) (run : Run) :
    Prop :=
  match run.stage with
  | .remembering resolved => Held outside id since resolved
  | .calling resolved => Run.lifetime run.request = none ∨ Held outside id since resolved
  | .keeping outcome => Computed policy outside id since run.request outcome
  | _ => True

theorem held_mono {resolved : Resolved} (hsub : forall world, world ∈ since -> world ∈ later)
    (hheld : Held outside id since resolved) : Held outside id later resolved := by
  rcases hheld with ⟨world, hmem, hvet⟩
  exact ⟨world, hsub world hmem, hvet⟩

theorem computed_mono {request : Request} {outcome : Outcome}
    (hsub : forall world, world ∈ since -> world ∈ later)
    (hcomputed : Computed policy outside id since request outcome) :
    Computed policy outside id later request outcome := by
  rcases hcomputed with ⟨other, resolved, world, hkey, hheld, hmem, houtcome⟩
  exact ⟨other, resolved, world, hkey, held_mono hsub hheld, hsub world hmem, houtcome⟩

/-- For one system, what is remembered was held and what is kept was computed at that time. -/
def recent (policy : Policy) (outside : Outside σ) (id : Uuid) (since : List σ) : Holdings where
  remembered other resolved := other = id -> Held outside id since resolved
  kept key entry := exists request, key = Run.key policy request ∧
    entry.systemId = request.systemId ∧
      (request.systemId = id -> Computed policy outside id since request entry.result)

def recentCourse (policy : Policy) (outside : Outside σ) (id : Uuid) (since : List σ) :
    Course where
  used request resolved := request.systemId = id -> Held outside id since resolved
  pending request outcome :=
    request.systemId = id -> Computed policy outside id since request outcome
  told request outcome := request.systemId = id -> Answered policy outside id since request outcome

/-- The course of an execution that was under way before, and may tell anything. -/
def earlierCourse (policy : Policy) (outside : Outside σ) (id : Uuid) (since : List σ) :
    Course where
  used request resolved :=
    request.systemId = id -> Run.lifetime request = none ∨ Held outside id since resolved
  pending request outcome :=
    request.systemId = id -> Computed policy outside id since request outcome
  told _ _ := True

theorem recent_of_key (hinjective : Function.Injective policy.fingerprint) {request : Request}
    {entry : Cache.Entry}
    (hkept : (recent policy outside id since).kept (Run.key policy request) entry)
    (hid : request.systemId = id) : Computed policy outside id since request entry.result := by
  rcases hkept with ⟨owner, hkey, _, hcomputed⟩
  have hsystem : request.systemId = owner.systemId :=
    (Cache.Identity.agree_of_key_eq hinjective hkey).systemId
  rcases hcomputed (hsystem.symm.trans hid) with
    ⟨other, resolved, world, hother, hheld, hmem, houtcome⟩
  exact ⟨other, resolved, world, hkey.trans hother, hheld, hmem, houtcome⟩

theorem recent_admits (hinjective : Function.Injective policy.fingerprint) {world : σ}
    (hmem : world ∈ since) :
    (recentCourse policy outside id since).Admits (recent policy outside id since) policy outside
      world where
  loaded other resolved hvet := by
    intro hother
    rw [hother] at hvet
    exact ⟨world, hmem, hvet⟩
  refused request failure hvet := by
    intro hid
    rw [hid] at hvet
    exact Or.inl ⟨world, hmem, hvet⟩
  of_remembered request resolved hremembered := hremembered
  answered request resolved hused := by
    intro hid
    cases houtcome : (Run.perform policy outside request resolved world).1 with
    | error failure => exact Or.inr ⟨resolved, world, hused hid, hmem, houtcome⟩
    | ok outcome => exact ⟨request, resolved, world, rfl, hused hid, hmem, houtcome⟩
  performed request resolved outcome hused _ houtcome := by
    intro hid
    exact ⟨request, resolved, world, rfl, hused hid, hmem, houtcome⟩
  inserted request outcome lifetime hpending _ := ⟨request, rfl, rfl, hpending⟩
  of_pending request outcome hpending := hpending
  of_kept request entry hkept _ := recent_of_key hinjective hkept

theorem earlier_admits {world : σ} (hmem : world ∈ since) :
    (earlierCourse policy outside id since).Admits (recent policy outside id since) policy outside
      world where
  loaded other resolved hvet := by
    intro hother
    rw [hother] at hvet
    exact ⟨world, hmem, hvet⟩
  refused _ _ _ := trivial
  of_remembered request resolved hremembered := by
    intro hid
    exact Or.inr (hremembered hid)
  answered _ _ _ := trivial
  performed request resolved outcome hused hlifetime houtcome := by
    intro hid
    rcases hused hid with hnone | hheld
    · exact absurd hnone hlifetime
    · exact ⟨request, resolved, world, rfl, hheld, hmem, houtcome⟩
  inserted request outcome lifetime hpending _ := ⟨request, rfl, rfl, hpending⟩
  of_pending _ _ _ := trivial
  of_kept _ _ _ _ := trivial

theorem follows_of_clean (hsub : forall world, world ∈ since -> world ∈ later) {run : Run}
    (hfollows : anyCourse.Follows (owned policy) policy run)
    (hclean : run.request.systemId = id -> Clean policy outside id since run) :
    (earlierCourse policy outside id later).Follows (recent policy outside id later) policy
      run := by
  rcases run with ⟨request, userId, startedAt, stage⟩
  cases stage with
  | searching key => exact hfollows
  | discarding key => trivial
  | resolving => trivial
  | loading => trivial
  | remembering resolved =>
      intro hid
      exact held_mono hsub (hclean hid)
  | calling resolved =>
      intro hid
      rcases hclean hid with hnone | hheld
      · exact Or.inl hnone
      · exact Or.inr (held_mono hsub hheld)
  | keeping outcome =>
      intro hid
      exact computed_mono hsub (hclean hid)
  | reporting outcome cacheHit => trivial
  | done result => exact hfollows

theorem recent_clearCache {target : Option Uuid} (htarget : target = none ∨ target = some id)
    {state : State} (howned : (owned policy).Hold state) :
    (recent policy outside id since).Hold (state.clearCache target) := by
  rcases htarget with htarget | htarget
  · subst htarget
    exact ⟨Table.all_empty _, Table.all_empty _⟩
  · subst htarget
    constructor
    · intro other resolved hmem hother
      exact absurd hother (Table.all_erase howned.registry id other resolved hmem).right
    · intro key entry hmem
      rcases Cache.Store.all_dropWhere howned.cache _ key entry hmem with
        ⟨⟨request, hkey, howner⟩, hother⟩
      refine ⟨request, hkey, howner, ?_⟩
      intro hid
      rw [howner] at hother
      exact absurd hid (of_decide_eq_false hother)

/-- The first executions were under way before, and the others start at that time. -/
def courseFrom (policy : Policy) (outside : Outside σ) (id : Uuid) (since : List σ)
    (count index : Nat) : Course :=
  if index < count then earlierCourse policy outside id since
  else recentCourse policy outside id since

theorem courseFrom_admits (hinjective : Function.Injective policy.fingerprint) {world : σ}
    (hmem : world ∈ since) (count index : Nat) :
    (courseFrom policy outside id since count index).Admits (recent policy outside id since) policy
      outside world := by
  unfold courseFrom
  split
  · exact earlier_admits hmem
  · exact recent_admits hinjective hmem

/-- After the clearing the earlier executions and the later ones follow their own courses. -/
theorem sound_clearCache {target : Option Uuid} (htarget : target = none ∨ target = some id)
    (hsub : forall world, world ∈ since -> world ∈ later) {c : Configuration σ}
    (howned : c.Sound (owned policy) (fun _ => anyCourse) policy)
    (hclean : forall (index : Nat) (run : Run), c.runs[index]? = some run ->
      run.request.systemId = id -> Clean policy outside id since run) :
    ({ c with state := c.state.clearCache target } : Configuration σ).Sound
      (recent policy outside id later) (courseFrom policy outside id later c.runs.length)
      policy := by
  constructor
  · exact recent_clearCache htarget howned.state
  · intro index run hrun
    have hbound : index < c.runs.length := (List.getElem?_eq_some_iff.mp hrun).choose
    unfold courseFrom
    rw [if_pos hbound]
    exact follows_of_clean hsub (howned.runs index run hrun) (hclean index run hrun)

end Since

/-!
# Executions with nothing in between
-/

section Uninterrupted

variable {policy : Policy} {outside : Outside σ}

theorem advance_last (policy : Policy) (outside : Outside σ) (state : State) (world : σ)
    (earlier : List Run) (run : Run) :
    (Configuration.mk state world (earlier ++ [run])).advance policy outside earlier.length =
      ⟨(run.step policy outside state world).2.1, (run.step policy outside state world).2.2,
        earlier ++ [(run.step policy outside state world).1]⟩ := by
  have hrun : (earlier ++ [run])[earlier.length]? = some run := List.getElem?_concat_length
  rw [Configuration.advance_of_getElem? policy outside hrun]
  simp

theorem play_complete (earlier : List Run) (run : Run) (state : State) (world : σ) :
    exists count final,
      Move.play policy outside (List.replicate count (.advance earlier.length))
          ⟨state, world, earlier ++ [run]⟩ =
        ⟨(run.complete policy outside state world).2.1,
          (run.complete policy outside state world).2.2, earlier ++ [final]⟩ ∧
      final.request = run.request ∧
      final.stage = .done (run.complete policy outside state world).1 := by
  fun_induction Run.complete policy outside run state world with
  | case1 run state world result hdone =>
      exact ⟨0, run, rfl, rfl, Stage.eq_done_of_result? hdone⟩
  | case2 run state world hunfinished after ih =>
      rcases ih with ⟨count, final, hplay, hrequest, hstage⟩
      refine ⟨count + 1, final, ?_, hrequest, hstage⟩
      rw [List.replicate_succ]
      show Move.play policy outside _
        ((Configuration.mk state world (earlier ++ [run])).advance policy outside earlier.length) = _
      rw [advance_last]
      exact hplay

def ToldLater (policy : Policy) (outside : Outside σ) (c : Configuration σ) (request : Request)
    (outcome : Except Failure Outcome) : Prop :=
  exists moves run date elapsedMs cacheHit,
    (Move.play policy outside moves c).runs[c.runs.length]? = some run ∧
      run.request = request ∧ run.stage = .done (run.result date elapsedMs outcome cacheHit)

theorem toldLater_of_execute {c : Configuration σ} {request : Request}
    {outcome : Except Failure Outcome}
    (hexecute : exists date elapsedMs cacheHit,
      (execute policy outside request none c.state c.world).1 =
        (Run.start policy request none (outside.clock c.world)).result date elapsedMs outcome
          cacheHit) :
    ToldLater policy outside c request outcome := by
  rcases hexecute with ⟨date, elapsedMs, cacheHit, hresult⟩
  rcases play_complete c.runs (Run.start policy request none (outside.clock c.world)) c.state
    c.world with ⟨count, final, hplay, hfinal, hstage⟩
  refine ⟨.start request none :: List.replicate count (.advance c.runs.length), final, date,
    elapsedMs, cacheHit, ?_, hfinal, ?_⟩
  · show (Move.play policy outside _ (c.start policy outside request none)).runs[_]? = _
    unfold Configuration.start
    rw [hplay]
    exact List.getElem?_concat_length
  · have hsame : final.result date elapsedMs outcome cacheHit =
        (Run.start policy request none (outside.clock c.world)).result date elapsedMs outcome
          cacheHit := by
      unfold Run.result
      rw [hfinal]
    rw [hstage, hsame, ← hresult]
    rfl

theorem toldLater_of_advance {c : Configuration σ} (index : Nat) {request : Request}
    {outcome : Except Failure Outcome}
    (htold : ToldLater policy outside (c.advance policy outside index) request outcome) :
    ToldLater policy outside c request outcome := by
  have hlength : (c.advance policy outside index).runs.length = c.runs.length := by
    unfold Configuration.advance
    split
    · rfl
    · exact List.length_set
  rcases htold with ⟨moves, run, date, elapsedMs, cacheHit, hrun, hrequest, hstage⟩
  rw [hlength] at hrun
  exact ⟨.advance index :: moves, run, date, elapsedMs, cacheHit, hrun, hrequest, hstage⟩

/-!
# What is written back
-/

theorem toldLater_of_remembering {c : Configuration σ} {index : Nat} {run : Run}
    (hrun : c.runs[index]? = some run) {resolved : Resolved}
    (hstage : run.stage = .remembering resolved) {request : Request}
    (hsystem : request.systemId = run.request.systemId)
    (hlifetime : Run.lifetime request = none) :
    ToldLater policy outside c request
      (Run.perform policy outside request resolved c.world).1 := by
  apply toldLater_of_advance index
  rw [Configuration.advance_of_getElem? policy outside hrun]
  have hremembered : (c.state.registry.set run.request.systemId resolved).get?
      request.systemId = some resolved := by
    rw [hsystem, Table.get?_set, if_pos rfl]
  simp only [Run.step, Run.next, hstage]
  exact toldLater_of_execute (execute_of_remembered hlifetime hremembered none)

theorem toldLater_of_keeping {c : Configuration σ} {index : Nat} {run : Run}
    (hrun : c.runs[index]? = some run) {outcome : Outcome} (hstage : run.stage = .keeping outcome)
    {lifetime : Nat} (hlifetime : Run.lifetime run.request = some lifetime) :
    ToldLater policy outside c { run.request with forceRefresh := false } (.ok outcome) := by
  apply toldLater_of_advance index
  rw [Configuration.advance_of_getElem? policy outside hrun]
  have hnonzero := Run.lifetime_ne_zero hlifetime
  have hentry := Cache.Store.get?_insert (outside.clock c.world) (Run.key policy run.request)
    (Run.key policy run.request) outcome lifetime run.request.systemId run.request.queryId
    c.state.cache
  rw [if_pos ⟨rfl, hnonzero⟩] at hentry
  have hfresh : Cache.Entry.isFresh (outside.clock c.world)
      ⟨outcome, outside.clock c.world, lifetime, run.request.systemId, run.request.queryId⟩ =
        true := by
    apply decide_eq_true
    show outside.clock c.world - outside.clock c.world < lifetime
    omega
  simp only [Run.step, Run.next, hstage, hlifetime, Option.getD_some]
  apply toldLater_of_execute
  refine execute_of_kept ?_ rfl hentry hfresh none
  show (Run.lifetime run.request).isSome = true
  rw [hlifetime]
  rfl

theorem toldLater_of_calling {c : Configuration σ} {index : Nat} {run : Run}
    (hrun : c.runs[index]? = some run) {resolved : Resolved}
    (hstage : run.stage = .calling resolved) {outcome : Outcome}
    (houtcome : (Run.perform policy outside run.request resolved c.world).1 = .ok outcome)
    {lifetime : Nat} (hlifetime : Run.lifetime run.request = some lifetime) :
    ToldLater policy outside c { run.request with forceRefresh := false } (.ok outcome) := by
  apply toldLater_of_advance index
  have hnext : (run.step policy outside c.state c.world).1 =
      { run with stage := .keeping outcome } := by
    simp only [Run.step, Run.next, hstage, houtcome, hlifetime, Stage.ofOutcome]
  have hafter : (c.advance policy outside index).runs[index]? =
      some { run with stage := .keeping outcome } := by
    rcases List.getElem?_eq_some_iff.mp hrun with ⟨hbound, _⟩
    rw [Configuration.advance_of_getElem? policy outside hrun, hnext]
    exact List.getElem?_set_self hbound
  exact toldLater_of_keeping hafter rfl hlifetime

end Uninterrupted

/-!
# Clearing after an edit
-/

section Clearing

variable {policy : Policy} {outside : Outside σ}

/-- Executions that start after a clearing go by what was held since the edit before it. -/
theorem answered_of_clean (hinjective : Function.Injective policy.fingerprint) {id : Uuid}
    {target : Option Uuid} (htarget : target = none ∨ target = some id)
    {before between rest : List (Move σ)} {edited : Configuration σ}
    (hedited : exists logCapacity feedCapacity start,
      edited = Move.play policy outside before (.initial logCapacity feedCapacity start))
    {cleared : Configuration σ}
    (hcleared : cleared = Move.play policy outside (between ++ [.clearCache target]) edited)
    (hclean : forall (index : Nat) (run : Run), cleared.runs[index]? = some run ->
      run.request.systemId = id ->
        Clean policy outside id
          (Move.worlds policy outside (between ++ [.clearCache target]) edited) run)
    {index : Nat} {run : Run} {result : Result} (hlater : cleared.runs.length ≤ index)
    (hrun : (Move.play policy outside rest cleared).runs[index]? = some run)
    (hsystem : run.request.systemId = id) (hdone : run.stage = .done result) :
    exists outcome date elapsedMs cacheHit,
      Answered policy outside id
        (Move.worlds policy outside (between ++ [.clearCache target] ++ rest) edited)
        run.request outcome ∧ result = run.result date elapsedMs outcome cacheHit := by
  rcases hedited with ⟨logCapacity, feedCapacity, start, hedited⟩
  -- Up to the clearing it is only known whose the entries of the cache are.
  have howned : (Move.play policy outside between edited).Sound (owned policy)
      (fun _ => anyCourse) policy := by
    rw [hedited, ← Move.play_append]
    exact owned_play _ logCapacity feedCapacity start
  have hsame : cleared = { Move.play policy outside between edited with
      state := (Move.play policy outside between edited).state.clearCache target } := by
    rw [hcleared, Move.play_append]
    rfl
  let since := Move.worlds policy outside (between ++ [.clearCache target] ++ rest) edited
  have hsound : cleared.Sound (recent policy outside id since)
      (courseFrom policy outside id since cleared.runs.length) policy := by
    rw [hsame] at hclean ⊢
    exact sound_clearCache htarget (fun world => Move.mem_worlds_append_left rest) howned hclean
  have hfinal : (Move.play policy outside rest cleared).Sound (recent policy outside id since)
      (courseFrom policy outside id since cleared.runs.length) policy := by
    apply Move.sound_play rest _ hsound
    intro world hworld other
    apply courseFrom_admits hinjective
    apply Move.mem_worlds_append_right
    rw [← hcleared]
    exact hworld
  have hfollows := hfinal.runs index run hrun
  unfold courseFrom at hfollows
  rw [if_neg (Nat.not_lt.mpr hlater)] at hfollows
  unfold Course.Follows at hfollows
  rw [hdone] at hfollows
  rcases hfollows with ⟨outcome, date, elapsedMs, cacheHit, htold, hresult⟩
  exact ⟨outcome, date, elapsedMs, cacheHit, htold hsystem, hresult⟩

/--
After a clearing that follows an edit, an execution that starts is answered
from what was held since the edit, provided that no execution under way is
about to write back anything older.  The proviso is needed: what one of them is
about to remember or to keep, or will keep when its call succeeds, is what an
execution that starts afterwards can be told.
-/
theorem told_after_clearCache (hinjective : Function.Injective policy.fingerprint) (id : Uuid)
    {target : Option Uuid} (htarget : target = none ∨ target = some id)
    (logCapacity feedCapacity : Nat) (start : σ) (before between : List (Move σ))
    (edit : σ -> σ) :
    let edited := Move.play policy outside (before ++ [.outside edit])
      (.initial logCapacity feedCapacity start)
    let path := between ++ [.clearCache target]
    let cleared := Move.play policy outside path edited
    ((forall (index : Nat) (run : Run), cleared.runs[index]? = some run ->
        run.request.systemId = id ->
          Clean policy outside id (Move.worlds policy outside path edited) run) ->
      forall (rest : List (Move σ)) (index : Nat) (run : Run) (result : Result),
        cleared.runs.length ≤ index ->
          (Move.play policy outside rest cleared).runs[index]? = some run ->
            run.request.systemId = id -> run.stage = .done result ->
              exists outcome date elapsedMs cacheHit,
                Answered policy outside id (Move.worlds policy outside (path ++ rest) edited)
                  run.request outcome ∧ result = run.result date elapsedMs outcome cacheHit) ∧
      forall (index : Nat) (run : Run), cleared.runs[index]? = some run ->
        (forall resolved request, run.stage = .remembering resolved ->
          request.systemId = run.request.systemId -> Run.lifetime request = none ->
            ToldLater policy outside cleared request
              (Run.perform policy outside request resolved cleared.world).1) ∧
        (forall outcome lifetime, run.stage = .keeping outcome ->
          Run.lifetime run.request = some lifetime ->
            ToldLater policy outside cleared { run.request with forceRefresh := false }
              (.ok outcome)) ∧
        (forall resolved outcome lifetime, run.stage = .calling resolved ->
          (Run.perform policy outside run.request resolved cleared.world).1 = .ok outcome ->
            Run.lifetime run.request = some lifetime ->
              ToldLater policy outside cleared { run.request with forceRefresh := false }
                (.ok outcome)) := by
  intro edited path cleared
  constructor
  · intro hclean rest index run result hlater hrun hsystem hdone
    exact answered_of_clean hinjective htarget ⟨logCapacity, feedCapacity, start, rfl⟩ rfl hclean
      hlater hrun hsystem hdone
  · intro index run hrun
    refine ⟨?_, ?_, ?_⟩
    · intro resolved request hstage hsystem hlifetime
      exact toldLater_of_remembering hrun hstage hsystem hlifetime
    · intro outcome lifetime hstage hlifetime
      exact toldLater_of_keeping hrun hstage hlifetime
    · intro resolved outcome lifetime hstage houtcome hlifetime
      exact toldLater_of_calling hrun hstage houtcome hlifetime

end Clearing

/-!
# One system
-/

namespace Overtaking

/-- A world that is the definition of one system, whose database repeats statements. -/
def single : Outside Backend where
  clock _ := 0
  date _ := default
  newId world := (default, world)
  loadSystem _ world := .ok (some world)
  loadQuery _ _ := .ok none
  writeLogs entries world := (.ok entries.length, world)
  send _ _ world := (.lost, world)
  runStatement := some fun job _ world => (some (.ok (.text job.query)), world)

def named (name : String) : Backend :=
  { Backend.plain (Uuid.ofNat 7) name "http://db" with methods := [Method.plain "ask" .sql ""] }

def question : Request :=
  Request.plain (Uuid.ofNat 7) "question"

/-- An execution has loaded the definition when it is edited. -/
def overtaken : List (Move Backend) :=
  [.start question none, .advance 0, .advance 0]

/-- It is remembered after the system is cleared, and the next execution goes by it. -/
def belated : List (Move Backend) :=
  [.advance 0, .start question none, .advance 1, .advance 1, .advance 1]

def clearingSystem : Move Backend :=
  .clearCache (some (Uuid.ofNat 7))

def atClearing : Configuration Backend :=
  ⟨.initial 10 10, named "new", [⟨question, none, 0, .remembering ⟨named "old", []⟩⟩]⟩

def outdated : Result :=
  succeeded ⟨.text "question", 1, "old", "ask", []⟩ 0 false default

/-- The answer to the next execution comes from nothing that was held since the edit. -/
theorem belated_told_outdated :
    let policy : Policy := ⟨30000, id⟩
    let edited := Move.play policy single (overtaken ++ [.outside fun _ => named "new"])
      (.initial 10 10 (named "old"))
    let path := [clearingSystem]
    let cleared := Move.play policy single path edited
    exists run result, cleared.runs.length ≤ 1 ∧
      (Move.play policy single belated cleared).runs[1]? = some run ∧
      run.request.systemId = Uuid.ofNat 7 ∧ run.stage = .done result ∧
      ¬ exists outcome date elapsedMs cacheHit,
        Answered policy single (Uuid.ofNat 7) (Move.worlds policy single (path ++ belated) edited)
          run.request outcome ∧ result = run.result date elapsedMs outcome cacheHit := by
  intro policy edited path cleared
  have hedited : edited = atClearing := by
    rfl
  have hcleared : cleared = atClearing := by
    rfl
  have hworlds : Move.worlds policy single (path ++ belated) atClearing =
      List.replicate 7 (named "new") := by
    rfl
  have hrun : (Move.play policy single belated atClearing).runs[1]? =
      some ⟨question, none, 0, .done outdated⟩ := by
    rfl
  rw [hcleared, hedited, hworlds]
  refine ⟨⟨question, none, 0, .done outdated⟩, outdated, Nat.le_refl 1, hrun, rfl, rfl, ?_⟩
  rintro ⟨outcome, date, elapsedMs, cacheHit, hanswered, hresult⟩
  have hname := congrArg (fun result => result.metadata.systemName) hresult
  cases outcome with
  | error failure => cases hname
  | ok outcome =>
      rcases hanswered with ⟨other, resolved, world, _, ⟨held, hheld, hvet⟩, _, houtcome⟩
      have hloaded := (loaded_of_vet hvet).left
      rw [List.eq_of_mem_replicate hheld] at hloaded
      injection hloaded with hsome
      injection hsome with hsystem
      have hnew := Run.systemName_of_perform houtcome
      rw [← hsystem] at hnew
      have hold : some "old" = some outcome.systemName := hname
      rw [hnew] at hold
      revert hold
      decide

/--
The execution that was overtaken hands its definition on; one that had loaded
nothing yet does not stand in the way.
-/
theorem told_after_clearCache_overtaken :
    let policy : Policy := ⟨30000, id⟩
    let cleared := Move.play policy single [clearingSystem]
      (Move.play policy single (overtaken ++ [.outside fun _ => named "new"])
        (.initial 10 10 (named "old")))
    let edited := Move.play policy single [.start question none, .outside fun _ => named "new"]
      (.initial 10 10 (named "old"))
    let rest : List (Move Backend) :=
      .start question none :: List.replicate 5 (.advance 1)
    ToldLater policy single cleared question
        (Run.perform policy single question ⟨named "old", []⟩ cleared.world).1 ∧
      exists run result,
        (Move.play policy single rest (Move.play policy single [clearingSystem] edited)).runs[1]? =
          some run ∧ run.stage = .done result ∧
        exists outcome date elapsedMs cacheHit,
          Answered policy single (Uuid.ofNat 7)
            (Move.worlds policy single (clearingSystem :: rest) edited) run.request outcome ∧
            result = run.result date elapsedMs outcome cacheHit := by
  intro policy cleared edited rest
  constructor
  · have hrun : cleared.runs[0]? = some ⟨question, none, 0, .remembering ⟨named "old", []⟩⟩ := by
      rfl
    exact ((told_after_clearCache Function.injective_id (Uuid.ofNat 7) (Or.inr rfl) 10 10
      (named "old") overtaken [] fun _ => named "new").right 0 _ hrun).left _ question rfl rfl rfl
  · have hcleared : Move.play policy single [clearingSystem] edited =
        ⟨.initial 10 10, named "new", [⟨question, none, 0, .resolving⟩]⟩ := by
      rfl
    have hrun : (Move.play policy single rest
        ⟨.initial 10 10, named "new", [⟨question, none, 0, .resolving⟩]⟩).runs[1]? =
          some ⟨question, none, 0,
            .done (succeeded ⟨.text "question", 1, "new", "ask", []⟩ 0 false default)⟩ := by
      rfl
    have hclean : forall (index : Nat) (run : Run),
        (Move.play policy single [clearingSystem] edited).runs[index]? = some run ->
          run.request.systemId = Uuid.ofNat 7 ->
            Clean policy single (Uuid.ofNat 7)
              (Move.worlds policy single [clearingSystem] edited) run := by
      intro index run hrun _
      rw [hcleared] at hrun
      rw [List.mem_singleton.mp (List.mem_of_getElem? hrun)]
      trivial
    rw [← hcleared] at hrun
    exact ⟨_, _, hrun, rfl,
      (told_after_clearCache Function.injective_id (Uuid.ofNat 7) (Or.inr rfl) 10 10
        (named "old") [.start question none] [] fun _ => named "new").left hclean rest 1 _ _
        (Nat.le_refl 1) hrun rfl rfl⟩

end Overtaking
end Engine
end QueryGateway
