import Ois.Kernel.DependencySafety

/-!
# What a worker has saved when it crashes

As long as every invocation of a run has succeeded, each checkpoint it saves has a context without
a failure that can still move, or is completed, and each result it stores has SUCCEEDED.
-/

namespace Ois.Kernel

open Ois.Library Ois.Infrastructure Command ExecutionRuntime ExecutionPlan

def Reply.succeeded (reply : Reply) : Bool :=
  match reply.outcome with
  | .returned res => res.status == .succeeded && !reply.token.cancelled
  | _ => false

/-- The step is no invocation that ended otherwise than SUCCEEDED. -/
def Step.succeeds : Step → Bool
  | .invoke _ _ reply => reply.succeeded
  | .record event => event.eventType != .cancelled
  | _ => true

def Mark.succeeds : Mark → Bool
  | .invoked _ _ reply => reply.succeeded
  | .event kind _ => kind != .cancelled
  | _ => true

theorem succeeds_of_mark {step : Step} {mark : Mark} (marked : step.mark? = some mark)
    (succeeds : step.succeeds = true) : mark.succeeds = true := by
  cases step with
  | record event =>
    simp only [Step.mark?] at marked
    split_ifs at marked
    obtain ⟨named, _, rfl⟩ := Option.map_eq_some_iff.mp marked
    exact succeeds
  | fence lease cur => simp [Step.mark?] at marked
  | _ =>
    rw [← Option.some.inj marked]
    exact succeeds

theorem trail_succeeds {steps : List Step} (succeed : ∀ step ∈ steps, step.succeeds = true) :
    (trail steps).all Mark.succeeds = true := by
  rw [List.all_eq_true]
  intro mark mem
  obtain ⟨step, inside, marked⟩ := mark_mem_trail.mp mem
  exact succeeds_of_mark marked (succeed step inside)

/-- The context has no failure, and it can move or is completed. -/
structure Standing.Sound (standing : Standing) : Prop where
  unfailed : standing.lastFailure = .none
  movable : standing.status.isTerminal = false ∨ standing.status = .completed

def Mark.Sound : Mark → Prop
  | .saved standing => standing.Sound
  | .stored _ res => res.status = .succeeded
  | _ => True

def Mark.SoundAfter (taken : List Mark) (mark : Mark) : Prop :=
  taken.all Mark.succeeds = true → mark.Sound

structure SoundSoFar (view : View) : Prop where
  now : view.trail.all Mark.succeeds = true → view.standing.Sound
  marks : ∀ taken mark rest, view.trail = taken ++ mark :: rest → mark.SoundAfter taken

theorem sound_marks_append {trail : List Mark} {last : Mark}
    (marks : ∀ taken mark rest, trail = taken ++ mark :: rest → mark.SoundAfter taken)
    (sound : last.SoundAfter trail) :
    ∀ taken mark rest, trail ++ [last] = taken ++ mark :: rest → mark.SoundAfter taken := by
  intro taken mark rest split
  rcases List.append_eq_append_iff.mp split with ⟨more, rfl, tail⟩ | ⟨more, rfl, tail⟩
  · cases more with
    | nil =>
      simp only [List.nil_append, List.cons.injEq] at tail
      obtain ⟨rfl, _⟩ := tail
      rw [List.append_nil]
      exact sound
    | cons first others => simp at tail
  · cases more with
    | nil =>
      simp only [List.nil_append, List.cons.injEq] at tail
      obtain ⟨rfl, _⟩ := tail
      rw [List.append_nil] at sound
      exact sound
    | cons first others =>
      simp only [List.cons_append, List.cons.injEq] at tail
      obtain ⟨rfl, _⟩ := tail
      exact marks taken mark others rfl

namespace SoundSoFar

variable {view : View}

section

variable (sound : SoundSoFar view)

include sound

theorem moved {status : ExecutionStatus}
    (movable : status.isTerminal = false ∨ status = .completed) :
    SoundSoFar (view.movedTo status) :=
  ⟨fun succeeded => ⟨(sound.now succeeded).unfailed, movable⟩, sound.marks⟩

theorem marked {mark : Mark}
    (markSound : mark.SoundAfter view.trail) : SoundSoFar (view.marked mark) := by
  refine ⟨fun succeeded => sound.now ?_, sound_marks_append sound.marks markSound⟩
  simp only [View.marked, List.all_append, Bool.and_eq_true] at succeeded
  exact succeeded.1

theorem event (kind : EventType) (invocationId : String) :
    SoundSoFar (view.marked (.event kind invocationId)) := sound.marked fun _ => trivial

theorem saved : SoundSoFar view.saved := sound.marked sound.now

theorem invoked (version : String) (req : InvocationRequest)
    (reply : Reply) : SoundSoFar (view.marked (.invoked version req reply)) :=
  sound.marked fun _ => trivial

theorem dispatched (plan : ExecutionPlan) (taskId : String) :
    SoundSoFar (view.marked (.dispatched plan taskId)) := sound.marked fun _ => trivial

theorem stopped (invocationId : String) :
    SoundSoFar ((view.movedTo .stopped).marked (.event .cancelled invocationId)) := by
  refine ⟨fun succeeded => ?_, (sound.event .cancelled invocationId).marks⟩
  simp [View.marked, View.movedTo, Mark.succeeds] at succeeded

theorem recovered (policy : RecoveryPolicy) (fail : FailureClass)
    (failed : view.trail.all Mark.succeeds = false) :
    SoundSoFar (view.recovered policy fail) := by
  refine ⟨fun succeeded => ?_, sound.marks⟩
  have spoiled : view.trail.all Mark.succeeds = true := succeeded
  simp [failed] at spoiled

theorem planned (plan : ExecutionPlan) :
    SoundSoFar (view.planned plan) :=
  ⟨fun succeeded => ⟨(sound.now succeeded).unfailed, (sound.now succeeded).movable⟩, sound.marks⟩

theorem completed (invocationId : String)
    {status : ExecutionStatus} (movable : status.isTerminal = false) :
    SoundSoFar (view.completed invocationId status) :=
  (sound.moved (Or.inl movable)).event _ _

theorem keeping {key : String} {res : InvocationResult}
    (succeeded : view.trail.all Mark.succeeds = true → res.status = .succeeded) :
    SoundSoFar (ExecutionRuntime.keeping key res view) := by
  unfold ExecutionRuntime.keeping
  split_ifs
  · have marked : SoundSoFar (view.marked (.stored key res)) := sound.marked succeeded
    exact ⟨marked.now, marked.marks⟩
  · exact sound

end

theorem concludes {res : InvocationResult} {inTheWay : Prop} {last : View}
    {out : Except PyError InvocationResult} (sound : SoundSoFar view)
    (ends : Concludes res inTheWay view out last) : SoundSoFar last := by
  rcases ends with ⟨_, rfl⟩ | ⟨_, _, rfl⟩
  · exact sound.saved
  · exact sound

end SoundSoFar

namespace ExecutionRuntime

variable {rt : ExecutionRuntime} {world : World} {call : Call}

theorem after_recovery_sound {seen : View} {res : InvocationResult} (sound : SoundSoFar seen)
    (succeeded : seen.trail.all Mark.succeeds = true → res.status = .succeeded) :
    SoundSoFar (afterRecovery rt.recovery seen res) ∧
      ((afterRecovery rt.recovery seen res).trail.all Mark.succeeds = true →
      res.status = .succeeded) := by
  cases structured : structuredFailure? res with
  | none =>
    simp only [afterRecovery, structured]
    exact ⟨sound, succeeded⟩
  | some failed =>
    have spoiled : seen.trail.all Mark.succeeds = false := by
      by_contra intact
      rw [Bool.not_eq_false] at intact
      have status := structured_failure_failed structured
      simp [succeeded intact] at status
    simp only [afterRecovery, structured]
    refine ⟨(sound.recovered _ _ spoiled).saved, fun intact => ?_⟩
    simp [View.saved, View.marked, View.recovered, spoiled] at intact

variable {out : Except PyError InvocationResult}

theorem settles_sound {entry : Entry} {seen after : View} {res : InvocationResult}
    (sound : SoundSoFar seen)
    (succeeded : seen.trail.all Mark.succeeds = true → res.status = .succeeded)
    (settles : Settles rt world call entry seen res out after) : SoundSoFar after := by
  obtain ⟨decided, stillSucceeded⟩ := @after_recovery_sound rt _ _ sound succeeded
  have intact : ∀ {view : View}, view.trail.all Mark.succeeds =
      (afterRecovery rt.recovery seen res).trail.all Mark.succeeds →
      view.trail.all Mark.succeeds = true → res.status = .succeeded := by
    intro view same whole
    exact stillSucceeded (same ▸ whole)
  have observed : ∀ status : ExecutionStatus, status.isTerminal = false →
      SoundSoFar (ExecutionRuntime.keeping entry.key res
        ((afterRecovery rt.recovery seen res).completed entry.invocationId status)) := by
    intro status movable
    refine (decided.completed entry.invocationId movable).keeping (intact ?_)
    simp [View.completed, View.marked, View.movedTo, Mark.succeeds]
  cases settles with
  | undecided err names fail structured lost =>
    apply sound.recovered _ _
    by_contra whole
    rw [Bool.not_eq_false] at whole
    have status := structured_failure_failed structured
    simp [succeeded whole] at status
  | mismatched | stuck => exact decided
  | invalid | unstored => exact sound.completed _ rfl
  | unrouted err same movable obstructed => exact observed _ rfl
  | routed same movable => exact (observed _ rfl).saved.moved (Or.inl rfl)

theorem runs_sound {entry : Entry} {seen after : View} (sound : SoundSoFar seen)
    (runs : Runs rt world call entry seen out after) : SoundSoFar after := by
  cases runs with
  | cancelled msg cancels concludes =>
    exact (sound.stopped _).concludes concludes
  | interrupted msg req reply answers interrupts concludes =>
    exact ((sound.invoked _ _ _).stopped _).concludes concludes
  | failed err req reply answers raises concludes =>
    have failed : (seen.marked (.invoked call.version req reply)).trail.all
        Mark.succeeds = false := by
      simp [View.marked, Mark.succeeds, Reply.succeeded, raises]
    exact (((sound.invoked _ _ _).recovered _ _ failed).event _ _).concludes concludes
  | returned res req reply answers ret notOvertaken settles =>
    refine settles_sound (sound.invoked _ _ _) (fun whole => ?_) settles
    simp only [View.marked, List.all_append, List.all_cons, List.all_nil, Mark.succeeds,
      Reply.succeeded, ret, Bool.and_eq_true, beq_iff_eq] at whole
    exact whole.2.1.1

theorem conduct_sound {fresh : Uuid} {seen after : View} (sound : SoundSoFar seen)
    (conduct : Conduct rt world call fresh seen out after) : SoundSoFar after := by
  cases conduct with
  | terminal | unfenced => exact sound
  | unregistered err movable missing => exact sound.moved (Or.inl rfl)
  | cancelled _ _ entry msg entered movable cancels concludes =>
    exact (sound.stopped _).concludes concludes
  | invalid err entry req entered movable made rejected => exact sound.moved (Or.inl rfl)
  | unauthorized err entry req moment _ entered movable made rejected leaves =>
    rcases leaves with rfl | rfl
    · exact sound.moved (Or.inl rfl)
    · exact (sound.moved (Or.inl rfl)).event _ _
  | replayed cached entry entered movable hit => exact (sound.moved (Or.inl rfl)).event _ _
  | unstarted err entry entered movable miss obstructed => exact sound.moved (Or.inl rfl)
  | ran _ _ entry entered movable miss runs =>
    exact runs_sound ((sound.moved (Or.inl rfl)).saved.event _ _) runs

end ExecutionRuntime

namespace PlanOrchestrator

theorem sound_invariant (rt : ExecutionRuntime) (world : World) (fuel : Nat)
    (origin : ExecutionPlan) :
    RunInvariant rt world fuel origin (fun _ => SoundSoFar) (fun _ _ _ => SoundSoFar)
      True where
  marks _ _ _ sound := sound
  starts _ _ _ _ sound := (sound.planned _).saved
  dispatches _ plan view task _ _ after _ _ sound conduct := by
    have called := conduct_sound (sound.dispatched _ _) conduct
    exact ⟨called, fun _ _ _ => ⟨fun _ => trivial, fun _ _ => called⟩⟩
  finishes _ _ _ _ _ _ _ _ sound := (sound.planned _).saved
  completes _ _ _ sound _ := by
    have moved := sound.moved (Or.inr rfl)
    exact ⟨moved, moved.saved⟩

theorem execute_sound (rt : ExecutionRuntime) (world : World) (fuel : Nat)
    (start : Orchestration) (fresh : start.session.trace = [])
    (validated : start.plan.validate = .ok ()) (sound : start.session.context.standing.Sound) :
    ∀ taken mark rest, trail ((execute rt world fuel).stateAfter start).session.trace =
      taken ++ mark :: rest → mark.SoundAfter taken := by
  have silent : start.session.view.trail = [] := by
    simp [Session.view, fresh, trail]
  have base : SoundSoFar start.session.view := by
    refine ⟨fun _ => sound, ?_⟩
    intro taken mark rest split
    rw [silent] at split
    simp at split
  have ends := (sound_invariant rt world fuel start.plan).execute validated
    (base.planned _) (base.planned _).saved start rfl
  exact (Ends.outcome (fun _ (after : Orchestration) => SoundSoFar after.session.view)
    (ends.mono (fun _ _ sound => sound) fun _ _ sound => sound.1)).marks

/-- The results stored for the tasks of an execution have SUCCEEDED. -/
def SucceededStored (execId : Uuid) (store : IdempotencyStore) : Prop :=
  ∀ taskId res, store.get (invocationId execId taskId) = some res →
    res.status = .succeeded

theorem SucceededStored.put {execId : Uuid} {store : IdempotencyStore} {key : String}
    {res : InvocationResult} (stored : SucceededStored execId store)
    (succeeded : res.status = .succeeded) :
    SucceededStored execId (store.put key res) := by
  intro taskId found get
  rw [store.get_put key _ res (by simp [InvocationResult.isTerminal, succeeded]),
    Option.or_eq_some_iff] at get
  rcases get with old | ⟨_, new⟩
  · exact stored taskId found old
  · split_ifs at new
    rw [← Option.some.inj new, IdempotencyStore.kept_status, succeeded]

theorem SucceededStored.after_all {execId : Uuid} {sha256 : Json.Text → String}
    {durable : Durable} (steps : List Step)
    (stored : SucceededStored execId durable.idempotency)
    (succeeded : ∀ key res, Step.put key res ∈ steps → res.status = .succeeded) :
    SucceededStored execId (durable.afterAll sha256 steps).idempotency := by
  induction steps generalizing durable with
  | nil => exact stored
  | cons step rest ih =>
    refine ih ?_ fun key res mem => succeeded key res (by simp [mem])
    cases step with
    | put key res => exact stored.put (succeeded key res (by simp))
    | save ctx =>
      simp only [Durable.after]
      cases durable.checkpoints.write sha256 ctx <;> exact stored
    | _ => exact stored

end PlanOrchestrator

namespace Launch

variable {rt : ExecutionRuntime} {launch : Launch} {start : Orchestration}

theorem executed_append (rt : ExecutionRuntime) (launch : Launch) (start : Orchestration) :
    ∃ rest, launch.runSteps rt start = launch.executed rt start ++ rest := by
  unfold executed
  split
  · exact ⟨[], by simp⟩
  · exact ⟨_, (List.take_append_drop _ _).symm⟩

structure LeftSound (taken : List Step) (checkpoint : ExecutionContext) : Prop where
  standing : checkpoint.standing.Sound
  stored : ∀ key res, Step.put key res ∈ taken → res.status = .succeeded

theorem crash_leaves_sound {taken : List Step} {checkpoint : ExecutionContext}
    (fresh : start.session.trace = []) (validated : start.plan.validate = .ok ())
    (sound : start.session.context.standing.Sound)
    (crashed : launch.executed rt start = taken ++ [.save checkpoint])
    (succeeded : ∀ step ∈ taken, step.succeeds = true) : LeftSound taken checkpoint := by
  have points := PlanOrchestrator.execute_sound rt launch.world launch.fuel start fresh
    validated sound
  obtain ⟨rest, whole⟩ := executed_append rt launch start
  have steps : ((PlanOrchestrator.execute rt launch.world launch.fuel).stateAfter
      start).session.trace = taken ++ .save checkpoint :: rest := by
    rw [crashed, List.append_assoc] at whole
    exact whole
  rw [steps] at points
  constructor
  · refine points (trail taken) (.saved checkpoint.standing) (trail rest) ?_
      (trail_succeeds succeeded)
    simp [trail, Step.mark?]
  · intro key res mem
    obtain ⟨before, between, rfl⟩ := List.append_of_mem mem
    refine points (trail before) (.stored key res)
      (trail (between ++ .save checkpoint :: rest)) ?_ (trail_succeeds fun step inside =>
        succeeded step (by simp [inside]))
    simp [trail, Step.mark?]

end Launch

end Ois.Kernel
