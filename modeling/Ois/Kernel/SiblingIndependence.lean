import Ois.Kernel.ExecutionEnds
import Ois.Kernel.InvocationOutcomes
import Ois.Kernel.Launches

/-!
# The tasks of a batch and the context they share

All tasks of a batch run on one execution context. When the recovery policy ends the execution on
the failure of one of them, the context can no longer move, and every task after it fails without
its capability being invoked.
-/

namespace Ois.Kernel

open Ois.Library Ois.Infrastructure Command ExecutionRuntime ExecutionPlan View

/-- The invocation is made, or a stored result is replayed for it. -/
def Step.serves (invocationId : String) : Step → Bool
  | .invoke _ req _ => req.invocationId == invocationId
  | .record event => event.eventType == .idempotencyHit && event.invocationId? == some invocationId
  | _ => false

def Mark.serves (invocationId : String) : Mark → Bool
  | .invoked _ req _ => req.invocationId == invocationId
  | .event kind named => kind == .idempotencyHit && named == invocationId
  | _ => false

def Tells (policy : RecoveryPolicy) (seen after : View) : Prop :=
  ∃ marks, after.story = seen.story ++ marks ∧ after.standing.status.isTerminal =
    (seen.standing.status.isTerminal || marks.any (Mark.endsExecution policy))

namespace Tells

variable {policy : RecoveryPolicy} {seen after : View}

theorem trans {later : View} (first : Tells policy seen after)
    (second : Tells policy after later) : Tells policy seen later := by
  obtain ⟨marks, told, ends⟩ := first
  obtain ⟨more, toldMore, endsMore⟩ := second
  refine ⟨marks ++ more, by rw [toldMore, told, List.append_assoc], ?_⟩
  rw [endsMore, ends, List.any_append, Bool.or_assoc]

theorem persisted (view : View) (plan : ExecutionPlan) :
    Tells policy view (view.planned plan).saved :=
  ⟨[], by simp [planned, story, saved, marked, Mark.isSaved],
    by simp [planned, saved, marked]⟩

theorem dispatched (view : View) (plan : ExecutionPlan) (taskId : String) :
    Tells policy view (view.marked (.dispatched plan taskId)) :=
  ⟨[.dispatched plan taskId], by simp [story, marked, Mark.isSaved],
    by simp [marked, Mark.endsExecution]⟩

end Tells

theorem ExecutionRuntime.conduct_tells {rt : ExecutionRuntime} {world : World}
    {call : Call} {fresh : Uuid} {seen after : View}
    {outcome : Except PyError InvocationResult}
    (fence : FenceHolds rt world call.workerLease)
    (live : ∀ msg, ¬Cancels world msg) (storable : seen.Storable)
    (conduct : Conduct rt world call fresh seen outcome after) :
    Tells rt.recovery seen after := by
  obtain ⟨marks, halting⟩ := conduct_halting fence storable conduct
  refine ⟨marks, halting.told, ?_⟩
  rw [halting.ended, halting.uncancelled live]

/-- The capability of the task is registered, its input is valid and it is authorised. -/
structure TaskNode.Admitted (rt : ExecutionRuntime) (world : World) (task : TaskNode)
    (contract : CapabilityContract) : Prop where
  registered : rt.registry.get task.capabilityId task.capabilityVersion = .ok contract
  valid : ∀ req : InvocationRequest, req.capabilityId = task.capabilityId →
    req.input = task.inputData → rt.validateInput req contract = .ok ()
  authorised : ∀ (moment : Nat) (req : InvocationRequest),
    req.capabilityId = task.capabilityId → req.input = task.inputData →
      ∃ allowed, world.authorize moment req contract = .ok allowed

namespace PlanOrchestrator

section calls

variable {rt : ExecutionRuntime} {world : World} {execId fresh : Uuid}
  {task : TaskNode} {seen after : View} {outcome : Except PyError InvocationResult}

theorem conduct_admitted {contract : CapabilityContract} (unfenced : rt.fencing = false)
    (live : ∀ msg, ¬Cancels world msg) (storable : seen.Storable)
    (movable : seen.standing.status.isTerminal = false)
    (admitted : task.Admitted rt world contract)
    (conduct : Conduct rt world (callFor execId task) fresh seen outcome after) :
    ∃ entry, Entered rt fresh (callFor execId task) entry ∧ entry.contract = contract ∧
      ((∃ cached, seen.idempotency.get entry.key = some cached ∧ outcome = .ok cached ∧
      after = (seen.movedTo .planValidated).marked
      (.event .idempotencyHit entry.invocationId)) ∨
      Runs rt world (callFor execId task) entry (startedView entry seen) outcome
      after) := by
  have fence : FenceHolds rt world (callFor execId task).workerLease := by
    simp [FenceHolds, unfenced]
  have sameContract : ∀ entry, Entered rt fresh (callFor execId task) entry →
      entry.contract = contract := by
    intro entry entered
    exact Except.ok.inj (entered.registered.symm.trans admitted.registered)
  cases conduct with
  | terminal err ended => simp [movable] at ended
  | unfenced err lost => exact absurd fence lost
  | unregistered err _ missing =>
    have registered := admitted.registered.symm.trans missing
    simp at registered
  | cancelled _ _ entry msg entered _ cancels concludes =>
    exact absurd cancels (live msg)
  | invalid err entry req entered _ made rejected =>
    obtain ⟨ctx, _, rfl⟩ := made
    rw [sameContract entry entered, admitted.valid _ rfl rfl] at rejected
    simp at rejected
  | unauthorized err entry req moment _ entered _ made rejected leaves =>
    obtain ⟨ctx, _, rfl⟩ := made
    obtain ⟨allowed, authorised⟩ := admitted.authorised moment
      (requestOf (callFor execId task) entry ctx) rfl rfl
    rw [sameContract entry entered, authorised] at rejected
    simp at rejected
  | replayed cached entry entered _ hit =>
    exact ⟨entry, entered, sameContract entry entered, Or.inl ⟨cached, hit, rfl, rfl⟩⟩
  | unstarted err entry entered _ miss obstructed =>
    rcases obstructed with lost | stuck
    · exact absurd fence lost
    · exact absurd storable stuck
  | ran _ _ entry entered _ miss runs =>
    exact ⟨entry, entered, sameContract entry entered, Or.inr runs⟩

theorem conduct_serves {contract : CapabilityContract} (unfenced : rt.fencing = false)
    (live : ∀ msg, ¬Cancels world msg) (storable : seen.Storable)
    (movable : seen.standing.status.isTerminal = false)
    (admitted : task.Admitted rt world contract)
    (conduct : Conduct rt world (callFor execId task) fresh seen outcome after) :
    ∃ marks, after.story = seen.story ++ marks ∧
      marks.any (Mark.serves (invocationId execId task.taskId)) = true := by
  obtain ⟨entry, entered, _, ⟨cached, _, _, rfl⟩ | runs⟩ :=
    conduct_admitted unfenced live storable movable admitted conduct
  · refine ⟨[.event .idempotencyHit entry.invocationId], by simp, ?_⟩
    simp [Mark.serves, (entered_call_for entered).1]
  · obtain ⟨req, reply, rest, ⟨⟨ctx, _, rfl⟩, _⟩, told⟩ := runs_story runs live
    refine ⟨.event .capabilityStarted entry.invocationId ::
      .invoked (callFor execId task).version
        (requestOf (callFor execId task) entry ctx) reply :: rest, by simp [told], ?_⟩
    simp [Mark.serves, requestOf, (entered_call_for entered).1]

theorem conduct_closed (closed : rt.fencing = true ∨ seen.standing.status.isTerminal = true)
    (conduct : Conduct rt world (callFor execId task) fresh seen outcome after) :
    after = seen ∨ seen.standing.status.isTerminal = false ∧ after = seen.movedTo .normalized := by
  have unentered : ∀ entry, Entered rt fresh (callFor execId task) entry →
      seen.standing.status.isTerminal ≠ false := by
    intro entry entered movable
    rcases closed with fenced | ended
    · exact entered.leased fenced rfl
    · simp [movable] at ended
  cases conduct with
  | terminal | unfenced => exact Or.inl rfl
  | unregistered err movable missing => exact Or.inr ⟨movable, rfl⟩
  | cancelled _ _ entry msg entered movable cancels concludes
  | invalid err entry req entered movable made rejected
  | unauthorized err entry req moment _ entered movable made rejected leaves =>
    exact absurd movable (unentered entry entered)
  | replayed cached entry entered movable hit => exact absurd movable (unentered entry entered)
  | unstarted err entry entered movable miss obstructed =>
    exact absurd movable (unentered entry entered)
  | ran _ _ entry entered movable miss runs => exact absurd movable (unentered entry entered)

end calls

section turns

variable (rt : ExecutionRuntime) (world : World) (fuel : Nat) (origin : ExecutionPlan)

def Serves (invocationId : String) (served : Bool) (seen after : View) : Prop :=
  ∃ marks, after.story = seen.story ++ marks ∧ marks.any (Mark.serves invocationId) = served

theorem story_persisted (view : View) (plan : ExecutionPlan) :
    (view.planned plan).saved.story = view.story := by
  rw [story_saved]
  rfl

theorem story_dispatched (view : View) (plan : ExecutionPlan) (taskId : String) :
    (view.marked (.dispatched plan taskId)).story = view.story ++ [.dispatched plan taskId] := by
  simp [story, marked, Mark.isSaved]

theorem tells_invariant (unfenced : rt.fencing = false)
    (live : ∀ msg, ¬Cancels world msg) (base : View) :
    TurnInvariant rt world fuel origin (fun _ => Tells rt.recovery base)
      (fun _ _ _ => Tells rt.recovery base) True where
  starts plan view task turn tells := tells.trans (.persisted view _)
  dispatches left plan view task fresh outcome after turn storable tells conduct := by
    have told := tells.trans ((Tells.dispatched view plan task.taskId).trans
      (conduct_tells (by simp [FenceHolds, unfenced]) live storable conduct))
    exact ⟨told, fun _ _ _ => ⟨fun _ => trivial, fun _ _ => told⟩⟩
  finishes plan view task next after turn final moves tells := tells.trans (.persisted view _)

theorem closed_invariant (invocationId : String) (base : View) :
    TurnInvariant rt world fuel origin (fun _ view => Serves invocationId false base view ∧
      (rt.fencing = true ∨ view.standing.status.isTerminal = true))
      (fun _ _ _ view => Serves invocationId false base view ∧
      (rt.fencing = true ∨ view.standing.status.isTerminal = true)) True where
  starts plan view task turn := by
    rintro ⟨⟨marks, told, unserved⟩, closed⟩
    exact ⟨⟨marks, by rw [story_persisted, told], unserved⟩, closed⟩
  dispatches left plan view task fresh outcome after turn storable := by
    rintro ⟨⟨marks, told, unserved⟩, closed⟩ conduct
    have silent : after.story = (view.marked (.dispatched plan task.taskId)).story ∧
        (rt.fencing = true ∨ after.standing.status.isTerminal = true) := by
      rcases conduct_closed (by exact closed) conduct with rfl | ⟨movable, rfl⟩
      · exact ⟨rfl, closed⟩
      · refine ⟨rfl, closed.imp_right fun ended => ?_⟩
        exact absurd (ended.symm.trans movable) (by simp)
    obtain ⟨silent, stays⟩ := silent
    have kept : Serves invocationId false base after := by
      refine ⟨marks ++ [.dispatched plan task.taskId], ?_, ?_⟩
      · rw [silent, story_dispatched, told, List.append_assoc]
      · simp only [List.any_append, unserved]
        rfl
    exact ⟨⟨kept, stays⟩, fun _ _ _ => ⟨fun _ => trivial, fun _ _ => ⟨kept, stays⟩⟩⟩
  finishes plan view task next after turn final moves := by
    rintro ⟨⟨marks, told, unserved⟩, closed⟩
    exact ⟨⟨marks, by rw [story_persisted, told], unserved⟩, closed⟩

theorem Serves.keeps {invocationId : String} {base seen after : View}
    (served : Serves invocationId true base seen) (keeps : Keeps seen after) :
    Serves invocationId true base after := by
  obtain ⟨marks, told, any⟩ := served
  obtain ⟨more, grows, _⟩ := keeps.trail
  refine ⟨marks ++ more.filter fun mark => !mark.isSaved, ?_, by simp [any]⟩
  rw [story, grows, List.filter_append, ← List.append_assoc, ← told]
  rfl

theorem Serves.persisted {invocationId : String} {base seen : View}
    (served : Serves invocationId true base seen) (plan : ExecutionPlan) :
    Serves invocationId true base (seen.planned plan).saved := by
  obtain ⟨marks, told, any⟩ := served
  exact ⟨marks, by rw [story_persisted, told], any⟩

theorem Serves.dispatched {invocationId : String} {base seen : View}
    (served : Serves invocationId true base seen) (plan : ExecutionPlan) (taskId : String) :
    Serves invocationId true base (seen.marked (.dispatched plan taskId)) := by
  obtain ⟨marks, told, any⟩ := served
  refine ⟨marks ++ [.dispatched plan taskId], ?_, by simp [any]⟩
  rw [story_dispatched, told, List.append_assoc]

/-- The task can be served: nothing has been told since `base` and the context can move. -/
structure Open (execId : Uuid) (base view : View) : Prop where
  identity : view.standing.identity.executionId = execId
  story : view.story = base.story
  movable : view.standing.status.isTerminal = false

theorem serves_invariant (execId : Uuid) {first : TaskNode}
    {contract : CapabilityContract} (unfenced : rt.fencing = false)
    (live : ∀ msg, ¬Cancels world msg)
    (admitted : first.Admitted rt world contract) (base : View) :
    TurnInvariant rt world fuel origin
      (fun _ => Serves (invocationId execId first.taskId) true base)
      (fun _ _ task view => task = first ∧ Open execId base view ∨
      Serves (invocationId execId first.taskId) true base view) True where
  starts plan view task turn served := Or.inr (served.persisted _)
  dispatches left plan view task fresh outcome after turn storable allowed conduct := by
    have served : Serves (invocationId execId first.taskId) true base after := by
      rcases allowed with ⟨rfl, ready⟩ | served
      · have ident := ready.identity
        rw [ident] at conduct
        obtain ⟨marks, told, any⟩ := conduct_serves unfenced live (by exact storable)
          (by exact ready.movable) admitted conduct
        refine ⟨.dispatched plan task.taskId :: marks, ?_, by simp [any]⟩
        rw [told, story_dispatched, ready.story, List.append_assoc]
        rfl
      · exact (served.dispatched plan task.taskId).keeps (conduct_keeps conduct)
    exact ⟨served, fun _ _ _ => ⟨fun _ => trivial, fun _ _ => Or.inr served⟩⟩
  finishes plan view task next after turn final moves served := served.persisted _

theorem turn_invariant : TurnInvariant rt world fuel origin (fun _ _ => True)
    (fun _ _ _ _ => True) True where
  starts _ _ _ _ _ := trivial
  dispatches _ _ _ _ _ _ _ _ _ _ _ :=
    ⟨trivial, fun _ _ _ => ⟨fun _ => trivial, fun _ _ => trivial⟩⟩
  finishes _ _ _ _ _ _ _ _ _ := trivial

theorem settled_invariant (taskId : String) (status : TaskStatus) (turned : status ≠ .ready)
    (ended : status ≠ .running) :
    TurnInvariant rt world fuel origin (fun plan _ => plan.status? taskId = some status)
      (fun _ plan _ _ => plan.status? taskId = some status) True where
  starts plan view task turn settled := by
    have other : taskId ≠ task.taskId := by
      rintro rfl
      exact turned (Option.some.inj (settled.symm.trans turn.status))
    rw [status_set_status, if_neg other]
    exact settled
  dispatches left plan view task fresh outcome after turn storable settled conduct :=
    ⟨settled, fun _ _ _ => ⟨fun _ => trivial, fun _ _ => settled⟩⟩
  finishes plan view task next after turn final moves settled := by
    have other : taskId ≠ task.taskId := by
      rintro rfl
      exact ended (Option.some.inj (settled.symm.trans turn.status))
    rw [moves.statuses, if_neg other]
    exact settled

end turns

section decided

variable (rt : ExecutionRuntime) (world : World) (fuel : Nat)

def ownResult (task : TaskNode) (state : Orchestration) : Except Raised InvocationResult :=
  (verdict rt world fuel task).outcome ((startTurn rt world task).stateAfter state)

def statusOf : Except Raised InvocationResult → TaskStatus
  | .ok res => if res.status = .succeeded then .succeeded else .failed
  | .error _ => .failed

theorem status_of_settled (outcome : Except Raised InvocationResult) :
    statusOf outcome ≠ .ready ∧ statusOf outcome ≠ .running := by
  unfold statusOf
  cases outcome with
  | error raised => simp
  | ok res =>
    dsimp only
    split_ifs <;> simp

variable {rt world fuel} {origin : ExecutionPlan}

theorem returns_after {state : Orchestration} (failed : Bool)
    (storable : state.session.view.Storable) (update : ExecutionPlan → ExecutionPlan) :
    Ends (do
      changePlan update
      persist rt world
      return failed)
      (fun value _ => value = failed) (fun _ _ => False) state := by
  have returns : Shown (do
      changePlan update
      persist rt world
      return failed)
      (fun value _ => value = failed) (fun _ _ => False) state.look :=
    shows_bind (change_plan_shown update (shows_bind (persist_shown
      (fun _ => shows_pure rfl) fun stuck => absurd storable stuck)))
  exact returns state rfl

theorem run_task_decides {task : TaskNode} {state : Orchestration}
    (turn : InTurn origin state.plan task .ready) (storable : state.session.view.Storable) :
    Ends (runTask rt world fuel task)
      (fun failed _ => (if failed then .failed else .succeeded) =
      statusOf (ownResult rt world fuel task state))
      (fun _ _ => ownResult rt world fuel task state = .error .outOfFuel) state := by
  have started := set_status_moves_task state.plan task.taskId .running
  have running := turn.moved started (by simp)
  have starts : Shown (startTurn rt world task)
      (fun _ after => after = ⟨state.plan.setStatus task.taskId .running,
        (state.session.view.planned (state.plan.setStatus task.taskId .running)).saved⟩)
      (fun _ _ => False) state.look := start_turn_shown task storable rfl
  rw [runTask, ends_bind]
  refine ((ends_exactly _ state).and (starts state rfl)).mono ?_ fun _ _ none_ => none_.2.elim
  rintro _ after ⟨⟨_, rfl⟩, looks⟩
  have ready : (state.session.view.planned
    (state.plan.setStatus task.taskId .running)).saved.Storable := storable
  have judged := ((turn_invariant rt world fuel origin).rules_for task).verdict running ready
    trivial
  rw [ends_try_catch, attempt, ends_bind]
  refine ((ends_exactly _ _).and (judged _ looks)).mono ?_ ?_
  · rintro res last ⟨⟨ret, _⟩, _, kept, _⟩
    have own : ownResult rt world fuel task state = .ok res := ret
    rw [own]
    by_cases succeeded : res.status = .succeeded
    · rw [if_neg (not_not.mpr succeeded)]
      exact (returns_after false kept _).mono
        (fun _ _ same => by simp [same, statusOf, succeeded]) fun _ _ none_ => none_.elim
    · rw [if_pos succeeded]
      exact (returns_after true kept _).mono
        (fun _ _ same => by simp [same, statusOf, succeeded]) fun _ _ none_ => none_.elim
  · rintro raised last ⟨⟨thrown, _⟩, ended⟩
    have own : ownResult rt world fuel task state = .error raised := thrown
    rw [own]
    cases raised with
    | outOfFuel => exact rfl
    | exception err =>
      have kept := (ended.resolve_left fun out => absurd out.outOfFuel (by simp)).2.storable
      exact (returns_after true kept _).mono
        (fun _ _ same => by simp [same, statusOf]) fun _ _ none_ => none_.elim

end decided

section reached

variable (rt : ExecutionRuntime) (world : World) (fuel : Nat) (start : Orchestration)

/-- The states of a run of `execute` between the turns of its tasks, with the tasks of
the batch that are still to come and whether one of the batch has failed. -/
inductive Reaches : List TaskNode → Bool → Orchestration → Prop where
  | begins (state : Orchestration) (accepted : start.plan.validate = .ok ())
      (saved : persist rt world start = .ok () state) : Reaches [] false state
  | batch (state : Orchestration) (between : Reaches [] false state)
      (unfinished : state.plan.isComplete = false) (filled : state.plan.batch ≠ []) :
      Reaches state.plan.batch false { state with plan := state.plan.markReady }
  | turn (task : TaskNode) (rest : List TaskNode) (failed taskFailed : Bool)
      (state after : Orchestration) (before : Reaches (task :: rest) failed state)
      (ran : runTask rt world fuel task state = .ok taskFailed after) :
      Reaches rest (failed || taskFailed) after

structure Waiting (origin : ExecutionPlan) (inv : ExecutionPlan → View → Prop)
    (tasks : List TaskNode) (state : Orchestration) : Prop where
  turns : ∀ task ∈ tasks, InTurn origin state.plan task .ready
  distinct : (tasks.map TaskNode.taskId).Nodup
  evolves : Evolves origin state.plan
  storable : state.session.view.Storable
  inv : inv state.plan state.session.view

variable {rt world fuel start} {inv : ExecutionPlan → View → Prop}
  {may : Nat → ExecutionPlan → TaskNode → View → Prop} {runsOut : Prop}
  {origin : ExecutionPlan} {task : TaskNode} {rest : List TaskNode}
  {state after : Orchestration}

theorem Waiting.next {failed : Bool} (waiting : Waiting origin inv (task :: rest) state)
    (finished : Finished inv state.plan task failed after.look) :
    Waiting origin inv rest after := by
  have turn := waiting.turns task (by simp)
  obtain ⟨fresh, distinct⟩ := List.nodup_cons.mp waiting.distinct
  refine ⟨?_, distinct, turn.moved_evolves finished.moves, finished.storable, finished.inv⟩
  intro other mem
  apply (waiting.turns other (by simp [mem])).other turn finished.moves (by simp)
  intro same
  exact fresh (same ▸ List.mem_map.mpr ⟨other, mem, rfl⟩)

theorem reaches_waiting (rules : TurnInvariant rt world fuel start.plan inv may runsOut)
    (marks : ∀ plan view, inv plan view → inv plan.markReady view)
    (base : inv start.plan (start.session.view.planned start.plan).saved)
    {tasks : List TaskNode} {failed : Bool}
    (reaches : Reaches rt world fuel start tasks failed state) :
    Waiting start.plan inv tasks state := by
  induction reaches with
  | begins state accepted saved =>
    have persisted : Shown (persist rt world)
        (fun _ last => start.session.view.Storable ∧ last =
          ⟨start.plan, (start.session.view.planned start.plan).saved⟩)
        (fun _ _ => True) start.look :=
      persist_shown (fun storable => ⟨storable, rfl⟩) fun _ _ => trivial
    obtain ⟨storable, looks⟩ := (persisted start rfl).of_ok saved
    obtain ⟨samePlan, sameView⟩ := RunView.mk.inj looks
    refine ⟨by simp, by simp, ?_, ?_, ?_⟩
    · rw [samePlan]
      exact evolves_refl _
    · rw [sameView]
      exact storable
    · rw [samePlan, sameView]
      exact base
  | batch state between unfinished filled ih =>
    exact ⟨fun task mem => in_turn_of_batch ih.evolves mem, batch_distinct _,
      ih.evolves.mark_ready, ih.storable, marks _ _ ih.inv⟩
  | turn task rest failed taskFailed state after before ran ih =>
    exact ih.next ((rules.runTask (ih.turns task (by simp)) ih.storable ih.inv state rfl).of_ok ran)

theorem reaches_respects {relation : Session → Session → Prop}
    (kept : RunRespected rt world relation) {tasks : List TaskNode} {failed : Bool}
    (reaches : Reaches rt world fuel start tasks failed state) :
    relation start.session state.session := by
  induction reaches with
  | begins state accepted saved => exact (kept.persist start).of_ok saved
  | batch state between unfinished filled ih => exact ih
  | turn task rest failed taskFailed state after before ran ih =>
    exact kept.calls.trans.trans _ _ _ ih ((kept.runTask fuel task state).of_ok ran)

end reached

end PlanOrchestrator

/-- The steps taken since `before`. -/
def Session.stepsSince (before after : Session) : List Step :=
  after.trace.drop before.trace.length

theorem any_steps_since {rt : ExecutionRuntime} {before after : Session}
    {onStep : Step → Bool} {onMark : Mark → Bool} {marks : List Mark}
    (same : ∀ step, onStep step = (step.mark?.map onMark).getD false)
    (unsaved : ∀ standing, onMark (.saved standing) = false)
    (advances : Advances rt before after)
    (told : after.view.story = before.view.story ++ marks) :
    (before.stepsSince after).any onStep = marks.any onMark := by
  obtain ⟨_, steps, grows, _⟩ := advances
  have new : before.stepsSince after = steps := by simp [Session.stepsSince, grows]
  have filtered : marks = (trail steps).filter fun mark => !mark.isSaved := by
    have whole : after.view.trail = before.view.trail ++ trail steps := by
      simp [Session.view, grows]
    rw [story, whole, List.filter_append] at told
    exact (List.append_cancel_left told).symm
  rw [new, filtered]
  exact (any_trail same unsaved steps).symm

theorem ends_execution_mark (policy : RecoveryPolicy) (step : Step) :
    step.endsExecution policy = (step.mark?.map (Mark.endsExecution policy)).getD false := by
  cases step with
  | record event =>
    simp only [Step.mark?, Step.endsExecution]
    split_ifs
    · cases event.invocationId? <;> rfl
    · rfl
  | _ => rfl

theorem serves_mark (invocationId : String) (step : Step) :
    step.serves invocationId = (step.mark?.map (Mark.serves invocationId)).getD false := by
  cases step with
  | record event =>
    simp only [Step.mark?, Step.serves]
    cases event.eventType <;> cases event.invocationId? <;> simp [EventType.isMarked, Mark.serves]
  | _ => rfl

namespace PlanOrchestrator

section independent

variable (rt : ExecutionRuntime) (world : World) (fuel : Nat)

/-- The task is invoked or replayed in its turn, and its own result decides the status
that it has at the end of the batch. -/
structure Independent (task : TaskNode) (rest : List TaskNode) (state : Orchestration) :
    Prop where
  served : ∃ step ∈ state.session.stepsSince
      ((runTask rt world fuel task).stateAfter state).session,
    step.serves (invocationId state.session.context.identity.executionId task.taskId) = true
  decided : ownResult rt world fuel task state ≠ .error .outOfFuel →
    ∃ failed after, runTask rt world fuel task state = .ok failed after ∧
      ((runBatch rt world fuel rest).stateAfter after).plan.status? task.taskId =
        some (statusOf (ownResult rt world fuel task state))

variable {rt world} {origin : ExecutionPlan} {task : TaskNode}
  {rest : List TaskNode} {state : Orchestration}

theorem turn_decided (waiting : Waiting origin (fun _ _ => True) (task :: rest) state)
    (ended : ownResult rt world fuel task state ≠ .error .outOfFuel) :
    ∃ failed after, runTask rt world fuel task state = .ok failed after ∧
      ((runBatch rt world fuel rest).stateAfter after).plan.status? task.taskId =
      some (statusOf (ownResult rt world fuel task state)) := by
  have turn := waiting.turns task (by simp)
  have decides := @run_task_decides rt world fuel _ _ _ turn waiting.storable
  have finishes := (turn_invariant rt world fuel origin).runTask turn waiting.storable
    trivial state rfl
  unfold Ends at decides finishes
  cases ran : runTask rt world fuel task state with
  | error raised after =>
    simp only [ran] at decides
    exact absurd decides ended
  | ok failed after =>
    simp only [ran] at decides finishes
    have next := waiting.next finishes
    have status : after.plan.status? task.taskId =
        some (statusOf (ownResult rt world fuel task state)) := by
      have moved := finishes.moves.statuses task.taskId
      rw [if_pos rfl, turn.status] at moved
      rw [← decides]
      exact moved
    have settled := (settled_invariant rt world fuel origin task.taskId _
      (status_of_settled _).1 (status_of_settled _).2).keeps_turns.runBatch rest next.distinct _
        next.turns ⟨next.evolves, rfl, next.storable, status⟩ after rfl
    exact ⟨failed, after, rfl, Ends.outcome (fun _ (last : Orchestration) =>
      last.plan.status? task.taskId = some (statusOf (ownResult rt world fuel task state)))
      (settled.mono (fun _ _ ended => ended.1.inv) fun _ _ out => out.inv)⟩

theorem turn_served_iff {contract : CapabilityContract}
    (waiting : Waiting origin (fun _ _ => True) (task :: rest) state)
    (live : ∀ msg, ¬Cancels world msg)
    (admitted : task.Admitted rt world contract) :
    (∃ step ∈ state.session.stepsSince ((runTask rt world fuel task).stateAfter state).session,
      step.serves (invocationId state.session.context.identity.executionId task.taskId) = true) ↔
      rt.fencing = false ∧ state.session.context.status.isTerminal = false := by
  have turn := waiting.turns task (by simp)
  have advances : Advances rt state.session
      ((runTask rt world fuel task).stateAfter state).session :=
    ((advances_run_respected rt world).runTask fuel task).after state
  have seen : ∀ served, Serves (invocationId state.session.context.identity.executionId
      task.taskId) served state.session.view
        ((runTask rt world fuel task).stateAfter state).session.view →
      (state.session.stepsSince
        ((runTask rt world fuel task).stateAfter state).session).any (Step.serves
          (invocationId state.session.context.identity.executionId task.taskId)) = served := by
    rintro served ⟨marks, told, any⟩
    rw [any_steps_since (serves_mark _) (fun _ => rfl) advances told, any]
  rw [← List.any_eq_true]
  by_cases opened : rt.fencing = false ∧ state.session.context.status.isTerminal = false
  · obtain ⟨unfenced, movable⟩ := opened
    have allowed : Open state.session.context.identity.executionId state.session.view
        (state.session.view.planned (state.plan.setStatus task.taskId .running)).saved :=
      ⟨rfl, story_persisted _ _, movable⟩
    have finishes := ((serves_invariant rt world fuel origin _ unfenced live admitted
      state.session.view).rules_for task).turn turn waiting.storable (Or.inl ⟨rfl, allowed⟩)
        state rfl
    have served := Ends.outcome (fun _ (after : Orchestration) => Serves (invocationId
      state.session.context.identity.executionId task.taskId) true state.session.view
        after.session.view) (finishes.mono (fun _ _ finished => finished.inv)
          fun _ _ out => out.inv)
    exact iff_of_true (seen true served) ⟨unfenced, movable⟩
  · have closed : rt.fencing = true ∨ state.session.context.status.isTerminal = true := by
      cases fenced : rt.fencing <;> simp_all
    have finishes := (closed_invariant rt world fuel origin (invocationId
      state.session.context.identity.executionId task.taskId) state.session.view).runTask turn
        waiting.storable ⟨⟨[], by simp, rfl⟩, closed⟩ state rfl
    have unserved := Ends.outcome (fun _ (after : Orchestration) => Serves (invocationId
      state.session.context.identity.executionId task.taskId) false state.session.view
        after.session.view) (finishes.mono (fun _ _ finished => finished.inv.1)
          fun _ _ out => out.inv.1)
    exact iff_of_false (by simp [seen false unserved]) opened

end independent

/-- A task whose turn comes in a run is independent of the tasks before it exactly if no
fencing store is configured, the context could move when the run began, and no invocation
of the run so far has ended the execution. -/
theorem task_independent_iff (rt : ExecutionRuntime) (world : World) (fuel : Nat)
    (start state : Orchestration) (task : TaskNode) (rest : List TaskNode) (failed : Bool)
    (contract : CapabilityContract)
    (reaches : Reaches rt world fuel start (task :: rest) failed state)
    (live : ∀ moment, (world.cancellation moment).cancelled = false)
    (admitted : task.Admitted rt world contract) :
    Independent rt world fuel task rest state ↔
      rt.fencing = false ∧ start.session.context.status.isTerminal = false ∧
      ∀ step ∈ start.session.stepsSince state.session,
      step.endsExecution rt.recovery = false := by
  have cancels := not_cancels live
  have waiting := reaches_waiting (turn_invariant rt world fuel start.plan)
    (fun _ _ _ => trivial) trivial reaches
  have served := turn_served_iff fuel waiting cancels admitted
  have movable : rt.fencing = false → (state.session.context.status.isTerminal = false ↔
        start.session.context.status.isTerminal = false ∧
          ∀ step ∈ start.session.stepsSince state.session,
            step.endsExecution rt.recovery = false) := by
    intro unfenced
    have tells := (reaches_waiting (tells_invariant rt world fuel start.plan unfenced cancels
      start.session.view) (fun _ _ tells => tells) (.persisted _ _) reaches).inv
    obtain ⟨marks, told, ends⟩ := tells
    have advances := reaches_respects (advances_run_respected rt world) reaches
    have same := any_steps_since (ends_execution_mark rt.recovery) (fun _ => rfl) advances told
    have status : state.session.context.status.isTerminal =
        (start.session.context.status.isTerminal ||
          (start.session.stepsSince state.session).any (Step.endsExecution rt.recovery)) := by
      rw [same]
      exact ends
    rw [status, Bool.or_eq_false_iff, List.any_eq_false]
    simp
  constructor
  · intro independent
    obtain ⟨unfenced, open_⟩ := served.mp independent.served
    exact ⟨unfenced, (movable unfenced).mp open_⟩
  · rintro ⟨unfenced, open_⟩
    exact ⟨served.mpr ⟨unfenced, (movable unfenced).mpr open_⟩, turn_decided fuel waiting⟩

def pairPlan : ExecutionPlan :=
  { planId := "p"
    tasks := [ { taskId := "a", capabilityId := "publish", capabilityVersion := "1.0.0" },
      { taskId := "b", capabilityId := "publish", capabilityVersion := "1.0.0" }] }

def firstFails (fail : FailureClass) : World :=
  .ending fun req => .returned ( if req.invocationId = invocationId ⟨1⟩ "a" then
      { invocationId := req.invocationId, capabilityId := req.capabilityId
        status := .failed, error := some [("failure_class", .str fail.value)] }
    else
      { invocationId := req.invocationId, capabilityId := req.capabilityId
        status := .succeeded })

theorem pair_admitted (fail : FailureClass) (task : TaskNode)
    (mem : task ∈ pairPlan.tasks) :
    task.Admitted publishRuntime (firstFails fail)
      { capabilityId := "publish", version := "1.0.0" } := by
  refine ⟨?_, fun _ _ _ => rfl, fun _ _ _ _ => ⟨true, rfl⟩⟩
  revert task
  decide

/-- A state of a run on `pairPlan` in which the first task has failed. -/
theorem tool_failure_leaves_sibling :
    ∃ state, Reaches publishRuntime (firstFails .tool) 10 (startOf pairPlan)
      [{ taskId := "b", capabilityId := "publish", capabilityVersion := "1.0.0" }] true
      state ∧
      Independent publishRuntime (firstFails .tool) 10
      { taskId := "b", capabilityId := "publish", capabilityVersion := "1.0.0" } [] state := by
  let saved := (persist publishRuntime (firstFails .tool)).stateAfter (startOf pairPlan)
  let marked : Orchestration := { saved with plan := saved.plan.markReady }
  let turn := runTask publishRuntime (firstFails .tool) 10
    { taskId := "a", capabilityId := "publish", capabilityVersion := "1.0.0" }
  have begins : Reaches publishRuntime (firstFails .tool) 10 (startOf pairPlan) [] false saved :=
    .begins _ (by decide +kernel) (ok_of_outcome (by decide +kernel))
  have batch : saved.plan.batch = pairPlan.tasks := by decide +kernel
  have starts : Reaches publishRuntime (firstFails .tool) 10 (startOf pairPlan) pairPlan.tasks
      false marked := by
    rw [← batch]
    exact .batch saved begins (by decide +kernel) (by decide +kernel)
  have failed : turn.outcome marked = .ok true := by decide +kernel
  have reaches := Reaches.turn _ _ false true marked _ starts (ok_of_outcome failed)
  refine ⟨_, reaches, (task_independent_iff _ _ _ _ _ _ _ _
    { capabilityId := "publish", version := "1.0.0" } reaches (fun _ => rfl)
    (pair_admitted .tool _ (by decide))).mpr ⟨rfl, rfl, ?_⟩⟩
  decide +kernel

/-- A PERMISSION failure of the first task escalates, and the second one fails without
being invoked although its capability would succeed. -/
theorem permission_failure_strands_sibling :
    let run := execute publishRuntime (firstFails .permission) 10
    pairPlan.validate = .ok () ∧ pairPlan.batch = pairPlan.tasks ∧
      (∀ task ∈ pairPlan.tasks, task.Admitted publishRuntime (firstFails .permission)
      { capabilityId := "publish", version := "1.0.0" }) ∧
      (∀ step ∈ (run.stateAfter (startOf pairPlan)).session.trace,
      step.serves (invocationId ⟨1⟩ "b") = false) ∧
      (run.stateAfter (startOf pairPlan)).plan.status? "b" = some .failed := by
  refine ⟨by decide +kernel, by decide +kernel, pair_admitted .permission, ?_, ?_⟩
  · decide +kernel
  · decide +kernel

end PlanOrchestrator

end Ois.Kernel
