import Ois.Kernel.CrashPoints
import Ois.Kernel.SiblingIndependence

/-!
# Resuming after a crash

A worker that crashed right after a checkpoint leaves a plan in which tasks may be PENDING, READY,
RUNNING or SUCCEEDED.
-/

namespace Ois.Kernel

open Ois.Library Ois.Infrastructure Command ExecutionRuntime ExecutionPlan CheckpointStore

structure TaskSpec.Asks (spec : TaskSpec) (req : InvocationRequest) : Prop where
  capabilityId : req.capabilityId = spec.capabilityId
  input : Json.sortMembers req.input = spec.input

/-- Every invocation for the task succeeds: its capability is registered and authorised,
its input is valid, and it returns SUCCEEDED with a valid output. -/
structure TaskSpec.Succeeds (rt : ExecutionRuntime) (world : World) (spec : TaskSpec)
    (contract : CapabilityContract) : Prop where
  registered : rt.registry.get spec.capabilityId spec.capabilityVersion = .ok contract
  valid : ∀ req, spec.Asks req → rt.validateInput req contract = .ok ()
  authorised : ∀ moment req, spec.Asks req →
    ∃ allowed, world.authorize moment req contract = .ok allowed
  returns : ∀ moment req, spec.Asks req → ∃ res,
    (world.invoke moment spec.capabilityVersion req).outcome = .returned res ∧
      res.status = .succeeded ∧ res.invocationId = req.invocationId ∧
      rt.validateOutput res contract = .ok ()
  uncancelled : ∀ moment req, spec.Asks req →
    (world.invoke moment spec.capabilityVersion req).token.cancelled = false

/-- A task in this status is run by `resume`, or needs no run. -/
def TaskStatus.isResumable : TaskStatus → Bool
  | .pending | .running | .succeeded => true
  | _ => false

namespace PlanOrchestrator

structure Benign (execId : Uuid) (view : View) : Prop where
  identity : view.standing.identity.executionId = execId
  unfailed : view.standing.lastFailure = .none
  movable : view.standing.status.isTerminal = false
  stored : SucceededStored execId view.idempotency

section calls

variable {rt : ExecutionRuntime} {world : World} {execId fresh : Uuid}
  {task : TaskNode} {contract : CapabilityContract} {seen after : View}
  {out : Except PyError InvocationResult}

theorem Benign.storable (benign : Benign execId seen) : seen.Storable := by
  intro _
  rw [benign.unfailed]
  exact ⟨_, rfl⟩

theorem admitted_of_succeeds (succeeds : task.spec.Succeeds rt world contract) :
    task.Admitted rt world contract := by
  refine ⟨succeeds.registered, ?_, ?_⟩
  · intro req capability input
    exact succeeds.valid req ⟨capability, by rw [input]; rfl⟩
  · intro moment req capability input
    exact succeeds.authorised moment req ⟨capability, by rw [input]; rfl⟩

structure Succeeded (execId : Uuid) (out : Except PyError InvocationResult)
    (after : View) : Prop where
  benign : Benign execId after
  returned : ∃ res, out = .ok res ∧ res.status = .succeeded

theorem settles_succeeded {call : Call} {entry : Entry} {res : InvocationResult}
    (unfenced : rt.fencing = false) (benign : Benign execId seen)
    (succeeded : res.status = .succeeded) (same : res.invocationId = entry.invocationId)
    (valid : rt.validateOutput res entry.contract = .ok ())
    (settles : Settles rt world call entry seen res out after) :
    Succeeded execId out after := by
  have fence : FenceHolds rt world call.workerLease := by simp [FenceHolds, unfenced]
  obtain ⟨asIs, undecided⟩ := unreported rt.recovery seen res (by simp [succeeded])
  cases settles with
  | undecided err names fail structured lost => exact absurd fence lost
  | mismatched differs => exact absurd same differs
  | stuck err _ terminal stateMachine =>
    rw [undecided, benign.movable] at terminal
    simp at terminal
  | invalid err _ _ rejected =>
    rw [valid] at rejected
    simp at rejected
  | unstored err _ kept lost => exact absurd fence lost
  | unrouted err _ movable obstructed =>
    rw [undecided] at obstructed
    rcases obstructed with lost | stuck
    · exact absurd fence lost
    · exact absurd benign.storable stuck
  | routed _ movable =>
    have terminal : res.isTerminal = true := by
      simp [InvocationResult.isTerminal, succeeded]
    refine ⟨?_, _, rfl, by rw [reported_status, succeeded]⟩
    rw [undecided, keeping, if_pos terminal]
    exact ⟨benign.identity, benign.unfailed, rfl, benign.stored.put succeeded⟩

theorem conduct_succeeded (unfenced : rt.fencing = false)
    (live : ∀ msg, ¬Cancels world msg)
    (succeeds : task.spec.Succeeds rt world contract) (benign : Benign execId seen)
    (conduct : Conduct rt world (callFor execId task) fresh seen out after) :
    Succeeded execId out after := by
  obtain ⟨entry, entered, rfl, ⟨cached, hit, rfl, rfl⟩ | runs⟩ :=
    conduct_admitted unfenced live benign.storable benign.movable
      (admitted_of_succeeds succeeds) conduct
  · rw [(entered_call_for entered).2] at hit
    exact ⟨⟨benign.identity, benign.unfailed, rfl, benign.stored⟩, cached, rfl,
      benign.stored task.taskId cached hit⟩
  · have returns : ∀ req reply, Answers world (callFor execId task) entry
        (startedView entry seen) req reply → ∃ res, reply.outcome = .returned res ∧
          res.status = .succeeded ∧ res.invocationId = entry.invocationId ∧
          rt.validateOutput res entry.contract = .ok () ∧
          reply.token.cancelled = false := by
      rintro req reply ⟨⟨ctx, _, rfl⟩, moment, rfl⟩
      have asks : task.spec.Asks (requestOf (callFor execId task) entry ctx) :=
        ⟨rfl, rfl⟩
      obtain ⟨res, ret, succeeded, same, valid⟩ := succeeds.returns moment _ asks
      exact ⟨res, ret, succeeded, same, valid, succeeds.uncancelled moment _ asks⟩
    cases runs with
    | cancelled msg cancels concludes => exact absurd cancels (live msg)
    | interrupted msg req reply answers interrupts concludes =>
      obtain ⟨res, ret, _, _, _, token⟩ := returns req reply answers
      rcases interrupts with cancelled | ⟨_, overtaken⟩
      · simp [ret] at cancelled
      · simp [token_uncancelled.mpr token] at overtaken
    | failed err req reply answers raises concludes =>
      obtain ⟨res, ret, _⟩ := returns req reply answers
      simp [ret] at raises
    | returned res req reply answers ret notOvertaken settles =>
      obtain ⟨found, finds, succeeded, same, valid, _⟩ := returns req reply answers
      rw [ret, Outcome.returned.injEq] at finds
      subst finds
      have started : Benign execId ((startedView entry seen).marked
          (.invoked (callFor execId task).version req reply)) :=
        ⟨benign.identity, benign.unfailed, rfl, benign.stored⟩
      exact settles_succeeded unfenced started succeeded same valid settles

end calls

section runs

/-- How far a run has come in which everything succeeds. `waiting` are the tasks of the
batch that have not had their turn. -/
structure Progress (origin : ExecutionPlan) (execId : Uuid) (waiting : List TaskNode)
    (plan : ExecutionPlan) (view : View) : Prop where
  benign : Benign execId view
  evolves : Evolves origin plan
  turns : ∀ task ∈ waiting, InTurn origin plan task .ready
  distinct : (waiting.map TaskNode.taskId).Nodup
  statuses : ∀ taskId status, plan.status? taskId = some status →
    status = .pending ∨ status = .succeeded ∨ status = .ready ∧ taskId ∈ waiting.map TaskNode.taskId
  served : ∀ taskId, origin.status? taskId = some .pending → plan.status? taskId = some .succeeded →
      ∃ mark ∈ view.story, mark.serves (invocationId execId taskId) = true

variable {rt : ExecutionRuntime} {world : World} {fuel : Nat} {origin : ExecutionPlan}
  {execId : Uuid} (unfenced : rt.fencing = false)
  (live : ∀ msg, ¬Cancels world msg)
  (succeeds : ∀ taskId spec, origin.spec? taskId = some spec →
    ∃ contract, spec.Succeeds rt world contract)

variable {view : View} {plan : ExecutionPlan}

theorem benign_persisted (benign : Benign execId view) (plan : ExecutionPlan) :
    Benign execId (view.planned plan).saved :=
  ⟨benign.identity, benign.unfailed, benign.movable, benign.stored⟩

theorem Progress.mark_ready (progress : Progress origin execId [] plan view) :
    Progress origin execId plan.batch plan.markReady view := by
  refine ⟨progress.benign, progress.evolves.mark_ready,
    fun task mem => in_turn_of_batch progress.evolves mem, batch_distinct plan, ?_, ?_⟩
  · intro taskId status found
    rw [markReady, status_modify] at found
    obtain ⟨task, held, marked⟩ := Option.map_eq_some_iff.mp found
    split_ifs at marked with ready
    · obtain ⟨mem, named⟩ := task_mem held
      exact Or.inr (Or.inr ⟨marked.symm,
        List.mem_map.mpr ⟨task, List.mem_filter.mpr ⟨mem, ready⟩, named⟩⟩)
    · have known := progress.statuses taskId status (by simp [status?, held, marked])
      exact known.imp_right fun rest => rest.imp_right fun listed => by simp at listed
  · intro taskId pending finished
    apply progress.served taskId pending
    rw [markReady, status_modify] at finished
    obtain ⟨task, held, marked⟩ := Option.map_eq_some_iff.mp finished
    split_ifs at marked
    simp [status?, held, marked]

theorem Progress.batch_filled (progress : Progress origin execId [] plan view)
    (validated : origin.validate = .ok ()) (unfinished : plan.isComplete = false) :
    plan.batch ≠ [] := by
  have status : ∀ taskId status, plan.status? taskId = some status → status ≠ .succeeded →
      status = .pending := by
    intro taskId status found other
    rcases progress.statuses taskId status found with pending | finished | ⟨_, listed⟩
    · exact pending
    · exact absurd finished other
    · simp at listed
  obtain ⟨known, ranked⟩ := (validate_ok_iff plan).mp (progress.evolves.shape.validate validated)
  rw [isComplete, List.all_eq_false] at unfinished
  obtain ⟨first, mem, waiting⟩ := unfinished
  have firstFound : plan.status? first.taskId = some first.status := by
    simp [status?, task_of_mem mem]
  obtain ⟨taskId, listed, undone, finished⟩ := Dag.exists_unfinished_with_finished_children
    plan.dependenciesOf plan.ids ranked known (fun taskId => plan.status? taskId = some .succeeded)
    first.taskId (List.mem_map.mpr ⟨first, mem, rfl⟩) (by
      intro done
      rw [firstFound, Option.some.injEq] at done
      simp [done] at waiting)
  obtain ⟨task, found⟩ := mem_ids_iff.mp listed
  have named := (task_mem found).2
  have pending : task.status = .pending := by
    refine status taskId task.status (by simp [status?, found]) fun done => undone ?_
    simp [status?, found, done]
  have ready : task ∈ plan.batch := by
    refine (mem_batch_iff plan task).mpr ⟨by rw [named]; exact found, pending, ?_⟩
    intro dep wanted
    exact finished dep (by simpa [dependenciesOf, found] using wanted)
  exact List.ne_nil_of_mem ready

structure Done (origin : ExecutionPlan) (execId : Uuid) (after : RunView) : Prop where
  evolves : Evolves origin after.plan
  finished : ∀ taskId status, after.plan.status? taskId = some status → status = .succeeded
  completed : after.view.standing.status = .completed
  served : ∀ taskId, origin.status? taskId = some .pending →
    ∃ mark ∈ after.view.story, mark.serves (invocationId execId taskId) = true

theorem Progress.done (progress : Progress origin execId [] plan view)
    (complete : plan.isComplete = true) :
    Done origin execId ⟨plan, (view.movedTo .completed).saved⟩ := by
  have finished : ∀ taskId status, plan.status? taskId = some status → status = .succeeded := by
    intro taskId status found
    obtain ⟨task, held, rfl⟩ := Option.map_eq_some_iff.mp found
    have either := List.all_eq_true.mp complete task (task_mem held).1
    rcases progress.statuses taskId task.status found with pending | done | ⟨_, listed⟩
    · simp [pending] at either
    · exact done
    · simp at listed
  refine ⟨progress.evolves, finished, rfl, ?_⟩
  intro taskId pending
  rw [story_saved, story_moved]
  apply progress.served taskId pending
  have listed : taskId ∈ plan.ids := by
    rw [progress.evolves.shape.mem_ids, mem_ids_iff]
    obtain ⟨task, held, _⟩ := Option.map_eq_some_iff.mp pending
    exact ⟨task, held⟩
  obtain ⟨task, held⟩ := mem_ids_iff.mp listed
  have known : plan.status? taskId = some task.status := by simp [status?, held]
  rw [known, finished taskId task.status known]

theorem should_retry_succeeded {res : InvocationResult}
    (succeeded : res.status = .succeeded) : shouldRetry res = false := by
  simp [shouldRetry, succeeded]

include unfenced live succeeds

variable {plan : ExecutionPlan} {view : View}

theorem verdict_succeeds {task : TaskNode} (turn : InTurn origin plan task .running)
    (benign : Benign execId view) :
    Shown (verdict rt world fuel task)
      (fun res after => res.status = .succeeded ∧ after.plan = plan ∧
      Benign execId after.view ∧ ∃ marks, after.view.story = view.story ++ marks ∧
      marks.any (Mark.serves (invocationId execId task.taskId)) = true)
      (fun _ _ => False) ⟨plan, view⟩ := by
  have spec : origin.spec? task.taskId = some task.spec :=
    (turn.evolves.shape task.taskId).symm.trans turn.spec
  obtain ⟨contract, answers⟩ := succeeds task.taskId task.spec spec
  have called : Benign execId (view.marked (.dispatched plan task.taskId)) :=
    ⟨benign.identity, benign.unfailed, benign.movable, benign.stored⟩
  have ident := benign.identity
  refine shows_bind (dispatch_shown task ?_ ?_)
  · intro fresh res after conduct
    rw [ident] at conduct
    obtain ⟨next, _, ret, succeeded⟩ :=
      conduct_succeeded unfenced live answers called conduct
    rw [Except.ok.injEq] at ret
    subst ret
    obtain ⟨marks, told, served⟩ := conduct_serves unfenced live called.storable
      called.movable (admitted_of_succeeds answers) conduct
    have whole : ∃ marks, after.story = view.story ++ marks ∧
        marks.any (Mark.serves (invocationId execId task.taskId)) = true := by
      refine ⟨.dispatched plan task.taskId :: marks, ?_, by simp [served]⟩
      rw [told, story_dispatched, List.append_assoc]
      rfl
    have done := should_retry_succeeded succeeded
    cases fuel with
    | zero | succ =>
      refine shows_ite (fun asks => ?_) fun _ => shows_pure ⟨succeeded, rfl, next, whole⟩
      simp [done] at asks
  · intro fresh err after conduct
    rw [ident] at conduct
    obtain ⟨_, _, ret, _⟩ :=
      conduct_succeeded unfenced live answers called conduct
    simp at ret

theorem turn_succeeds {task : TaskNode} {rest : List TaskNode}
    (progress : Progress origin execId (task :: rest) plan view) :
    Shown (runTask rt world fuel task) (fun failed after => failed = false ∧
      after.plan.count (· == .pending) = plan.count (· == .pending) ∧
      Progress origin execId rest after.plan after.view)
      (fun _ _ => False) ⟨plan, view⟩ := by
  have turn := progress.turns task (by simp)
  have started := set_status_moves_task plan task.taskId .running
  have running := turn.moved started (by simp)
  obtain ⟨fresh, distinct⟩ := List.nodup_cons.mp progress.distinct
  refine shows_bind (start_turn_shown task progress.benign.storable ?_)
  refine shows_try_catch (shows_bind ((verdict_succeeds unfenced live succeeds running
    (benign_persisted progress.benign _)).mono ?_ fun _ _ none_ => none_.elim))
  rintro res ⟨_, last⟩ ⟨succeeded, rfl, benign, marks, told, served⟩
  refine shows_ite (fun failed => absurd succeeded failed) fun _ => ?_
  refine shows_bind (change_plan_shown _ (shows_bind (persist_shown (fun _ => shows_pure ?_)
    fun stuck => absurd benign.storable stuck)))
  have moves := started.trans (succeed_moves_task _ task.taskId res.output)
  refine ⟨rfl, count_pending_moves moves turn.status (by simp) (by simp),
    benign_persisted benign _, turn.moved_evolves moves, ?_, distinct, ?_, ?_⟩
  · intro other mem
    apply (progress.turns other (by simp [mem])).other turn moves (by simp)
    intro same
    exact fresh (same ▸ List.mem_map.mpr ⟨other, mem, rfl⟩)
  · intro taskId status found
    rw [moves.statuses] at found
    split_ifs at found with own
    · obtain ⟨_, _, rfl⟩ := Option.map_eq_some_iff.mp found
      exact Or.inr (Or.inl rfl)
    · refine (progress.statuses taskId status found).imp_right fun known => known.imp_right ?_
      rintro ⟨ready, listed⟩
      rw [List.map_cons, List.mem_cons] at listed
      exact ⟨ready, listed.resolve_left own⟩
  · intro taskId pending finished
    rw [story_persisted, told, story_persisted]
    by_cases own : taskId = task.taskId
    · subst own
      obtain ⟨mark, mem, serves⟩ := List.any_eq_true.mp served
      exact ⟨mark, by simp [mem], serves⟩
    · rw [moves.statuses, if_neg own] at finished
      obtain ⟨mark, mem, serves⟩ := progress.served taskId pending finished
      exact ⟨mark, by simp [mem], serves⟩

theorem batch_succeeds (tasks : List TaskNode)
    (progress : Progress origin execId tasks plan view) :
    Shown (runBatch rt world fuel tasks) (fun failed after => failed = false ∧
      after.plan.count (· == .pending) = plan.count (· == .pending) ∧
      Progress origin execId [] after.plan after.view)
      (fun _ _ => False) ⟨plan, view⟩ := by
  induction tasks generalizing plan view with
  | nil => exact shows_pure ⟨rfl, rfl, progress⟩
  | cons task rest ih =>
    refine shows_bind ((turn_succeeds unfenced live succeeds progress).mono ?_
      fun _ _ none_ => none_)
    rintro failed ⟨moved, after⟩ ⟨rfl, same, next⟩
    refine shows_bind ((ih next).mono ?_ fun _ _ none_ => none_)
    rintro others last ⟨rfl, stillSame, done⟩
    exact shows_pure ⟨rfl, stillSame.trans same, done⟩

theorem loop_succeeds (validated : origin.validate = .ok ()) (turns : Nat)
    (enough : plan.count (· == .pending) < turns)
    (progress : Progress origin execId [] plan view) :
    Shown (loop rt world fuel turns) (fun _ after => Done origin execId after)
      (fun _ _ => False) ⟨plan, view⟩ := by
  induction turns generalizing plan view with
  | zero => omega
  | succ turns ih =>
    refine shows_get_bind fun orch looks => ?_
    obtain ⟨rfl, _⟩ := RunView.mk.inj looks
    refine shows_ite (fun complete => on_session_shown ?_) fun unfinished => ?_
    · have open_ : ¬Obstructed rt world none view := by
        rintro (lost | stuck)
        · exact lost (by simp [FenceHolds, unfenced])
        · exact stuck progress.benign.storable
      refine complete_sees none (fun _ _ => progress.done complete) ?_ ?_ ?_
      · exact fun lost => absurd (Or.inl lost) open_
      · intro ended
        simp [progress.benign.movable] at ended
      · exact fun _ _ obstructed => absurd obstructed open_
    · rw [Bool.not_eq_true] at unfinished
      have filled := progress.batch_filled validated unfinished
      have counted := count_pending_mark_ready orch.plan
      refine shows_bind (change_plan_shown _ ?_)
      refine shows_ite (fun empty => ?_) fun _ => ?_
      · exact absurd (List.isEmpty_iff.mp empty) filled
      · refine shows_bind ((batch_succeeds unfenced live succeeds _
          progress.mark_ready).mono ?_ fun _ _ none_ => none_)
        rintro failed after ⟨rfl, same, next⟩
        refine shows_ite (fun failed => by simp at failed) fun _ => ih ?_ next
        have some_ := List.length_pos_iff.mpr filled
        have marked : after.plan.count (· == .pending) =
          orch.plan.markReady.count (· == .pending) := same
        omega

theorem execute_succeeds (validated : origin.validate = .ok ())
    (enough : origin.tasks.length < fuel) (benign : Benign execId view)
    (statuses : ∀ taskId status, origin.status? taskId = some status →
      status = .pending ∨ status = .succeeded) :
    Shown (execute rt world fuel) (fun _ after => Done origin execId after)
      (fun _ _ => False) ⟨origin, view⟩ := by
  refine shows_get_bind fun orch looks => ?_
  obtain ⟨rfl, _⟩ := RunView.mk.inj looks
  simp only [validated]
  refine shows_bind (persist_shown (fun _ => ?_) fun stuck => absurd benign.storable stuck)
  have few := count_le_length (· == .pending) orch.plan
  have begins : Progress orch.plan execId [] orch.plan
      (view.planned orch.plan).saved := by
    refine ⟨benign_persisted benign _, evolves_refl _, by simp, by simp, ?_, ?_⟩
    · intro taskId status found
      exact (statuses taskId status found).imp_right Or.inl
    · intro taskId pending finished
      rw [pending] at finished
      simp at finished
  refine shows_bind ((loop_succeeds unfenced live succeeds validated fuel (by omega)
    begins).mono ?_ fun _ _ none_ => none_)
  intro _ after done
  exact shows_get_bind fun final _ => shows_pure done

end runs

section converse

variable (rt : ExecutionRuntime) (world : World) (fuel : Nat)

theorem execute_returns (start : Orchestration) :
    Ends (execute rt world fuel) (fun final after => final = after.plan)
      (fun _ _ => True) start := by
  rw [execute, ends_bind, ends_get]
  split
  · exact trivial
  · rw [ends_bind]
    refine ends_of_all (fun _ saved => ?_) fun _ _ => trivial
    rw [ends_bind]
    refine ends_of_all (fun _ last => ?_) fun _ _ => trivial
    rw [ends_bind, ends_get]
    exact rfl

theorem unfinished_invariant (origin : ExecutionPlan) :
    RunInvariant rt world fuel origin (fun plan view => Evolves origin plan ∧
      (rt.fencing = true → view.standing.status ≠ .completed))
      (fun _ _ _ view => rt.fencing = true → view.standing.status ≠ .completed)
      True where
  marks _ _ evolves kept := ⟨evolves.mark_ready, kept.2⟩
  starts _ _ _ _ kept := kept.2
  dispatches _ plan view task _ _ after turn _ uncompleted conduct := by
    have still : rt.fencing = true → after.standing.status ≠ .completed := by
      intro fenced
      rcases conduct_closed (Or.inl fenced) conduct with rfl | ⟨_, rfl⟩
      · exact uncompleted fenced
      · simp [View.movedTo]
    exact ⟨⟨turn.evolves, still⟩, fun _ _ _ => ⟨fun _ => trivial, fun _ _ => still⟩⟩
  finishes _ _ _ _ _ turn _ moves kept := ⟨turn.moved_evolves moves, kept.2⟩
  completes _ _ unfenced kept _ := by
    have vacuous : rt.fencing = true → ExecutionStatus.completed ≠ .completed := by
      simp [unfenced]
    exact ⟨⟨kept.1, vacuous⟩, ⟨kept.1, vacuous⟩⟩

theorem execute_unfinished {start after : Orchestration} {final : ExecutionPlan}
    (validated : start.plan.validate = .ok ())
    (uncompleted : start.session.context.status ≠ .completed)
    (ran : execute rt world fuel start = .ok final after) :
    final = after.plan ∧ Evolves start.plan after.plan ∧
      (rt.fencing = true → after.session.context.status ≠ .completed) := by
  have base : Evolves start.plan start.plan ∧ (rt.fencing = true →
      (start.session.view.planned start.plan).standing.status ≠ .completed) :=
    ⟨evolves_refl _, fun _ => uncompleted⟩
  have ends := (unfinished_invariant rt world fuel start.plan).execute validated base base
    start rfl
  exact ⟨(execute_returns rt world fuel start).of_ok ran, ends.of_ok ran⟩

end converse

theorem restore_after_crash (rt : ExecutionRuntime) (world : World) (durable : Durable)
    (taken : List Step) (checkpoint : ExecutionContext) (saved : ExecutionPlan)
    (unfailed : checkpoint.lastFailure = .none)
    (planned : checkpoint.plan = some saved.toDict) (validated : saved.validate = .ok ()) :
    ∃ store loaded, (loaded = saved ∨ loaded = saved.sorted) ∧
      restore rt world checkpoint.identity.executionId
      (durable.afterAll rt.sha256 (taken ++ [.save checkpoint])) = .ok {
      plan := normalizeInterruptedTasks loaded
      session := {
      context := restored checkpoint store
      durable := durable.afterAll rt.sha256 (taken ++ [.save checkpoint]) } } := by
  have last : durable.afterAll rt.sha256 (taken ++ [.save checkpoint]) =
      (durable.afterAll rt.sha256 taken).after rt.sha256 (.save checkpoint) := by
    simp [Durable.afterAll]
  obtain ⟨written, accepted⟩ := write_accepted rt.sha256 checkpoint
    (durable.afterAll rt.sha256 taken).checkpoints fun _ => by
      rw [unfailed]
      exact ⟨_, rfl⟩
  have loads := load_write (world.uuid4 0) (world.clock 0) checkpoint _ written accepted
  obtain ⟨body, loaded, holds, reads, same⟩ := restored_plan
    (durable.afterAll rt.sha256 taken).checkpoints planned validated (world.uuid4 0)
  refine ⟨(durable.afterAll rt.sha256 taken).checkpoints, loaded, same, ?_⟩
  rw [last]
  simp only [restore, Durable.after, accepted, loads, bind, Except.bind, holds, reads, pure,
    Except.pure]

/-- `resume` completes the context and every task of the saved plan has SUCCEEDED; those
that had not were invoked or replayed. -/
def ResumesToCompletion (rt : ExecutionRuntime) (world : World) (fuel : Nat)
    (execId : Uuid) (saved : ExecutionPlan) (durable : Durable) : Prop :=
  ∃ final after, resume rt world fuel execId durable = .ok (.ok final after) ∧
    after.session.context.status = .completed ∧
    ∀ task ∈ saved.tasks, final.status? task.taskId = some .succeeded ∧
      (task.status ≠ .succeeded → ∃ step ∈ after.session.trace,
        step.serves (invocationId execId task.taskId) = true)

theorem status_restored {saved loaded : ExecutionPlan}
    (same : loaded = saved ∨ loaded = saved.sorted) (taskId : String) :
    (normalizeInterruptedTasks loaded).status? taskId = (saved.status? taskId).map fun status =>
      if status = .running then .pending else status := by
  rw [status_normalize]
  rcases same with rfl | rfl
  · rfl
  · rw [status_sorted]

theorem same_shape_restored {saved loaded : ExecutionPlan}
    (same : loaded = saved ∨ loaded = saved.sorted) :
    SameShape saved (normalizeInterruptedTasks loaded) := by
  rcases same with rfl | rfl
  · exact same_shape_normalize loaded
  · exact (same_shape_sorted saved).trans (same_shape_normalize _)

theorem benign_restored {checkpoint : ExecutionContext} {store : CheckpointStore}
    {durable : Durable} (sound : checkpoint.standing.Sound)
    (uncompleted : checkpoint.status ≠ .completed)
    (stored : SucceededStored checkpoint.identity.executionId durable.idempotency) :
    Benign checkpoint.identity.executionId
      ({ context := restored checkpoint store, durable := durable } :
      Session).view := by
  have unfailed : checkpoint.lastFailure = .none := sound.unfailed
  have movable : checkpoint.status.isTerminal = false := sound.movable.resolve_right uncompleted
  cases store with
  | inMemory entries => exact ⟨rfl, unfailed, movable, stored⟩
  | _ =>
    refine ⟨rfl, ?_, movable, stored⟩
    change checkpoint.lastFailure.restored = .none
    rw [unfailed]
    rfl

theorem served_step {steps : List Step} {view : View} {invocationId : String} {mark : Mark}
    (trailed : view.trail = trail steps) (mem : mark ∈ view.story)
    (serves : mark.serves invocationId = true) :
    ∃ step ∈ steps, step.serves invocationId = true := by
  have listed := List.mem_of_mem_filter mem
  rw [trailed] at listed
  obtain ⟨step, inside, marked⟩ := mark_mem_trail.mp listed
  exact ⟨step, inside, by simp [serves_mark, marked, serves]⟩

section restored

variable {rt : ExecutionRuntime} {world : World} {fuel : Nat} {execId : Uuid}
  {saved loaded : ExecutionPlan} {session : Session}
  (same : loaded = saved ∨ loaded = saved.sorted) (validated : saved.validate = .ok ())
  (benign : Benign execId session.view)

include same validated benign

theorem resumable_of_completed {after : Orchestration} {final : ExecutionPlan}
    (ran : execute rt world fuel
      { plan := normalizeInterruptedTasks loaded, session := session } = .ok final after)
    (completed : after.session.context.status = .completed)
    (finished : ∀ task ∈ saved.tasks, final.status? task.taskId = some .succeeded) :
    rt.fencing = false ∧ ∀ task ∈ saved.tasks, task.status.isResumable = true := by
  have uncompleted : session.context.status ≠ .completed := by
    intro ended
    have movable : session.context.status.isTerminal = false := benign.movable
    simp [ended, ExecutionStatus.isTerminal] at movable
  obtain ⟨rfl, evolves, fenced⟩ := execute_unfinished rt world fuel
    ((same_shape_restored same).validate validated) uncompleted ran
  refine ⟨?_, ?_⟩
  · by_contra fencing
    rw [Bool.not_eq_false] at fencing
    exact fenced fencing completed
  · intro task mem
    have held : saved.status? task.taskId = some task.status := by
      simp [status?, task_of_mem mem]
    have restored := status_restored same task.taskId
    rw [held, Option.map_some] at restored
    have done := finished task mem
    cases status : task.status with
    | pending => rfl
    | running => rfl
    | succeeded => rfl
    | _ =>
      rw [status] at restored
      have fixed := evolves.fixed task.taskId (by rw [restored]; simp)
      rw [done, restored] at fixed
      simp at fixed

theorem completed_of_resumable (live : ∀ msg, ¬Cancels world msg)
    (succeeds : ∀ taskId spec, saved.spec? taskId = some spec →
      ∃ contract, spec.Succeeds rt world contract)
    (enough : saved.tasks.length < fuel) (unfenced : rt.fencing = false)
    (resumable : ∀ task ∈ saved.tasks, task.status.isResumable = true) :
    ∃ final after, execute rt world fuel
      { plan := normalizeInterruptedTasks loaded, session := session } = .ok final after ∧
      after.session.context.status = .completed ∧
      ∀ task ∈ saved.tasks, final.status? task.taskId = some .succeeded ∧
      (task.status ≠ .succeeded → ∃ step ∈ after.session.trace,
      step.serves (invocationId execId task.taskId) = true) := by
  have shape := same_shape_restored same
  have statuses : ∀ taskId status, (normalizeInterruptedTasks loaded).status? taskId = some status →
        status = .pending ∨ status = .succeeded := by
    intro taskId status found
    rw [status_restored same] at found
    obtain ⟨held, known, rfl⟩ := Option.map_eq_some_iff.mp found
    obtain ⟨task, listed, rfl⟩ := Option.map_eq_some_iff.mp known
    have kind := resumable task (task_mem listed).1
    cases status : task.status <;> simp [status, TaskStatus.isResumable] at kind ⊢
  have ends := execute_succeeds unfenced live
    (fun taskId spec found => succeeds taskId spec ((shape taskId).symm.trans found))
    (shape.validate validated) (by rw [shape.length]; exact enough) benign statuses
    { plan := normalizeInterruptedTasks loaded, session := session } rfl
  have returns := execute_returns rt world fuel
    { plan := normalizeInterruptedTasks loaded, session := session }
  unfold Ends at ends returns
  cases ran : execute rt world fuel
      { plan := normalizeInterruptedTasks loaded, session := session } with
  | error raised after =>
    simp only [ran] at ends
  | ok final after =>
    simp only [ran] at ends returns
    subst returns
    refine ⟨after.plan, after, rfl, ends.completed, ?_⟩
    intro task mem
    have held : saved.status? task.taskId = some task.status := by
      simp [status?, task_of_mem mem]
    have listed : task.taskId ∈ after.plan.ids := by
      have lastShape : SameShape saved after.plan := shape.trans ends.evolves.shape
      rw [lastShape.mem_ids]
      exact List.mem_map.mpr ⟨task, mem, rfl⟩
    obtain ⟨last, found⟩ := mem_ids_iff.mp listed
    have status : after.plan.status? task.taskId = some last.status := by
      simp [status?, found]
    refine ⟨by rw [status, ends.finished _ _ status], fun unfinished => ?_⟩
    have pending : (normalizeInterruptedTasks loaded).status? task.taskId = some .pending := by
      have kind := resumable task mem
      rw [status_restored same, held]
      cases status : task.status <;>
        simp [status, TaskStatus.isResumable] at kind unfinished ⊢
    obtain ⟨mark, told, serves⟩ := ends.served task.taskId pending
    exact served_step rfl told serves

end restored

/-- A worker crashes right after a checkpoint, with every invocation so far SUCCEEDED and
the context not completed. If from then on every invocation succeeds, `resume` finishes
the plan exactly if no fencing store is configured and every task of the saved plan is
PENDING, RUNNING or SUCCEEDED. -/
theorem resume_completes_iff (rt : ExecutionRuntime) (launch : Launch)
    (plan : ExecutionPlan) (ctx checkpoint : ExecutionContext) (durable : Durable)
    (taken : List Step) (world : World) (fuel : Nat) (validated : plan.validate = .ok ())
    (unfailed : ctx.lastFailure = .none) (movable : ctx.status.isTerminal = false)
    (stored : SucceededStored ctx.identity.executionId durable.idempotency)
    (crashed : launch.executed rt
      { plan := plan, session := { context := ctx, durable := durable } } =
      taken ++ [.save checkpoint])
    (succeeded : ∀ step ∈ taken, step.succeeds = true)
    (uncompleted : checkpoint.status ≠ .completed)
    (succeeds : ∀ task ∈ plan.tasks, ∃ contract, task.spec.Succeeds rt world contract)
    (live : ∀ moment, (world.cancellation moment).cancelled = false)
    (enough : plan.tasks.length < fuel) :
    ∃ saved : ExecutionPlan, checkpoint.plan = some saved.toDict ∧ saved.validate = .ok () ∧
      (ResumesToCompletion rt world fuel ctx.identity.executionId saved
      (durable.afterAll rt.sha256 (taken ++ [.save checkpoint])) ↔
      rt.fencing = false ∧ ∀ task ∈ saved.tasks, task.status.isResumable = true) := by
  let start : Orchestration := {
    plan := plan, session := { context := ctx, durable := durable } }
  have sound : start.session.context.standing.Sound := ⟨unfailed, Or.inl movable⟩
  have left := Launch.crash_leaves_sound rfl validated sound crashed succeeded
  have lastSaved : Step.save checkpoint ∈ launch.executed rt start := by
    rw [crashed]
    simp
  obtain ⟨ident, saved, planned, from_⟩ := Launch.executed_save_safe rfl lastSaved
  have own : checkpoint.identity.executionId = ctx.identity.executionId := ident
  obtain ⟨store, loaded, same, restored⟩ := restore_after_crash rt world durable taken
    checkpoint saved left.standing.unfailed planned from_.validated
  rw [own] at restored
  have kept : SucceededStored checkpoint.identity.executionId
      (durable.afterAll rt.sha256 (taken ++ [.save checkpoint])).idempotency := by
    rw [own]
    refine stored.after_all _ fun key res mem => left.stored key res ?_
    simpa using mem
  have benign := @benign_restored checkpoint store _ left.standing uncompleted kept
  rw [own] at benign
  have cancels := not_cancels live
  have answers : ∀ taskId spec, saved.spec? taskId = some spec →
      ∃ contract, spec.Succeeds rt world contract := by
    intro taskId spec found
    obtain ⟨task, held, rfl⟩ := Option.map_eq_some_iff.mp
      ((from_.evolves.shape taskId).symm.trans found)
    exact succeeds task (task_mem held).1
  refine ⟨saved, planned, from_.validated, ?_⟩
  unfold ResumesToCompletion resume
  rw [restored]
  constructor
  · rintro ⟨final, after, ran, completed, finished⟩
    exact resumable_of_completed same from_.validated benign (Except.ok.inj ran) completed
      fun task mem => (finished task mem).1
  · rintro ⟨unfenced, resumable⟩
    obtain ⟨final, after, ran, done⟩ := completed_of_resumable same from_.validated benign
      cancels answers (by rw [from_.evolves.shape.length]; exact enough) unfenced resumable
    exact ⟨final, after, congrArg Except.ok ran, done⟩

/-- The plan once the first task of `chainPlan` has succeeded. -/
def chainAfterFirst : ExecutionPlan :=
  (chainPlan.markReady.setStatus "a" .running).succeed "a" .null

/-- The context when the first task of `chainPlan` has succeeded. -/
def contextAfterFirst : ExecutionContext :=
  let saved := (persist publishRuntime succeedingLaunch.world).stateAfter (startOf chainPlan)
  let turn := runTask publishRuntime succeedingLaunch.world 10
    { taskId := "a", capabilityId := "publish", capabilityVersion := "1.0.0" }
  (turn.stateAfter { saved with plan := saved.plan.markReady }).session.context

/-- A worker that crashes when the first task of `chainPlan` has succeeded. -/
theorem chain_resumes_after_first :
    let launch : Launch := { succeedingLaunch with crash := some 15 }
    let steps := launch.executed publishRuntime (startOf chainPlan)
    steps = steps.dropLast ++ [.save contextAfterFirst] ∧
      ResumesToCompletion publishRuntime succeedingLaunch.world 10 ⟨1⟩ chainAfterFirst
      (emptyStores.afterAll publishRuntime.sha256
      (steps.dropLast ++ [.save contextAfterFirst])) := by
  intro launch steps
  have crashed : steps = steps.dropLast ++ [.save contextAfterFirst] := by decide +kernel
  have valid : chainAfterFirst.validate = .ok () := by decide +kernel
  have answers : ∀ task ∈ chainPlan.tasks, ∃ contract,
      task.spec.Succeeds publishRuntime succeedingLaunch.world contract := by
    intro task mem
    refine ⟨{ capabilityId := "publish", version := "1.0.0" }, ?_, fun _ _ => rfl,
      fun _ _ _ => ⟨true, rfl⟩, fun _ _ _ => ⟨_, rfl, rfl, rfl, rfl⟩, fun _ _ _ => rfl⟩
    revert task
    decide
  obtain ⟨saved, planned, accepted, completes⟩ := resume_completes_iff publishRuntime launch
    chainPlan (.fresh ⟨1⟩ "default") contextAfterFirst emptyStores steps.dropLast
    succeedingLaunch.world 10 (by decide +kernel) rfl rfl
    (fun taskId res found => by simp [emptyStores, IdempotencyStore.get] at found) crashed
    (by decide +kernel) (by decide +kernel) answers (fun _ => rfl) (by decide)
  have same : saved.toDict = chainAfterFirst.toDict :=
    Option.some.inj (planned.symm.trans (by decide +kernel))
  have reads := from_dict_to_dict ⟨0⟩ saved accepted
  rw [same, from_dict_to_dict ⟨0⟩ chainAfterFirst valid, Except.ok.injEq] at reads
  subst reads
  exact ⟨crashed, completes.mpr ⟨rfl, by decide⟩⟩

/-- A worker crashes when the first of two tasks of a batch is RUNNING and the second one
is READY: the second one is never run again. -/
theorem ready_sibling_blocks_resume :
    let launch : Launch := { succeedingLaunch with crash := some 2 }
    let steps := launch.executed publishRuntime (startOf pairPlan)
    pairPlan.validate = .ok () ∧ (∀ step ∈ steps, step.succeeds = true) ∧
      (∃ taken checkpoint, steps = taken ++ [.save checkpoint] ∧
      checkpoint.status ≠ .completed) ∧
      (resume publishRuntime succeedingLaunch.world 10 ⟨1⟩
      (emptyStores.afterAll publishRuntime.sha256 steps)).map outcomeOf =
      .ok (.error (.exception ⟨.planExecutionError,
      "No executable tasks remain. The plan may be blocked."⟩)) := by
  intro launch steps
  refine ⟨by decide +kernel, by decide +kernel, ?_, by decide +kernel⟩
  refine ⟨steps.dropLast, { ExecutionContext.fresh ⟨1⟩ "default" with
    currentNode := some "a"
    plan := some (pairPlan.markReady.setStatus "a" .running).toDict }, ?_, by decide⟩
  decide +kernel

end PlanOrchestrator

end Ois.Kernel
