import Mathlib.Logic.Relation
import Ois.Kernel.Launches

/-!
# Dependencies come first

The orchestrator calls the runtime for a task only when its dependencies have succeeded, and never
for a task that its checkpoint has as SUCCEEDED.
-/

namespace Ois.Kernel

open Ois.Library Ois.Infrastructure Command ExecutionRuntime ExecutionPlan Step

namespace ExecutionPlan

/-- Every SUCCEEDED task has only SUCCEEDED dependencies. -/
def Closed (plan : ExecutionPlan) : Prop :=
  ∀ taskId, plan.status? taskId = some .succeeded →
    ∀ dep ∈ plan.dependenciesOf taskId, plan.status? dep = some .succeeded

/-- The first task depends on the second one, directly or through others. -/
def Descends (plan : ExecutionPlan) : String → String → Prop :=
  Relation.TransGen fun taskId dep => dep ∈ plan.dependenciesOf taskId

theorem Closed.congr {before after : ExecutionPlan} (same : SameShape before after)
    (statuses : ∀ taskId, after.status? taskId = some .succeeded ↔
      before.status? taskId = some .succeeded) (closed : before.Closed) : after.Closed := by
  intro taskId finished dep listed
  rw [statuses] at finished ⊢
  rw [same.dependencies_of] at listed
  exact closed taskId finished dep listed

variable {plan : ExecutionPlan}

theorem Closed.sorted (closed : plan.Closed) : plan.sorted.Closed :=
  closed.congr (same_shape_sorted plan) fun taskId => by rw [status_sorted]

theorem Closed.normalize (closed : plan.Closed) :
    (PlanOrchestrator.normalizeInterruptedTasks plan).Closed := by
  refine closed.congr (same_shape_normalize plan) fun taskId => ?_
  rw [status_normalize]
  cases found : plan.status? taskId with
  | none => simp
  | some status => cases status <;> simp

theorem Closed.mark_ready (closed : plan.Closed) : plan.markReady.Closed := by
  refine closed.congr (same_shape_mark_ready plan) fun taskId => ⟨fun finished => ?_, fun
    finished => status_mark_ready_of_ne_pending plan taskId finished (by simp)⟩
  rw [markReady, status_modify] at finished
  obtain ⟨task, found, marked⟩ := Option.map_eq_some_iff.mp finished
  split_ifs at marked
  simp [status?, found, marked]

theorem Closed.moved {origin plan after : ExecutionPlan} {task : TaskNode}
    {held next : TaskStatus} (closed : plan.Closed) (turn : InTurn origin plan task held)
    (unfinished : held ≠ .succeeded) (moves : MovesTask task.taskId next plan after) :
    after.Closed := by
  have keeps : ∀ taskId, plan.status? taskId = some .succeeded →
      after.status? taskId = some .succeeded := by
    intro taskId finished
    rw [moves.statuses, if_neg, finished]
    rintro rfl
    rw [turn.status, Option.some.injEq] at finished
    exact unfinished finished
  intro taskId finished dep listed
  rw [moves.shape.dependencies_of] at listed
  by_cases own : taskId = task.taskId
  · subst own
    rw [dependencies_of_spec, turn.spec] at listed
    exact keeps dep (turn.dependencies dep listed)
  · rw [moves.statuses, if_neg own] at finished
    exact keeps dep (closed taskId finished dep listed)

theorem finished_of_descends (closed : plan.Closed) {taskId ancestor : String}
    (dependencies : ∀ dep ∈ plan.dependenciesOf taskId,
      plan.status? dep = some .succeeded)
    (descends : plan.Descends taskId ancestor) : plan.status? ancestor = some .succeeded := by
  induction descends with
  | single listed => exact dependencies _ listed
  | tail _ listed finished => exact closed _ finished _ listed

structure Descendant (origin plan : ExecutionPlan) : Prop where
  evolves : Evolves origin plan
  validated : plan.validate = .ok ()
  closed : origin.Closed → plan.Closed

end ExecutionPlan

structure SafeDispatch (origin plan : ExecutionPlan) (taskId : String) : Prop where
  from_ : Descendant origin plan
  pending : origin.status? taskId = some .pending
  dependencies : ∀ dep ∈ plan.dependenciesOf taskId,
    plan.status? dep = some .succeeded

def Mark.Safe (origin : ExecutionPlan) (execId : Uuid) : Mark → Prop
  | .saved standing => standing.identity.executionId = execId ∧
      ∃ plan : ExecutionPlan, standing.plan = some plan.toDict ∧ Descendant origin plan
  | .dispatched plan taskId => SafeDispatch origin plan taskId
  | _ => True

namespace PlanOrchestrator

variable {rt : ExecutionRuntime} {world : World} {origin plan : ExecutionPlan}
  {execId : Uuid} {view : View}

structure DispatchesSafely (origin : ExecutionPlan) (execId : Uuid)
    (plan : ExecutionPlan) (view : View) : Prop where
  validated : origin.validate = .ok ()
  closed : origin.Closed → plan.Closed
  identity : view.standing.identity.executionId = execId
  written : ∃ written : ExecutionPlan, view.standing.plan = some written.toDict ∧
    Descendant origin written
  marks : ∀ mark ∈ view.trail, mark.Safe origin execId

theorem DispatchesSafely.replan {next : ExecutionPlan}
    (safe : DispatchesSafely origin execId plan view)
    (closed : origin.Closed → next.Closed) : DispatchesSafely origin execId next view :=
  ⟨safe.validated, closed, safe.identity, safe.written, safe.marks⟩

theorem DispatchesSafely.saved (safe : DispatchesSafely origin execId plan view) :
    DispatchesSafely origin execId plan view.saved := by
  refine ⟨safe.validated, safe.closed, safe.identity, safe.written, ?_⟩
  intro mark mem
  rcases List.mem_append.mp mem with old | new
  · exact safe.marks mark old
  · rw [List.mem_singleton.mp new]
    exact ⟨safe.identity, safe.written⟩

theorem DispatchesSafely.planned (safe : DispatchesSafely origin execId plan view)
    (evolves : Evolves origin plan) :
    DispatchesSafely origin execId plan (view.planned plan) :=
  ⟨safe.validated, safe.closed, safe.identity,
    ⟨plan, rfl, evolves, evolves.shape.validate safe.validated, safe.closed⟩, safe.marks⟩

theorem DispatchesSafely.dispatched {task : TaskNode} {after : View}
    (safe : DispatchesSafely origin execId plan view)
    (turn : InTurn origin plan task .running)
    (keeps : Keeps (view.marked (.dispatched plan task.taskId)) after) :
    DispatchesSafely origin execId plan after := by
  obtain ⟨marks, grows, within⟩ := keeps.trail
  refine ⟨safe.validated, safe.closed, ?_, ?_, ?_⟩
  · rw [keeps.identity]
    exact safe.identity
  · rw [keeps.plan]
    exact safe.written
  · intro mark mem
    rw [grows, View.marked, List.append_assoc, List.mem_append, List.mem_append,
      List.mem_singleton] at mem
    rcases mem with old | rfl | new
    · exact safe.marks mark old
    · refine ⟨⟨turn.evolves, turn.evolves.shape.validate safe.validated, safe.closed⟩,
        turn.pending, ?_⟩
      rw [dependencies_of_spec, turn.spec]
      exact turn.dependencies
    · have inside := within mark new
      cases mark with
      | saved standing =>
        obtain ⟨samePlan, sameIdentity⟩ := inside
        refine ⟨by rw [sameIdentity]; exact safe.identity, ?_⟩
        rw [samePlan]
        exact safe.written
      | dispatched other taskId => exact absurd inside id
      | _ => trivial

theorem dispatches_safely_invariant (rt : ExecutionRuntime) (world : World)
    (origin : ExecutionPlan) (execId : Uuid) (fuel : Nat) :
    RunInvariant rt world fuel origin (DispatchesSafely origin execId)
      (fun _ plan _ view => DispatchesSafely origin execId plan view) True where
  marks plan view _ safe := safe.replan fun closed => (safe.closed closed).mark_ready
  starts plan view task turn safe := by
    have moves := set_status_moves_task plan task.taskId .running
    have closed := fun given => (safe.closed given).moved turn (by simp) moves
    exact ((safe.replan closed).planned (turn.moved_evolves moves)).saved
  dispatches left plan view task fresh out after turn _ safe conduct := by
    have dispatched := safe.dispatched turn (conduct_keeps conduct)
    exact ⟨dispatched, fun _ _ _ => ⟨fun _ => trivial, fun _ _ => dispatched⟩⟩
  finishes plan view task next after turn _ moves safe := by
    have closed := fun given => (safe.closed given).moved turn (by simp) moves
    exact ((safe.replan closed).planned (turn.moved_evolves moves)).saved
  completes plan view _ safe _ := by
    have moved : DispatchesSafely origin execId plan (view.movedTo .completed) :=
      ⟨safe.validated, safe.closed, safe.identity, safe.written, safe.marks⟩
    exact ⟨moved, moved.saved⟩

theorem execute_marks_safe (fuel : Nat) (orch : Orchestration)
    (fresh : orch.session.trace = []) :
    ∀ mark ∈ trail ((execute rt world fuel).stateAfter orch).session.trace,
      mark.Safe orch.plan orch.session.context.identity.executionId := by
  cases validated : orch.plan.validate with
  | error err =>
    have silent : (execute rt world fuel).stateAfter orch = orch := by
      simp [execute, stateAfter, Command.run_bind, Command.run_get, Command.run_throw,
        validated]
    rw [silent, fresh]
    simp [trail]
  | ok accepted =>
    have base : DispatchesSafely orch.plan
        orch.session.context.identity.executionId orch.plan
        (orch.session.view.planned orch.plan) := by
      refine ⟨validated, id, rfl, ⟨_, rfl, evolves_refl _, validated, id⟩, ?_⟩
      intro mark mem
      have empty : (orch.session.view.planned orch.plan).trail = [] := by
        simp [View.planned, Session.view, fresh, trail]
      simp [empty] at mem
    have ends := (dispatches_safely_invariant rt world _ _ fuel).execute validated base
      base.saved orch rfl
    exact (Ends.outcome (fun _ (after : Orchestration) => DispatchesSafely orch.plan
      orch.session.context.identity.executionId after.plan after.session.view)
      (ends.mono (fun _ _ safe => safe) fun _ _ safe => safe.1)).marks

end PlanOrchestrator

open PlanOrchestrator

namespace Launch

variable {rt : ExecutionRuntime} {launch : Launch} {orch : Orchestration}

theorem executed_dispatch_safe (fresh : orch.session.trace = [])
    {plan : ExecutionPlan} {taskId : String}
    (dispatched : dispatch plan taskId ∈ launch.executed rt orch) :
    SafeDispatch orch.plan plan taskId :=
  execute_marks_safe launch.fuel orch fresh _
    (dispatch_mem_iff.mp (launch.executed_subset rt orch dispatched))

theorem executed_save_safe (fresh : orch.session.trace = [])
    {ctx : ExecutionContext}
    (saved : save ctx ∈ launch.executed rt orch) :
    ctx.identity.executionId = orch.session.context.identity.executionId ∧
      ∃ plan : ExecutionPlan, ctx.plan = some plan.toDict ∧
        Descendant orch.plan plan :=
  execute_marks_safe launch.fuel orch fresh _
    (saved_mem_trail (launch.executed_subset rt orch saved))

end Launch

open Launch

/-- The checkpoint of an execution, if there is one, is its own and has a closed
plan. -/
def ClosedCheckpoint (sha256 : Json.Text → String) (execId : Uuid) (durable : Durable) :
    Prop :=
  ∀ ctx, Checkpoint sha256 execId durable ctx →
    ctx.identity.executionId = execId ∧
      ∀ body drawn plan, ctx.plan = some body →
        ExecutionPlan.fromDict drawn body = .ok plan → plan.Closed

section history

variable {rt : ExecutionRuntime} {execId : Uuid}

theorem closed_checkpoint_executed (launch : Launch) (orch : Orchestration)
    (fresh : orch.session.trace = [])
    (own : orch.session.context.identity.executionId = execId)
    (closed : orch.plan.Closed)
    (before : ClosedCheckpoint rt.sha256 execId orch.session.durable) :
    ClosedCheckpoint rt.sha256 execId (orch.session.durable.afterAll
      rt.sha256 (launch.executed rt orch)) := by
  intro found checkpoint
  rcases checkpoint_after_all _ _ (fun ctx saved =>
    (executed_save_safe fresh saved).1.trans own) checkpoint with
    past | ⟨ctx, saved, store, rfl⟩
  · exact before found past
  · obtain ⟨ident, plan, planned, from_⟩ := executed_save_safe fresh saved
    refine ⟨by rw [restored_identity, ident, own], ?_⟩
    intro body drawn read holds reads
    obtain ⟨entry, loaded, entered, loads, same⟩ :=
      restored_plan store planned from_.validated drawn
    rw [entered, Option.some.injEq] at holds
    rw [← holds, loads, Except.ok.injEq] at reads
    rw [← reads]
    rcases same with rfl | rfl
    · exact from_.closed closed
    · exact (from_.closed closed).sorted

theorem closed_checkpoint_resumed (launch : Launch) (durable : Durable)
    (before : ClosedCheckpoint rt.sha256 execId durable) :
    ClosedCheckpoint rt.sha256 execId
      (durable.afterAll rt.sha256 (launch.resumed rt execId durable)) := by
  unfold resumed
  cases restored : restore rt launch.world execId durable with
  | error err => exact before
  | ok orch =>
    obtain ⟨ctx, body, plan, loads, planned, reads, rfl⟩ :=
      restore_ok restored
    obtain ⟨own, closed⟩ := before ctx ⟨_, _, loads⟩
    exact closed_checkpoint_executed launch
      { plan := normalizeInterruptedTasks plan
        session := { context := ctx, durable := durable } }
      rfl own (closed body _ plan planned reads).normalize before

theorem closed_checkpoint_durable_after (launches : List Launch) (durable : Durable)
    (before : ClosedCheckpoint rt.sha256 execId durable) :
    ClosedCheckpoint rt.sha256 execId
      (durableAfter rt execId launches durable) := by
  induction launches generalizing durable with
  | nil => exact before
  | cons launch rest ih => exact ih _ (closed_checkpoint_resumed launch durable before)

theorem resumed_dispatch_safe {launch : Launch} {durable : Durable} {plan : ExecutionPlan}
    {taskId : String}
    (dispatched : dispatch plan taskId ∈ launch.resumed rt execId durable) :
    ∃ ctx body found, durable.checkpoints.load rt.sha256 (launch.world.uuid4 0)
        (launch.world.clock 0) execId = .ok ctx ∧ ctx.plan = some body ∧
      ExecutionPlan.fromDict (launch.world.uuid4 0) body = .ok found ∧
      SafeDispatch (normalizeInterruptedTasks found) plan taskId := by
  unfold resumed at dispatched
  cases restored : restore rt launch.world execId durable with
  | error err => simp [restored] at dispatched
  | ok orch =>
    rw [restored] at dispatched
    obtain ⟨ctx, body, found, loads, planned, reads, rfl⟩ :=
      restore_ok restored
    exact ⟨ctx, body, found, loads, planned, reads,
      executed_dispatch_safe rfl dispatched⟩

end history

theorem SafeDispatch.no_failed_ancestor {origin plan : ExecutionPlan}
    {taskId ancestor : String} (safe : SafeDispatch origin plan taskId)
    (closed : origin.Closed) (descends : plan.Descends taskId ancestor) :
    plan.status? ancestor ≠ some .failed := by
  rw [finished_of_descends (safe.from_.closed closed) safe.dependencies descends]
  simp

/-- Any runs of `execute` and `resume`, with crashes in between.

A task is dispatched only when its dependencies have succeeded, and never when the
checkpoint of the run has it as SUCCEEDED. From a closed plan on, no ancestor of a
dispatched task has failed. -/
theorem dispatches_follow_dependencies (rt : ExecutionRuntime) (origin : ExecutionPlan)
    (ctx : ExecutionContext) (durable : Durable) :
    let start : Orchestration := {
      plan := origin, session := { context := ctx, durable := durable } }
    let execId := ctx.identity.executionId
    (∀ (launch : Launch) (plan : ExecutionPlan) (taskId : String),
      dispatch plan taskId ∈ launch.executed rt start →
        ∀ dep ∈ plan.dependenciesOf taskId,
          plan.status? dep = some .succeeded) ∧
    (∀ (launch : Launch) (stores : Durable) (plan : ExecutionPlan) (taskId : String),
      dispatch plan taskId ∈ launch.resumed rt execId stores →
        (∀ dep ∈ plan.dependenciesOf taskId,
          plan.status? dep = some .succeeded) ∧
        ∀ checkpoint body found,
          stores.checkpoints.load rt.sha256 (launch.world.uuid4 0) (launch.world.clock 0)
            execId = .ok checkpoint → checkpoint.plan = some body →
          ExecutionPlan.fromDict (launch.world.uuid4 0) body = .ok found →
            found.status? taskId ≠ some .succeeded) ∧
    (origin.Closed → ClosedCheckpoint rt.sha256 execId durable →
      ∀ (first last : Launch) (launches : List Launch) (plan : ExecutionPlan)
        (taskId ancestor : String),
      dispatch plan taskId ∈ first.executed rt start ∨
        dispatch plan taskId ∈ last.resumed rt execId
          (durableAfter rt execId launches
            (durable.afterAll rt.sha256 (first.executed rt start))) →
      plan.Descends taskId ancestor → plan.status? ancestor ≠ some .failed) := by
  intro start execId
  refine ⟨?_, ?_, ?_⟩
  · intro launch plan taskId dispatched
    exact (executed_dispatch_safe rfl dispatched).dependencies
  · intro launch stores plan taskId dispatched
    obtain ⟨checkpoint, body, found, loads, planned, reads, safe⟩ :=
      resumed_dispatch_safe dispatched
    refine ⟨safe.dependencies, ?_⟩
    intro other otherPayload otherFound otherLoads otherPlanned otherReads finished
    rw [loads, Except.ok.injEq] at otherLoads
    subst otherLoads
    rw [planned, Option.some.injEq] at otherPlanned
    subst otherPlanned
    rw [reads, Except.ok.injEq] at otherReads
    subst otherReads
    have pending := safe.pending
    rw [status_normalize, finished] at pending
    simp at pending
  · intro closed before first last launches plan taskId ancestor dispatched descends
    rcases dispatched with executed | resumed
    · exact (executed_dispatch_safe rfl executed).no_failed_ancestor closed descends
    · obtain ⟨checkpoint, body, found, loads, planned, reads, safe⟩ :=
        resumed_dispatch_safe resumed
      have kept := closed_checkpoint_durable_after launches _
        (closed_checkpoint_executed first start rfl rfl closed before)
      have closedFound := (kept checkpoint ⟨_, _, loads⟩).2 body _ found planned reads
      exact safe.no_failed_ancestor closedFound.normalize descends

/-- A task that succeeded although the task it depends on failed, and a third one
that depends on it. -/
def openPlan : ExecutionPlan :=
  { planId := "p"
    tasks := [
      { taskId := "a", capabilityId := "publish", capabilityVersion := "1.0.0"
        status := .failed },
      { taskId := "b", capabilityId := "publish", capabilityVersion := "1.0.0"
        dependencies := ["a"], status := .succeeded },
      { taskId := "c", capabilityId := "publish", capabilityVersion := "1.0.0"
        dependencies := ["b"] }] }

def chainPlan : ExecutionPlan :=
  { planId := "p"
    tasks := [
      { taskId := "a", capabilityId := "publish", capabilityVersion := "1.0.0" },
      { taskId := "b", capabilityId := "publish", capabilityVersion := "1.0.0"
        dependencies := ["a"] },
      { taskId := "c", capabilityId := "publish", capabilityVersion := "1.0.0"
        dependencies := ["b"] }] }

def succeedingLaunch : Launch :=
  { world := .ending fun req => .returned {
      invocationId := req.invocationId, capabilityId := req.capabilityId
      status := .succeeded }
    fuel := 10 }

/-- The plan when the third task of `chainPlan` is dispatched. -/
def lastTurn : ExecutionPlan :=
  ((((chainPlan.markReady.setStatus "a" .running).succeed "a" .null).markReady.setStatus "b"
    .running).succeed "b" .null).markReady.setStatus "c" .running

theorem chain_ancestor_not_failed :
    dispatch lastTurn "c" ∈
        succeedingLaunch.executed publishRuntime (startOf chainPlan) ∧
      lastTurn.status? "a" ≠ some .failed := by
  have dispatched : dispatch lastTurn "c" ∈
      succeedingLaunch.executed publishRuntime (startOf chainPlan) := by
    decide +kernel
  have unfinished : ∀ taskId, chainPlan.status? taskId ≠ some .succeeded := by
    intro taskId finished
    obtain ⟨task, found, succeeded⟩ := Option.map_eq_some_iff.mp finished
    have waiting : ∀ task ∈ chainPlan.tasks, task.status ≠ .succeeded := by decide
    exact waiting task (task_mem found).1 succeeded
  refine ⟨dispatched, (dispatches_follow_dependencies publishRuntime chainPlan
    (.fresh ⟨1⟩ "default") emptyStores).2.2 ?_ ?_ succeedingLaunch succeedingLaunch []
    lastTurn "c" "a" (Or.inl dispatched) ?_⟩
  · intro taskId finished
    exact absurd finished (unfinished taskId)
  · rintro ctx ⟨fresh, now, loads⟩
    simp [emptyStores, CheckpointStore.load] at loads
  · exact .tail (.single (by decide : "b" ∈ lastTurn.dependenciesOf "c"))
      (by decide : "a" ∈ lastTurn.dependenciesOf "b")

/-- The validated plan `openPlan` is run although its last task descends from a
FAILED one. -/
theorem failed_ancestor_dispatched :
    openPlan.validate = .ok () ∧ ∃ plan : ExecutionPlan,
      dispatch plan "c" ∈ succeedingLaunch.executed publishRuntime (startOf openPlan) ∧
      plan.Descends "c" "a" ∧ plan.status? "a" = some .failed := by
  refine ⟨by decide +kernel, openPlan.markReady.setStatus "c" .running, by decide +kernel, ?_,
    by decide⟩
  exact .tail (.single (by decide : "b" ∈ (openPlan.markReady.setStatus "c"
    .running).dependenciesOf "c")) (by decide : "a" ∈ (openPlan.markReady.setStatus "c"
    .running).dependenciesOf "b")

/-- Wherever runs of `execute` and `resume` crash, the plan in the checkpoint that they leave shows
a task as SUCCEEDED only if it shows all tasks that it descends from as SUCCEEDED. -/
theorem recovered_ancestors_succeeded (rt : ExecutionRuntime) {origin : ExecutionPlan}
    {ctx : ExecutionContext} {durable : Durable} (closed : origin.Closed)
    (unsaved : ∀ found,
      ¬Checkpoint rt.sha256 ctx.identity.executionId durable found)
    (first : Launch) (launches : List Launch) {checkpoint : ExecutionContext}
    (left : Checkpoint rt.sha256 ctx.identity.executionId
      (durableAfter rt ctx.identity.executionId launches (durable.afterAll rt.sha256
        (first.executed rt ⟨origin, { context := ctx, durable := durable }⟩))) checkpoint)
    {body : Members} {drawn : Uuid} {plan : ExecutionPlan}
    (planned : checkpoint.plan = some body)
    (reads : ExecutionPlan.fromDict drawn body = .ok plan) {taskId ancestor : String}
    (finished : plan.status? taskId = some .succeeded) (descends : plan.Descends taskId ancestor) :
    plan.status? ancestor = some .succeeded := by
  have kept := closed_checkpoint_durable_after launches _
    (closed_checkpoint_executed first ⟨origin, { context := ctx, durable := durable }⟩ rfl rfl
      closed fun found there => absurd there (unsaved found))
  have whole := (kept checkpoint left).2 body drawn plan planned reads
  exact finished_of_descends whole (whole taskId finished) descends

/-- The plan that `resume` finds when `chainPlan` was run to its end. -/
def chainLeft : Option ExecutionPlan := do
  let stores := emptyStores.afterAll publishRuntime.sha256
    (succeedingLaunch.executed publishRuntime (startOf chainPlan))
  let loaded := stores.checkpoints.load publishRuntime.sha256 ⟨0⟩ DateTime.epoch ⟨1⟩
  (ExecutionPlan.fromDict ⟨0⟩ (← (← loaded.toOption).plan)).toOption

theorem chain_ancestor_recovered :
    ∃ plan, chainLeft = some plan ∧ plan.status? "a" = some .succeeded := by
  have left : (chainLeft.map fun plan => (plan.status? "c",
      decide ("b" ∈ plan.dependenciesOf "c"), decide ("a" ∈ plan.dependenciesOf "b"))) =
      some (some .succeeded, true, true) := by decide +kernel
  obtain ⟨plan, found, same⟩ := Option.map_eq_some_iff.mp left
  obtain ⟨finished, middle, last⟩ := by simpa using same
  obtain ⟨checkpoint, loads, body, planned, reads⟩ :
      ∃ checkpoint, _ ∧ ∃ body, _ ∧ _ := by
    simpa only [chainLeft, bind, Option.bind_eq_some_iff] using found
  have ok {Value : Type} {res : Except PyError Value} {value : Value}
      (read : res.toOption = some value) : res = .ok value := by
    cases res <;> simp_all [Except.toOption]
  refine ⟨plan, found, @recovered_ancestors_succeeded publishRuntime chainPlan
    (.fresh ⟨1⟩ "default") emptyStores ?_ ?_ succeedingLaunch [] checkpoint ⟨_, _, ok loads⟩ body
    ⟨0⟩ plan planned (ok reads) "c" "a" finished (.tail (.single middle) last)⟩
  · intro taskId finished
    obtain ⟨task, there, succeeded⟩ := Option.map_eq_some_iff.mp finished
    have waiting : ∀ task ∈ chainPlan.tasks, task.status ≠ .succeeded := by decide
    exact absurd succeeded (waiting task (task_mem there).1)
  · rintro ctx ⟨fresh, now, loads⟩
    simp [emptyStores, CheckpointStore.load] at loads

end Ois.Kernel
