import Ois.ControlPlane.Lifecycle
import Ois.Kernel.BoundedRetries
import Ois.Kernel.LastCalls
import Ois.Kernel.Recovery

/-!
# Runs of an integrated execution

`IntegratedExecution` of `execution.py`: one capability as a plan of one task, run by the
orchestrator under the recovery policy of the runtime, and supervised under a recovery policy of
its own. Both policies move the same context.
-/

namespace Ois.ControlPlane

open Ois.Library Ois.Kernel Command ExecutionRuntime PlanOrchestrator

/-- `resolve` is `resolve_capability` of the control plane. -/
structure IntegratedExecution where
  runtime : ExecutionRuntime
  resolve : ControlRequest → Except PyError Unit
  recovery : RecoveryPolicy := {}

/-- The arguments of `execute`. -/
structure IntegratedCall where
  objective : String
  request : ControlRequest
  tenantId : String := "default"
  metadata : Members := []
  deriving DecidableEq, Repr

structure Draws where
  durable : Durable
  planId : Uuid
  executionId : Uuid
  createdAt : DateTime
  updatedAt : DateTime

namespace IntegratedExecution

def primaryTask (req : ControlRequest) : TaskNode :=
  { taskId := "primary", capabilityId := req.capabilityId
    capabilityVersion := req.capabilityVersion, inputData := req.input }

def buildSingleCapabilityPlan (exec : IntegratedExecution) (planId : Uuid)
    (goal : String) (req : ControlRequest) : Except PyError ExecutionPlan := do
  exec.resolve req
  let plan ← ExecutionPlan.addTask
    { planId := planId.str, objective := goal, tasks := [], unique := List.nodup_nil }
    (primaryTask req)
  plan.validate
  return plan

def contextOf (draws : Draws) (call : IntegratedCall) (plan : ExecutionPlan) :
    ExecutionContext :=
  { identity := {
      executionId := draws.executionId, tenantId := call.tenantId
      workflowId := some "p0-integrated-spine", workflowVersion := some "1.0.0" }
    objective := call.objective, metadata := call.metadata
    plan := some [("plan_id", .str plan.planId), ("version", .str plan.version)]
    createdAt := draws.createdAt, updatedAt := draws.updatedAt }

def startOf (draws : Draws) (call : IntegratedCall) (plan : ExecutionPlan) : Orchestration :=
  { plan := plan
    session := { context := contextOf draws call plan, durable := draws.durable } }

/-- `next(task for task in plan.tasks.values() if task.status == FAILED)`. -/
def failedTask? (plan : ExecutionPlan) : Option TaskNode :=
  plan.tasks.find? fun task => task.status == .failed

def supervisionRequest (goal : String) (fail : FailureClass)
    (preview : RecoveryDecision) : SupervisionRequest :=
  { objective := goal, planValidated := true, authorized := true, status := "failed"
    failure := some fail, retryAllowed := preview.retryAllowed
    recoveryAllowed := !preview.terminal }

/-- `task.status = PENDING; task.error = None; task.output = None`. -/
def resetTask (plan : ExecutionPlan) (taskId : String) : ExecutionPlan :=
  plan.modify (fun task => if task.taskId = taskId then
      { task with status := .pending, error := none, output := .null } else task)
    (by intro task; split_ifs <;> rfl)

def decisionData (task : TaskNode) (action reason : String) : Members :=
  [("task_id", .str task.taskId), ("capability_id", .str task.capabilityId),
    ("action", .str action), ("reason", .str reason)]

variable (exec : IntegratedExecution) (world : World)

def recovering : ExecutionRuntime := { exec.runtime with recovery := exec.recovery }

def decideRecovery (task : TaskNode) (fail : FailureClass) : Operation RecoveryDecision := do
  let decision ← exec.recovering.applyRecovery world fail
  exec.runtime.record .recoveryDecision
    (decisionData task decision.action.value decision.reason)
  exec.runtime.storeCheckpoint world
  return decision

def actOn (task : TaskNode) (fail : FailureClass) (action : SupervisionAction) :
    Run Bool := do
  if action = .stop then
    onSession do
      setStatus world .stopped
      exec.runtime.storeCheckpoint world
    return false
  else if action ≠ .retry then
    let _ ← onSession (exec.decideRecovery world task fail)
    return false
  else
    let decision ← onSession (exec.decideRecovery world task fail)
    if decision.action ≠ .retry then return false
    else
      changePlan fun plan => resetTask plan task.taskId
      return true

def supervise (goal : String) (task : TaskNode) : Run Bool := do
  let orch ← get
  let fail := failureClassIn task.error
  let preview := exec.recovery.classify fail orch.session.context
  let supervision := Supervisor.decide (supervisionRequest goal fail preview)
  onSession (exec.runtime.record (.layer "execution.supervisor_decision")
    (decisionData task supervision.action.value supervision.reason))
  exec.actOn world task fail supervision.action

/-- One turn of the `while` loop: whether there is another one. -/
def turn (fuel : Nat) (goal : String) : Run Bool := do
  let plan ← PlanOrchestrator.execute exec.runtime world fuel
  if plan.isComplete then return false
  else if !plan.hasFailed then return false
  else
    match failedTask? plan with
    | none => return false
    | some task => exec.supervise world goal task

def loop (fuel : Nat) (goal : String) : Nat → Run ExecutionContext
  | 0 => throw .outOfFuel
  | turns + 1 => do
    let again ← exec.turn world fuel goal
    if again then loop fuel goal turns
    else
      let orch ← get
      return orch.session.context

/-- `execute`. An error is raised before any step is taken. -/
def execute (fuel : Nat) (draws : Draws) (call : IntegratedCall) :
    Except PyError (EStateM.Result Raised Orchestration ExecutionContext) :=
  (exec.buildSingleCapabilityPlan draws.planId call.objective call.request).map fun plan =>
    exec.loop world fuel call.objective fuel (startOf draws call plan)

end IntegratedExecution

open RecoveryPolicy PyText View
open RecoveryAction

namespace IntegratedExecution

section supervision

variable (goal : String) (policy : RecoveryPolicy) (fail : FailureClass)
  (retryCount recoveryAttempts : Int)

theorem decide_stop_iff :
    (Supervisor.decide (supervisionRequest goal fail
      (policy.decision fail retryCount recoveryAttempts))).action = .stop ↔
      strip goal = "" ∨ fail = .safety := by
  by_cases blank : strip goal = ""
  · simp [Supervisor.decide, supervisionRequest, blank]
  · cases fail <;>
      simp [Supervisor.decide, Supervisor.decideFailure, supervisionRequest, blank, decision]
    · split_ifs <;> simp
    · split_ifs <;> simp

theorem decide_retry_iff (required : strip goal ≠ "") :
    (Supervisor.decide (supervisionRequest goal fail
      (policy.decision fail retryCount recoveryAttempts))).action = .retry ↔
      (policy.decision fail retryCount recoveryAttempts).action = .retry := by
  cases fail <;>
    simp [Supervisor.decide, Supervisor.decideFailure, supervisionRequest, required, decision]
  · split_ifs <;> simp_all
  · split_ifs <;> simp

end supervision

section rules

variable {exec : IntegratedExecution} {world : World} {seen : View}
  {raised : PyError → View → Prop}

theorem apply_recovery_sticks {rt : ExecutionRuntime} (fail : FailureClass)
    {ret : RecoveryDecision → View → Prop}
    (ended : seen.standing.status.isTerminal = true)
    (moves : (seen.standing.decision rt.recovery fail).action.status? ≠ none)
    (holds : ∀ err after, after.trail = seen.trail → raised err after) :
    Sees (rt.applyRecovery world fail) ret raised seen := by
  rintro session rfl
  have refused : ∃ err, (rt.recovery.apply (world.clock session.trace.length)
      session.context fail).2 = .error err := by
    unfold apply
    cases moved : (rt.recovery.classify fail session.context).action.status? with
    | none => exact absurd moved moves
    | some status =>
      have terminal : session.context.status.isTerminal = true := ended
      simp [moved, ExecutionContext.setStatus, recorded, terminal]
  obtain ⟨err, refused⟩ := refused
  simp only [applyRecovery, ends_bind, ends_get, change, ends_modify, refused, raiseOnError,
    ends_throw]
  exact holds err _ rfl

theorem decide_recovery_sees (task : TaskNode) (fail : FailureClass)
    {ret : RecoveryDecision → View → Prop}
    (movable : seen.standing.status.isTerminal = false)
    (holds : ret (seen.standing.decision exec.recovery fail)
      (seen.recovered exec.recovery fail).saved) :
    Sees (exec.decideRecovery world task fail) ret raised seen := by
  refine shows_bind (apply_recovery_sees fail movable ?_)
  refine shows_bind (record_quiet .recoveryDecision _ rfl ?_)
  refine shows_bind (store_checkpoint_sees (fun _ => shows_pure holds) fun stuck => ?_)
  exact absurd (storable_recovered exec.recovery fail seen) stuck

end rules

section supervised

variable {exec : IntegratedExecution} {world : World} {goal : String}
  {task : TaskNode} {plan : ExecutionPlan} {view : View} {ret : Bool → RunView → Prop}
  {raised : Raised → RunView → Prop}

theorem act_on_shown {fail : FailureClass} {action : SupervisionAction}
    (storable : view.Storable) (movable : view.standing.status.isTerminal = false)
    (stops : action = .stop → ret false ⟨plan, (view.movedTo .stopped).saved⟩)
    (decides : action ≠ .stop →
      (action = .retry ↔ (view.standing.decision exec.recovery fail).action = .retry) ∧
      ((view.standing.decision exec.recovery fail).action ≠ .retry →
      ret false ⟨plan, (view.recovered exec.recovery fail).saved⟩) ∧
      ((view.standing.decision exec.recovery fail).action = .retry →
      ret true ⟨resetTask plan task.taskId,
      (view.recovered exec.recovery fail).saved⟩)) :
    Shown (exec.actOn world task fail action) ret raised ⟨plan, view⟩ := by
  unfold actOn
  refine shows_ite (fun stopped => ?_) fun goesOn => ?_
  · refine shows_bind (on_session_shown (shows_bind (set_status_moves .stopped movable ?_)))
    exact store_checkpoint_sees (fun _ => shows_pure (stops stopped))
      fun stuck => absurd storable stuck
  · obtain ⟨retry, plainly, again⟩ := decides goesOn
    refine shows_ite (fun plain => ?_) fun asked => ?_
    · refine shows_bind (on_session_shown (decide_recovery_sees task fail movable ?_))
      exact shows_pure (plainly fun retried => plain (retry.mpr retried))
    · have retried := retry.mp (not_not.mp asked)
      refine shows_bind (on_session_shown (decide_recovery_sees task fail movable ?_))
      refine shows_ite (fun other => absurd retried other) fun _ => ?_
      exact shows_bind (change_plan_shown _ (shows_pure (again retried)))

theorem act_on_sticks {action : SupervisionAction} (ended : view.standing.status.isTerminal = true)
    (holds : ∀ err after, after.trail = view.trail → raised (.exception err) ⟨plan, after⟩) :
    Shown (exec.actOn world task .unknown action) ret raised ⟨plan, view⟩ := by
  have refused : Shown (onSession (exec.decideRecovery world task .unknown))
      (fun _ _ => False) raised ⟨plan, view⟩ := by
    refine on_session_shown (shows_bind (apply_recovery_sticks .unknown ended ?_ holds))
    simp [Standing.decision, decision, status?]
  unfold actOn
  refine shows_ite (fun _ => ?_) fun _ => shows_ite (fun _ => ?_) fun _ => ?_
  · refine shows_bind (on_session_shown (shows_bind (set_status_sees .stopped ?_ fun _ => ?_)))
    · intro movable
      exact absurd (ended.symm.trans movable) (by simp)
    · exact holds _ _ rfl
  · exact shows_bind (refused.mono (fun _ _ none_ => none_.elim) fun _ _ sticks => sticks)
  · exact shows_bind (refused.mono (fun _ _ none_ => none_.elim) fun _ _ sticks => sticks)

theorem supervise_shown (storable : view.Storable)
    (movable : view.standing.status.isTerminal = false)
    (stops : strip goal = "" ∨ failureClassIn task.error = .safety →
      ret false ⟨plan, (view.movedTo .stopped).saved⟩)
    (decides : strip goal ≠ "" →
      (view.standing.decision exec.recovery (failureClassIn task.error)).action ≠ .retry →
      ret false ⟨plan, (view.recovered exec.recovery
      (failureClassIn task.error)).saved⟩)
    (retries : strip goal ≠ "" →
      (view.standing.decision exec.recovery (failureClassIn task.error)).action = .retry →
      ret true ⟨resetTask plan task.taskId, (view.recovered exec.recovery
      (failureClassIn task.error)).saved⟩) :
    Shown (exec.supervise world goal task) ret raised ⟨plan, view⟩ := by
  refine shows_get_bind fun orch looks => ?_
  obtain ⟨rfl, rfl⟩ := RunView.mk.inj looks
  refine shows_bind (on_session_shown (record_quiet _ _ rfl ?_))
  have stop := decide_stop_iff goal exec.recovery (failureClassIn task.error)
    orch.session.context.retryCount orch.session.context.recoveryAttempts
  refine act_on_shown storable movable (fun stopped => stops (stop.mp stopped)) fun goesOn => ?_
  have required : strip goal ≠ "" := fun blank => goesOn (stop.mpr (Or.inl blank))
  exact ⟨decide_retry_iff goal exec.recovery _ _ _ required, decides required,
    retries required⟩

theorem supervise_sticks (ended : view.standing.status.isTerminal = true)
    (unknown : failureClassIn task.error = .unknown)
    (holds : ∀ err after, after.trail = view.trail → raised (.exception err) ⟨plan, after⟩) :
    Shown (exec.supervise world goal task) ret raised ⟨plan, view⟩ := by
  refine shows_get_bind fun orch looks => ?_
  obtain ⟨rfl, rfl⟩ := RunView.mk.inj looks
  refine shows_bind (on_session_shown (record_quiet _ _ rfl ?_))
  rw [unknown]
  exact act_on_sticks ended holds

end supervised

def singlePlan (planId : Uuid) (goal : String) (req : ControlRequest) :
    ExecutionPlan :=
  { planId := planId.str, objective := goal, tasks := [primaryTask req]
    unique := List.nodup_singleton _ }

def singlePlanWith (planId : Uuid) (goal : String) (req : ControlRequest)
    (status : TaskStatus) (output : Json) (err : Option Members) : ExecutionPlan :=
  { singlePlan planId goal req with
    tasks := [{ primaryTask req with status := status, output := output, error := err }]
    unique := List.nodup_singleton _ }

section plans

variable (planId : Uuid) (goal : String) (req : ControlRequest)

theorem single_validated : (singlePlan planId goal req).validate = .ok () := rfl

theorem build_single {exec : IntegratedExecution}
    (resolved : exec.resolve req = .ok ()) :
    exec.buildSingleCapabilityPlan planId goal req =
      .ok (singlePlan planId goal req) := by
  unfold buildSingleCapabilityPlan
  rw [resolved]
  rfl

theorem single_succeeded {outcome : Except Raised InvocationResult}
    (succeeds : succeeded outcome = true) :
    (((singlePlan planId goal req).markReady.setStatus "primary" .running).finished
      "primary" outcome).isComplete = true := by
  cases outcome with
  | error raised => simp [succeeded] at succeeds
  | ok res =>
    have status : res.status = .succeeded := by simpa [succeeded] using succeeds
    rw [ExecutionPlan.finished, if_pos status]
    rfl

theorem single_failed {outcome : Except Raised InvocationResult}
    (fails : succeeded outcome = false) :
    ((singlePlan planId goal req).markReady.setStatus "primary" .running).finished
      "primary" outcome =
      singlePlanWith planId goal req .failed .null (errorOf outcome) := by
  cases outcome with
  | error raised => rfl
  | ok res =>
    have status : res.status ≠ .succeeded := by simpa [succeeded] using fails
    rw [ExecutionPlan.finished, if_neg status]
    rfl

theorem failed_task_single (err : Option Members) :
    failedTask? (singlePlanWith planId goal req .failed .null err) =
      some { primaryTask req with status := .failed, error := err } := rfl

theorem reset_single (err : Option Members) :
    resetTask (singlePlanWith planId goal req .failed .null err) "primary" =
      singlePlan planId goal req := rfl

end plans

section turns

variable (exec : IntegratedExecution) (world : World) (fuel : Nat) (req : ControlRequest)

def readied (state : Orchestration) : Orchestration :=
  let saved := (persist exec.runtime world).stateAfter state
  { saved with plan := saved.plan.markReady }

def lastInvocation (state : Orchestration) : Except Raised InvocationResult :=
  ownResult exec.runtime world fuel (primaryTask req) (exec.readied world state)

variable {exec world fuel req} {planId : Uuid} {goal : String} {state : Orchestration}

theorem loop_completes {plan : ExecutionPlan} {view : View}
    {outcome : Except Raised InvocationResult}
    (called : view.Called exec.runtime outcome) (succeeds : succeeded outcome = true)
    (complete : plan.isComplete = true) (turns : Nat) :
    Shown (PlanOrchestrator.loop exec.runtime world fuel turns)
      (fun _ after => after.plan = plan ∧ after.view.standing.status = .completed ∧
      after.view.story.any (Mark.halts exec.runtime.recovery) = false)
      (fun raised _ => raised = .outOfFuel) ⟨plan, view⟩ := by
  have movable : view.standing.status.isTerminal = false := by
    by_contra ended
    simp [(called.unknown (by simpa using ended)).1] at succeeds
  have unfenced := called.unfenced succeeds
  cases turns with
  | zero => exact shows_throw rfl
  | succ turns =>
    refine shows_get_bind fun orch looks => ?_
    obtain ⟨rfl, rfl⟩ := RunView.mk.inj looks
    rw [if_pos complete]
    refine on_session_shown (complete_sees none ?_ ?_ ?_ ?_)
    · intro _ _
      refine ⟨rfl, rfl, ?_⟩
      rw [story_saved, story_moved]
      exact (called.quiet movable).silent
    · intro lost
      exact absurd (by simp [FenceHolds, unfenced]) lost
    · intro ended
      exact absurd (ended.symm.trans movable) (by simp)
    · rintro _ _ (lost | stuck)
      · exact absurd (by simp [FenceHolds, unfenced]) lost
      · exact absurd called.storable stuck

theorem ends_loop_single {saved : Orchestration}
    (single : saved.plan = singlePlan planId goal req) (turns : Nat)
    (ret : Unit → Orchestration → Prop) (raised : Raised → Orchestration → Prop) :
    Ends (PlanOrchestrator.loop exec.runtime world fuel (turns + 1)) ret raised saved ↔
      Ends (runTask exec.runtime world fuel (primaryTask req))
      (fun failed => Ends (if failed then pure () else
      PlanOrchestrator.loop exec.runtime world fuel turns) ret raised) raised
      { saved with plan := saved.plan.markReady } := by
  obtain ⟨_, session⟩ := saved
  subst single
  have batched : Ends (PlanOrchestrator.loop exec.runtime world fuel (turns + 1)) ret
      raised ⟨singlePlan planId goal req, session⟩ ↔
      Ends (runBatch exec.runtime world fuel [primaryTask req])
        (fun failed => Ends (if failed then pure () else
          PlanOrchestrator.loop exec.runtime world fuel turns) ret raised) raised
        ⟨(singlePlan planId goal req).markReady, session⟩ := by
    rw [← ends_bind]
    exact Iff.rfl
  rw [batched, runBatch, ends_bind]
  simp only [runBatch, pure_bind, Bool.or_false]
  exact Iff.rfl

theorem execute_called (single : state.plan = singlePlan planId goal req)
    (quiet : state.session.view.Quiet exec.runtime.recovery) :
    Ends (PlanOrchestrator.execute exec.runtime world fuel)
      (fun plan after => plan = after.plan ∧
      after.plan = ((singlePlan planId goal req).markReady.setStatus "primary"
      .running).finished "primary" (exec.lastInvocation world fuel req state) ∧
      (succeeded (exec.lastInvocation world fuel req state) = true ∧
      after.session.context.status = .completed ∧
      after.session.view.story.any (Mark.halts exec.runtime.recovery) = false ∨
      succeeded (exec.lastInvocation world fuel req state) = false ∧
      after.session.view.Called exec.runtime
      (exec.lastInvocation world fuel req state)))
      (fun raised _ => raised = .outOfFuel) state := by
  have saves : Shown (persist exec.runtime world)
      (fun _ after => after = ⟨state.plan, (state.session.view.planned state.plan).saved⟩)
      (fun _ _ => False) state.look :=
    persist_shown (fun _ => rfl) fun stuck => absurd quiet.storable stuck
  rw [PlanOrchestrator.execute, ends_bind, ends_get]
  simp only [single, single_validated]
  rw [ends_bind]
  refine ((ends_exactly _ state).and (saves state rfl)).mono ?_ fun _ _ none_ => none_.2.elim
  rintro _ _ ⟨⟨_, rfl⟩, looks⟩
  obtain ⟨samePlan, sameView⟩ := RunView.mk.inj looks
  rw [single] at samePlan
  rw [ends_bind]
  cases fuel with
  | zero => exact rfl
  | succ turns =>
    have planned : (exec.readied world state).plan =
        (singlePlan planId goal req).markReady :=
      congrArg ExecutionPlan.markReady samePlan
    have ready : (exec.readied world state).session.view.Quiet exec.runtime.recovery := by
      have same : (exec.readied world state).session.view = _ := sameView
      rw [same]
      exact quiet.persisted state.plan
    have ran := @run_task_called exec.runtime world (primaryTask req) (turns + 1)
      (exec.readied world state) ready
    rw [planned] at ran
    refine (ends_loop_single samePlan turns _ _).mpr (ran.mono ?_ fun _ _ out => out)
    rintro failed after ⟨_, rfl, finished, called⟩
    cases ended : succeeded (exec.lastInvocation world (turns + 1) req state) with
    | false =>
      have fails : succeeded (ownResult exec.runtime world (turns + 1)
        (primaryTask req) (exec.readied world state)) = false := ended
      rw [fails]
      exact ⟨rfl, finished, Or.inr ⟨rfl, called⟩⟩
    | true =>
      have succeeds : succeeded (ownResult exec.runtime world (turns + 1)
        (primaryTask req) (exec.readied world state)) = true := ended
      have complete : after.plan.isComplete = true := by
        rw [finished]
        exact single_succeeded planId goal req succeeds
      rw [succeeds]
      refine ((loop_completes called succeeds complete turns) after rfl).mono ?_ fun _ _ out => out
      rintro _ last ⟨same, completed, silent⟩
      exact ⟨rfl, same.trans finished, Or.inl ⟨rfl, completed, silent⟩⟩

end turns

def prescribed (policy : RecoveryPolicy) (fail : FailureClass)
    (ctx : ExecutionContext) : ExecutionStatus :=
  (policy.classify fail ctx).action.status?.getD ctx.status

section prescriptions

variable (policy : RecoveryPolicy) (fail : FailureClass) {ctx : ExecutionContext}
  (movable : ctx.status.isTerminal = false)

include movable

theorem prescribed_ne_completed : prescribed policy fail ctx ≠ .completed := by
  have open_ : ctx.status ≠ .completed := by
    intro completed
    simp [completed, ExecutionStatus.isTerminal] at movable
  unfold prescribed
  cases (policy.classify fail ctx).action <;> simp [status?, open_]

theorem prescribed_stopped_iff : prescribed policy fail ctx = .stopped ↔
    fail = .safety := by
  have open_ : ctx.status ≠ .stopped := by
    intro stopped
    simp [stopped, ExecutionStatus.isTerminal] at movable
  unfold prescribed classify
  cases fail <;> simp [decision, status?, open_]
  · split_ifs <;> simp
  · split_ifs <;> simp

end prescriptions

section loops

variable (exec : IntegratedExecution) (world : World) (fuel : Nat) (planId : Uuid)
  (goal : String) (req : ControlRequest)

def judged (state : Orchestration) : ExecutionContext :=
  ((PlanOrchestrator.execute exec.runtime world fuel).stateAfter state).session.context

/-- The state in which the last turn of the loop begins. -/
def lastTurn : Nat → Orchestration → Orchestration
  | 0, state => state
  | turns + 1, state =>
    if (exec.turn world fuel goal).outcome state = .ok true then
      lastTurn turns ((exec.turn world fuel goal).stateAfter state)
    else state

structure Begins (state : Orchestration) : Prop where
  single : state.plan = singlePlan planId goal req
  quiet : state.session.view.Quiet exec.runtime.recovery

def Retries (seen after : View) : Prop :=
  ∃ fail, (seen.standing.decision exec.recovery fail).action = .retry ∧
    after = (seen.recovered exec.recovery fail).saved

structure Closes (state after : Orchestration) : Prop where
  silent : after.session.view.story.any (Mark.halts exec.runtime.recovery) = false
  completed : after.session.context.status = .completed ↔
    succeeded (exec.lastInvocation world fuel req state) = true
  decided : succeeded (exec.lastInvocation world fuel req state) = false →
    (after.session.context.status = prescribed exec.recovery
        (failureOf (exec.lastInvocation world fuel req state))
        (exec.judged world fuel state) ↔
      strip goal ≠ "" ∨
        failureOf (exec.lastInvocation world fuel req state) = .safety)

variable {exec world fuel planId goal req} {state : Orchestration}

theorem quiet_recovered {policy own : RecoveryPolicy} {view : View} (quiet : view.Quiet policy)
    {fail : FailureClass} (retried : (view.standing.decision own fail).action = .retry) :
    (view.recovered own fail).saved.Quiet policy := by
  refine ⟨storable_recovered own fail view, ?_, ?_⟩
  · have status : (view.recovered own fail).saved.standing.status = .recovering := by
      simp [saved, marked, recovered, Standing.recovered, retried, status?]
    rw [status]
    rfl
  · rw [story_saved, story_recovered]
    exact quiet.silent

def failedPrimary (req : ControlRequest) (outcome : Except Raised InvocationResult) :
    TaskNode :=
  { primaryTask req with status := .failed, error := errorOf outcome }

structure Stays (exec : IntegratedExecution) (goal : String)
    (outcome : Except Raised InvocationResult) (judged : ExecutionContext) (after : View) :
    Prop where
  silent : after.story.any (Mark.halts exec.runtime.recovery) = false
  incomplete : after.standing.status ≠ .completed
  decided : after.standing.status = prescribed exec.recovery (failureOf outcome) judged ↔
    strip goal ≠ "" ∨ failureOf outcome = .safety

variable {middle : Orchestration} {outcome : Except Raised InvocationResult}

theorem supervise_quiet (finished : middle.plan =
      singlePlanWith planId goal req .failed .null (errorOf outcome))
    (quiet : middle.session.view.Quiet exec.runtime.recovery) :
    Shown (exec.supervise world goal (failedPrimary req outcome)) (fun again after =>
      again = true ∧ after.plan = singlePlan planId goal req ∧
      after.view.Quiet exec.runtime.recovery ∧
      exec.Retries middle.session.view after.view ∨
      again = false ∧ exec.Stays goal outcome middle.session.context after.view)
      (fun _ _ => False) middle.look := by
  have named : failureClassIn (failedPrimary req outcome).error = failureOf outcome :=
    failure_class_error_of outcome
  apply supervise_shown quiet.storable quiet.movable
  · intro stops
    rw [named] at stops
    have stopped := prescribed_stopped_iff exec.recovery (failureOf outcome) quiet.movable
    have plainly : failureOf outcome = .safety ↔
        strip goal ≠ "" ∨ failureOf outcome = .safety := by
      constructor
      · exact Or.inr
      · intro either
        exact either.elim (fun required => stops.resolve_left required) id
    refine Or.inr ⟨rfl, ?_, by simp [saved, marked, movedTo], ?_⟩
    · rw [story_saved, story_moved]
      exact quiet.silent
    · rw [← plainly, ← stopped]
      exact eq_comm
  · intro required _
    rw [named]
    refine Or.inr ⟨rfl, ?_, prescribed_ne_completed _ _ quiet.movable, ?_⟩
    · rw [story_saved, story_recovered]
      exact quiet.silent
    · exact iff_of_true rfl (Or.inl required)
  · intro _ retried
    refine Or.inl ⟨rfl, ?_, quiet_recovered quiet retried, _, retried, rfl⟩
    rw [finished]
    exact reset_single planId goal req (errorOf outcome)

theorem supervise_halted (called : middle.session.view.Called exec.runtime outcome)
    (ended : middle.session.view.standing.status.isTerminal = true) :
    Shown (exec.supervise world goal (failedPrimary req outcome))
      (fun _ _ => False) (fun raised after => (∃ err, raised = .exception err) ∧
      after.view.story.any (Mark.halts exec.runtime.recovery) = true) middle.look := by
  have named : failureClassIn (failedPrimary req outcome).error = failureOf outcome :=
    failure_class_error_of outcome
  apply supervise_sticks ended (named.trans (called.unknown ended).2)
  intro err after same
  refine ⟨⟨err, rfl⟩, ?_⟩
  rw [story, same]
  exact called.halted.symm.trans ended

theorem supervise_ends (finished : middle.plan =
      singlePlanWith planId goal req .failed .null (errorOf outcome))
    (called : middle.session.view.Called exec.runtime outcome) :
    Ends (exec.supervise world goal (failedPrimary req outcome)) (fun again after =>
      again = true ∧ exec.Begins planId goal req after ∧
      exec.Retries middle.session.view after.session.view ∨
      again = false ∧
      exec.Stays goal outcome middle.session.context after.session.view)
      (fun raised after => (∃ err, raised = .exception err) ∧
      after.session.view.story.any (Mark.halts exec.runtime.recovery) = true) middle := by
  cases ended : middle.session.view.standing.status.isTerminal with
  | true =>
    exact (supervise_halted called ended middle rfl).mono (fun _ _ none_ => none_.elim)
      fun _ _ raised => raised
  | false =>
    refine (supervise_quiet finished (called.quiet ended) middle rfl).mono ?_
      fun _ _ none_ => none_.elim
    intro again after either
    rcases either with ⟨rfl, single, still, retries⟩ | stays
    · exact Or.inl ⟨rfl, ⟨single, still⟩, retries⟩
    · exact Or.inr stays

theorem turn_ends (begins : exec.Begins planId goal req state) :
    Ends (exec.turn world fuel goal) (fun again after =>
      again = true ∧ exec.Begins planId goal req after ∧
      exec.Retries ((PlanOrchestrator.execute exec.runtime world fuel).stateAfter
      state).session.view after.session.view ∨
      again = false ∧ exec.Closes world fuel goal req state after)
      (fun raised after => raised = .outOfFuel ∧
      (PlanOrchestrator.execute exec.runtime world fuel).outcome state =
      .error .outOfFuel ∨
      (∃ err, raised = .exception err) ∧
      after.session.view.story.any (Mark.halts exec.runtime.recovery) = true) state := by
  rw [turn, ends_bind]
  refine ((ends_exactly _ state).and (execute_called begins.single begins.quiet)).mono ?_
    fun _ _ out => Or.inl ⟨out.2, out.2 ▸ out.1.1⟩
  rintro plan middle ⟨⟨_, reached⟩, rfl, finished, ended⟩
  rcases ended with ⟨succeeds, completed, silent⟩ | ⟨fails, called⟩
  · have complete : middle.plan.isComplete = true := by
      rw [finished]
      exact single_succeeded planId goal req succeeds
    rw [if_pos complete]
    refine Or.inr ⟨rfl, silent, iff_of_true completed succeeds, fun fails => ?_⟩
    simp [succeeds] at fails
  · rw [single_failed planId goal req fails] at finished
    have incomplete : middle.plan.isComplete = false := by
      rw [finished]
      rfl
    have failed : middle.plan.hasFailed = true := by
      rw [finished]
      rfl
    have task := failed_task_single planId goal req
      (errorOf (exec.lastInvocation world fuel req state))
    rw [← finished] at task
    simp only [incomplete, failed, task, Bool.false_eq_true, Bool.not_true, if_false]
    refine (supervise_ends finished called).mono ?_ fun _ _ raised => Or.inr raised
    intro again after either
    rcases either with again | ⟨rfl, stays⟩
    · rw [← reached]
      exact Or.inl again
    · refine Or.inr ⟨rfl, stays.silent, iff_of_false stays.incomplete (by simp [fails]), ?_⟩
      intro _
      rw [judged, ← reached]
      exact stays.decided

theorem loop_ends (turns : Nat) (begins : exec.Begins planId goal req state) :
    Ends (exec.loop world fuel goal turns)
      (fun ctx after => ctx = after.session.context ∧
      exec.Closes world fuel goal req
      (exec.lastTurn world fuel goal turns state) after)
      (fun raised after => raised = .outOfFuel ∨ (∃ err, raised = .exception err) ∧
      after.session.view.story.any (Mark.halts exec.runtime.recovery) = true) state := by
  induction turns generalizing state with
  | zero => exact Or.inl rfl
  | succ turns ih =>
    rw [loop, ends_bind]
    refine ((ends_exactly _ state).and (turn_ends begins)).mono ?_ ?_
    · rintro again after ⟨⟨ret, reached⟩, ⟨rfl, beginsAgain, _⟩ | ⟨rfl, closes⟩⟩
      · have last : exec.lastTurn world fuel goal (turns + 1) state =
            exec.lastTurn world fuel goal turns after := by
          rw [lastTurn, if_pos ret, reached]
        rw [if_pos rfl, last]
        exact ih beginsAgain
      · have last : exec.lastTurn world fuel goal (turns + 1) state = state := by
          rw [lastTurn, if_neg (by simp [ret])]
        rw [if_neg (by simp), last, ends_bind, ends_get]
        exact ⟨rfl, closes⟩
    · rintro raised after ⟨_, ⟨rfl, _⟩ | halted⟩
      · exact Or.inl rfl
      · exact Or.inr halted

end loops

section budgets

structure Patient (execId : Uuid) (spent : Int) (view : View) : Prop where
  identity : view.standing.identity.executionId = execId
  stored : NoRetryStored execId view.idempotency
  nonnegative : 0 ≤ spent
  grown : spent ≤ view.standing.retryCount

theorem Patient.same {execId : Uuid} {spent : Int} {view other : View}
    (patient : Patient execId spent view)
    (ident : other.standing.identity = view.standing.identity)
    (idempotency : other.idempotency = view.idempotency)
    (retryCount : other.standing.retryCount = view.standing.retryCount) :
    Patient execId spent other := by
  refine ⟨?_, ?_, patient.nonnegative, ?_⟩
  · rw [ident]
    exact patient.identity
  · rw [idempotency]
    exact patient.stored
  · rw [retryCount]
    exact patient.grown

variable {exec : IntegratedExecution} {world : World} {fuel : Nat} {planId execId : Uuid}
  {goal : String} {req : ControlRequest} {state : Orchestration} {spent : Int}

theorem patience_invariant (rt : ExecutionRuntime) (world : World)
    (origin : ExecutionPlan) (execId : Uuid) (spent : Int) (fuel : Nat)
    (budgeted : NoFreeRetry world) (enough : rt.recovery.maxRetries ≤ fuel) :
    RunInvariant rt world fuel origin (fun _ => Patient execId spent)
      (fun left _ _ view => Patient execId spent view ∧
      rt.recovery.maxRetries - view.standing.retryCount ≤ left) False where
  marks plan view _ patient := patient
  starts plan view task turn patient := by
    refine ⟨patient.same rfl rfl rfl, ?_⟩
    have nonnegative := patient.nonnegative
    have grown := patient.grown
    change (_ - view.standing.retryCount : Int) ≤ fuel
    omega
  dispatches left plan view task fresh outcome after turn _ allowed conduct := by
    obtain ⟨patient, remaining⟩ := allowed
    have ident := patient.identity
    rw [ident] at conduct
    have budgets := conduct_budgets budgeted (by exact patient.stored) conduct
    have spends : Spends rt.recovery view.standing.retryCount
      after.standing.retryCount := budgets.spends
    have grown := patient.grown
    have kept : after.standing.identity.executionId = execId := by
      rw [(conduct_keeps conduct).identity]
      exact ident
    have still : Patient execId spent after :=
      ⟨kept, budgets.stored, patient.nonnegative, grown.trans spends.grows⟩
    refine ⟨still, fun res ret asks => ?_⟩
    have counted : after.standing.retryCount = view.standing.retryCount + 1 :=
      budgets.retried res ret asks
    have before := spends.left counted
    exact ⟨fun none_ => by omega, fun fewer more => ⟨still, by omega⟩⟩
  finishes plan view task next after turn final moves patient := patient.same rfl rfl rfl
  completes plan view _ patient _ := ⟨patient.same rfl rfl rfl, patient.same rfl rfl rfl⟩

theorem execute_patient (single : state.plan = singlePlan planId goal req)
    (budgeted : NoFreeRetry world) (enough : exec.runtime.recovery.maxRetries ≤ fuel)
    (two : 1 < fuel) (patient : Patient execId spent state.session.view) :
    let run := PlanOrchestrator.execute exec.runtime world fuel
    Patient execId spent (run.stateAfter state).session.view ∧
      run.outcome state ≠ .error .outOfFuel := by
  intro run
  have rules := patience_invariant exec.runtime world state.plan execId spent fuel
    budgeted enough
  have validated : state.plan.validate = .ok () := by
    rw [single]
    exact single_validated planId goal req
  have planned : Patient execId spent (state.session.view.planned state.plan) :=
    patient.same rfl rfl rfl
  have ends := rules.execute validated planned (planned.same rfl rfl rfl) state rfl
  refine Ends.outcome (fun (outcome : Except Raised ExecutionPlan) (after : Orchestration) =>
    Patient execId spent after.session.view ∧ outcome ≠ .error .outOfFuel)
    (ends.mono (fun _ _ kept => ⟨kept, by simp⟩) fun raised after kept => ⟨kept.1, fun out => ?_⟩)
  have few := (kept.2 (Except.error.inj out)).resolve_left id
  rw [single] at few
  exact absurd few (by simpa [singlePlan] using two)

theorem loop_patient (turns : Nat) (begins : exec.Begins planId goal req state)
    (budgeted : NoFreeRetry world) (enough : exec.runtime.recovery.maxRetries ≤ fuel)
    (two : 1 < fuel) (patient : Patient execId spent state.session.view)
    (within : spent ≤ exec.recovery.maxRetries)
    (left : exec.recovery.maxRetries - spent < turns) :
    Ends (exec.loop world fuel goal turns) (fun _ _ => True)
      (fun raised _ => raised ≠ .outOfFuel) state := by
  induction turns generalizing state spent with
  | zero =>
    have none_ : (exec.recovery.maxRetries : Int) - spent < 0 := left
    omega
  | succ turns ih =>
    obtain ⟨still, ended⟩ := execute_patient begins.single budgeted enough two patient
    rw [loop, ends_bind]
    refine (turn_ends begins).mono ?_ ?_
    · rintro again after (⟨rfl, beginsAgain, fail, retried, looks⟩ | ⟨rfl, _⟩)
      · rw [if_pos rfl]
        have grown := still.grown
        have nonnegative := still.nonnegative
        have room := ((exec.recovery.decision_retry_iff fail _ _).mp retried).2
        refine ih beginsAgain (?_ : Patient execId (((PlanOrchestrator.execute
          exec.runtime world fuel).stateAfter
            state).session.view.standing.retryCount + 1) _) (by omega) ?_
        · rw [looks]
          refine ⟨still.identity, still.stored, by omega, ?_⟩
          simp [saved, marked, recovered, Standing.recovered, retried]
        · push_cast at left
          omega
      · exact trivial
    · rintro raised after (⟨_, out⟩ | ⟨⟨err, rfl⟩, _⟩)
      · exact absurd out ended
      · simp

end budgets

section faithful

variable (exec : IntegratedExecution) (world : World) (fuel : Nat) (draws : Draws)
  (call : IntegratedCall)

def finalInvocation (plan : ExecutionPlan) : Except Raised InvocationResult :=
  exec.lastInvocation world fuel call.request
    (exec.lastTurn world fuel call.objective fuel (startOf draws call plan))

def finalJudged (plan : ExecutionPlan) : ExecutionContext :=
  exec.judged world fuel
    (exec.lastTurn world fuel call.objective fuel (startOf draws call plan))

/-- `execute` returns a context. It is COMPLETED exactly if the last invocation
SUCCEEDED; otherwise it is in the status that the recovery decision on the last failure
prescribes. -/
def Faithful (plan : ExecutionPlan) : Prop :=
  ∃ ctx after, exec.execute world fuel draws call = .ok (.ok ctx after) ∧
    (ctx.status = .completed ↔
      succeeded (exec.finalInvocation world fuel draws call plan) = true) ∧
    (succeeded (exec.finalInvocation world fuel draws call plan) = false →
      ctx.status = prescribed exec.recovery
        (failureOf (exec.finalInvocation world fuel draws call plan))
        (exec.finalJudged world fuel draws call plan))

variable {exec world fuel draws call} {plan : ExecutionPlan}

section

variable (built : exec.buildSingleCapabilityPlan draws.planId call.objective call.request =
    .ok plan)

include built

theorem plan_of_built : plan = singlePlan draws.planId call.objective call.request := by
  cases resolved : exec.resolve call.request with
  | error err =>
    unfold buildSingleCapabilityPlan at built
    rw [resolved] at built
    simp [bind, Except.bind] at built
  | ok _ =>
    rw [build_single draws.planId call.objective call.request resolved] at built
    exact (Except.ok.inj built).symm

theorem start_begins :
    exec.Begins draws.planId call.objective call.request (startOf draws call plan) := by
  refine ⟨plan_of_built built, ?_, rfl, rfl⟩
  intro _
  exact ⟨.null, rfl⟩

theorem execute_built :
    exec.execute world fuel draws call =
      .ok (exec.loop world fuel call.objective fuel (startOf draws call plan)) := by
  unfold IntegratedExecution.execute
  rw [built]
  rfl

theorem loop_terminates (budgeted : NoFreeRetry world)
    (stored : NoRetryStored draws.executionId draws.durable.idempotency)
    (enough : exec.runtime.recovery.maxRetries + exec.recovery.maxRetries + 1 < fuel) :
    (exec.loop world fuel call.objective fuel).outcome (startOf draws call plan) ≠
      .error .outOfFuel := by
  have patient : Patient draws.executionId 0 (startOf draws call plan).session.view :=
    ⟨rfl, stored, le_refl 0, le_refl 0⟩
  have lasts := @loop_patient exec world fuel draws.planId draws.executionId call.objective
    call.request (startOf draws call plan) 0 fuel (start_begins built) budgeted (by omega)
    (by omega) patient (by omega) (by omega)
  exact Ends.outcome (fun (outcome : Except Raised ExecutionContext) (_ : Orchestration) =>
    outcome ≠ .error .outOfFuel) (lasts.mono (fun _ _ _ => by simp)
      fun _ _ kept => by simpa using kept)

end

theorem raised_unfaithful {raised : Raised}
    (built : exec.buildSingleCapabilityPlan draws.planId call.objective call.request =
      .ok plan)
    (ended : (exec.loop world fuel call.objective fuel).outcome (startOf draws call plan) =
      .error raised) : ¬exec.Faithful world fuel draws call plan := by
  rintro ⟨ctx, after, ret, _⟩
  rw [execute_built built, Except.ok.injEq] at ret
  simp [Command.outcome, ret] at ended

theorem silent_iff (policy : RecoveryPolicy) (session : Session) :
    session.view.story.any (Mark.halts policy) = false ↔
      ∀ step ∈ session.trace, step.halts policy = false := by
  rw [halts_story, List.any_eq_false]
  simp

theorem returned_faithful_iff {after : Orchestration}
    (built : exec.buildSingleCapabilityPlan draws.planId call.objective call.request =
      .ok plan)
    (ran : exec.loop world fuel call.objective fuel (startOf draws call plan) =
      .ok after.session.context after)
    (closes : exec.Closes world fuel call.objective call.request
      (exec.lastTurn world fuel call.objective fuel (startOf draws call plan)) after) :
    exec.Faithful world fuel draws call plan ↔ strip call.objective ≠ "" ∨
      succeeded (exec.finalInvocation world fuel draws call plan) = true ∨
      failureOf (exec.finalInvocation world fuel draws call plan) = .safety := by
  unfold Faithful
  rw [execute_built built, ran]
  constructor
  · rintro ⟨_, _, ⟨rfl⟩, _, decided⟩
    cases succeeds : succeeded (exec.finalInvocation world fuel draws call plan) with
    | true => exact Or.inr (Or.inl rfl)
    | false => exact ((closes.decided succeeds).mp (decided succeeds)).imp_right Or.inr
  · intro required
    refine ⟨_, _, rfl, closes.completed, fun fails => (closes.decided fails).mpr ?_⟩
    refine required.imp_right fun either => either.resolve_left fun succeeds => ?_
    exact absurd (fails.symm.trans succeeds) (by simp)

end faithful

/-- A run in which no capability and no stored result asks for a retry of its own ends. A
run that ends returns the context in the status that its last invocation or its last
failure calls for exactly if no call of the runtime has ended the execution, by a
cancellation or by a failure on which the policy of the runtime escalates or stops, and
the objective is not blank, unless the last invocation SUCCEEDED or its failure is one on
which the policy stops anyway. -/
theorem faithful_iff_unhalted (exec : IntegratedExecution) (world : World) (fuel : Nat)
    (draws : Draws) (call : IntegratedCall) (plan : ExecutionPlan)
    (built : exec.buildSingleCapabilityPlan draws.planId call.objective call.request =
      .ok plan) :
    let run := exec.loop world fuel call.objective fuel
    let start := startOf draws call plan
    let invocation := exec.finalInvocation world fuel draws call plan
    (NoFreeRetry world → NoRetryStored draws.executionId draws.durable.idempotency →
      exec.runtime.recovery.maxRetries + exec.recovery.maxRetries + 1 < fuel →
      run.outcome start ≠ .error .outOfFuel) ∧
    (run.outcome start ≠ .error .outOfFuel → (exec.Faithful world fuel draws call plan ↔
      (∀ step ∈ (run.stateAfter start).session.trace,
      step.halts exec.runtime.recovery = false) ∧
      (strip call.objective ≠ "" ∨ succeeded invocation = true ∨
      failureOf invocation = .safety))) := by
  intro run start invocation
  refine ⟨loop_terminates built, fun ended => ?_⟩
  have ends := @loop_ends exec world fuel draws.planId call.objective call.request start
    fuel (start_begins built)
  change Ends run _ _ start at ends
  unfold Ends at ends
  unfold Command.stateAfter
  cases ran : run start with
  | error raised after =>
    have raises : run.outcome start = .error raised := by
      unfold Command.outcome
      rw [ran]
    simp only [ran] at ends
    have halted := (ends.resolve_left fun out => ended (by rw [raises, out])).2
    refine iff_of_false (raised_unfaithful built raises) fun unhalted => ?_
    rw [(silent_iff _ after.session).mpr unhalted.1] at halted
    simp at halted
  | ok ctx after =>
    simp only [ran] at ends
    obtain ⟨rfl, closes⟩ := ends
    rw [returned_faithful_iff built ran closes]
    exact (and_iff_right ((silent_iff _ after.session).mp closes.silent)).symm

/-- An execution of one registered capability under the default policies. -/
def publishExecution : IntegratedExecution :=
  { runtime := publishRuntime, resolve := fun _ => .ok () }

def publishDraws : Draws :=
  { durable := { checkpoints := .sqlite [], idempotency := .sqlite {} }
    planId := ⟨2⟩, executionId := ⟨1⟩
    createdAt := DateTime.epoch, updatedAt := DateTime.epoch }

def publishCall : IntegratedCall :=
  { objective := "publish"
    request := { capabilityId := "publish", capabilityVersion := "1.0.0" } }

def flaky : World :=
  .ending fun req => .returned ( if req.execution.retryCount = 0 then
      { invocationId := req.invocationId, capabilityId := req.capabilityId
        status := .failed, error := some [("failure_class", .str "transient")] }
    else
      { invocationId := req.invocationId, capabilityId := req.capabilityId
        status := .succeeded })

theorem flaky_execution_faithful :
    publishExecution.buildSingleCapabilityPlan publishDraws.planId publishCall.objective
      publishCall.request =
      .ok (singlePlan publishDraws.planId publishCall.objective publishCall.request) ∧
    publishExecution.Faithful flaky 10 publishDraws publishCall
      (singlePlan publishDraws.planId publishCall.objective publishCall.request) := by
  have built := @build_single publishDraws.planId publishCall.objective publishCall.request
    publishExecution rfl
  refine ⟨built, ((faithful_iff_unhalted publishExecution flaky 10 publishDraws publishCall _
    built).2 ?_).mpr ⟨?_, Or.inl ?_⟩⟩
  · decide +kernel
  · decide +kernel
  · decide +kernel

/-- A permission failure escalates in the runtime, and the execution's own decision on it
is refused by the status machine. -/
theorem permission_failure_not_returned :
    let plan := singlePlan publishDraws.planId publishCall.objective publishCall.request
    publishExecution.buildSingleCapabilityPlan publishDraws.planId publishCall.objective
      publishCall.request = .ok plan ∧
      (publishExecution.loop (answering .failed [("failure_class", .str "permission")]) 10
      publishCall.objective 10).outcome (startOf publishDraws publishCall plan) =
      .error (.exception ⟨.valueError,
      "Terminal execution status escalated cannot transition to escalated."⟩) ∧
      ¬publishExecution.Faithful (answering .failed [("failure_class", .str "permission")]) 10
      publishDraws publishCall plan := by
  intro plan
  have built := @build_single publishDraws.planId publishCall.objective publishCall.request
    publishExecution rfl
  have raises : (publishExecution.loop
      (answering .failed [("failure_class", .str "permission")]) 10 publishCall.objective
      10).outcome (startOf publishDraws publishCall plan) =
      .error (.exception ⟨.valueError,
        "Terminal execution status escalated cannot transition to escalated."⟩) := by
    decide +kernel
  exact ⟨built, raises, raised_unfaithful built raises⟩

end IntegratedExecution

end Ois.ControlPlane
