import Ois.Kernel.Runtime

/-!
# The plan orchestrator

`PlanOrchestrator` of `orchestrator.py`: the batch loop with its retries, and resumption from a
checkpoint. The plan is an object that the handler of an exception sees as the body left it, so it
is part of the state.
-/

namespace Ois.Kernel

open Ois.Library

inductive Raised where
  | exception (err : PyError)
  | outOfFuel
  deriving DecidableEq, Repr

structure Orchestration where
  plan : ExecutionPlan
  session : Session

namespace PlanOrchestrator

abbrev Run := Command Raised Orchestration

variable (rt : ExecutionRuntime) (world : World)

def onSession {Value : Type} (operation : ExecutionRuntime.Operation Value) : Run Value :=
  Command.focus Orchestration.session
    (fun session orch => { orch with session := session })
    Raised.exception operation

def changePlan (update : ExecutionPlan → ExecutionPlan) : Run Unit :=
  modify fun orch => { orch with plan := update orch.plan }

/-- `context.plan = plan.to_dict()` and a save. -/
def persist : Run Unit := do
  let orch ← get
  onSession do
    ExecutionRuntime.change fun ctx =>
      { ctx with plan := some orch.plan.toDict }
    rt.storeCheckpoint world

def invocationId (execId : Uuid) (taskId : String) : String :=
  execId.str ++ ":" ++ taskId

def callFor (execId : Uuid) (task : TaskNode) : Call :=
  { capabilityId := task.capabilityId, version := task.capabilityVersion
    inputData := task.inputData
    invocationId := some (invocationId execId task.taskId) }

/-- One call of `runtime.execute`. -/
def dispatch (task : TaskNode) : Run InvocationResult := do
  let orch ← get
  onSession do
    rt.emit (.dispatch orch.plan task.taskId)
    rt.execute world (callFor orch.session.context.identity.executionId task)

def shouldRetry (res : InvocationResult) : Bool :=
  res.status != .succeeded &&
    (res.error.bind fun err => err.lookup "recovery_action") == some (.str "retry")

def retry (task : TaskNode) : Nat → InvocationResult → Run InvocationResult
  | 0, res => if shouldRetry res then throw .outOfFuel else pure res
  | fuel + 1, res =>
    if shouldRetry res then do
      let next ← dispatch rt world task
      retry task fuel next
    else pure res

def verdict (fuel : Nat) (task : TaskNode) : Run InvocationResult := do
  let first ← dispatch rt world task
  retry rt world task fuel first

/-- The body of the `try`: whether the task failed. -/
def attempt (fuel : Nat) (task : TaskNode) : Run Bool := do
  let res ← verdict rt world fuel task
  if res.status ≠ .succeeded then
    changePlan fun plan => plan.fail task.taskId res.error
    persist rt world
    return true
  else
    changePlan fun plan => plan.succeed task.taskId res.output
    persist rt world
    return false

def handleException (task : TaskNode) : Raised → Run Bool
  | .outOfFuel => throw .outOfFuel
  | .exception err => do
    changePlan fun plan => plan.fail task.taskId
      (some [("type", .str err.kind.name), ("message", .str err.message)])
    persist rt world
    return true

/-- The turn of a task up to the `try`. -/
def startTurn (task : TaskNode) : Run Unit := do
  changePlan fun plan => plan.setStatus task.taskId .running
  onSession (ExecutionRuntime.change fun ctx =>
    { ctx with currentNode := some task.taskId })
  persist rt world

/-- One turn of the `for` loop: whether the task failed. -/
def runTask (fuel : Nat) (task : TaskNode) : Run Bool := do
  startTurn rt world task
  tryCatch (attempt rt world fuel task) (handleException rt world task)

/-- The `for` loop: `batch_failed`. -/
def runBatch (fuel : Nat) : List TaskNode → Run Bool
  | [] => pure false
  | task :: rest => do
    let failed ← runTask rt world fuel task
    let others ← runBatch fuel rest
    return failed || others

def cannotContinue (plan : ExecutionPlan) : PyError :=
  if plan.hasFailed then
    ⟨.planExecutionError, "Plan contains failed tasks and cannot continue."⟩
  else ⟨.planExecutionError, "No executable tasks remain. The plan may be blocked."⟩

/-- The `while` loop and the completion after it. -/
def loop (fuel : Nat) : Nat → Run Unit
  | 0 => throw .outOfFuel
  | turns + 1 => do
    let orch ← get
    if orch.plan.isComplete then onSession (rt.complete world none)
    else
      let (marked, ready) := orch.plan.readyTasks
      changePlan fun _ => marked
      if ready.isEmpty then throw (.exception (cannotContinue marked))
      else
        let failed ← runBatch rt world fuel ready
        if failed then pure () else loop fuel turns

/-- `execute(plan, context)` on the plan and context of the state. The plan it
returns is the plan of the state it leaves. -/
def execute (fuel : Nat) : Run ExecutionPlan := do
  let orch ← get
  match orch.plan.validate with
  | .error err => throw (.exception err)
  | .ok _ => do
    persist rt world
    loop rt world fuel fuel
    let final ← get
    return final.plan

def normalizeInterruptedTasks (plan : ExecutionPlan) : ExecutionPlan :=
  plan.modify (fun task => if task.status = .running then { task with status := .pending }
      else task)
    (by intro task; split_ifs <;> rfl)

def noPlan : PyError :=
  ⟨.planExecutionError, "Checkpoint does not contain a resumable execution plan."⟩

/-- `resume` up to its call of `execute`. -/
def restore (execId : Uuid) (durable : Durable) : Except PyError Orchestration := do
  let ctx ← durable.checkpoints.load rt.sha256 (world.uuid4 0) (world.clock 0) execId
  match ctx.plan with
  | none => .error noPlan
  | some body => do
    let plan ← ExecutionPlan.fromDict (world.uuid4 0) body
    return {
      plan := normalizeInterruptedTasks plan
      session := { context := ctx, durable := durable } }

/-- `resume(execution_id)` by a worker that has taken no step yet. An error is
raised before any step is taken. -/
def resume (fuel : Nat) (execId : Uuid) (durable : Durable) :
    Except PyError (EStateM.Result Raised Orchestration ExecutionPlan) :=
  (restore rt world execId durable).map (execute rt world fuel)

variable {rt : ExecutionRuntime} {execId : Uuid}

theorem resume_ok {world : World} {fuel : Nat} {durable : Durable}
    {run : EStateM.Result Raised Orchestration ExecutionPlan}
    (resumed : resume rt world fuel execId durable = .ok run) :
    ∃ orch, restore rt world execId durable = .ok orch ∧
      run = execute rt world fuel orch := by
  unfold resume at resumed
  cases restored : restore rt world execId durable with
  | error err => simp [restored, Except.map] at resumed
  | ok orch =>
    rw [restored] at resumed
    exact ⟨orch, rfl, (Except.ok.inj resumed).symm⟩

theorem restore_ok {world : World} {durable : Durable} {orch : Orchestration}
    (restored : restore rt world execId durable = .ok orch) :
    ∃ ctx body plan, durable.checkpoints.load rt.sha256 (world.uuid4 0)
        (world.clock 0) execId = .ok ctx ∧ ctx.plan = some body ∧
      ExecutionPlan.fromDict (world.uuid4 0) body = .ok plan ∧
      orch = {
        plan := normalizeInterruptedTasks plan
        session := { context := ctx, durable := durable } } := by
  unfold restore at restored
  cases loaded : durable.checkpoints.load rt.sha256 (world.uuid4 0) (world.clock 0)
      execId with
  | error err => simp [loaded, bind, Except.bind] at restored
  | ok ctx =>
    simp only [loaded, bind, Except.bind] at restored
    cases planned : ctx.plan with
    | none => simp [planned] at restored
    | some body =>
      simp only [planned] at restored
      cases decoded : ExecutionPlan.fromDict (world.uuid4 0) body with
      | error err => simp [decoded] at restored
      | ok plan =>
        simp only [decoded, pure, Except.pure, Except.ok.injEq] at restored
        exact ⟨ctx, body, plan, rfl, planned, decoded, restored.symm⟩

theorem restore_fresh {world : World} {durable : Durable} {orch : Orchestration}
    (restored : restore rt world execId durable = .ok orch) :
    orch.session.trace = [] := by
  obtain ⟨ctx, body, plan, _, _, _, rfl⟩ := restore_ok restored
  rfl

end PlanOrchestrator

end Ois.Kernel
