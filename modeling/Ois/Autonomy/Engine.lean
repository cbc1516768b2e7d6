import Ois.Library.Interleaving
import Ois.Autonomy.Approvals
import Ois.Autonomy.Policy

/-!
# The durable execution engine

`DurableAutonomousExecutionEngine` of `autonomy/engine.py`.
-/

namespace Ois.Autonomy

open Ois.Library Ois.Kernel Ois.Infrastructure

structure EngineTables where
  runs : RunTable := []
  claims : ClaimTable := []
  leases : LeaseTable := []
  approvals : ApprovalTable := []
  deriving DecidableEq, Repr

/-- What all workers have in common. The stores refuse a lease without duration. -/
structure Deployment where
  postgres : Postgres
  double : List Char → UInt64
  reprFloat : UInt64 → String
  ttl : Int := 30000000
  sweeper : WorkflowRecoverySweeper := {}
  positive : 0 < ttl := by decide

inductive CallbackOutcome where
  | returned (res : Json)
  | raised (typeName msg : String)
  deriving DecidableEq, Repr

structure EngineInput where
  now : Int
  workerNow : Int
  clock : DateTime := .epoch
  outcome : CallbackOutcome := .returned .null

structure DurableExecutionReceipt where
  run : DurableWorkflowRun
  approvalId : Option String := none
  deriving DecidableEq, Repr

structure EngineCall where
  policy : AutomationPolicy
  workflow : SourceWorkflow
  workerId : String
  deriving DecidableEq, Repr

inductive EngineRequest where
  | start (call : EngineCall) (event : EventEnvelope) (runId : Uuid)
  | resumeApproval (call : EngineCall) (askId : String)
  | decide (askId : String) (decision : ApprovalDecision) (actor : String)
  | sweep (limit : Int) (locked : List Uuid)
  | transition (runId : Uuid) (change : RunChange)
  | fencedTransition (lease : WorkerLease) (runId : Uuid) (change : RunChange)
  deriving DecidableEq, Repr

/-- The arguments of `_execute`. A worker that resumes has an approval, which stands for
`approval_granted`. -/
structure Execution where
  policy : AutomationPolicy
  run : DurableWorkflowRun
  event : EventEnvelope
  lease : WorkerLease
  approvalId : Option String := none
  deriving DecidableEq, Repr

inductive EnginePoint where
  /-- `create` reads the run that its `INSERT` found. -/
  | conflicted (call : EngineCall) (event : EventEnvelope) (run : DurableWorkflowRun)
  /-- `claim_idempotency`. -/
  | created (call : EngineCall) (event : EventEnvelope) (run : DurableWorkflowRun)
  /-- `get_by_event`, for the receipt. -/
  | refused (run : DurableWorkflowRun)
  /-- `start` claims the lease. -/
  | claimed (call : EngineCall) (event : EventEnvelope) (run : DurableWorkflowRun)
  /-- `get_by_event` for the approval. -/
  | approved (call : EngineCall) (askId : String) (approval : ApprovalRequest)
  /-- `resume_approval` claims the lease. -/
  | found (call : EngineCall) (askId : String) (run : DurableWorkflowRun)
  /-- The resume asserts that the lease is current. -/
  | owned (call : EngineCall) (askId : String) (run : DurableWorkflowRun) (lease : WorkerLease)
  /-- `resume_event`. -/
  | current (call : EngineCall) (askId : String) (run : DurableWorkflowRun)
      (lease : WorkerLease)
  /-- `_execute` evaluates the policy. -/
  | leased (exec : Execution)
  /-- It creates an approval. -/
  | requesting (exec : Execution) (reason : String)
  /-- It lets the run wait for the approval. -/
  | waiting (exec : Execution) (askId : String)
  /-- It calls back. -/
  | running (exec : Execution) (attempt : Int)
  | failed (exec : Execution) (attempt : Int) (typeName msg : String)
  | returned (exec : Execution) (res : Json)
  | releasing (lease : WorkerLease) (receipt : DurableExecutionReceipt)
  deriving DecidableEq, Repr

inductive EngineEvent where
  | created (runId : Uuid) (now : Int)
  | transitioned (runId : Uuid) (status : DurableRunStatus) (now : Int)
  | swept (runIds : List Uuid) (now : Int)
  | called (runId : Uuid) (askId : Option String) (out : CallbackOutcome)
  | returned (receipt : DurableExecutionReceipt)
  | raised (err : PyError)
  deriving DecidableEq, Repr

abbrev EngineStride := Stride EnginePoint EngineTables (List EngineEvent)

def attempting {Value : Type} (tables : EngineTables) (res : Except PyError Value)
    (next : Value → EngineStride) : EngineStride :=
  match res with
  | .error err => .ending tables [.raised err]
  | .ok value => next value

def raising (tables : EngineTables) (kind msg : String) : EngineStride :=
  .ending tables [.raised ⟨.other kind, msg⟩]

section stmts

variable (site : Deployment)

def moving (runId : Uuid) (change : RunChange) (input : EngineInput) (tables : EngineTables)
    (res : Except PyError (RunTable × DurableRunRow))
    (next : DurableWorkflowRun → Option EnginePoint) : EngineStride :=
  attempting tables res fun (runs, row) =>
    let moved := EngineEvent.transitioned runId change.status input.now
    match row.run site.double runId with
    | .error err => .ending { tables with runs := runs } [moved, .raised err]
    | .ok run => ⟨{ tables with runs := runs }, next run, [moved]⟩

namespace Execution

/-- `fenced.transition(run.run_id, ...)`. -/
def move (change : RunChange) (next : DurableWorkflowRun → EnginePoint) (exec : Execution)
    (input : EngineInput) (tables : EngineTables) : EngineStride :=
  moving site exec.run.runId change input tables
    (tables.runs.fencedTransition site.postgres input.now tables.leases exec.lease
      exec.run.runId change) fun run => some (next run)

def toStopped : RunChange := { status := .stopped }

def toWaiting (askId : String) : RunChange :=
  { status := .waitingApproval
    checkpoint := some [("phase", .str "approval"), ("approval_id", .str askId)] }

def phase (name : String) (exec : Execution) : Members :=
  [("phase", .str name), ("event_id", .str exec.event.eventId)]

def toRunning (exec : Execution) : RunChange :=
  { status := .running, checkpoint := some (exec.phase "execution") }

def toRecovering (attempt : Int) (typeName msg : String) (exec : Execution) : RunChange :=
  { status := .recovering, attempt := some (attempt + 1)
    checkpoint := some (exec.phase "recovery")
    error := some [("type", .str typeName), ("message", .str msg)] }

def toCompleted (res : Json) (exec : Execution) : RunChange :=
  { status := .completed, checkpoint := some (exec.phase "completed"), result := some res }

/-- `self.leases.release(lease)` and the receipt come next. -/
def receipt (askId : Option String) (exec : Execution) (run : DurableWorkflowRun) :
    EnginePoint :=
  .releasing exec.lease { run := run, approvalId := askId }

def enterRunning (input : EngineInput) (tables : EngineTables) (exec : Execution) :
    EngineStride :=
  exec.move site exec.toRunning
    (fun run => .running exec run.attempt) input tables

/-- `get_by_event(run.event_id)`, whose answer decides whether an approval is created. -/
def ask (reason : String) (input : EngineInput) (tables : EngineTables) (exec : Execution) :
    EngineStride :=
  attempting tables
    (tables.approvals.getByEvent site.double input.clock exec.run.identity.eventId)
    fun
      | some approval => .going tables (.waiting exec approval.approvalId) []
      | none => .going tables (.requesting exec reason) []

def evaluate (input : EngineInput) (tables : EngineTables) (exec : Execution) :
    EngineStride :=
  attempting tables (exec.policy.judge site.reprFloat exec.event) fun evaluation =>
      match evaluation.outcome, exec.approvalId with
      | .deny, _ => exec.move site toStopped (exec.receipt none) input tables
      | .approvalRequired, none => exec.ask site evaluation.reason input tables
      | .approvalRequired, some _ => exec.enterRunning site input tables
      | .allow, _ => exec.enterRunning site input tables

end Execution

def runIdentity (flow : SourceWorkflow) (event : EventEnvelope) : RunIdentity :=
  { tenantId := event.tenantId, workspaceId := event.workspaceId
    workflowId := flow.workflowId, workflowVersion := flow.version
    eventId := event.eventId }

def approvedIdentity (flow : SourceWorkflow) (approval : ApprovalRequest) : RunIdentity :=
  { tenantId := approval.tenantId, workspaceId := approval.workspaceId
    workflowId := approval.workflowId, workflowVersion := flow.version
    eventId := approval.eventId }

/-- `start(...)` up to the `INSERT` of `create`. -/
def enterStart (call : EngineCall) (event : EventEnvelope) (runId : Uuid) (input : EngineInput)
    (tables : EngineTables) : EngineStride :=
  let run := DurableWorkflowRun.new runId (runIdentity call.workflow event)
  if call.workflow.fires event then
    attempting tables (tables.runs.insert site.postgres input.now run) fun
      | none => .going tables (.conflicted call event run) []
      | some runs =>
        .going { tables with runs := runs } (.created call event run) [.created runId input.now]
  else .ending tables [.raised ⟨.valueError, "workflow trigger did not match event"⟩]

/-- `resume_approval(...)` up to its `get`. -/
def enterResume (call : EngineCall) (askId : String) (input : EngineInput)
    (tables : EngineTables) : EngineStride :=
  attempting tables
    (tables.approvals.get site.postgres site.double input.clock askId) fun
      | none => raising tables "KeyError" (Kernel.reprStr "approval not found")
      | some approval =>
        if approval.decision = .approved then
          .going tables (.approved call askId approval) []
        else .ending tables [.raised ⟨.valueError, "approval is not approved"⟩]

/-- `sweep(...)` is one statement. -/
def enterSweep (limit : Int) (locked : List Uuid) (input : EngineInput) (tables : EngineTables) :
    EngineStride :=
  attempting tables (site.sweeper.sweep site.double input.now limit locked tables.runs)
    fun (runs, recovered) =>
      .ending { tables with runs := runs } [.swept (recovered.map (·.runId)) input.now]

def enterEngine (req : EngineRequest) (input : EngineInput) (tables : EngineTables) :
    EngineStride :=
  match req with
  | .start call event runId => enterStart site call event runId input tables
  | .resumeApproval call askId => enterResume site call askId input tables
  | .decide askId decision actor =>
    let (approvals, answer) := tables.approvals.decide site.postgres site.double
      input.clock askId decision actor input.workerNow
    attempting { tables with approvals := approvals } answer fun _ =>
      .ending { tables with approvals := approvals } []
  | .sweep limit locked => enterSweep site limit locked input tables
  | .transition runId change => moving site runId change input tables
      (tables.runs.transition site.postgres input.now runId change) fun _ => none
  | .fencedTransition lease runId change => moving site runId change input tables
      (tables.runs.fencedTransition site.postgres input.now tables.leases lease runId
        change) fun _ => none

def claiming (run : DurableWorkflowRun) (call : EngineCall) (input : EngineInput)
    (tables : EngineTables) (next : EngineTables → Option WorkerLease → EngineStride) :
    EngineStride :=
  attempting tables
    (tables.leases.claim site.ttl input.now input.workerNow run.runId call.workerId)
    fun (leases, lease) => next { tables with leases := leases } lease

def proceedEngine (point : EnginePoint) (input : EngineInput) (tables : EngineTables) :
    EngineStride :=
  match point with
  | .conflicted call event run =>
    attempting tables (tables.runs.getByEvent site.double run.identity) fun
      | none => raising tables "RuntimeError"
          "workflow run insert conflicted but existing run was not found"
      | some existing => .going tables (.created call event existing) []
  | .created call event run =>
    let (claims, claimed) := tables.claims.claim run
    .going { tables with claims := claims }
      (if claimed then .claimed call event run else .refused run) []
  | .refused run =>
    attempting tables (tables.runs.getByEvent site.double run.identity) fun
      | none => raising tables "RuntimeError"
          "idempotency claim lost without an existing workflow run"
      | some existing => .ending tables [.returned { run := existing }]
  | .claimed call event run => claiming site run call input tables fun after lease =>
    match lease with
    | none => .ending after [.returned { run := run }]
    | some lease => .going after
        (.leased { policy := call.policy, run := run, event := event, lease := lease }) []
  | .approved call askId approval =>
    attempting tables
      (tables.runs.getByEvent site.double (approvedIdentity call.workflow approval)) fun
        | none => raising tables "KeyError" (Kernel.reprStr "workflow run for approval not found")
        | some run => .going tables (.found call askId run) []
  | .found call askId run => claiming site run call input tables fun after lease =>
    match lease with
    | none => raising after "RuntimeError" "workflow run is owned by another worker"
    | some lease => .going after (.owned call askId run lease) []
  | .owned call askId run lease =>
    attempting tables (tables.leases.assertCurrent input.now lease) fun _ =>
      .going tables (.current call askId run lease) []
  | .current call askId run lease =>
    attempting tables
      (tables.approvals.resumeEvent site.postgres site.double input.clock askId)
      fun event => .going tables
        (.leased { policy := call.policy, run := run, event := event, lease := lease
                   approvalId := some askId }) []
  | .leased exec => exec.evaluate site input tables
  | .requesting exec reason =>
    attempting tables (tables.approvals.create site.postgres
        (.forRun exec.run exec.event reason input.workerNow)
        (some exec.run.runId)) fun approvals =>
          .going { tables with approvals := approvals }
            (.waiting exec exec.run.runId.str) []
  | .waiting exec askId =>
    exec.move site (Execution.toWaiting askId)
      (exec.receipt (some askId)) input tables
  | .running exec attempt =>
    .going tables (match input.outcome with
        | .returned res => .returned exec res
        | .raised typeName msg => .failed exec attempt typeName msg)
      [.called exec.run.runId exec.approvalId input.outcome]
  | .failed exec attempt typeName msg =>
    exec.move site (exec.toRecovering attempt typeName msg)
      (exec.receipt none) input tables
  | .returned exec res =>
    exec.move site (exec.toCompleted res) (exec.receipt none) input tables
  | .releasing lease receipt =>
    .ending { tables with leases := tables.leases.release lease } [.returned receipt]

def engine : Program EngineRequest EngineInput EnginePoint EngineTables (List EngineEvent) :=
  { enter := enterEngine site, proceed := proceedEngine site }

end stmts

abbrev EngineStatement := Statement EngineRequest EngineInput

abbrev EngineScene := Scene EnginePoint EngineTables

abbrev engineMachine (site : Deployment) :
    Machine EngineStatement EngineScene (Option (List EngineEvent)) :=
  (engine site).machine

/-- A server that keeps every number, and no doubles. -/
def Deployment.exact : Deployment :=
  { postgres := .exact, double := fun _ => 0, reprFloat := fun _ => "" }

def orderEvent (tenant : String) (approval : Bool) : EventEnvelope :=
  { eventId := "event", tenantId := tenant, workspaceId := "space", eventType := "created"
    aggregateId := "event", payload := [("requires_approval", .bool approval)]
    createdAt := .epoch }

def orderCall (tenant worker : String) : EngineCall :=
  { policy := [{ ruleId := "rule" }], workerId := worker
    workflow := { workflowId := "flow", version := "1", tenantId := tenant
                  workspaceId := "space", trigger := { eventType := "created" } } }

/-- Both clocks show the second, and a callback returns. -/
def second (seconds : Int) : EngineInput :=
  { now := seconds * 1000000, workerNow := seconds * 1000000, outcome := .returned (.int 1) }

def rest (n count : Nat) (input : EngineInput) : List EngineStatement :=
  List.replicate count (.proceed n input)

def starting (n : Nat) (tenant : String) (approval : Bool) (runId : Uuid) (count : Nat) :
    List EngineStatement :=
  .enter n (.start (orderCall tenant "worker") (orderEvent tenant approval) runId)
    (second 0) :: rest n count (second 0)

def deciding (n : Nat) (runId : Uuid) (decision : ApprovalDecision) (input : EngineInput) :
    EngineStatement :=
  .enter n (.decide runId.str decision "human") input

def resuming (n : Nat) (tenant : String) (runId : Uuid) (count : Nat)
    (input : EngineInput) : List EngineStatement :=
  .enter n (.resumeApproval (orderCall tenant "worker") runId.str) input ::
    rest n count input

def statusOfRun (runId : Uuid) (scene : EngineScene) : Option DurableRunStatus :=
  (scene.shared.runs.lookup runId).map (·.status)

/-- A call that needs no approval completes its run and releases its lease. -/
example : let scene := (engineMachine .exact).run (starting 0 "tenant" false ⟨1⟩ 6) (.quiet {})
    statusOfRun ⟨1⟩ scene = some .completed ∧ scene.shared.leases = [] := by
  decide +kernel

end Ois.Autonomy
