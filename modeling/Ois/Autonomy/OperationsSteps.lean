import Ois.Autonomy.Approvals
import Ois.Autonomy.Policy
import Ois.Library.Command
import Ois.Library.Machine
import Ois.Sources.Outbox

/-!
# What a run of a workflow does

`autonomy/operations.py`, with the loop of `autonomy/loops.py`, the recovery of
`autonomy/recovery.py` and the router of `autonomy/events.py`.
-/

namespace Ois.Autonomy

open Ois.Library Ois.Kernel Ois.Sources

inductive RecoveryAction where
  | retry | pause | replan | escalate | stop
  deriving DecidableEq, Repr

structure RecoveryRecord where
  workflowId : String
  eventId : String
  attempt : Nat
  action : RecoveryAction
  reason : String
  deriving DecidableEq, Repr

structure FailureRecovery where
  maxRetries : Nat := 2
  deriving DecidableEq, Repr

/-- `decide(attempt=attempt, failure=failure, safe_to_retry=safe_to_retry)`. -/
def FailureRecovery.decide (attempt : Nat) (failure : String) (safeToRetry : Bool)
    (recovery : FailureRecovery) : Except PyError RecoveryRecord :=
  if attempt < 1 then .error ⟨.valueError, "attempt must be positive"⟩
  else
    let action : RecoveryAction :=
      if failure = "safety" then .stop
      else if failure ∈ ["permission", "approval"] then .escalate
      else if failure = "plan" then .replan
      else if failure ∈ ["transient", "timeout"] ∧ safeToRetry = true ∧
          attempt ≤ recovery.maxRetries then .retry
      else if failure = "state" then .pause
      else .escalate
    .ok { workflowId := "", eventId := "", attempt := attempt, action := action
          reason := "recovery decision for " ++ failure }

structure WorkflowRun where
  runId : String
  workflowId : String
  workflowVersion : String
  eventId : String
  status : String
  result : Json := .null
  error : Option (String × String) := none
  deriving DecidableEq, Repr

inductive LoopState where
  | idle | running | waitingApproval | recovering | stopped
  deriving DecidableEq, Repr

structure LoopDecision where
  state : LoopState
  workflowRun : Option WorkflowRun := none
  approvalId : Option String := none
  reason : String := ""
  deriving DecidableEq, Repr

/-- An action returns, raises an `Exception`, or is ended by what is none, such as an
interrupt of the keyboard. -/
inductive ActionOutcome where
  | returned (res : Json)
  | raised (typeName msg : String)
  | interrupted (err : PyError)
  deriving DecidableEq, Repr

/-- What the n-th action comes to, the n-th identifier that is drawn and the n-th reading of
the clock. Random identifiers do not repeat. -/
structure Surroundings where
  reprFloat : UInt64 → String
  outcome : Nat → ActionOutcome
  uuid : Nat → String
  clock : Nat → DateTime
  distinct : Function.Injective uuid

structure Act where
  workflow : SourceWorkflow
  event : EventEnvelope
  granted : Bool
  loop : Nat
  outcome : ActionOutcome
  /-- The workflows and events whose actions are not over when this one starts. -/
  within : List (String × String)
  deriving DecidableEq, Repr

structure EventRoute where
  routeId : String
  eventType : String
  sourceId : Option String := none
  deriving DecidableEq, Repr

structure Operations where
  workflows : Dict String SourceWorkflow := []
  routes : Dict String EventRoute := []
  processed : List (String × String) := []
  approvals : InMemoryApprovalStore := []
  outbox : Option Outbox := none
  acts : List Act := []
  loops : Nat := 0
  drawn : Nat := 0
  read : Nat := 0
  deriving DecidableEq, Repr

/-- The loop that the operations are made with. It refuses to make no attempt. -/
structure AutonomousLoop where
  policy : AutomationPolicy := []
  recovery : FailureRecovery := {}
  maxIterations : Nat := 3
  positive : 0 < maxIterations := by decide
  deriving DecidableEq, Repr

abbrev OperationsCommand (Value : Type) := Command PyError Operations Value

structure OperationReceipt where
  eventId : String
  workflowIds : List String
  decisions : List LoopDecision
  deriving DecidableEq, Repr

section commands

variable (env : Surroundings)

/-- `str(uuid4())`. -/
def uuid4 : OperationsCommand String :=
  modifyGet fun ops =>
    (env.uuid ops.drawn, { ops with drawn := ops.drawn + 1 })

/-- `datetime.now(UTC)`. -/
def utcNow : OperationsCommand DateTime :=
  modifyGet fun ops =>
    (env.clock ops.read, { ops with read := ops.read + 1 })

/-- `workflow.action(event)` in the loop of that number. -/
abbrev Actions := Nat → SourceWorkflow → EventEnvelope → Bool → OperationsCommand ActionOutcome

/-- An action that does not call the operations, within the actions that do. -/
def actionWithin (within : List (String × String)) : Actions :=
  fun n flow event granted => modifyGet fun ops =>
    let out := env.outcome ops.acts.length
    (out, { ops with
      acts := ops.acts ++ [⟨flow, event, granted, n, out, within⟩] })

def action : Actions := actionWithin env []

/-- `WorkflowRun.success(workflow, event, result)`. -/
def WorkflowRun.success (flow : SourceWorkflow) (event : EventEnvelope) (res : Json) :
    OperationsCommand WorkflowRun := do
  let runId ← uuid4 env
  return { runId := runId, workflowId := flow.workflowId
           workflowVersion := flow.version, eventId := event.eventId
           status := "completed", result := res }

/-- `WorkflowRun.failure(workflow, event, error)`. -/
def WorkflowRun.failure (flow : SourceWorkflow) (event : EventEnvelope)
    (typeName msg : String) : OperationsCommand WorkflowRun := do
  let runId ← uuid4 env
  return { runId := runId, workflowId := flow.workflowId
           workflowVersion := flow.version, eventId := event.eventId
           status := "failed", error := some (typeName, msg) }

/-- `ApprovalGate.request(...)`. -/
def requestApproval (workflowId : String) (event : EventEnvelope) (reason : String) :
    OperationsCommand ApprovalRequest := do
  let now ← utcNow env
  let askId ← uuid4 env
  let req := ApprovalGate.request askId workflowId event reason now
  let approvals ← MonadExcept.ofExcept ((← get).approvals.create req)
  modify fun ops => { ops with approvals := approvals }
  return req

variable (loop : AutonomousLoop) (act : Actions)

/-- The `for` of `AutonomousLoop.run`. -/
def attempts (n : Nat) (flow : SourceWorkflow) (event : EventEnvelope) (granted : Bool) :
    Nat → Nat → OperationsCommand LoopDecision
  | 0, _ => return { state := .recovering, reason := "recovery attempt limit exhausted" }
  | remaining + 1, attempt => do
    match ← act n flow event granted with
    | .returned res =>
      let run ← WorkflowRun.success env flow event res
      return { state := .idle, workflowRun := some run, reason := "workflow completed" }
    | .raised typeName msg =>
      let decision ← MonadExcept.ofExcept (loop.recovery.decide attempt "transient" true)
      if decision.action = .retry then
        attempts n flow event granted remaining (attempt + 1)
      else
        let run ← WorkflowRun.failure env flow event typeName msg
        return { state := .recovering, workflowRun := some run, reason := decision.reason }
    | .interrupted err => throw err

/-- `AutonomousLoop.run(...)`. -/
def AutonomousLoop.run (flow : SourceWorkflow) (event : EventEnvelope) (granted : Bool) :
    OperationsCommand LoopDecision := do
  if flow.fires event = false then
    return { state := .stopped, reason := "workflow trigger did not match" }
  let evaluation ← MonadExcept.ofExcept (loop.policy.judge env.reprFloat event)
  if evaluation.outcome = .deny then
    return { state := .stopped, reason := evaluation.reason }
  if evaluation.outcome = .approvalRequired ∧ granted = false then
    let approval ← requestApproval env flow.workflowId event evaluation.reason
    return { state := .waitingApproval, approvalId := some approval.approvalId }
  modify fun ops => { ops with loops := ops.loops + 1 }
  attempts env loop act (← get).loops flow event granted loop.maxIterations 1

def workflowMissing (workflowId : String) : PyError :=
  ⟨.other "KeyError", Kernel.reprStr workflowId⟩

/-- `_run_workflow(workflow_id, event, approval_granted=granted)`. -/
def runWorkflow (workflowId : String) (event : EventEnvelope) (granted : Bool) :
    OperationsCommand LoopDecision := do
  let ops ← get
  if (workflowId, event.eventId) ∈ ops.processed then
    return { state := .idle, reason := "workflow event already processed" }
  match ops.workflows.lookup workflowId with
  | none => throw (workflowMissing workflowId)
  | some flow =>
    let decision ← loop.run env act flow event granted
    if decision.state = .idle then
      modify fun ops => { ops with
        processed := (workflowId, event.eventId) :: ops.processed }
    return decision

def EventRoute.accepts (event : EventEnvelope) (route : EventRoute) : Bool :=
  route.eventType == event.eventType &&
    route.sourceId.all fun source => event.sourceId == .str source

/-- The `for` of `InMemoryEventRouter.route`. -/
def handle (event : EventEnvelope) : List EventRoute → OperationsCommand (List LoopDecision)
  | [] => return []
  | route :: rest => do
    if route.accepts event then
      let decision ← runWorkflow env loop act route.routeId event false
      let decisions ← handle event rest
      return decision :: decisions
    else handle event rest

/-- `route(event)`. -/
def routeEvent (event : EventEnvelope) : OperationsCommand OperationReceipt := do
  let decisions ← handle env loop act event ((← get).routes.map Prod.snd)
  let workflows := (← get).workflows.filter fun entry => entry.2.fires event
  return { eventId := event.eventId, workflowIds := workflows.map Prod.fst
           decisions := decisions }

/-- `EventEnvelope.from_outbox(event)`. -/
def EventEnvelope.fromOutbox (event : OutboxEvent) : EventEnvelope :=
  { eventId := event.eventId, tenantId := event.tenantId, workspaceId := event.workspaceId
    eventType := event.eventType, aggregateId := event.aggregateId, payload := event.payload
    createdAt := event.createdAt, sourceId := (event.payload.lookup "source_id").getD .null }

/-- `self._outbox.mark_published(event_id)`. -/
def markPublished (eventId : String) : OperationsCommand Unit := do
  let now ← utcNow env
  modify fun ops => { ops with
    outbox := ops.outbox.map (·.markPublished eventId now) }

def OperationReceipt.Settled (receipt : OperationReceipt) : Prop :=
  receipt.decisions ≠ [] ∧ ∀ decision ∈ receipt.decisions, decision.state = .idle

instance (receipt : OperationReceipt) : Decidable receipt.Settled :=
  inferInstanceAs (Decidable (_ ∧ _))

/-- The `for` of `drain_outbox`. -/
def drainEach : List OutboxEvent → OperationsCommand (List OperationReceipt)
  | [] => return []
  | event :: rest => do
    let receipt ← routeEvent env loop act (EventEnvelope.fromOutbox event)
    if receipt.Settled then markPublished env event.eventId
    let receipts ← drainEach rest
    return receipt :: receipts

/-- `drain_outbox(limit=limit)`. -/
def drainOutbox (limit : Int) : OperationsCommand (List OperationReceipt) := do
  match (← get).outbox with
  | none => throw ⟨.other "RuntimeError", "outbox is not configured"⟩
  | some outbox => drainEach env loop act (outbox.pending limit)

/-- `InMemoryEventRouter.register(route)`. -/
def registerRoute (route : EventRoute) : OperationsCommand Unit := do
  if route.routeId = "" ∨ route.eventType = "" then
    throw ⟨.valueError, "route_id and event_type are required"⟩
  if ((← get).routes.lookup route.routeId).isSome then
    throw ⟨.valueError, "event route already registered: " ++ route.routeId⟩
  modify fun ops => { ops with
    routes := ops.routes ++ [(route.routeId, route)] }

def SourceWorkflow.route (flow : SourceWorkflow) : EventRoute :=
  { routeId := flow.workflowId, eventType := flow.trigger.eventType
    sourceId := flow.trigger.sourceId }

/-- `register_workflow(workflow)`. A workflow that the router refuses is kept all the same. -/
def registerWorkflow (flow : SourceWorkflow) : OperationsCommand Unit := do
  if ((← get).workflows.lookup flow.workflowId).isSome then
    throw ⟨.valueError, "workflow already registered: " ++ flow.workflowId⟩
  modify fun ops => { ops with
    workflows := ops.workflows ++ [(flow.workflowId, flow)] }
  registerRoute flow.route

/-- `self._approvals.decide(approval_id, decision, actor)`. -/
def decideApproval (askId : String) (decision : ApprovalDecision) (actor : String) :
    OperationsCommand ApprovalRequest := do
  let now ← utcNow env
  let decidedAt ← utcNow env
  let (approvals, approval) := (← get).approvals.decide askId decision actor now.instant
    decidedAt.instant
  modify fun ops => { ops with approvals := approvals }
  MonadExcept.ofExcept approval

def ApprovalRequest.rebuilt (flow : SourceWorkflow) (createdAt : DateTime)
    (approval : ApprovalRequest) : EventEnvelope :=
  { eventId := approval.eventId, tenantId := approval.tenantId
    workspaceId := approval.workspaceId, eventType := flow.trigger.eventType
    aggregateId := approval.eventId, createdAt := createdAt }

/-- `approve_and_resume(approval_id, actor)`. -/
def approveAndResume (askId actor : String) : OperationsCommand LoopDecision := do
  let approval ← decideApproval env askId .approved actor
  match (← get).workflows.lookup approval.workflowId with
  | none => throw ⟨.other "KeyError",
      Kernel.reprStr ("workflow not registered: " ++ approval.workflowId)⟩
  | some flow =>
    match approval.event with
    | some event => runWorkflow env loop act flow.workflowId event true
    | none =>
      let createdAt ← utcNow env
      runWorkflow env loop act flow.workflowId (approval.rebuilt flow createdAt) true

/-- `reject(approval_id, actor)`. -/
def reject (askId actor : String) : OperationsCommand Unit := do
  let _ ← decideApproval env askId .rejected actor

def appendEvent (event : OutboxEvent) : OperationsCommand Bool := do
  match (← get).outbox with
  | none => return false
  | some outbox =>
    let (after, new) := outbox.append event
    modify fun ops => { ops with outbox := some after }
    return new

inductive OperationsCall where
  | registerWorkflow (flow : SourceWorkflow)
  | route (event : EventEnvelope)
  | drainOutbox (limit : Int)
  | approveAndResume (askId actor : String)
  | reject (askId actor : String)
  | append (event : OutboxEvent)

inductive OperationsAnswer where
  | nothing
  | receipts (receipts : List OperationReceipt)
  | decision (decision : LoopDecision)
  | appended (new : Bool)
  deriving DecidableEq, Repr

def commandOf : OperationsCall → OperationsCommand OperationsAnswer
  | .registerWorkflow flow => do
    registerWorkflow flow
    return .nothing
  | .route event => do
    let receipt ← routeEvent env loop act event
    return .receipts [receipt]
  | .drainOutbox limit => do
    let receipts ← drainOutbox env loop act limit
    return .receipts receipts
  | .approveAndResume askId actor => do
    let decision ← approveAndResume env loop act askId actor
    return .decision decision
  | .reject askId actor => do
    reject env askId actor
    return .nothing
  | .append event => do
    let new ← appendEvent event
    return .appended new

def autonomousOperations :
    Machine OperationsCall Operations (Except PyError OperationsAnswer) :=
  fun call ops =>
    let command := commandOf env loop (action env) call
    (command.stateAfter ops, command.outcome ops)

end commands

/-- An identifier of as many letters as counted. -/
def drawnId (count : Nat) : String := String.ofList (List.replicate count 'x')

theorem drawn_id_injective : Function.Injective drawnId := by
  intro count other same
  have lists := String.ofList_injective same
  simpa using congrArg List.length lists

/-- Every action comes to the same, identifiers are counted and the clock stands still. -/
def Surroundings.steady (out : ActionOutcome) : Surroundings :=
  { reprFloat := fun _ => "", outcome := fun _ => out, uuid := drawnId
    clock := fun _ => .epoch, distinct := drawn_id_injective }

def Operations.start (outbox : Option Outbox) (approvals : InMemoryApprovalStore := []) :
    Operations := { outbox := outbox, approvals := approvals }

def creationFlow (workflowId tenant : String) : SourceWorkflow :=
  { workflowId := workflowId, version := "1", tenantId := tenant, workspaceId := "space"
    trigger := { eventType := "created" } }

def creation (eventId tenant : String) (body : Members := []) : OutboxEvent :=
  { eventId := eventId, tenantId := tenant, workspaceId := "space", eventType := "created"
    aggregateId := eventId, payload := body, createdAt := .epoch }

/-- A loop whose only rule lets low risks pass. -/
def lenientLoop : AutonomousLoop := { policy := [{ ruleId := "rule" }] }

open Command

def ActionOutcome.Returned : ActionOutcome → Prop
  | .returned _ => True
  | _ => False

instance (out : ActionOutcome) : Decidable out.Returned :=
  match out with
  | .returned _ => .isTrue trivial
  | .raised _ _ => .isFalse id
  | .interrupted _ => .isFalse id

namespace Act

def Of (workflowId eventId : String) (act : Act) : Prop :=
  act.workflow.workflowId = workflowId ∧ act.event.eventId = eventId

instance (workflowId eventId : String) (act : Act) : Decidable (act.Of workflowId eventId) :=
  inferInstanceAs (Decidable (_ ∧ _))

end Act

structure Burst (flow : SourceWorkflow) (event : EventEnvelope) (granted : Bool)
    (loop limit : Nat) (completes : Bool) (acts : List Act) : Prop where
  same : ∀ act ∈ acts, act.workflow = flow ∧ act.event = event ∧ act.granted = granted ∧
    act.loop = loop
  short : acts.length ≤ limit
  returned : (acts.filter (·.outcome.Returned)).length = if completes then 1 else 0

namespace Burst

variable {flow : SourceWorkflow} {event : EventEnvelope} {granted : Bool}
  {loop limit : Nat} {completes : Bool} {acts : List Act}

theorem empty : Burst flow event granted loop limit false [] := by
  constructor
  · simp
  · simp
  · simp

theorem single {out : ActionOutcome} (room : 1 ≤ limit)
    (completed : completes = decide out.Returned) :
    Burst flow event granted loop limit completes
      [⟨flow, event, granted, loop, out, []⟩] := by
  constructor
  · simp
  · simpa using room
  · rw [completed]
    by_cases ret : out.Returned
    · simp [ret]
    · simp [ret]

theorem cons {out : ActionOutcome} (failed : ¬out.Returned)
    (rest : Burst flow event granted loop limit completes acts) :
    Burst flow event granted loop (limit + 1) completes
      (⟨flow, event, granted, loop, out, []⟩ :: acts) := by
  constructor
  · intro act mem
    cases mem with
    | head => exact ⟨rfl, rfl, rfl, rfl⟩
    | tail _ later => exact rest.same act later
  · rw [List.length_cons]
    exact Nat.succ_le_succ rest.short
  · rw [List.filter_cons_of_neg (by simpa using failed)]
    exact rest.returned

theorem mono {more : Nat} (burst : Burst flow event granted loop limit completes acts)
    (room : limit ≤ more) : Burst flow event granted loop more completes acts :=
  { burst with short := Nat.le_trans burst.short room }

end Burst

theorem FailureRecovery.decide_transient (recovery : FailureRecovery) {attempt : Nat}
    (positive : 1 ≤ attempt) :
    ∃ record, recovery.decide attempt "transient" true = .ok record ∧
      (record.action = .retry ↔ attempt ≤ recovery.maxRetries) := by
  unfold FailureRecovery.decide
  rw [if_neg (Nat.not_lt.mpr positive)]
  by_cases within : attempt ≤ recovery.maxRetries
  · simp [within]
  · simp [within]

section runs

variable (env : Surroundings) (loop : AutonomousLoop)

def Operations.went (acts : List Act) (drawn : Nat) (ops : Operations) : Operations :=
  { ops with acts := ops.acts ++ acts, drawn := drawn }

open Operations

def AutonomousLoop.most (remaining attempt : Nat) : Nat :=
  min remaining (loop.recovery.maxRetries + 2 - attempt)

theorem attempts_end (n : Nat) (flow : SourceWorkflow) (event : EventEnvelope)
    (granted : Bool) (remaining attempt : Nat) (ops : Operations) (positive : 1 ≤ attempt)
    (within : attempt ≤ loop.recovery.maxRetries + 1) :
    Command.Ends (attempts env loop (action env) n flow event granted remaining
      attempt)
      (fun decision after => ∃ acts drawn, after = ops.went acts drawn ∧
      ops.drawn ≤ drawn ∧
      (decision.state = .idle ∨ decision.state = .recovering) ∧
      Burst flow event granted n (loop.most remaining attempt)
      (decision.state = .idle) acts)
      (fun err after => ∃ acts drawn, after = ops.went acts drawn ∧
      ops.drawn ≤ drawn ∧
      (∃ count, env.outcome count = .interrupted err) ∧
      Burst flow event granted n (loop.most remaining attempt) false acts)
      ops := by
  induction remaining generalizing attempt ops with
  | zero =>
    unfold attempts
    rw [ends_pure]
    apply Exists.intro []
    apply Exists.intro ops.drawn
    apply And.intro (by simp [went])
    apply And.intro (Nat.le_refl _)
    apply And.intro (Or.inr rfl)
    exact Burst.empty
  | succ remaining ih =>
    unfold attempts
    have room : 1 ≤ loop.most (remaining + 1) attempt := by
      unfold AutonomousLoop.most
      omega
    simp only [action, actionWithin, ends_bind, ends_modify_get]
    cases outcomeIs : env.outcome ops.acts.length with
    | returned res =>
      simp only [WorkflowRun.success, uuid4, ends_bind, ends_modify_get, ends_pure]
      apply Exists.intro [⟨flow, event, granted, n, .returned res, []⟩]
      apply Exists.intro (ops.drawn + 1)
      apply And.intro rfl
      apply And.intro (Nat.le_succ _)
      apply And.intro (Or.inl trivial)
      exact Burst.single room rfl
    | raised typeName msg =>
      obtain ⟨record, decided, retries⟩ :=
        loop.recovery.decide_transient positive
      rw [decided]
      simp only [ends_bind, ends_of_ok]
      by_cases again : record.action = .retry
      · rw [if_pos again]
        have allowed := retries.mp again
        have next := ih (attempt + 1) (ops.went [⟨flow, event, granted, n,
            .raised typeName msg, []⟩] ops.drawn) (by omega) (by omega)
        have rooms : loop.most remaining (attempt + 1) + 1 ≤ loop.most (remaining + 1) attempt := by
          unfold AutonomousLoop.most
          omega
        apply next.mono
        · intro decision after went
          obtain ⟨acts, drawn, reached, grown, ended, burst⟩ := went
          apply Exists.intro
          apply Exists.intro drawn
          apply And.intro (reached.trans (by simp [went]; rfl))
          exact ⟨grown, ended, (burst.cons (by simp [ActionOutcome.Returned])).mono rooms⟩
        · intro err after went
          obtain ⟨acts, drawn, reached, grown, cause, burst⟩ := went
          apply Exists.intro
          apply Exists.intro drawn
          apply And.intro (reached.trans (by simp [went]; rfl))
          exact ⟨grown, cause, (burst.cons (by simp [ActionOutcome.Returned])).mono rooms⟩
      · rw [if_neg again]
        simp only [WorkflowRun.failure, uuid4, ends_bind, ends_modify_get, ends_pure]
        apply Exists.intro [⟨flow, event, granted, n, .raised typeName msg, []⟩]
        apply Exists.intro (ops.drawn + 1)
        apply And.intro rfl
        apply And.intro (Nat.le_succ _)
        apply And.intro (Or.inr trivial)
        exact Burst.single room rfl
    | interrupted err =>
      rw [ends_throw]
      apply Exists.intro [⟨flow, event, granted, n, .interrupted err, []⟩]
      apply Exists.intro ops.drawn
      apply And.intro rfl
      apply And.intro (Nat.le_refl _)
      apply And.intro ⟨_, outcomeIs⟩
      exact Burst.single room rfl

inductive Fate where
  | passes | raises | asks | acts
  deriving DecidableEq, Repr

def fate (flow : SourceWorkflow) (event : EventEnvelope) (granted : Bool)
    (ops : Operations) : Fate :=
  if (flow.workflowId, event.eventId) ∈ ops.processed ∨
      flow.fires event = false then .passes
  else match loop.policy.judge env.reprFloat event with
    | .error _ => .raises
    | .ok evaluation => match evaluation.outcome with
      | .deny => .passes
      | .allow => .acts
      | .approvalRequired => if granted then .acts else .asks

theorem of_acts {flow : SourceWorkflow} {event : EventEnvelope} {granted : Bool}
    {ops : Operations}
    (acts : fate env loop flow event granted ops = .acts) :
    (flow.workflowId, event.eventId) ∉ ops.processed ∧ flow.fires event = true ∧
      ∃ evaluation, loop.policy.judge env.reprFloat event = .ok evaluation ∧
      (evaluation.outcome = .allow ∨
      evaluation.outcome = .approvalRequired ∧ granted = true) := by
  unfold fate at acts
  by_cases passes : (flow.workflowId, event.eventId) ∈ ops.processed ∨
      flow.fires event = false
  · simp [passes] at acts
  rw [if_neg passes] at acts
  rw [not_or] at passes
  apply And.intro passes.1
  apply And.intro (by simpa using passes.2)
  cases judged : loop.policy.judge env.reprFloat event with
  | error err => simp [judged] at acts
  | ok evaluation =>
    apply Exists.intro evaluation
    apply And.intro rfl
    simp only [judged] at acts
    cases out : evaluation.outcome with
    | allow => exact Or.inl rfl
    | deny => simp [out] at acts
    | approvalRequired =>
      cases granted with
      | true => exact Or.inr ⟨rfl, rfl⟩
      | false => simp [out] at acts

theorem fate_of_same {flow : SourceWorkflow} {event : EventEnvelope} {granted : Bool}
    {ops other : Operations}
    (same : (flow.workflowId, event.eventId) ∈ other.processed ↔
      (flow.workflowId, event.eventId) ∈ ops.processed) :
    fate env loop flow event granted other =
      fate env loop flow event granted ops := by
  unfold fate
  simp only [same]

def Operations.asking (req : ApprovalRequest) (ops : Operations) : Operations :=
  { ops with
    approvals := ops.approvals ++ [(req.approvalId, req)]
    drawn := ops.drawn + 1
    read := ops.read + 1 }

def Operations.acted (acts : List Act) (drawn : Nat) (ops : Operations) : Operations :=
  { ops with
    acts := ops.acts ++ acts, loops := ops.loops + 1, drawn := drawn }

def Operations.newRequest (flow : SourceWorkflow) (event : EventEnvelope) (reason : String)
    (ops : Operations) : ApprovalRequest :=
  ApprovalGate.request (env.uuid ops.drawn) flow.workflowId event reason
    (env.clock ops.read)

inductive Ran (flow : SourceWorkflow) (event : EventEnvelope) (granted : Bool)
    (ops : Operations) : Except PyError LoopDecision → Operations → Prop where
  | passed (decision : LoopDecision)
      (passes : fate env loop flow event granted ops = .passes)
      (idle : decision.state = .idle ↔
        (flow.workflowId, event.eventId) ∈ ops.processed) :
      Ran flow event granted ops (.ok decision) ops
  | failed (err : PyError)
      (raises : fate env loop flow event granted ops = .raises) :
      Ran flow event granted ops (.error err) ops
  | asked (decision : LoopDecision) (reason : String)
      (asks : fate env loop flow event granted ops = .asks)
      (fresh : ops.approvals.lookup (env.uuid ops.drawn) = none)
      (waits : decision.state = .waitingApproval) :
      Ran flow event granted ops (.ok decision)
        (ops.asking (ops.newRequest env flow event reason))
  | clashed (err : PyError)
      (asks : fate env loop flow event granted ops = .asks)
      (taken : (ops.approvals.lookup (env.uuid ops.drawn)).isSome) :
      Ran flow event granted ops (.error err)
        { ops with drawn := ops.drawn + 1, read := ops.read + 1 }
  | completed (decision : LoopDecision) (acts : List Act) (drawn : Nat)
      (runs : fate env loop flow event granted ops = .acts)
      (idle : decision.state = .idle) (grown : ops.drawn ≤ drawn)
      (burst : Burst flow event granted (ops.loops + 1)
        (loop.most loop.maxIterations 1) true acts) :
      Ran flow event granted ops (.ok decision) { ops.acted acts drawn with
          processed := (flow.workflowId, event.eventId) :: ops.processed }
  | gaveUp (decision : LoopDecision) (acts : List Act) (drawn : Nat)
      (runs : fate env loop flow event granted ops = .acts)
      (recovers : decision.state = .recovering) (grown : ops.drawn ≤ drawn)
      (burst : Burst flow event granted (ops.loops + 1)
        (loop.most loop.maxIterations 1) false acts) :
      Ran flow event granted ops (.ok decision) (ops.acted acts drawn)
  | interrupted (err : PyError) (acts : List Act) (drawn : Nat)
      (runs : fate env loop flow event granted ops = .acts)
      (cause : ∃ count, env.outcome count = .interrupted err)
      (grown : ops.drawn ≤ drawn)
      (burst : Burst flow event granted (ops.loops + 1)
        (loop.most loop.maxIterations 1) false acts) :
      Ran flow event granted ops (.error err) (ops.acted acts drawn)

namespace Ran

variable {env loop} {flow : SourceWorkflow} {event : EventEnvelope}
  {granted : Bool} {ops after : Operations} {res : Except PyError LoopDecision}

section

variable (ran : Ran env loop flow event granted ops res after)

include ran

theorem workflows :
    after.workflows = ops.workflows := by
  cases ran <;> rfl

theorem routes :
    after.routes = ops.routes := by
  cases ran <;> rfl

theorem outbox :
    after.outbox = ops.outbox := by
  cases ran <;> rfl

theorem mem_processed (key : String × String) : key ∈ after.processed ↔ key ∈ ops.processed ∨
      key = (flow.workflowId, event.eventId) ∧ key ∈ after.processed := by
  cases ran with
  | completed decision acts drawn runs idle grown burst =>
    simp only [List.mem_cons]
    tauto
  | passed | failed | asked | clashed | gaveUp | interrupted =>
    constructor
    · exact Or.inl
    · intro either
      exact either.elim id And.right

theorem fires_of_new
    (done : (flow.workflowId, event.eventId) ∈ after.processed) :
    (flow.workflowId, event.eventId) ∈ ops.processed ∨ flow.fires event = true := by
  cases ran with
  | completed decision acts drawn runs idle grown burst =>
    exact Or.inr (of_acts env loop runs).2.1
  | passed | failed | asked | clashed | gaveUp | interrupted => exact Or.inl done

end

theorem idle_iff {decision : LoopDecision}
    (ran : Ran env loop flow event granted ops (.ok decision) after) :
    decision.state = .idle ↔ (flow.workflowId, event.eventId) ∈ after.processed := by
  have new (other : fate env loop flow event granted ops ≠ .passes) :
      (flow.workflowId, event.eventId) ∉ ops.processed := by
    intro held
    exact other (by simp [fate, held])
  cases ran with
  | passed _ passes idle => exact idle
  | asked _ reason asks fresh waits =>
    simpa [waits, asking] using new (by simp [asks])
  | completed _ acts drawn runs idle grown burst => simp [idle]
  | gaveUp _ acts drawn runs recovers grown burst =>
    simpa [recovers, acted] using new (by simp [runs])

theorem not_raises {decision : LoopDecision}
    (ran : Ran env loop flow event granted ops (.ok decision) after) :
    fate env loop flow event granted ops ≠ .raises := by
  cases ran with
  | passed _ passes => simp [passes]
  | asked _ reason asks => simp [asks]
  | completed _ acts drawn runs => simp [runs]
  | gaveUp _ acts drawn runs => simp [runs]

theorem fate_of_other {other : SourceWorkflow} {about : EventEnvelope} {allowed : Bool}
    (ran : Ran env loop flow event granted ops res after)
    (unlike : (other.workflowId, about.eventId) ≠ (flow.workflowId, event.eventId)) :
    fate env loop other about allowed after =
      fate env loop other about allowed ops := by
  apply fate_of_same env loop
  rw [ran.mem_processed, or_iff_left]
  rintro ⟨same, _⟩
  exact unlike same

end Ran

abbrev Runs (command : OperationsCommand LoopDecision) (flow : SourceWorkflow)
    (event : EventEnvelope) (granted : Bool) (ops : Operations) : Prop :=
  Command.Ends command
    (fun decision => Ran env loop flow event granted ops (.ok decision))
    (fun err => Ran env loop flow event granted ops (.error err))
    ops

variable {flow : SourceWorkflow} {ops : Operations}

theorem loop_runs {event : EventEnvelope} {granted : Bool}
    (runs : fate env loop flow event granted ops = .acts) :
    Command.Ends (attempts env loop (action env) (ops.loops + 1) flow event granted
      loop.maxIterations 1)
      (fun decision after =>
      Ran env loop flow event granted ops (.ok decision)
      (if decision.state = .idle then { after with
      processed := (flow.workflowId, event.eventId) :: after.processed } else after))
      (fun err => Ran env loop flow event granted ops (.error err))
      { ops with loops := ops.loops + 1 } := by
  have ends := attempts_end env loop (ops.loops + 1) flow event granted loop.maxIterations 1
    { ops with loops := ops.loops + 1 } (Nat.le_refl 1) (Nat.succ_pos _)
  apply ends.mono
  · intro decision after went
    obtain ⟨acts, drawn, reached, grown, ended, burst⟩ := went
    rw [reached]
    by_cases idle : decision.state = .idle
    · rw [if_pos idle]
      rw [decide_eq_true idle] at burst
      exact .completed decision acts drawn runs idle grown burst
    · rw [if_neg idle]
      rw [decide_eq_false idle] at burst
      exact .gaveUp decision acts drawn runs (ended.resolve_left idle) grown burst
  · intro err after went
    obtain ⟨acts, drawn, reached, grown, cause, burst⟩ := went
    rw [reached]
    exact .interrupted err acts drawn runs cause grown burst

theorem request_runs {event : EventEnvelope} {granted : Bool} (reason : String)
    (asks : fate env loop flow event granted ops = .asks) :
    Command.Ends (requestApproval env flow.workflowId event reason)
      (fun req => Ran env loop flow event granted ops
      (.ok { state := .waitingApproval, approvalId := some req.approvalId }))
      (fun err => Ran env loop flow event granted ops (.error err))
      ops := by
  unfold requestApproval
  simp only [utcNow, uuid4, ends_bind, ends_modify_get, ends_get]
  unfold InMemoryApprovalStore.create
  have named : (ApprovalGate.request (env.uuid ops.drawn) flow.workflowId event
      reason (env.clock ops.read)).approvalId =
        env.uuid ops.drawn := rfl
  rw [named]
  cases taken : ops.approvals.lookup (env.uuid ops.drawn) with
  | some other =>
    rw [ends_of_error]
    exact .clashed _ asks (by simp [taken])
  | none =>
    simp only [ends_of_ok, ends_bind, ends_modify, ends_pure]
    exact .asked _ reason asks taken rfl

theorem run_workflow_runs (found : ops.workflows.lookup flow.workflowId = some flow)
    (event : EventEnvelope) (granted : Bool) :
    Runs env loop (runWorkflow env loop (action env) flow.workflowId event granted)
      flow event granted ops := by
  unfold Runs runWorkflow
  rw [ends_bind, ends_get]
  by_cases held : (flow.workflowId, event.eventId) ∈ ops.processed
  · rw [if_pos held, ends_pure]
    exact .passed _ (by simp [fate, held]) (by simp [held])
  rw [if_neg held, found]
  simp only []
  unfold AutonomousLoop.run
  by_cases fires : flow.fires event = false
  · rw [if_pos fires]
    simp only [ends_bind, ends_pure]
    exact .passed _ (by simp [fate, fires]) (by simp [held])
  rw [if_neg fires]
  cases judged : loop.policy.judge env.reprFloat event with
  | error err =>
    simp only [ends_bind, ends_of_error]
    exact .failed err (by simp [fate, held, fires, judged])
  | ok evaluation =>
    have fateIs : fate env loop flow event granted ops =
        match evaluation.outcome with
        | .deny => .passes
        | .allow => .acts
        | .approvalRequired => if granted then .acts else .asks := by
      simp [fate, held, fires, judged]
    have acting (runs : fate env loop flow event granted ops = .acts) :
        Runs env loop (do
          let decision ← (do
            modify fun ops => { ops with loops := ops.loops + 1 }
            attempts env loop (action env) (← get).loops flow event granted
              loop.maxIterations 1)
          if decision.state = .idle then
            modify fun ops => { ops with
              processed := (flow.workflowId, event.eventId) :: ops.processed }
          return decision) flow event granted ops := by
      unfold Runs
      simp only [ends_bind, ends_modify, ends_get]
      apply (loop_runs env loop runs).mono
      · intro decision after ran
        by_cases idle : decision.state = .idle
        · rw [if_pos idle] at ran ⊢
          exact ran
        · rw [if_neg idle] at ran ⊢
          exact ran
      · intro err after ran
        exact ran
    cases out : evaluation.outcome with
    | deny =>
      rw [out] at fateIs
      simp only [out, ends_bind, ends_of_ok, if_pos, ends_pure]
      exact .passed _ fateIs (by simp [held])
    | allow =>
      rw [out] at fateIs
      simpa [out, Runs] using acting fateIs
    | approvalRequired =>
      rw [out] at fateIs
      cases granted with
      | true => simpa [out, Runs] using acting fateIs
      | false =>
        simp only [out, reduceCtorEq, if_false, and_self, if_true, ends_bind, ends_of_ok]
        apply (request_runs env loop evaluation.reason fateIs).mono
        · intro req after ran
          exact ran
        · intro err after ran
          exact ran

end runs

end Ois.Autonomy
