import Ois.Library.Command
import Ois.Infrastructure.Fencing
import Ois.Kernel.Checkpoint
import Ois.Kernel.Idempotency
import Ois.Kernel.Planning

/-!
# The execution runtime

`ExecutionRuntime` of `runtime.py`. A run is a command over the session of one worker: the
execution context it mutates, the stores it shares with other workers, and the trace of the steps
it has taken outside its own memory.
-/

namespace Ois.Kernel

open Ois.Library Ois.Infrastructure

inductive EventType where
  | authorizationDenied | idempotencyHit | received | inputValidated | authorized
  | capabilityStarted | recoveryDecision | capabilityCompleted | idempotencyRecorded
  | checkpointed | completed | cancelled | failure
  | layer (name : String)
  deriving DecidableEq, Repr

structure EvidenceEvent where
  executionId : Uuid
  eventType : EventType
  data : Members := []
  deriving DecidableEq, Repr

/-- How `invoke` of a capability ends. -/
inductive Outcome where
  | returned (res : InvocationResult)
  | cancelled (msg : String)
  | raised (err : PyError)
  deriving DecidableEq, Repr

structure CancellationToken where
  cancelled : Bool := false
  reason : Option String := none
  deriving DecidableEq, Repr

/-- `value or default` for a text. -/
def orDefault (value : Option String) (default : String) : String :=
  match value with
  | some text => if text = "" then default else text
  | none => default

/-- The message of the exception that `raise_if_cancelled` raises. -/
def CancellationToken.raiseIfCancelled (token : CancellationToken) : Option String :=
  if token.cancelled then some (orDefault token.reason "Execution cancelled.") else none

/-- A capability holds the context and may write to its working memory. `token`
is the cancellation token as it is when the capability is done. -/
structure Reply where
  outcome : Outcome
  workingMemory : Members := []
  token : CancellationToken := {}
  deriving DecidableEq, Repr

/-- What a worker does outside its own memory. `dispatch` marks a call of
`runtime.execute` by the orchestrator, with the plan as it is at the call. -/
inductive Step where
  | fence (lease : WorkerLease) (cur : Bool)
  | save (ctx : ExecutionContext)
  | put (key : String) (res : InvocationResult)
  | record (event : EvidenceEvent)
  | invoke (version : String) (req : InvocationRequest) (reply : Reply)
  | dispatch (plan : ExecutionPlan) (taskId : String)
  deriving DecidableEq, Repr

/-- What survives a crash. -/
structure Durable where
  checkpoints : CheckpointStore
  idempotency : IdempotencyStore

def Durable.after (sha256 : Json.Text → String) (durable : Durable) : Step → Durable
  | .save ctx =>
    match durable.checkpoints.write sha256 ctx with
    | .ok written => { durable with checkpoints := written }
    | .error _ => durable
  | .put key res => { durable with idempotency := durable.idempotency.put key res }
  | _ => durable

/-- The stores once these steps have taken effect. -/
def Durable.afterAll (sha256 : Json.Text → String) (durable : Durable) (steps : List Step) :
    Durable :=
  steps.foldl (Durable.after sha256) durable

structure Session where
  context : ExecutionContext
  durable : Durable
  trace : List Step := []

def Session.taking (sha256 : Json.Text → String) (step : Step) (session : Session) : Session :=
  { session with
    durable := session.durable.after sha256 step
    trace := session.trace ++ [step] }

structure World where
  clock : Nat → DateTime
  uuid4 : Nat → Uuid
  cancellation : Nat → CancellationToken
  authorize : Nat → InvocationRequest → CapabilityContract → Except PyError Bool
  invoke : Nat → String → InvocationRequest → Reply
  leases : Nat → LeaseTable
  databaseClock : Nat → Int

/-- The components a runtime is built from. `fencing` says whether a lease store
was given, and `sha256` is the digest the checkpoint store uses. -/
structure ExecutionRuntime where
  registry : CapabilityRegistry
  validateInput : InvocationRequest → CapabilityContract → Except PyError Unit
  validateOutput : InvocationResult → CapabilityContract → Except PyError Unit
  recovery : RecoveryPolicy := {}
  fencing : Bool := false
  sha256 : Json.Text → String

/-- The arguments of `execute` besides the context. -/
structure Call where
  capabilityId : String
  version : String
  inputData : Members
  invocationId : Option String := none
  idempotencyKey : Option String := none
  workerLease : Option WorkerLease := none
  deriving DecidableEq, Repr

namespace ExecutionRuntime

abbrev Operation := Command PyError Session

variable (rt : ExecutionRuntime) (world : World)

def emit (step : Step) : Operation Unit :=
  modify (Session.taking rt.sha256 step)

def change (update : ExecutionContext → ExecutionContext) : Operation Unit :=
  modify fun session => { session with context := update session.context }

def raiseOnError {Value : Type} : Except PyError Value → Operation Value
  | .ok value => pure value
  | .error err => throw err

def setStatus (status : ExecutionStatus) : Operation Unit := do
  let session ← get
  let moved ← raiseOnError (session.context.setStatus (world.clock session.trace.length) status)
  change fun _ => moved

def record (kind : EventType) (data : Members := []) : Operation Unit := do
  let session ← get
  rt.emit (.record {
    executionId := session.context.identity.executionId, eventType := kind
    data := data })

def noLease : PyError :=
  ⟨.executionError, "PostgreSQL fencing is enabled but no worker lease was supplied"⟩

def assertFence (lease : Option WorkerLease) : Operation Unit :=
  if rt.fencing then
    match lease with
    | none => throw noLease
    | some lease => do
      let session ← get
      let moment := session.trace.length
      let table := world.leases moment
      let now := world.databaseClock moment
      rt.emit (.fence lease (table.isCurrent now lease))
      raiseOnError (table.assertCurrent now lease)
  else pure ()

/-- `checkpoint_store.save(context)`. -/
def storeCheckpoint : Operation Unit := do
  let session ← get
  let store := session.durable.checkpoints
  let ctx := store.touched (world.clock session.trace.length) session.context
  change fun _ => ctx
  let _ ← raiseOnError (store.write rt.sha256 ctx)
  rt.emit (.save ctx)

def saveCheckpoint (lease : Option WorkerLease) : Operation Unit := do
  rt.assertFence world lease
  rt.storeCheckpoint world

def cacheTerminalResult (key : String) (res : InvocationResult)
    (lease : Option WorkerLease) : Operation Unit :=
  if res.isTerminal then do
    rt.assertFence world lease
    rt.emit (.put key res)
  else pure ()

/-- What is written to `context.error` and returned in the result. -/
def cancellationError (msg : String) : Members :=
  [("type", .str "ExecutionCancellation"), ("message", .str msg),
    ("failure_class", .str "cancellation"), ("recovery_action", .str "stop")]

def handleCancellation (capId msg callId : String)
    (lease : Option WorkerLease) : Operation InvocationResult := do
  setStatus world .stopped
  change fun ctx => { ctx with
    error := some (cancellationError msg), currentNode := some capId }
  rt.record .cancelled
    [("capability_id", .str capId), ("invocation_id", .str callId),
      ("reason", .str msg)]
  rt.saveCheckpoint world lease
  return {
    invocationId := callId, capabilityId := capId, status := .cancelled
    error := some (cancellationError msg) }

/-- `self.recovery.apply(context, failure_class)`. -/
def applyRecovery (fail : FailureClass) : Operation RecoveryDecision := do
  let session ← get
  let (ctx, out) :=
    rt.recovery.apply (world.clock session.trace.length) session.context fail
  change fun _ => ctx
  raiseOnError out

def handleFailure (capId callId : String) (err : PyError)
    (lease : Option WorkerLease) : Operation InvocationResult := do
  let decision ← rt.applyRecovery world .tool
  rt.record .failure [("capability_id", .str capId), ("error", .str err.message),
      ("failure_class", .str FailureClass.tool.value),
      ("recovery_action", .str decision.action.value), ("invocation_id", .str callId)]
  rt.saveCheckpoint world lease
  return {
    invocationId := callId, capabilityId := capId, status := .failed
    error := some [("type", .str err.kind.name), ("message", .str err.message),
      ("failure_class", .str FailureClass.tool.value),
      ("recovery_action", .str decision.action.value)] }

/-- What the entry of `execute` has settled: the identifier of the invocation,
the key of its result and the contract of the capability. -/
structure Entry where
  invocationId : String
  key : String
  contract : CapabilityContract
  deriving DecidableEq, Repr

def logicalInvocationId (fresh : Uuid) (call : Call) : String :=
  orDefault call.invocationId fresh.str

def storageKey (call : Call) (callId : String) : String :=
  orDefault call.idempotencyKey callId

def alreadyCompleted (status : ExecutionStatus) : PyError :=
  ⟨.executionAlreadyCompleted, "Execution cannot continue from " ++ status.value ++ "."⟩

/-- `execute` up to PLAN_VALIDATED. -/
def enter (call : Call) : Operation Entry := do
  let session ← get
  if session.context.status = .completed ∨ session.context.status = .stopped then
    throw (alreadyCompleted session.context.status)
  else
    let callId := logicalInvocationId (world.uuid4 session.trace.length) call
    rt.assertFence world call.workerLease
    setStatus world .normalized
    let contract ← raiseOnError (rt.registry.get call.capabilityId call.version)
    setStatus world .planValidated
    return {
      invocationId := callId, key := storageKey call callId
      contract := contract }

def requestOf (call : Call) (entry : Entry) (exec : ExecutionContext) :
    InvocationRequest :=
  { invocationId := entry.invocationId, capabilityId := call.capabilityId
    input := call.inputData, execution := exec
    timeoutSeconds := some entry.contract.timeoutSeconds }

def invocationData (call : Call) (callId : String) : Members :=
  [("capability_id", .str call.capabilityId), ("invocation_id", .str callId)]

def versionedData (call : Call) (callId : String) : Members :=
  [("capability_id", .str call.capabilityId), ("version", .str call.version),
    ("invocation_id", .str callId)]

/-- A refusal is recorded and raised; any other exception of the policy engine
is only raised. The value that `authorize` returns is not looked at. -/
def checkAuthorized (call : Call) (entry : Entry) : Operation Unit := do
  let session ← get
  let req := requestOf call entry session.context
  match world.authorize session.trace.length req entry.contract with
  | .ok _ => pure ()
  | .error err =>
    if err.kind = .authorizationDenied ∨ err.kind = .permissionError then do
      rt.record .inputValidated (invocationData call entry.invocationId)
      rt.record .authorizationDenied [("capability_id", .str call.capabilityId),
          ("invocation_id", .str entry.invocationId),
          ("tenant_id", .str session.context.identity.tenantId),
          ("reason", .str err.message)]
      throw err
    else throw err

/-- `execute` from the check of the input to the lookup of a stored result. -/
def consult (call : Call) (entry : Entry) : Operation (Option InvocationResult) := do
  let session ← get
  raiseOnError (rt.validateInput (requestOf call entry session.context) entry.contract)
  rt.checkAuthorized world call entry
  match session.durable.idempotency.get entry.key with
  | some cached => do
    rt.record .idempotencyHit (versionedData call entry.invocationId)
    return some cached
  | none => return none

/-- `execute` from `execution.received` to `capability.started`. -/
def start (call : Call) (entry : Entry) : Operation Unit := do
  rt.record .received (versionedData call entry.invocationId)
  rt.record .inputValidated (invocationData call entry.invocationId)
  setStatus world .authorized
  rt.record .authorized (invocationData call entry.invocationId)
  setStatus world .executing
  change fun ctx => { ctx with currentNode := some call.capabilityId }
  rt.saveCheckpoint world call.workerLease
  rt.record .capabilityStarted (invocationData call entry.invocationId)

def cancellationNow : Operation (Option String) := do
  let session ← get
  return (world.cancellation session.trace.length).raiseIfCancelled

/-- The body of the `try`: how it ends. -/
def perform (call : Call) (entry : Entry) : Operation Outcome := do
  match ← cancellationNow world with
  | some msg => return .cancelled msg
  | none =>
    let session ← get
    let req := requestOf call entry session.context
    let reply := world.invoke session.trace.length call.version req
    rt.emit (.invoke call.version req reply)
    change fun ctx => { ctx with workingMemory := reply.workingMemory }
    match reply.outcome with
    | .returned res =>
      match reply.token.raiseIfCancelled with
      | some msg => return .cancelled msg
      | none => return .returned res
    | interrupted => return interrupted

/-- The failure class that an error dictionary with a `failure_class` names. -/
def failureClassOf (value : Json) : FailureClass :=
  (value.asStr?.bind StrEnum.ofValue?).getD .unknown

def structuredFailure? (res : InvocationResult) : Option (Members × FailureClass) :=
  if res.status = .failed then do
    let err ← res.error
    let value ← err.lookup "failure_class"
    return (err, failureClassOf value)
  else none

def recoverStructured (call : Call) (entry : Entry) (res : InvocationResult) :
    Operation InvocationResult :=
  match structuredFailure? res with
  | none => pure res
  | some (err, fail) => do
    let decision ← rt.applyRecovery world fail
    rt.record .recoveryDecision [("capability_id", .str call.capabilityId),
        ("invocation_id", .str entry.invocationId),
        ("failure_class", .str fail.value),
        ("recovery_action", .str decision.action.value)]
    rt.saveCheckpoint world call.workerLease
    return { res with
      error := some (err.set "recovery_action" (.str decision.action.value)) }

def observation (res : InvocationResult) : Members :=
  [("invocation_id", .str res.invocationId), ("capability_id", .str res.capabilityId),
    ("status", .str res.status.value), ("output", res.output)]

def validationResult (res : InvocationResult) : Members :=
  [("invocation_id", .str res.invocationId), ("valid", .bool (res.status == .succeeded))]

def statusData (call : Call) (callId : String) (status : InvocationStatus) : Members :=
  [("capability_id", .str call.capabilityId), ("invocation_id", .str callId),
    ("status", .str status.value)]

def wrongInvocationId : PyError :=
  ⟨.executionError, "Capability returned an invocation_id that does not match the requested " ++
    "invocation_id."⟩

/-- `execute` from the comparison of identifiers to `capability.completed`. -/
def observe (call : Call) (entry : Entry) (res : InvocationResult) : Operation Unit :=
  if res.invocationId ≠ entry.invocationId then throw wrongInvocationId
  else do
    setStatus world .observing
    change fun ctx => { ctx with
      observations := ctx.observations ++ [observation res] }
    rt.record .capabilityCompleted (statusData call res.invocationId res.status)

/-- `execute` from VALIDATING to UPDATING_STATE. -/
def checkOutput (entry : Entry) (res : InvocationResult) : Operation Unit := do
  setStatus world .validating
  if res.status = .succeeded then
    raiseOnError (rt.validateOutput res entry.contract)
  change fun ctx => { ctx with
    validationResults := ctx.validationResults ++ [validationResult res] }
  setStatus world .updatingState
  if res.status = .succeeded then
    change fun ctx => { ctx with
      workingMemory := ctx.workingMemory.set ("result:" ++ res.invocationId) res.output }

/-- `execute` from the storing of the result to ROUTED. -/
def route (call : Call) (entry : Entry) (res : InvocationResult) : Operation Unit := do
  rt.cacheTerminalResult world entry.key res call.workerLease
  rt.record .idempotencyRecorded (statusData call entry.invocationId res.status)
  setStatus world .checkpointing
  rt.saveCheckpoint world call.workerLease
  rt.record .checkpointed (invocationData call res.invocationId)
  setStatus world .routed

/-- `execute` after a capability has returned a result. -/
def settle (call : Call) (entry : Entry) (ret : InvocationResult) :
    Operation InvocationResult := do
  let res ← rt.recoverStructured world call entry ret
  rt.observe world call entry res
  rt.checkOutput world entry res
  rt.route world call entry res
  return res

/-- `execute` when nothing is stored for the call. -/
def runCapability (call : Call) (entry : Entry) : Operation InvocationResult := do
  rt.start world call entry
  match ← rt.perform world call entry with
  | .cancelled msg =>
    rt.handleCancellation world call.capabilityId msg entry.invocationId call.workerLease
  | .raised err =>
    rt.handleFailure world call.capabilityId entry.invocationId err call.workerLease
  | .returned res => rt.settle world call entry res

/-- `execute` from PLAN_VALIDATED on. -/
def proceed (call : Call) (entry : Entry) : Operation InvocationResult := do
  match ← cancellationNow world with
  | some msg =>
    rt.handleCancellation world call.capabilityId msg entry.invocationId call.workerLease
  | none =>
    match ← rt.consult world call entry with
    | some cached => return cached
    | none => rt.runCapability world call entry

def execute (call : Call) : Operation InvocationResult := do
  let entry ← rt.enter world call
  rt.proceed world call entry

def complete (lease : Option WorkerLease) : Operation Unit := do
  rt.assertFence world lease
  setStatus world .completed
  rt.saveCheckpoint world lease
  rt.record .completed

/-- A runtime for capabilities whose contracts ask for nothing: the schemas are
empty, so every input and output is valid. -/
def permissive (contracts : List CapabilityContract) : ExecutionRuntime :=
  { registry := ⟨contracts.map fun contract =>
      ((contract.capabilityId, contract.version), contract)⟩
    validateInput := fun _ _ => .ok ()
    validateOutput := fun _ _ => .ok ()
    sha256 := fun _ => "digest" }

end ExecutionRuntime

def World.ending (out : InvocationRequest → Outcome) : World :=
  { clock := fun _ => DateTime.epoch
    uuid4 := fun _ => ⟨0⟩
    cancellation := fun _ => {}
    authorize := fun _ _ _ => .ok true
    invoke := fun _ _ req =>
      { outcome := out req, workingMemory := req.execution.workingMemory }
    leases := fun _ => []
    databaseClock := fun _ => 0 }

/-- A context that has not been run yet. -/
def ExecutionContext.fresh (execId : Uuid) (tenant : String) : ExecutionContext :=
  { identity := { executionId := execId, tenantId := tenant }, objective := "publish"
    createdAt := DateTime.epoch, updatedAt := DateTime.epoch }

end Ois.Kernel
