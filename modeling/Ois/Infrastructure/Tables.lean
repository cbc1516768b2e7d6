import Ois.Infrastructure.Fencing
import Ois.Kernel.Checkpoint
import Ois.Kernel.Contracts
import Ois.Library.Jsonb
import Ois.Library.Machine

/-!
# The tables of the durable store

The PostgreSQL tables that the durable stores share, with the statements that the stores run on
them, and the claims and staged effects of `PostgresExecutionStore` of `postgres_execution.py`.
A store method is one transaction: it leaves the tables as its statements make them, or
raises and leaves them as they were.
-/

namespace Ois.Infrastructure

open Ois.Library Ois.Kernel

structure Postgres where
  numeric : Jsonb.Numeric
  sha256 : Json.Text → String
  address : String → Uuid
  uuid : String → Option Uuid
  /-- The instant of a time without an offset, in the time zone of the session. -/
  zoned : Int → Int := id

/-- A server that keeps every number as it is. -/
def Postgres.exact : Postgres :=
  { numeric := some, sha256 := fun _ => "digest", address := fun text => ⟨Fin.ofNat _ text.length⟩
    uuid := Uuid.parse? }

/-- A row of `ois_execution_checkpoints`. -/
structure ExecutionCheckpointRow where
  tenantId : String
  workflowId : Option String
  workflowVersion : Option String
  status : ExecutionStatus
  schemaVersion : Int := 1
  state : Json
  stateHash : String
  createdAt : DateTime
  updatedAt : DateTime
  deriving DecidableEq, Repr

/-- A row of `ois_execution_checkpoint_history`. -/
structure CheckpointHistoryRow where
  executionId : Uuid
  tenantId : String
  workflowId : Option String
  workflowVersion : Option String
  stepIndex : Int
  status : ExecutionStatus
  schemaVersion : Int := 1
  state : Json
  stateHash : String
  createdAt : DateTime
  deriving DecidableEq, Repr

/-- The texts of the status column: a claim is `PENDING` and then `COMPLETED`, and a
result carries its own status. -/
inductive IdempotencyStatus where
  | pending
  | completed
  | result (status : InvocationStatus)
  deriving DecidableEq, Repr

/-- A row of `ois_idempotency_results`. -/
structure IdempotencyRow where
  executionId : Uuid
  tenantId : String
  capabilityId : String
  status : IdempotencyStatus
  result : Json
  requestFingerprint : Option String := none
  deriving DecidableEq, Repr

inductive OutboxStatus where
  | pending | processing | completed
  deriving DecidableEq, Repr

/-- A row of `ois_side_effect_outbox`. Moments are microseconds on the database
clock. -/
structure OutboxRow where
  tenantId : String
  executionId : Uuid
  invocationId : String
  capabilityId : String
  idempotencyKey : String
  request : Json
  status : OutboxStatus := .pending
  attempts : Nat := 0
  lockedAt : Option Int := none
  completedAt : Option Int := none
  result : Option Json := none
  lastError : Option Json := none
  createdAt : Int
  updatedAt : Int
  deriving DecidableEq, Repr

inductive DurableRunStatus where
  | received | running | waitingApproval | recovering | completed | failed | stopped
  deriving DecidableEq, Repr

/-- A row of `autonomous_workflow_runs`, as far as the repository reads it. -/
structure WorkflowRunRow where
  tenantId : String
  workspaceId : String
  workflowId : String
  workflowVersion : String
  eventId : String
  status : DurableRunStatus
  attempt : Int := 0
  checkpoint : Json := .obj []
  result : Option Json := none
  error : Option Json := none
  idempotencyKey : String
  updatedAt : Int
  deriving DecidableEq, Repr

/-- Tables are filed under their primary keys. -/
structure Database where
  leases : LeaseTable := []
  checkpoints : Dict Uuid ExecutionCheckpointRow := []
  history : Dict Uuid CheckpointHistoryRow := []
  idempotency : Dict String IdempotencyRow := []
  outbox : Dict String OutboxRow := []
  runs : Dict Uuid WorkflowRunRow := []
  deriving DecidableEq, Repr

namespace Postgres

def jsonbRefused : PyError := ⟨.other "DataError", "the document is refused as jsonb"⟩

/-- `%s::jsonb` for a text. -/
def column (pg : Postgres) (text : Json.Text) : Except PyError Json :=
  match Jsonb.hold pg.numeric text.document with
  | some doc => .ok doc
  | none => .error jsonbRefused

/-- `_state_payload(context)`. -/
def statePayload (pg : Postgres) (ctx : ExecutionContext) :
    Except PyError (Json.Text × String) := do
  let body ← ctx.toDict
  let text := Json.dumpsSorted (.obj body)
  return (text, pg.sha256 text)

end Postgres

theorem bind_ok {Value Result : Type} {first : Except PyError Value}
    {next : Value → Except PyError Result} {res : Result}
    (done : (first >>= next) = .ok res) :
    ∃ value, first = .ok value ∧ next value = .ok res := by
  cases first with
  | error err => simp [bind, Except.bind] at done
  | ok value => exact ⟨value, rfl, done⟩

def uniqueViolation (constraint : String) : PyError :=
  ⟨.other "UniqueViolation", "duplicate key value violates unique constraint " ++
    "\"" ++ constraint ++ "\""⟩

namespace Database

/-- The values of `_checkpoint_sql()`, in the row that an insert writes. -/
def checkpointRow (ctx : ExecutionContext) (state : Json) (digest : String) :
    ExecutionCheckpointRow :=
  { tenantId := ctx.identity.tenantId
    workflowId := ctx.identity.workflowId
    workflowVersion := ctx.identity.workflowVersion
    status := ctx.status
    state := state
    stateHash := digest
    createdAt := ctx.createdAt
    updatedAt := ctx.updatedAt }

/-- `ON CONFLICT (execution_id) DO UPDATE` keeps the moment of creation. -/
def overwritten (written cur : ExecutionCheckpointRow) : ExecutionCheckpointRow :=
  { written with createdAt := cur.createdAt }

/-- The row that `_checkpoint_sql()` leaves for the execution. -/
def upserted (execId : Uuid) (row : ExecutionCheckpointRow) (db : Database) :
    ExecutionCheckpointRow :=
  match db.checkpoints.lookup execId with
  | none => row
  | some cur => overwritten row cur

def upsertCheckpoint (execId : Uuid) (row : ExecutionCheckpointRow)
    (db : Database) : Database :=
  { db with
    checkpoints := db.checkpoints.set execId (db.upserted execId row) }

def deleteCheckpoint (execId : Uuid) (db : Database) : Database :=
  { db with
    checkpoints := db.checkpoints.filter fun entry => entry.1 != execId }

/-- `INSERT ... ON CONFLICT (invocation_id) DO NOTHING`. -/
def insertIdempotency (callId : String) (row : IdempotencyRow) (db : Database) :
    Database :=
  { db with idempotency := db.idempotency.setdefault callId row }

def staged (callId : String) (db : Database) : Bool :=
  db.outbox.any fun entry => entry.2.invocationId == callId

def effectTaken : PyError := uniqueViolation "ois_side_effect_outbox_pkey"

def invocationTaken : PyError := uniqueViolation "ois_side_effect_outbox_invocation_id_key"

def idempotencyKeyTaken : PyError :=
  uniqueViolation "ois_side_effect_outbox_idempotency_key_key"

/-- `INSERT INTO ois_side_effect_outbox`. A new row needs an effect, an invocation and
an idempotency key of its own. -/
def insertOutbox (effectId : String) (row : OutboxRow) (db : Database) :
    Except PyError Database :=
  if (db.outbox.lookup effectId).isSome then .error effectTaken
  else if db.staged row.invocationId then .error invocationTaken
  else if db.outbox.any (fun entry => entry.2.idempotencyKey == row.idempotencyKey) then
    .error idempotencyKeyTaken
  else .ok { db with outbox := db.outbox ++ [(effectId, row)] }

/-- The same with `ON CONFLICT (invocation_id) DO NOTHING`. -/
def insertOutboxOnce (effectId : String) (row : OutboxRow) (db : Database) :
    Except PyError Database :=
  if db.staged row.invocationId then .ok db
  else db.insertOutbox effectId row

theorem insert_outbox_once_ok {effectId : String} {row : OutboxRow} {db after : Database}
    (inserted : db.insertOutboxOnce effectId row = .ok after) :
    after = { db with
      outbox := db.outbox ++ if db.staged row.invocationId then []
      else [(effectId, row)] } := by
  unfold Database.insertOutboxOnce at inserted
  split_ifs at inserted with staged
  · rw [Except.ok.injEq] at inserted
    rw [← inserted, staged]
    simp
  · unfold Database.insertOutbox at inserted
    split_ifs at inserted
    rw [Except.ok.injEq] at inserted
    have unstaged : db.staged row.invocationId = false := by simpa using staged
    rw [← inserted, unstaged]
    rfl

end Database

/-- `SideEffectCommand` of `side_effects.py`. -/
structure SideEffectCommand where
  effectId : String
  tenantId : String
  executionId : Uuid
  invocationId : String
  capabilityId : String
  idempotencyKey : String
  request : Members
  deriving DecidableEq, Repr

structure SideEffectResult where
  effectId : String
  idempotencyKey : String
  output : Json := .null
  completedAt : Option Int := none
  deriving DecidableEq, Repr

def OutboxRow.completedBy (now : Int) (output : Json) (res : SideEffectResult)
    (row : OutboxRow) : OutboxRow :=
  { row with
    status := .completed
    completedAt := some (res.completedAt.getD now)
    result := some output
    lockedAt := none
    updatedAt := now }

namespace Postgres

variable (pg : Postgres)

def outboxRow (now : Int) (command : SideEffectCommand) : Except PyError OutboxRow := do
  let req ← pg.column (Json.dumpsSorted (.obj command.request))
  return {
    tenantId := command.tenantId, executionId := command.executionId
    invocationId := command.invocationId, capabilityId := command.capabilityId
    idempotencyKey := command.idempotencyKey, request := req
    createdAt := now, updatedAt := now }

/-- `json.dumps({"output": result.output}, sort_keys=True)` as a column. -/
def outputColumn (res : SideEffectResult) : Except PyError Json :=
  pg.column (Json.dumpsSorted (.obj [("output", res.output)]))

def resultRow (execId : Uuid) (tenant : String) (res : InvocationResult) :
    Except PyError IdempotencyRow := do
  let doc ← pg.column (Json.dumpsSorted (.obj res.toDict))
  return {
    executionId := execId, tenantId := tenant, capabilityId := res.capabilityId
    status := .result res.status, result := doc }

end Postgres

/-- The arguments of `claim_idempotency`. -/
structure InvocationClaim where
  invocationId : String
  executionId : String
  tenantId : String
  capabilityId : String
  requestFingerprint : String
  deriving DecidableEq, Repr

/-- What `claim_and_stage_outbox` is given besides the claim. -/
structure StagedEffect where
  effectId : String
  idempotencyKey : String
  request : Members
  deriving DecidableEq, Repr

namespace PostgresExecutionStore

variable (pg : Postgres)

def uuidRefused : PyError := ⟨.other "DataError", "invalid input syntax for type uuid"⟩

def keyReused : PyError := ⟨.valueError, "idempotency key reused with a different request"⟩

def notPending (callId : String) : PyError :=
  ⟨.other "KeyError", Kernel.reprStr ("unknown or completed invocation: " ++ callId)⟩

/-- A text for a `uuid` column. -/
def uuidColumn (text : String) : Except PyError Uuid :=
  match pg.uuid text with
  | some uuid => .ok uuid
  | none => .error uuidRefused

def pendingRow (execId : Uuid) (claim : InvocationClaim) : IdempotencyRow :=
  { executionId := execId, tenantId := claim.tenantId
    capabilityId := claim.capabilityId, status := .pending, result := .obj []
    requestFingerprint := some claim.requestFingerprint }

def claimIdempotency (claim : InvocationClaim) (db : Database) :
    Except PyError (Database × Bool) := do
  let execId ← uuidColumn pg claim.executionId
  match db.idempotency.lookup claim.invocationId with
  | none =>
    return (db.insertIdempotency claim.invocationId (pendingRow execId claim), true)
  | some row =>
    if row.requestFingerprint = some claim.requestFingerprint then return (db, false)
    else .error keyReused

def completeIdempotency (callId : String) (res : Members) (db : Database) :
    Except PyError Database := do
  let doc ← pg.column (Json.dumpsSorted (.obj res))
  match db.idempotency.lookup callId with
  | none => .error (notPending callId)
  | some row =>
    if row.status = .pending then
      return { db with
        idempotency := db.idempotency.set callId
          { row with status := .completed, result := doc } }
    else .error (notPending callId)

def releaseIdempotency (callId : String) (db : Database) : Database :=
  { db with
    idempotency := db.idempotency.filter fun entry =>
      !(entry.1 == callId && entry.2.status == .pending) }

/-- `stage_side_effect` inserts without an `ON CONFLICT` clause. -/
def stageSideEffect (now : Int) (claim : InvocationClaim) (effect : StagedEffect)
    (db : Database) : Except PyError Database := do
  let execId ← uuidColumn pg claim.executionId
  let row ← pg.outboxRow now
    { effectId := effect.effectId, tenantId := claim.tenantId, executionId := execId
      invocationId := claim.invocationId, capabilityId := claim.capabilityId
      idempotencyKey := effect.idempotencyKey, request := effect.request }
  db.insertOutbox effect.effectId row

def claimAndStageOutbox (now : Int) (claim : InvocationClaim) (effect : StagedEffect)
    (db : Database) : Except PyError (Database × Bool) := do
  let (after, claimed) ← claimIdempotency pg claim db
  if claimed then
    let staged ← stageSideEffect pg now claim effect after
    return (staged, true)
  else return (after, false)

variable {pg} {db after : Database}

theorem claim_ok {claim : InvocationClaim} {first : Bool}
    (done : claimIdempotency pg claim db = .ok (after, first)) :
    (first = true ∧ ∃ execId, pg.uuid claim.executionId = some execId ∧
      db.idempotency.lookup claim.invocationId = none ∧
      after = db.insertIdempotency claim.invocationId (pendingRow execId claim)) ∨
      (first = false ∧ after = db ∧ ∃ row,
        db.idempotency.lookup claim.invocationId = some row ∧
          row.requestFingerprint = some claim.requestFingerprint) := by
  obtain ⟨execId, reads, out⟩ := bind_ok done
  cases read : pg.uuid claim.executionId with
  | none => simp [uuidColumn, read] at reads
  | some uuid =>
    simp only [uuidColumn, read, Except.ok.injEq] at reads
    cases found : db.idempotency.lookup claim.invocationId with
    | none =>
      simp only [found] at out
      cases out
      exact Or.inl ⟨rfl, execId, congrArg some reads, rfl, rfl⟩
    | some row =>
      simp only [found] at out
      split_ifs at out with same
      cases out
      exact Or.inr ⟨rfl, rfl, row, rfl, same⟩

theorem complete_ok {callId : String} {res : Members}
    (done : completeIdempotency pg callId res db = .ok after) :
    ∃ row doc, db.idempotency.lookup callId = some row ∧
      row.status = .pending ∧ after = { db with
        idempotency := db.idempotency.set callId
          { row with status := .completed, result := doc } } := by
  obtain ⟨doc, columns, rest⟩ := bind_ok done
  cases found : db.idempotency.lookup callId with
  | none => simp [found] at rest
  | some row =>
    simp only [found] at rest
    split_ifs at rest with pending
    exact ⟨row, doc, rfl, pending, (Except.ok.inj rest).symm⟩

end PostgresExecutionStore

end Ois.Infrastructure
