import Ois.Library.PyText
import Ois.Infrastructure.Tables

/-!
# The durable store

`PostgresDurableExecutionStore` of `postgres.py`, on the tables that it shares with the
other stores. A store may be scoped to a tenant; the scope is compared with the tenants
that some of the methods are given.
-/

namespace Ois.Kernel

open Ois.Library Ois.Infrastructure

namespace PostgresDurableExecutionStore

variable (pg : Postgres)

def tenantInvalid : PyError :=
  ⟨.other "TenantContextError", "tenant_id must be a valid UUID"⟩

def tenantForeign : PyError :=
  ⟨.valueError, "execution tenant does not match store tenant scope"⟩

/-- `normalize_tenant_id` of `tenant.py`. -/
def normalizeTenantId (tenant : String) : Except PyError String :=
  match PyText.uuid? tenant with
  | some uuid => .ok uuid.str
  | none => .error tenantInvalid

/-- `_assert_context` of a store with the given scope. -/
def assertContext (scope : Option Uuid) (tenant : String) : Except PyError Unit := do
  let normalized ← normalizeTenantId tenant
  match scope with
  | none => return ()
  | some own => if normalized = own.str then return () else .error tenantForeign

def putIdempotency (scope : Option Uuid) (callId : String) (execId : Uuid)
    (tenant : String) (res : InvocationResult) (db : Database) :
    Except PyError Database := do
  assertContext scope tenant
  if res.isTerminal then
    let row ← pg.resultRow execId tenant res
    return db.insertIdempotency callId row
  else return db

/-- The result that `get_idempotency` builds from a row. The identifiers are given by
the values whose `str` they are; nothing checks what the other fields hold. -/
structure FetchedResult where
  invocationId : Json
  capabilityId : Json
  status : InvocationStatus
  output : Json
  error : Json
  startedAt : Json
  completedAt : Json
  metadata : Json
  deriving DecidableEq, Repr

def FetchedResult.isTerminal (res : FetchedResult) : Bool :=
  res.status == .succeeded || res.status == .cancelled

/-- `data[name]`. -/
def member (data : Members) (name : String) : Except PyError Json :=
  match data.lookup name with
  | some value => .ok value
  | none => .error ⟨.other "KeyError", reprStr name⟩

/-- The message has the `repr` of the value, here for texts only. -/
def statusInvalid (doc : Json) : PyError :=
  ⟨.valueError, (doc.asStr?.map reprStr).getD "" ++ " is not a valid InvocationStatus"⟩

/-- `InvocationStatus(data["status"])`. -/
def fetchedStatus (doc : Json) : Except PyError InvocationStatus :=
  match InvocationResult.readStatus doc with
  | some status => .ok status
  | none => .error (statusInvalid doc)

/-- `data[...]` on a document that is not an object. -/
def notSubscriptable : PyError := ⟨.other "TypeError", "the result is not an object"⟩

def fetchedResult (doc : Json) : Except PyError FetchedResult :=
  match doc.asMembers? with
  | none => .error notSubscriptable
  | some data => do
    let callId ← member data "invocation_id"
    let capId ← member data "capability_id"
    let status ← fetchedStatus (← member data "status")
    return {
      invocationId := callId, capabilityId := capId, status := status
      output := (data.lookup "output").getD .null
      error := (data.lookup "error").getD .null
      startedAt := (data.lookup "started_at").getD .null
      completedAt := (data.lookup "completed_at").getD .null
      metadata := (data.lookup "metadata").getD (.obj []) }

def getIdempotency (callId : String) (db : Database) :
    Except PyError (Option FetchedResult) :=
  match db.idempotency.lookup callId with
  | none => .ok none
  | some row => (fetchedResult row.result).map some

/-- `int` of a double, given by its bits: the fraction is cut off. -/
def truncated (bits : UInt64) : Except PyError Int :=
  let exponent := (bits.toNat / 2 ^ 52) % 2 ^ 11
  let fraction := bits.toNat % 2 ^ 52
  if exponent = 2047 then
    if fraction = 0 then
      .error ⟨.other "OverflowError", "cannot convert float infinity to integer"⟩
    else .error ⟨.valueError, "cannot convert float NaN to integer"⟩
  else
    let significand := if exponent = 0 then fraction else 2 ^ 52 + fraction
    let size := if 1075 ≤ exponent then significand * 2 ^ (exponent - 1075)
      else significand / 2 ^ (1075 - max exponent 1)
    .ok (if bits.toNat / 2 ^ 63 = 0 then Int.ofNat size else -Int.ofNat size)

/-- `int(value)`. -/
def intOf : Json → Except PyError Int
  | .int value => .ok value
  | .bool value => .ok (if value then 1 else 0)
  | .float bits => truncated bits
  | .str text =>
    match PyText.int? 10 text.toList with
    | some value => .ok value
    | none => .error ⟨.valueError, "invalid literal for int() with base 10: " ++ reprStr text⟩
  | _ => .error ⟨.other "TypeError",
      "int() argument must be a string, a bytes-like object or a real number"⟩

/-- `int(context.metadata.get("step_index", context.retry_count))`. -/
def stepIndex (ctx : ExecutionContext) : Except PyError Int :=
  intOf ((ctx.metadata.lookup "step_index").getD (.int ctx.retryCount))

/-- A number for an `INTEGER` column. -/
def integerColumn (value : Int) : Except PyError Int :=
  if -2 ^ 31 ≤ value ∧ value < 2 ^ 31 then .ok value
  else .error ⟨.other "NumericValueOutOfRange", "integer out of range"⟩

def checkpointAddress (checkpointId : Uuid) (ctx : ExecutionContext) : Uuid :=
  if checkpointId.value = 0 then
    pg.address (ctx.identity.executionId.str ++ ":" ++ ctx.updatedAt.isoformat)
  else checkpointId

def historyRow (ctx : ExecutionContext) (step : Int) (state : Json) (digest : String) :
    CheckpointHistoryRow :=
  { executionId := ctx.identity.executionId, tenantId := ctx.identity.tenantId
    workflowId := ctx.identity.workflowId
    workflowVersion := ctx.identity.workflowVersion, stepIndex := step
    status := ctx.status, state := state, stateHash := digest
    createdAt := ctx.updatedAt }

/-- `_save_with_history`; `touched` is the clock that `context.touch()` reads. -/
def saveWithHistory (checkpointId : Uuid) (ctx : ExecutionContext) (touched : DateTime)
    (db : Database) : Except PyError Database := do
  let cur := ctx.touch touched
  let (text, digest) ← pg.statePayload cur
  let step ← stepIndex cur
  let state ← pg.column text
  let column ← integerColumn step
  let saved := db.upsertCheckpoint cur.identity.executionId
    (Database.checkpointRow cur state digest)
  -- ON CONFLICT (checkpoint_id) DO NOTHING
  return { saved with
    history := saved.history.setdefault (checkpointAddress pg checkpointId cur)
      (historyRow cur column state digest) }

def save (scope : Option Uuid) (ctx : ExecutionContext) (touched : DateTime)
    (db : Database) : Except PyError Database := do
  assertContext scope ctx.identity.tenantId
  saveWithHistory pg ⟨0⟩ ctx touched db

def commitCheckpointAndSideEffect (scope : Option Uuid) (ctx : ExecutionContext)
    (touched : DateTime) (now : Int) (command : SideEffectCommand) (db : Database) :
    Except PyError Database := do
  assertContext scope ctx.identity.tenantId
  assertContext scope command.tenantId
  let cur := ctx.touch touched
  let (text, digest) ← pg.statePayload cur
  let state ← pg.column text
  let staged ← pg.outboxRow now command
  (db.upsertCheckpoint cur.identity.executionId
    (Database.checkpointRow cur state digest)).insertOutboxOnce command.effectId staged

variable (fresh : Uuid) (now : DateTime)

def snapshot (state : Json) (digest : String) : Option ExecutionContext :=
  if pg.sha256 (Json.dumpsSorted state) = digest then
    (CheckpointStore.readState fresh now state).toOption
  else none

def integrityFailure (execId : Uuid) : PyError :=
  ⟨.valueError, "Checkpoint integrity failure for execution " ++ execId.str⟩

def load (execId : Uuid) (db : Database) : Except PyError ExecutionContext :=
  match db.checkpoints.lookup execId with
  | none => .error (CheckpointStore.notFound
      ("No PostgreSQL checkpoint for execution " ++ execId.str))
  | some row =>
    if pg.sha256 (Json.dumpsSorted row.state) ≠ row.stateHash then
      .error (integrityFailure execId)
    else CheckpointStore.readState fresh now row.state

/-- The rows that `fetch_last_valid_checkpoint` selects. -/
def historyOf (execId : Uuid) (tenant : String) (db : Database) :
    List CheckpointHistoryRow :=
  (db.history.map Prod.snd).filter fun row =>
    row.tenantId == tenant && row.executionId == execId

def Outranks (left right : Int × Int) : Prop :=
  right.1 < left.1 ∨ right.1 = left.1 ∧ right.2 ≤ left.2

def rank (row : CheckpointHistoryRow) : Int × Int := (row.stepIndex, row.createdAt.instant)

def Above (left right : CheckpointHistoryRow) : Prop := Outranks (rank left) (rank right)

/-- What `fetch_last_valid_checkpoint` makes of the rows in the order in which the server
hands them out, which among rows of one rank is any. -/
def fetchLastValidCheckpoint (rows : List CheckpointHistoryRow) : Option ExecutionContext :=
  rows.findSome? fun row => snapshot pg fresh now row.state row.stateHash

end PostgresDurableExecutionStore

end Ois.Kernel
