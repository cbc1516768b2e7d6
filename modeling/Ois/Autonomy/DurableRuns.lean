import Ois.Infrastructure.FencedMutations
import Ois.Kernel.PyValues
import Ois.Library.JsonScan

/-!
# Durable workflow runs

`autonomy/durable.py` and the sweeper of `autonomy/recovery_store.py`. Every method is one
transaction on the table of runs, and commits before it decodes the rows that it returns.
-/

namespace Ois.Autonomy

open Ois.Library Ois.Kernel Ois.Infrastructure FencedStore

structure RunIdentity where
  tenantId : String
  workspaceId : String
  workflowId : String
  workflowVersion : String
  eventId : String
  deriving DecidableEq, Repr

def RunIdentity.idempotencyKey (identity : RunIdentity) : String :=
  identity.tenantId ++ ":" ++ identity.workspaceId ++ ":" ++ identity.workflowId ++ ":" ++
    identity.workflowVersion ++ ":" ++ identity.eventId

structure DurableWorkflowRun where
  runId : Uuid
  identity : RunIdentity
  status : DurableRunStatus
  attempt : Int := 0
  checkpoint : Json := .null
  result : Json := .null
  error : Json := .null
  idempotencyKey : String
  deriving DecidableEq, Repr

/-- `DurableWorkflowRun.new(...)`, which draws the identifier. -/
def DurableWorkflowRun.new (runId : Uuid) (identity : RunIdentity) : DurableWorkflowRun :=
  { runId := runId, identity := identity, status := .received
    idempotencyKey := identity.idempotencyKey }

/-- A row of `autonomous_workflow_runs`, with the columns of the sweeper. -/
structure DurableRunRow extends WorkflowRunRow where
  lastHeartbeatAt : Int
  recoveryCount : Nat := 0
  nextAttemptAt : Option Int := none
  deriving DecidableEq, Repr

def DurableRunRow.identity (row : DurableRunRow) : RunIdentity :=
  { tenantId := row.tenantId, workspaceId := row.workspaceId, workflowId := row.workflowId
    workflowVersion := row.workflowVersion, eventId := row.eventId }

abbrev RunTable := Dict Uuid DurableRunRow

/-- A `jsonb` column hands out a document that equals the one written to it. -/
def Keeps (pg : Postgres) (doc : Json) : Prop :=
  ∃ held, pg.column (Json.dumpsSorted doc) = .ok held ∧ pyEquals held doc = true

theorem column_obj {pg : Postgres} {members : Members} {held : Json}
    (written : pg.column (Json.dumpsSorted (.obj members)) = .ok held) :
    ∃ kept, held = .obj kept := by
  unfold Postgres.column at written
  cases stored : Jsonb.hold pg.numeric (Json.dumpsSorted (.obj members)).document with
  | none => simp [stored] at written
  | some doc =>
    simp only [stored, Except.ok.injEq] at written
    rw [Json.dumpsSorted, Json.sort_keys_obj] at stored
    obtain ⟨kept, _, same⟩ := Jsonb.hold_obj stored
    exact ⟨kept, written ▸ same⟩

section decoding

variable (double : List Char → UInt64)

/-- `json.loads(text)`. -/
def jsonLoads (text : String) : Except PyError Json :=
  match JsonScan.loads? double text with
  | some doc => .ok doc
  | none => .error ⟨.other "JSONDecodeError", "the text is no JSON document"⟩

/-- `value if not isinstance(value, str) else json.loads(value)`. -/
def decodeText : Json → Except PyError Json
  | .str text => jsonLoads double text
  | value => .ok value

/-- `value if isinstance(value, dict) else json.loads(value or "{}")`. -/
def decodeMembers : Json → Except PyError Json
  | .obj members => .ok (.obj members)
  | .str text => if text = "" then .ok (.obj []) else jsonLoads double text
  | value =>
    if truthy value then .error ⟨.other "TypeError",
      "the JSON object must be str, bytes or bytearray, not " ++ typeName value⟩
    else .ok (.obj [])

/-- `_row(row)`. -/
def DurableRunRow.run (runId : Uuid) (row : DurableRunRow) : Except PyError DurableWorkflowRun := do
  let checkpoint ← decodeMembers double row.checkpoint
  let res ← decodeText double (row.result.getD .null)
  let err ← decodeText double (row.error.getD .null)
  return { runId := runId, identity := row.identity, status := row.status, attempt := row.attempt
           checkpoint := checkpoint, result := res, error := err
           idempotencyKey := row.idempotencyKey }

end decoding

namespace RunTable

variable (pg : Postgres) (double : List Char → UInt64) (now : Int)

/-- The row that `create` inserts. -/
def insertion (run : DurableWorkflowRun) (checkpoint : Json) : DurableRunRow :=
  { tenantId := run.identity.tenantId, workspaceId := run.identity.workspaceId
    workflowId := run.identity.workflowId, workflowVersion := run.identity.workflowVersion
    eventId := run.identity.eventId, status := run.status, attempt := run.attempt
    checkpoint := checkpoint, idempotencyKey := run.idempotencyKey, updatedAt := now
    lastHeartbeatAt := now }

def ofIdentity (identity : RunIdentity) (table : RunTable) : Option (Uuid × DurableRunRow) :=
  table.find? fun entry => entry.2.identity = identity

/-- The `INSERT` of `create`, with the table that it leaves unless a run of the identity
is there. -/
def insert (run : DurableWorkflowRun) (table : RunTable) : Except PyError (Option RunTable) := do
  let written := if truthy run.checkpoint then run.checkpoint else .obj []
  let checkpoint ← pg.column (Json.dumpsSorted written)
  if (table.ofIdentity run.identity).isSome then return none
  else if (table.lookup run.runId).isSome then
    throw (uniqueViolation "autonomous_workflow_runs_pkey")
  else if table.any fun entry => entry.2.idempotencyKey == run.idempotencyKey then
    throw (uniqueViolation "autonomous_workflow_runs_idempotency_idx")
  else return some (table ++ [(run.runId, insertion now run checkpoint)])

/-- `get(run_id)`. -/
def get (runId : Uuid) (table : RunTable) : Except PyError (Option DurableWorkflowRun) :=
  match table.lookup runId with
  | none => .ok none
  | some row => (row.run double runId).map some

/-- `get_by_event(...)`. -/
def getByEvent (identity : RunIdentity) (table : RunTable) :
    Except PyError (Option DurableWorkflowRun) :=
  match table.ofIdentity identity with
  | none => .ok none
  | some (runId, row) => (row.run double runId).map some

end RunTable

structure RunChange where
  status : DurableRunStatus
  attempt : Option Int := none
  checkpoint : Option Members := none
  result : Option Json := none
  error : Option Members := none
  deriving DecidableEq, Repr

namespace RunTable

variable (pg : Postgres) (double : List Char → UInt64) (now : Int)

/-- `result is not None`. -/
def given (res : Option Json) : Option Json := res.filter (· != .null)

/-- The row that the `UPDATE` of a transition writes, if there is one. It leaves
`last_heartbeat_at` alone. -/
def changed (runId : Uuid) (change : RunChange) (table : RunTable) :
    Except PyError DurableRunRow := do
  let checkpoint ← optionalColumn pg (change.checkpoint.map .obj)
  let res ← optionalColumn pg (given change.result)
  let err ← optionalColumn pg (change.error.map .obj)
  match table.lookup runId with
  | none => .error (runMissing runId)
  | some row => return { row with
      toWorkflowRunRow := transitioned now change.status change.attempt checkpoint
        res err row.toWorkflowRunRow }

/-- `transition(run_id, ...)` up to its commit. -/
def transition (runId : Uuid) (change : RunChange) (table : RunTable) :
    Except PyError (RunTable × DurableRunRow) := do
  let row ← changed pg now runId change table
  return (table.set runId row, row)

def fencedTransition (leases : LeaseTable) (lease : WorkerLease) (runId : Uuid)
    (change : RunChange) (table : RunTable) : Except PyError (RunTable × DurableRunRow) := do
  leases.assertCurrent now lease
  transition pg now runId change table

end RunTable

/-- A row of `autonomous_workflow_idempotency`. -/
structure IdempotencyClaim where
  tenantId : String
  workspaceId : String
  runId : Uuid
  deriving DecidableEq, Repr

abbrev ClaimTable := Dict String IdempotencyClaim

namespace ClaimTable

/-- `claim_idempotency(run)`. -/
def claim (run : DurableWorkflowRun) (table : ClaimTable) : ClaimTable × Bool :=
  match table.lookup run.idempotencyKey with
  | some _ => (table, false)
  | none => (table ++ [(run.idempotencyKey,
      { tenantId := run.identity.tenantId, workspaceId := run.identity.workspaceId
        runId := run.runId })], true)

end ClaimTable

/-- `WorkflowRecoverySweeper`, whose constructor refuses other settings. -/
structure WorkflowRecoverySweeper where
  staleAfter : Int := 300000000
  maxRecoveries : Nat := 3
  positive : 0 < staleAfter ∧ 0 < maxRecoveries := by decide

namespace WorkflowRecoverySweeper

variable (sweeper : WorkflowRecoverySweeper) (double : List Char → UInt64) (now : Int)

def Stale (row : DurableRunRow) : Prop :=
  (row.status = .running ∨ row.status = .recovering) ∧
    row.lastHeartbeatAt < now - sweeper.staleAfter ∧ row.recoveryCount < sweeper.maxRecoveries

instance (row : DurableRunRow) : Decidable (sweeper.Stale now row) :=
  inferInstanceAs (Decidable (_ ∧ _ ∧ _))

def HeardFirst (left right : Uuid × DurableRunRow) : Prop :=
  left.2.lastHeartbeatAt ≤ right.2.lastHeartbeatAt

instance : DecidableRel HeardFirst := fun left right =>
  inferInstanceAs (Decidable (left.2.lastHeartbeatAt ≤ right.2.lastHeartbeatAt))

def selected (limit : Nat) (locked : List Uuid) (table : RunTable) : RunTable :=
  let stale := table.filter fun entry =>
    decide (sweeper.Stale now entry.2) && !locked.contains entry.1
  (stale.insertionSort HeardFirst).take limit

/-- The assignments of the `UPDATE`. -/
def swept (row : DurableRunRow) : DurableRunRow :=
  { row with
    status := .recovering, recoveryCount := row.recoveryCount + 1, nextAttemptAt := some now
    lastHeartbeatAt := now, updatedAt := now }

def sweptTable (selected table : RunTable) : RunTable :=
  table.map fun entry =>
    if entry.1 ∈ Dict.keys selected then (entry.1, swept now entry.2) else entry

/-- `sweep(limit=limit)`, which decodes the rows before it commits. -/
def sweep (limit : Int) (locked : List Uuid) (table : RunTable) :
    Except PyError (RunTable × List DurableWorkflowRun) := do
  if limit < 1 then throw ⟨.valueError, "limit must be positive"⟩
  let rows := sweeper.selected now limit.toNat locked table
  let recovered ← rows.mapM fun entry => (swept now entry.2).run double entry.1
  return (sweptTable now rows table, recovered)

end WorkflowRecoverySweeper

end Ois.Autonomy
