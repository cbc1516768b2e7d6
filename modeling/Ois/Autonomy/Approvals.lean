import Ois.Autonomy.DurableRuns
import Ois.Autonomy.Events

/-!
# Approvals and the events that they keep

`PostgresApprovalStore` of `autonomy/durable_approvals.py`, whose rows keep the identifiers, the
type, the source and the payload of the event that waits for an approval, then
`InMemoryApprovalStore` and `ApprovalGate` of `autonomy/approvals.py`. A decision in memory reads
the clock a second time for the moment that it records. Moments are microseconds on one clock, and
an expiry without an offset is the reading of a wall clock.
-/

namespace Ois.Autonomy

open Ois.Library Ois.Kernel Ois.Infrastructure

inductive ApprovalDecision where
  | pending | approved | rejected | expired
  deriving DecidableEq, Repr

structure ApprovalRequest where
  approvalId : String
  tenantId : String
  workspaceId : String
  workflowId : String
  eventId : String
  reason : String
  createdAt : Int
  expiresAt : Int
  /-- `expires_at` has no offset from UTC. -/
  naive : Bool := false
  event : Option EventEnvelope := none
  decision : ApprovalDecision := .pending
  decidedBy : Option String := none
  decidedAt : Option Int := none
  deriving DecidableEq, Repr

/-- `expires_at` can be compared with a reading of the clock, and lies after it. -/
def ApprovalRequest.Timely (now : Int) (request : ApprovalRequest) : Prop :=
  request.naive = false ∧ now < request.expiresAt

instance (now : Int) (request : ApprovalRequest) : Decidable (request.Timely now) :=
  inferInstanceAs (Decidable (_ ∧ _))

/-- The request that the engine makes for a run and its event at `now`. -/
def ApprovalRequest.forRun (run : DurableWorkflowRun) (event : EventEnvelope) (reason : String)
    (now : Int) : ApprovalRequest :=
  { approvalId := run.runId.str, tenantId := run.identity.tenantId
    workspaceId := run.identity.workspaceId, workflowId := run.identity.workflowId
    eventId := run.identity.eventId, reason := reason, createdAt := now
    expiresAt := now + 3600000000, event := some event }

/-- A row of `autonomous_approvals`. -/
structure ApprovalRow where
  tenantId : String
  workspaceId : String
  workflowId : String
  eventId : String
  reason : String
  decision : ApprovalDecision := .pending
  createdAt : Int
  expiresAt : Int
  decidedBy : Option String := none
  decidedAt : Option Int := none
  eventPayload : Json
  sourceId : Option String
  eventType : Option String
  runId : Option Uuid
  deriving DecidableEq, Repr

abbrev ApprovalTable := Dict Uuid ApprovalRow

namespace ApprovalTable

section reading

variable (double : List Char → UInt64) (clock : DateTime)

/-- `_row(row)`, which reads the clock for the event. -/
def request (askId : Uuid) (row : ApprovalRow) : Except PyError ApprovalRequest := do
  let body ← decodeMembers double row.eventPayload
  let event : Option EventEnvelope := row.eventType.map fun kind =>
    { eventId := row.eventId, tenantId := row.tenantId, workspaceId := row.workspaceId
      eventType := kind, aggregateId := row.eventId
      payload := body.asMembers?.getD [], createdAt := clock
      sourceId := Json.ofOption .str row.sourceId }
  return { approvalId := askId.str, tenantId := row.tenantId, workspaceId := row.workspaceId
           workflowId := row.workflowId, eventId := row.eventId, reason := row.reason
           createdAt := row.createdAt, expiresAt := row.expiresAt, event := event
           decision := row.decision, decidedBy := row.decidedBy, decidedAt := row.decidedAt }

def Newer (left right : Uuid × ApprovalRow) : Prop := right.2.createdAt ≤ left.2.createdAt

instance : DecidableRel Newer := fun left right =>
  inferInstanceAs (Decidable (right.2.createdAt ≤ left.2.createdAt))

/-- The row that `get_by_event` selects. It asks for the event identifier only. -/
def pendingFor (eventId : String) (table : ApprovalTable) : Option (Uuid × ApprovalRow) :=
  let pending := table.filter fun entry =>
    entry.2.eventId == eventId && entry.2.decision == .pending
  (pending.insertionSort Newer).head?

/-- `get_by_event(event_id)`. -/
def getByEvent (eventId : String) (table : ApprovalTable) :
    Except PyError (Option ApprovalRequest) :=
  match table.pendingFor eventId with
  | none => .ok none
  | some (askId, row) => (request double clock askId row).map some

end reading

section stmts

variable (pg : Postgres) (double : List Char → UInt64) (clock : DateTime)

def badUuid (text : String) : PyError :=
  ⟨.other "InvalidTextRepresentation", "invalid input syntax for type uuid: \"" ++ text ++ "\""⟩

/-- `%s` for a column of type `uuid`. A text with NUL is none either. -/
def uuidColumn (text : String) : Except PyError Uuid :=
  match pg.uuid text with
  | some uuid => .ok uuid
  | none => .error (badUuid text)

/-- Texts among the parameters of a statement. The driver sends none with NUL. -/
def sendTexts (texts : List String) : Except PyError Unit :=
  if texts.all fun text => (Jsonb.holdText text).isSome then .ok ()
  else .error ⟨.other "DataError", "PostgreSQL text fields cannot contain NUL (0x00) bytes"⟩

/-- The texts that `create` sends. -/
def textsOf (request : ApprovalRequest) : List String :=
  [request.tenantId, request.workspaceId, request.workflowId, request.eventId, request.reason] ++
    (request.event.elim [] fun event => event.eventType :: event.sourceId.asStr?.toList)

/-- `%s` for a column of type `text`, where only texts and `None` fit. -/
def textColumn : Json → Except PyError (Option String)
  | .null => .ok none
  | .str text => .ok (some text)
  | _ => .error ⟨.other "ProgrammingError", "the value does not fit a column of type text"⟩

/-- The row that `create` inserts. -/
def approvalRow (request : ApprovalRequest) (runId : Option Uuid) : Except PyError ApprovalRow := do
  let body := (request.event.map (·.payload)).getD []
  let eventPayload ← pg.column (Json.dumpsSorted (.obj body))
  let source ← textColumn ((request.event.map (·.sourceId)).getD .null)
  return { tenantId := request.tenantId, workspaceId := request.workspaceId
           workflowId := request.workflowId, eventId := request.eventId, reason := request.reason
           createdAt := request.createdAt
           expiresAt := if request.naive then pg.zoned request.expiresAt else request.expiresAt
           eventPayload := eventPayload, sourceId := source
           eventType := request.event.map (·.eventType), runId := runId }

/-- `create(request, run_id=run_id)`. -/
def create (request : ApprovalRequest) (runId : Option Uuid) (table : ApprovalTable) :
    Except PyError ApprovalTable := do
  sendTexts (textsOf request)
  let askId ← uuidColumn pg request.approvalId
  let row ← approvalRow pg request runId
  if (table.lookup askId).isSome then throw (uniqueViolation "autonomous_approvals_pkey")
  else return table ++ [(askId, row)]

/-- `get(approval_id)`. -/
def get (askId : String) (table : ApprovalTable) :
    Except PyError (Option ApprovalRequest) := do
  let askId ← uuidColumn pg askId
  match table.lookup askId with
  | none => return none
  | some row => return some (← request double clock askId row)

def undecidable : PyError :=
  ⟨.valueError, "approval is missing, already decided, or expired"⟩

def decided (decision : ApprovalDecision) (actor : String) (now : Int) (row : ApprovalRow) :
    ApprovalRow :=
  if row.decision ≠ .pending then row
  else if now < row.expiresAt then
    { row with decision := decision, decidedBy := some actor, decidedAt := some now }
  else { row with decision := .expired }

/-- The parameters of the statements of `decide`. -/
def decideParameters (askId actor : String) : Except PyError Uuid := do
  sendTexts [actor]
  uuidColumn pg askId

/-- `decide(approval_id, decision, actor)` at `now`. An approval that is found to be
expired is marked so, and the call raises. -/
def decide (askId : String) (decision : ApprovalDecision) (actor : String) (now : Int)
    (table : ApprovalTable) : ApprovalTable × Except PyError ApprovalRequest :=
  match decideParameters pg askId actor with
  | .error err => (table, .error err)
  | .ok askId =>
    match table.lookup askId with
    | none => (table, .error undecidable)
    | some row =>
      let after := decided decision actor now row
      (table.set askId after,
        if row.decision = .pending ∧ now < row.expiresAt then
          request double clock askId after
        else .error undecidable)

def notFound : PyError := ⟨.other "KeyError", Kernel.reprStr "approval not found"⟩

def notApproved : PyError := ⟨.valueError, "approval is not approved"⟩

/-- `resume_event(approval_id)`. -/
def resumeEvent (askId : String) (table : ApprovalTable) : Except PyError EventEnvelope := do
  match ← get pg double clock askId table with
  | none => throw notFound
  | some request =>
    if request.decision ≠ .approved then throw notApproved
    return request.event.getD
      { eventId := request.eventId, tenantId := request.tenantId
        workspaceId := request.workspaceId, eventType := "approval.resumed"
        aggregateId := request.eventId, createdAt := clock }

end stmts

end ApprovalTable

abbrev InMemoryApprovalStore := Dict String ApprovalRequest

namespace InMemoryApprovalStore

/-- `create(request)`. -/
def create (request : ApprovalRequest) (store : InMemoryApprovalStore) :
    Except PyError InMemoryApprovalStore :=
  match store.lookup request.approvalId with
  | some _ => .error ⟨.valueError, "approval already exists"⟩
  | none => .ok (store ++ [(request.approvalId, request)])

def naiveCompared : PyError :=
  ⟨.other "TypeError", "can't compare offset-naive and offset-aware datetimes"⟩

def decided (decision : ApprovalDecision) (actor : String) (decidedAt : Int)
    (request : ApprovalRequest) : ApprovalRequest :=
  { request with decision := decision, decidedBy := some actor, decidedAt := some decidedAt }

/-- `decide(approval_id, decision, actor)`. A request that is found to be expired is marked
so, and the call raises. -/
def decide (askId : String) (decision : ApprovalDecision) (actor : String)
    (now decidedAt : Int) (store : InMemoryApprovalStore) :
    InMemoryApprovalStore × Except PyError ApprovalRequest :=
  match store.lookup askId with
  | none => (store, .error ⟨.other "KeyError", Kernel.reprStr "approval not found"⟩)
  | some cur =>
    if cur.decision ≠ .pending then
      (store, .error ⟨.valueError, "approval is already decided"⟩)
    else if cur.naive then (store, .error naiveCompared)
    else if cur.expiresAt ≤ now then
      (store.set askId { cur with decision := .expired },
        .error ⟨.valueError, "approval has expired"⟩)
    else
      let updated := decided decision actor decidedAt cur
      (store.set askId updated, .ok updated)

/-- A decision on a request at `now`. The store changes at that request only, and only while the
request is pending. -/
inductive Decided (askId : String) (decision : ApprovalDecision) (actor : String)
    (now : Int) (store : InMemoryApprovalStore) :
    InMemoryApprovalStore × Except PyError ApprovalRequest → Prop where
  | refused (err : PyError) : Decided askId decision actor now store (store, .error err)
  | expired (cur : ApprovalRequest) (err : PyError)
      (found : store.lookup askId = some cur) (waits : cur.decision = .pending) :
      Decided askId decision actor now store
        (store.set askId { cur with decision := .expired }, .error err)
  | done (cur : ApprovalRequest) (decidedAt : Int)
      (found : store.lookup askId = some cur) (waits : cur.decision = .pending)
      (timely : cur.Timely now) :
      Decided askId decision actor now store
        (store.set askId (decided decision actor decidedAt cur),
          .ok (decided decision actor decidedAt cur))

theorem decide_decided (askId : String) (decision : ApprovalDecision) (actor : String)
    (now decidedAt : Int) (store : InMemoryApprovalStore) :
    Decided askId decision actor now store
      (decide askId decision actor now decidedAt store) := by
  unfold decide
  cases found : store.lookup askId with
  | none => exact .refused _
  | some cur =>
    simp only []
    by_cases waits : cur.decision = .pending
    · rw [if_neg (not_not.mpr waits)]
      split_ifs with naive late
      · exact .refused _
      · exact .expired cur _ found waits
      · exact .done cur decidedAt found waits
          ⟨Bool.not_eq_true _ ▸ naive, Int.not_le.mp late⟩
    · rw [if_pos waits]
      exact .refused _

end InMemoryApprovalStore

/-- The request that `ApprovalGate.request` files under the identifier that it draws. A
request expires `ttl_seconds` after the second in which it was made. -/
def ApprovalGate.request (askId workflowId : String) (event : EventEnvelope)
    (reason : String) (now : DateTime) (ttlSeconds : Int := 3600) : ApprovalRequest :=
  { approvalId := askId, tenantId := event.tenantId, workspaceId := event.workspaceId
    workflowId := workflowId, eventId := event.eventId, reason := reason
    createdAt := now.instant
    expiresAt := now.instant - now.microsecond + ttlSeconds * 1000000
    event := some event }

end Ois.Autonomy
