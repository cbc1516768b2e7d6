import Ois.Kernel.Types
import Ois.Library.Command
import Ois.Library.JsonText
import Ois.Sources.Outbox

/-!
# The source gateway

The dataclasses of `infrastructure/source_gateway/gateway.py`, `contracts.py` and `evidence.py`,
`canonical_event_id` of `events.py`, and `SourceGateway.ingest` over whatever the gateway is
built with: an idempotency store, where evidence and outbox events go, and a pipeline.
-/

namespace Ois.Sources

open Ois.Library Ois.Kernel

structure Hashing where
  sha256 : Json.Text → String
  uuid5 : String → String

/-- Names that are never shared. -/
def Hashing.plain : Hashing := { sha256 := Json.Text.coded, uuid5 := id }

structure SourceProvenance where
  provider : String
  endpoint : String
  operation : String
  requestId : String
  resourceId : String := ""
  cursor : Option String := none
  observedAt : Option DateTime := none
  metadata : Option Members := none
  deriving DecidableEq, Repr

/-- `as_dict()` at `now`. -/
def SourceProvenance.asDict (now : DateTime) (provenance : SourceProvenance) : Members :=
  [("provider", .str provenance.provider), ("endpoint", .str provenance.endpoint),
    ("operation", .str provenance.operation), ("request_id", .str provenance.requestId),
    ("resource_id", .str provenance.resourceId),
    ("cursor", Json.ofOption .str provenance.cursor),
    ("observed_at", .str (provenance.observedAt.getD now).isoformat),
    ("metadata", .obj (provenance.metadata.getD []))]

structure SourceRequest where
  tenantId : String
  workspaceId : String
  sourceType : String := ""
  sourceRecordId : String := ""
  payload : Option Members := none
  connectorVersion : String := "v1"
  schemaVersion : String := "v1"
  sourceId : String := ""
  provenance : Option SourceProvenance := none
  eventType : String := "source.observation"
  idempotencyKey : Option String := none
  observedAt : Option DateTime := none
  deriving DecidableEq, Repr

namespace SourceRequest

/-- `__post_init__()`. -/
def postInit (req : SourceRequest) : SourceRequest :=
  { req with
    payload := some (req.payload.getD [])
    sourceId :=
      if req.sourceId = "" ∧ req.sourceType ≠ "" then
        req.sourceType ++ ":" ++ req.sourceRecordId
      else req.sourceId }

/-- `request.payload or {}`. -/
def document (req : SourceRequest) : Json := .obj (req.payload.getD [])

end SourceRequest

structure SourceResponse where
  accepted : Bool
  evidenceId : String
  eventId : String
  payloadHash : String
  reason : Option String := none
  deriving DecidableEq, Repr

structure RawEvidence where
  evidenceId : String
  tenantId : String
  workspaceId : String
  sourceId : String
  sourceRecordId : String
  payload : Json
  payloadHash : String
  collectedAt : DateTime
  connectorVersion : String
  schemaVersion : String
  ingestionRunId : String
  deriving DecidableEq, Repr

section ident

variable (sha : Hashing)

def canonicalHash (body : Json) : String := sha.sha256 (Json.dumpsSorted body)

def canonicalEventId (tenant spaceId source recordId : String) (body : Json) : String :=
  sha.uuid5 (tenant ++ ":" ++ spaceId ++ ":" ++ source ++ ":" ++ recordId ++ ":" ++
    sha.sha256 (Json.dumpsSorted body))

namespace SourceRequest

variable (req : SourceRequest)

def payloadHash : String := canonicalHash sha req.document

def evidenceId : String :=
  sha.uuid5 (req.tenantId ++ ":" ++ req.workspaceId ++ ":" ++ req.sourceId ++
    ":" ++ req.sourceRecordId ++ ":" ++ req.payloadHash sha)

def eventId : String := sha.uuid5 ("source-outbox:" ++ req.evidenceId sha)

/-- The raw evidence of the request, collected at `now` unless it was observed before. -/
def evidence (now : DateTime) (runId : String) : RawEvidence :=
  { evidenceId := req.evidenceId sha, tenantId := req.tenantId
    workspaceId := req.workspaceId, sourceId := req.sourceId
    sourceRecordId := req.sourceRecordId, payload := req.document
    payloadHash := req.payloadHash sha, collectedAt := req.observedAt.getD now
    connectorVersion := req.connectorVersion, schemaVersion := req.schemaVersion
    ingestionRunId := runId }

/-- The payload of the outbox event, with the provenance as of `now`. -/
def eventPayload (now : DateTime) : Members :=
  [("event_type", .str req.eventType), ("evidence_id", .str (req.evidenceId sha)),
    ("source_id", .str req.sourceId), ("source_record_id", .str req.sourceRecordId),
    ("payload_hash", .str (req.payloadHash sha)),
    ("connector_version", .str req.connectorVersion),
    ("schema_version", .str req.schemaVersion)] ++
    match req.provenance with
    | some provenance => [("provenance", .obj (provenance.asDict now))]
    | none => []

/-- The outbox event of the request, created at `created`. -/
def event (now created : DateTime) : OutboxEvent :=
  { eventId := req.eventId sha, tenantId := req.tenantId
    workspaceId := req.workspaceId, eventType := "source.raw_evidence.created"
    aggregateId := req.evidenceId sha, payload := req.eventPayload sha now
    createdAt := created }

theorem evidence_id_eq :
    req.evidenceId sha = canonicalEventId sha req.tenantId req.workspaceId
      req.sourceId req.sourceRecordId req.document := rfl

end SourceRequest

end ident

inductive Refusal where
  | rateLimited
  | invalidRateLimitLease
  deriving DecidableEq, Repr

def Refusal.reason : Refusal → String
  | .rateLimited => "rate_limited"
  | .invalidRateLimitLease => "invalid_rate_limit_lease"

inductive Admission where
  | raised (err : PyError)
  | refused (refusal : Refusal)
  | admitted (credentialVerified : Bool)
  deriving DecidableEq, Repr

structure Stamps where
  collectedAt : DateTime
  provenanceAt : DateTime
  createdAt : DateTime
  claimedAt : DateTime
  observedAt : DateTime
  runId : String
  deriving DecidableEq, Repr

/-- A clock that stands still. -/
def Stamps.epoch : Stamps := ⟨.epoch, .epoch, .epoch, .epoch, .epoch, "run"⟩

structure CanonicalSourceEvent where
  eventId : String
  tenantId : String
  workspaceId : String
  sourceId : String
  sourceRecordId : String
  eventType : String
  payload : Json
  payloadHash : String
  observedAt : DateTime
  schemaVersion : String := "source.event.v1"
  connectorVersion : String := "v1"
  metadata : Members := []
  deriving DecidableEq, Repr

/-- What the gateway reads of the result of `process`. -/
structure PipelineResult where
  accepted : Bool := false
  reason : Option String := some "intelligence_pipeline_rejected"
  deriving DecidableEq, Repr

abbrev ClaimKey := String × String × String

/-- An idempotency store: `claim`, `get` for the event of a claim, and `release`. -/
structure IdempotencyParts (State : Type) where
  claim : ClaimKey → String → Command PyError State Bool
  get : ClaimKey → Command PyError State (Option String)
  release : ClaimKey → String → Command PyError State Bool

inductive Persistence (State : Type) where
  | ledger (commitIngest : RawEvidence → OutboxEvent → Command PyError State Bool)
  | separate (evidence : Option (RawEvidence → Command PyError State Bool))
      (outbox : Option (OutboxEvent → Command PyError State Bool))

structure GatewayParts (State : Type) where
  idempotency : Option (IdempotencyParts State) := none
  persistence : Persistence State
  process : Option (CanonicalSourceEvent → Bool → Command PyError State PipelineResult) := none

def outboxFailed : PyError :=
  ⟨.other "RuntimeError", "evidence committed but outbox append failed; " ++
    "use SQLiteSourceLedger for atomicity"⟩

namespace Persistence

variable {State : Type}

def persist (evidence : RawEvidence) (event : OutboxEvent) :
    Persistence State → Command PyError State Bool
  | .ledger commitIngest => commitIngest evidence event
  | .separate writer outbox => do
    let accepted ← match writer with
      | some append => append evidence
      | none => pure true
    let outboxOk ← match outbox with
      | some append => append event
      | none => pure true
    if accepted = true ∧ outboxOk = false then throw outboxFailed
    return accepted

end Persistence

section gateway

variable {State : Type} (sha : Hashing) (parts : GatewayParts State) (stamps : Stamps)
  (req : SourceRequest)

namespace SourceRequest

def claimKey (key : String) : ClaimKey := (req.tenantId, req.workspaceId, key)

def response (accepted : Bool) (reason : Option String) : SourceResponse :=
  { accepted := accepted, evidenceId := req.evidenceId sha
    eventId := req.eventId sha, payloadHash := req.payloadHash sha
    reason := reason }

def canonicalEvent (observedAt : DateTime) : CanonicalSourceEvent :=
  { eventId := req.eventId sha, tenantId := req.tenantId
    workspaceId := req.workspaceId, sourceId := req.sourceId
    sourceRecordId := req.sourceRecordId, eventType := "source.raw_evidence.created"
    payload := req.document, payloadHash := req.payloadHash sha
    observedAt := observedAt, schemaVersion := req.schemaVersion
    connectorVersion := req.connectorVersion }

end SourceRequest

def processAccepted (credentialVerified : Bool) : Command PyError State SourceResponse :=
  match parts.process with
  | none => return req.response sha true none
  | some process => do
    let res ← process (req.canonicalEvent sha stamps.observedAt) credentialVerified
    if res.accepted then return req.response sha true none
    else return req.response sha true res.reason

/-- From the commit on; `release` gives back the claim of the request, if it has one. -/
def commitAndProcess (release : Command PyError State Unit) (credentialVerified : Bool) :
    Command PyError State SourceResponse := do
  let evidence := req.evidence sha stamps.collectedAt stamps.runId
  let event := req.event sha stamps.provenanceAt stamps.createdAt
  let accepted ← tryCatch (parts.persistence.persist evidence event) fun err => do
    release
    throw err
  if accepted then processAccepted sha parts stamps req credentialVerified
  else
    release
    return req.response sha false (some "duplicate_evidence")

def claimed : Option (ClaimKey × IdempotencyParts State) :=
  match req.idempotencyKey, parts.idempotency with
  | some key, some store => if key = "" then none else some (req.claimKey key, store)
  | _, _ => none

def claimedBefore (existing : Option String) : SourceResponse :=
  { accepted := false, evidenceId := existing.getD (req.evidenceId sha)
    eventId := existing.getD (req.eventId sha)
    payloadHash := req.payloadHash sha, reason := some "duplicate_idempotency" }

/-- `ingest(request)`. -/
def gatewayIngest (admission : Admission) : Command PyError State SourceResponse :=
  match admission with
  | .raised err => throw err
  | .refused refusal => return ⟨false, "", "", "", some refusal.reason⟩
  | .admitted credentialVerified =>
    match claimed parts req with
    | none => commitAndProcess sha parts stamps req (pure ()) credentialVerified
    | some (key, store) => do
      if ← store.claim key (req.eventId sha) then
        let release : Command PyError State Unit := do
          let _ ← store.release key (req.eventId sha)
        commitAndProcess sha parts stamps req release credentialVerified
      else
        let existing ← store.get key
        return claimedBefore sha req existing

end gateway

end Ois.Sources
