import Ois.Library.Json
import Ois.Library.Uuid
import Ois.Library.DateTime
import Ois.Kernel.Types

/-!
# Execution contexts

`ExecutionContext` of `state.py` with its status machine and its dictionary form. Payload fields
hold JSON values.
-/

namespace Ois.Kernel

open Ois.Library Json

structure ExecutionIdentity where
  executionId : Uuid
  tenantId : String := "default"
  workflowId : Option String := none
  workflowVersion : Option String := none
  deriving DecidableEq, Repr

/-- What the attribute `last_failure` holds. -/
inductive LastFailure where
  | none
  | failureClass (fail : FailureClass)
  | text (value : String)
  deriving DecidableEq, Repr

structure ExecutionContext where
  identity : ExecutionIdentity
  objective : String
  constraints : Members := []
  metadata : Members := []
  status : ExecutionStatus := .received
  riskLevel : RiskLevel := .low
  intent : Option Members := none
  plan : Option Members := none
  currentNode : Option String := none
  workingMemory : Members := []
  retrievedContext : List Members := []
  artifacts : List Members := []
  approvals : List Members := []
  escalations : List Members := []
  observations : List Members := []
  validationResults : List Members := []
  retryCount : Int := 0
  recoveryAttempts : Int := 0
  lastFailure : LastFailure := .none
  error : Option Members := none
  createdAt : DateTime
  updatedAt : DateTime
  deriving DecidableEq, Repr

namespace ExecutionContext

def touch (now : DateTime) (ctx : ExecutionContext) : ExecutionContext :=
  { ctx with updatedAt := now }

def setStatus (now : DateTime) (status : ExecutionStatus) (ctx : ExecutionContext) :
    Except PyError ExecutionContext :=
  if ctx.status.isTerminal then
    .error ⟨.valueError, "Terminal execution status " ++ ctx.status.value ++
      " cannot transition to " ++ status.value ++ "."⟩
  else .ok (touch now { ctx with status := status })

end ExecutionContext

/-- `self.last_failure.value if self.last_failure else None`. -/
def LastFailure.dictValue : LastFailure → Except PyError Json
  | none => .ok .null
  | failureClass fail => .ok (.str fail.value)
  | text value =>
    if value = "" then .ok .null
    else .error ⟨.attributeError, "'str' object has no attribute 'value'"⟩

/-- The attribute after `from_dict` has read what `to_dict` wrote. -/
def LastFailure.restored : LastFailure → LastFailure
  | none => none
  | failureClass fail => text fail.value
  | text _ => none

namespace ExecutionContext

def identityMembers (ident : ExecutionIdentity) : Members :=
  [("execution_id", .str ident.executionId.str), ("tenant_id", .str ident.tenantId),
    ("workflow_id", ofOption .str ident.workflowId),
    ("workflow_version", ofOption .str ident.workflowVersion)]

def members (ctx : ExecutionContext) (lastFailure : Json) : Members :=
  [("identity", .obj (identityMembers ctx.identity)), ("objective", .str ctx.objective),
    ("constraints", .obj ctx.constraints),
    ("metadata", .obj ctx.metadata),
    ("status", .str ctx.status.value),
    ("risk_level", .str ctx.riskLevel.value),
    ("intent", ofOption .obj ctx.intent),
    ("plan", ofOption .obj ctx.plan),
    ("current_node", ofOption .str ctx.currentNode),
    ("working_memory", .obj ctx.workingMemory),
    ("retrieved_context", .arr (ctx.retrievedContext.map .obj)),
    ("artifacts", .arr (ctx.artifacts.map .obj)),
    ("approvals", .arr (ctx.approvals.map .obj)),
    ("escalations", .arr (ctx.escalations.map .obj)),
    ("observations", .arr (ctx.observations.map .obj)),
    ("validation_results", .arr (ctx.validationResults.map .obj)),
    ("retry_count", .int ctx.retryCount),
    ("recovery_attempts", .int ctx.recoveryAttempts),
    ("last_failure", lastFailure),
    ("error", ofOption .obj ctx.error),
    ("created_at", .str ctx.createdAt.isoformat),
    ("updated_at", .str ctx.updatedAt.isoformat)]

def toDict (ctx : ExecutionContext) : Except PyError Members := do
  let lastFailure ← ctx.lastFailure.dictValue
  return ctx.members lastFailure

def readMembersList (doc : Json) : Option (List Members) := do
  let items ← doc.asItems?
  items.mapM asMembers?

def readLastFailure : Json → Option LastFailure
  | .null => some .none
  | .str value => some (.text value)
  | _ => none

def readMoment (doc : Json) : Option DateTime := do
  let text ← doc.asStr?
  DateTime.fromisoformat? text

def readEnum {Member : Type} [StrEnum Member] (default : Member) (doc : Json) :
    Option Member :=
  some ((doc.asStr?.bind StrEnum.ofValue?).getD default)

def readExecutionId (fresh : Uuid) : Json → Option Uuid
  | .null => some fresh
  | .str text => some ((Uuid.parse? text).getD fresh)
  | _ => none

def field {Value : Type} (body : Members) (name : String) (default : Value)
    (read : Json → Option Value) : Option Value :=
  match body.lookup name with
  | none => some default
  | some doc => read doc

def identityPayload (body : Members) : Members :=
  match body.lookup "identity" with
  | some (.obj ident) => ident
  | _ => []

def readIdentity (fresh : Uuid) (ident : Members) : Option ExecutionIdentity := do
  let execId ← field ident "execution_id" fresh (readExecutionId fresh)
  let tenant ← field ident "tenant_id" "default" asStr?
  let workflowId ← field ident "workflow_id" none (orNull? asStr?)
  let workflowVersion ← field ident "workflow_version" none (orNull? asStr?)
  return { executionId := execId, tenantId := tenant, workflowId, workflowVersion }

/-- `fresh` and `now` are the identifier and the moment the constructor draws
for a payload that lacks its own. -/
def fromDict (fresh : Uuid) (now : DateTime) (body : Members) :
    Option ExecutionContext := do
  let ident ← readIdentity fresh (identityPayload body)
  let goal ← field body "objective" "" asStr?
  let constraints ← field body "constraints" [] asMembers?
  let metadata ← field body "metadata" [] asMembers?
  let status ← field body "status" ExecutionStatus.received (readEnum .received)
  let riskLevel ← field body "risk_level" RiskLevel.low (readEnum .low)
  let intent ← field body "intent" none (orNull? asMembers?)
  let plan ← field body "plan" none (orNull? asMembers?)
  let currentNode ← field body "current_node" none (orNull? asStr?)
  let workingMemory ← field body "working_memory" [] asMembers?
  let retrievedContext ← field body "retrieved_context" [] readMembersList
  let artifacts ← field body "artifacts" [] readMembersList
  let approvals ← field body "approvals" [] readMembersList
  let escalations ← field body "escalations" [] readMembersList
  let obs ← field body "observations" [] readMembersList
  let validationResults ← field body "validation_results" [] readMembersList
  let retryCount ← field body "retry_count" 0 asInt?
  let recoveryAttempts ← field body "recovery_attempts" 0 asInt?
  let lastFailure ← field body "last_failure" .none readLastFailure
  let err ← field body "error" none (orNull? asMembers?)
  let createdAt ← field body "created_at" now readMoment
  let updatedAt ← field body "updated_at" now readMoment
  return {
    identity := ident, objective := goal, constraints, metadata, status, riskLevel, intent
    plan, currentNode, workingMemory, retrievedContext, artifacts, approvals
    escalations, observations := obs, validationResults, retryCount, recoveryAttempts
    lastFailure, error := err, createdAt, updatedAt }

/-- The context with the members of every payload in key order. -/
def sorted (ctx : ExecutionContext) : ExecutionContext :=
  { ctx with
    constraints := sortMembers ctx.constraints
    metadata := sortMembers ctx.metadata
    intent := ctx.intent.map sortMembers
    plan := ctx.plan.map sortMembers
    workingMemory := sortMembers ctx.workingMemory
    retrievedContext := ctx.retrievedContext.map sortMembers
    artifacts := ctx.artifacts.map sortMembers
    approvals := ctx.approvals.map sortMembers
    escalations := ctx.escalations.map sortMembers
    observations := ctx.observations.map sortMembers
    validationResults := ctx.validationResults.map sortMembers
    error := ctx.error.map sortMembers }

theorem sorted_idempotent (ctx : ExecutionContext) :
    ctx.sorted.sorted = ctx.sorted := by
  simp [sorted, Function.comp_def]

theorem read_members_list_objects (items : List Members) :
    readMembersList (.arr (items.map .obj)) = some items := by
  induction items with
  | nil => rfl
  | cons item rest ih =>
    simp only [readMembersList, asItems?, Option.bind_eq_bind, Option.bind_some,
      List.map_cons, List.mapM_cons] at ih ⊢
    rw [ih]
    rfl

theorem or_null_of_option {Value : Type} (write : Value → Json)
    (read : Json → Option Value) (reads : ∀ value, read (write value) = some value)
    (notNull : ∀ value, write value ≠ .null) (field : Option Value) :
    orNull? read (ofOption write field) = some field := by
  cases field with
  | none => rfl
  | some value =>
    have written := notNull value
    have readBack := reads value
    simp only [ofOption]
    cases shape : write value with
    | null => exact absurd shape written
    | _ =>
      rw [shape] at readBack
      simp [orNull?, readBack]

theorem read_enum_value {Member : Type} [StrEnum Member] (default mem : Member) :
    readEnum default (.str (StrEnum.value mem)) = some mem := by
  simp [readEnum, asStr?]

theorem read_moment_isoformat (moment : DateTime) :
    readMoment (.str moment.isoformat) = some moment := by
  simp [readMoment, asStr?]

theorem read_identity_members (fresh : Uuid) (ident : ExecutionIdentity) :
    readIdentity fresh (identityMembers ident) = some ident := by
  have workflowId := or_null_of_option .str asStr? (fun _ => rfl) (by simp) ident.workflowId
  have workflowVersion := or_null_of_option .str asStr? (fun _ => rfl) (by simp)
    ident.workflowVersion
  simp [readIdentity, identityMembers, field, List.lookup_cons, readExecutionId, asStr?,
    workflowId, workflowVersion]

variable (fresh : Uuid) (now : DateTime) (ctx : ExecutionContext) (written : Json)
  (restored : LastFailure)

theorem from_dict_members
    (reads : readLastFailure written = some restored) :
    fromDict fresh now (ctx.members written) =
      some { ctx with lastFailure := restored } := by
  have optionalMembers := or_null_of_option .obj asMembers? (fun _ => rfl) (by simp)
  have optionalStr := or_null_of_option .str asStr? (fun _ => rfl) (by simp)
  have ident := read_identity_members fresh ctx.identity
  have status := read_enum_value ExecutionStatus.received ctx.status
  have riskLevel := read_enum_value RiskLevel.low ctx.riskLevel
  simp only [StrEnum.value] at status riskLevel
  simp [fromDict, identityPayload, members, field, List.lookup_cons, ident, status, riskLevel,
    optionalMembers, optionalStr, reads, read_members_list_objects, read_moment_isoformat,
    asStr?, asMembers?, asInt?]

theorem from_dict_congr (fresh : Uuid) (now : DateTime) (left right : Members)
    (same : ∀ name, left.lookup name = right.lookup name) :
    fromDict fresh now left = fromDict fresh now right := by
  simp only [fromDict, identityPayload, field, same]

theorem sort_keys_of_option_obj (body : Option Members) :
    sortKeys (ofOption .obj body) = ofOption .obj (body.map sortMembers) := by
  cases body <;> simp [ofOption]

theorem sort_keys_of_option_str (text : Option String) :
    sortKeys (ofOption .str text) = ofOption .str text := by
  cases text <;> simp [ofOption]

theorem sort_identity_members (ident : ExecutionIdentity) :
    sortMembers (identityMembers ident) = identityMembers ident := by
  have values : (identityMembers ident).map sortMember = identityMembers ident := by
    simp [identityMembers, sortMember, sort_keys_of_option_str]
  have ordered : (identityMembers ident).Pairwise Json.KeyOrder := by
    simp [identityMembers, Json.KeyOrder]
  rw [sort_members_eq, values, ordered.insertionSort_eq]

theorem map_sort_member_members (ctx : ExecutionContext) (written : Json)
    (plain : sortKeys written = written) :
    (ctx.members written).map sortMember = ctx.sorted.members written := by
  simp [members, sorted, sortMember, sort_identity_members, sort_keys_of_option_obj,
    sort_keys_of_option_str, plain]

theorem from_dict_sorted_members (plain : sortKeys written = written)
    (reads : readLastFailure written = some restored) :
    fromDict fresh now (sortMembers (ctx.members written)) =
      some { ctx.sorted with lastFailure := restored } := by
  have lookups : ∀ name, (sortMembers (ctx.members written)).lookup name =
      (ctx.sorted.members written).lookup name := by
    intro name
    rw [sort_members_eq, lookup_insertion_sort, map_sort_member_members ctx written plain]
  rw [from_dict_congr fresh now _ _ lookups]
  exact from_dict_members fresh now ctx.sorted written restored reads

end ExecutionContext

end Ois.Kernel
