import Ois.Kernel.Attempts
import Ois.Kernel.CallResults
import Ois.Kernel.Postgres
import Ois.Kernel.PyValues
import Ois.Library.Machine

/-!
# The spine and the approval of OCIF content

`OISSpine` of `spine.py`: a layer over the execution runtime that records the intent of a request,
runs one capability on a context of its own, and records how it ended. The spine has no lease
store, so nothing it does is fenced.
-/

namespace Ois.Integration

open Ois.Library Ois.Kernel Command ExecutionRuntime

structure SpineRequest where
  objective : String
  capabilityId : String
  capabilityVersion : String
  input : Members := []
  tenantId : String := "default"
  workflowId : String := "ois.spine"
  workflowVersion : String := "1.0"
  deriving DecidableEq, Repr

structure SpineResult where
  executionId : String
  invocationId : String
  status : String
  output : Json := .null
  error : Option Members := none
  deriving DecidableEq, Repr

/-- The components of a spine; its stores are those of the session it works in. -/
structure OISSpine where
  registry : CapabilityRegistry
  validateInput : InvocationRequest → CapabilityContract → Except PyError Unit
  validateOutput : InvocationResult → CapabilityContract → Except PyError Unit
  recovery : RecoveryPolicy := {}
  sha256 : Json.Text → String

namespace OISSpine

def runtime (spine : OISSpine) : ExecutionRuntime :=
  { registry := spine.registry, validateInput := spine.validateInput
    validateOutput := spine.validateOutput, recovery := spine.recovery
    sha256 := spine.sha256 }

def intent (req : SpineRequest) : Members :=
  [("objective", .str req.objective), ("capability_id", .str req.capabilityId),
    ("capability_version", .str req.capabilityVersion)]

/-- The context that `submit` builds, with the identifier and the moments its
constructors draw. -/
def submitted (execId : Uuid) (createdAt updatedAt : DateTime)
    (req : SpineRequest) : ExecutionContext :=
  { identity := {
      executionId := execId, tenantId := req.tenantId
      workflowId := some req.workflowId, workflowVersion := some req.workflowVersion }
    objective := req.objective
    metadata := [("integration", .str "ois.spine"), ("schema_version", .int 1)]
    intent := some (intent req)
    plan := some [("type", .str "single_capability"), ("nodes", .arr [.str req.capabilityId])]
    createdAt := createdAt, updatedAt := updatedAt }

def call (req : SpineRequest) (callId : Option String) : Call :=
  { capabilityId := req.capabilityId, version := req.capabilityVersion
    inputData := req.input, invocationId := callId }

variable (spine : OISSpine) (world : World)

/-- What `submit` does when the policy has denied the request. -/
def denied (req : SpineRequest) (callId : Option String) (err : PyError) :
    Operation SpineResult := do
  let refusal : Members :=
    [("type", .str err.kind.name), ("message", .str err.message)]
  change fun ctx => { ctx with error := some refusal }
  setStatus world .stopped
  spine.runtime.record (.layer "spine.authorization.denied")
    [("capability_id", .str req.capabilityId), ("reason", .str err.message)]
  spine.runtime.storeCheckpoint world
  let session ← get
  return {
    executionId := session.context.identity.executionId.str
    invocationId := callId.getD "", status := "denied", error := some refusal }

/-- What `submit` does with a result of the runtime. -/
def verified (req : SpineRequest) (res : InvocationResult) : Operation SpineResult := do
  if res.status = .succeeded then
    spine.runtime.complete world none
  spine.runtime.record (.layer "spine.verified")
    [("status", .str res.status.value), ("capability_id", .str req.capabilityId)]
  let session ← get
  return {
    executionId := session.context.identity.executionId.str
    invocationId := res.invocationId, status := res.status.value
    output := res.output, error := res.error }

/-- Only a denial of the policy is caught. -/
def attempt (req : SpineRequest) (callId : Option String) :
    Operation (Except PyError InvocationResult) :=
  tryCatch (do
    let res ← spine.runtime.execute world (call req callId)
    return .ok res) fun err =>
      if err.kind = .authorizationDenied then return .error err else throw err

/-- `submit` on the context that `submitted` gives. -/
def submit (req : SpineRequest) (callId : Option String) :
    Operation SpineResult := do
  spine.runtime.record (.layer "spine.intent.accepted") (intent req)
  spine.runtime.storeCheckpoint world
  match ← spine.attempt world req callId with
  | .error err => spine.denied world req callId err
  | .ok res => spine.verified world req res

end OISSpine

structure SameResults (seen after : View) : Prop where
  idempotency : after.idempotency = seen.idempotency
  story : after.story = seen.story

namespace SameResults

variable {seen middle after : View}

theorem refl (view : View) : SameResults view view := ⟨rfl, rfl⟩

theorem trans (first : SameResults seen middle) (second : SameResults middle after) :
    SameResults seen after :=
  ⟨second.idempotency.trans first.idempotency, second.story.trans first.story⟩

theorem moved (same : SameResults seen after) (status : ExecutionStatus) :
    SameResults seen (after.movedTo status) :=
  same.trans ⟨rfl, rfl⟩

theorem saved (same : SameResults seen after) : SameResults seen after.saved :=
  same.trans ⟨rfl, story_saved after⟩

end SameResults

section rules

variable {runtime : ExecutionRuntime} {world : World} {seen : View}

theorem complete_same (lease : Option Infrastructure.WorkerLease) :
    Sees (runtime.complete world lease) (fun _ => SameResults seen)
      (fun _ => SameResults seen) seen := by
  have start := SameResults.refl seen
  refine shows_bind (assert_fence_sees lease (fun _ => ?_) fun _ _ => start)
  refine shows_bind (set_status_sees _ (fun _ => ?_) fun _ => start)
  refine shows_bind (save_checkpoint_sees lease ?_ fun _ _ => start.moved _)
  exact record_quiet _ _ rfl (start.moved _).saved

end rules

namespace OISSpine

variable {spine : OISSpine} {world : World} {seen : View}

theorem denied_same (req : SpineRequest) (callId : Option String) (err : PyError) :
    Sees (spine.denied world req callId err)
      (fun value after => SameResults seen after ∧ value.status = "denied")
      (fun _ => SameResults seen) seen := by
  have start := SameResults.refl seen
  refine shows_bind (change_sees _ (fun _ => rfl) ?_)
  refine shows_bind (set_status_sees _ (fun _ => ?_) fun _ => start)
  refine shows_bind (record_quiet _ _ rfl ?_)
  refine shows_bind (store_checkpoint_sees (fun _ => ?_) fun _ _ => start.moved _)
  exact shows_get_bind fun session _ => shows_pure ⟨(start.moved _).saved, rfl⟩

theorem verified_same (req : SpineRequest) (res : InvocationResult) :
    Sees (spine.verified world req res)
      (fun value after => SameResults seen after ∧ value.status = res.status.value ∧
      value.output = res.output)
      (fun _ => SameResults seen) seen := by
  have noted : ∀ middle, SameResults seen middle → Sees (do
      spine.runtime.record (.layer "spine.verified")
        [("status", .str res.status.value), ("capability_id", .str req.capabilityId)]
      let session ← get
      return ({ executionId := session.context.identity.executionId.str
                invocationId := res.invocationId, status := res.status.value
                output := res.output, error := res.error } : SpineResult))
      (fun value after => SameResults seen after ∧ value.status = res.status.value ∧
        value.output = res.output)
      (fun _ => SameResults seen) middle := by
    intro middle same
    refine shows_bind (record_quiet _ _ rfl ?_)
    exact shows_get_bind fun session _ => shows_pure ⟨same, rfl, rfl⟩
  refine shows_ite (fun _ => ?_) fun _ => noted seen (.refl seen)
  exact shows_bind ((complete_same none).mono (fun _ middle same => noted middle same)
    fun _ _ same => same)

/-- How `submit` ends: it fails before the runtime is called, or goes on from what a
call of the runtime leaves. Only a result that the runtime returned as SUCCEEDED is
reported as succeeded. -/
inductive Handled (spine : OISSpine) (world : World) (req : SpineRequest)
    (callId : Option String) (seen : View) (out : Except PyError SpineResult)
    (after : View) : Prop where
  | unopened (raised : ∀ value, out ≠ .ok value) (same : SameResults seen after)
  | called (fresh : Uuid) (ended : Except PyError InvocationResult) (middle : View)
      (conduct : Conduct spine.runtime world (call req callId) fresh seen.saved ended
        middle)
      (same : SameResults middle after)
      (succeeded : ∀ value, out = .ok value → value.status = "succeeded" →
        ∃ res, ended = .ok res ∧ res.status = .succeeded ∧ value.output = res.output)

theorem succeeded_of_value {status : InvocationStatus} (value : status.value = "succeeded") :
    status = .succeeded := by
  cases status <;> simp [InvocationStatus.value] at value ⊢

theorem submit_handled (req : SpineRequest) (callId : Option String) :
    Sees (spine.submit world req callId)
      (fun value => Handled spine world req callId seen (.ok value))
      (fun err => Handled spine world req callId seen (.error err)) seen := by
  have start := SameResults.refl seen
  refine shows_bind (record_quiet _ _ rfl ?_)
  refine shows_bind (store_checkpoint_sees (fun _ => ?_) fun _ err =>
    .unopened (by simp) start)
  refine shows_bind (shows_try_catch (shows_bind ?_))
  refine (execute_sees (call req callId) _).mono ?_ ?_
  · -- the runtime returned
    rintro res middle ⟨fresh, conduct⟩
    refine shows_pure ((verified_same req res).mono ?_ ?_)
    · rintro value after ⟨same, status, output⟩
      refine .called fresh (.ok res) middle conduct same ?_
      intro ret is succeeded
      cases is
      rw [status] at succeeded
      exact ⟨res, rfl, succeeded_of_value succeeded, output⟩
    · intro err after same
      exact .called fresh (.ok res) middle conduct same (by simp)
  · -- the runtime raised
    rintro err middle ⟨fresh, conduct⟩
    refine shows_ite (fun _ => shows_pure ((denied_same req callId err).mono ?_ ?_))
      fun _ => shows_throw (.called fresh (.error err) middle conduct (.refl middle) (by simp))
    · rintro value after ⟨same, status⟩
      refine .called fresh (.error err) middle conduct same ?_
      intro ret is succeeded
      cases is
      simp [status] at succeeded
    · intro other after same
      exact .called fresh (.error err) middle conduct same (by simp)

end OISSpine

open OISSpine

/-- Whether the verifier approves the payload it is asked about. Only the value
`True` approves. -/
abbrev ApprovalVerifier := Members → Except PyError Bool

namespace OcifContent

def contract : CapabilityContract :=
  { capabilityId := "ocif.content.execute", version := "1.0.0"
    inputSchema := [("type", .str "object"), ("required", .arr [.str "approval_id",
      .str "draft_id", .str "content_sha256", .str "draft_version", .str "reviewer_id",
      .str "idempotency_key", .str "mode"])]
    outputSchema := [("type", .str "object")], riskLevel := .medium
    permissions := ["ocif.content.execute"], timeoutSeconds := 0x402E000000000000 }

def required : List String :=
  ["approval_id", "draft_id", "content_sha256", "draft_version", "reviewer_id", "idempotency_key"]

def missing (body : Members) : List String :=
  required.filter fun key => !((body.lookup key).map truthy).getD false

def failed (req : InvocationRequest) (kind msg : String) : InvocationResult :=
  { invocationId := req.invocationId, capabilityId := contract.capabilityId
    status := .failed, error := some [("type", .str kind), ("message", .str msg)] }

def asks (body : Members) : Bool :=
  (missing body).isEmpty && body.lookup "mode" == some (.str "sandbox_noop")

variable (digits : UInt64 → String)

def member (body : Members) (key : String) : Json := (body.lookup key).getD .null

def output (body : Members) (draftVersion : Int) : Members :=
  [("allowed", .bool true), ("mode", .str "sandbox_noop"), ("external_side_effects", .bool false),
    ("approval_id", .str (strOf digits (member body "approval_id"))),
    ("draft_id", .str (strOf digits (member body "draft_id"))),
    ("content_sha256", .str (strOf digits (member body "content_sha256"))),
    ("draft_version", .int draftVersion),
    ("idempotency_key", .str (strOf digits (member body "idempotency_key")))]

/-- `invoke` of the capability. The version is converted outside of any `try`, so a
version that is no number makes the capability raise. -/
def invoke (verifier : ApprovalVerifier) (req : InvocationRequest) : Outcome :=
  let body := req.input
  if (missing body).isEmpty = false then
    .returned (failed req "ValueError"
      ("missing fields: " ++ ", ".intercalate (missing body)))
  else if body.lookup "mode" ≠ some (.str "sandbox_noop") then
    .returned (failed req "PolicyError" "only sandbox_noop mode is supported")
  else
    match verifier body with
    | .error err =>
      .returned (failed req err.kind.name "approval verification failed")
    | .ok false =>
      .returned (failed req "ApprovalVerificationError"
        "approval is missing, rejected, stale, or not bound to this draft")
    | .ok true =>
      match PostgresDurableExecutionStore.intOf (member body "draft_version") with
      | .error err => .raised err
      | .ok draftVersion => .returned {
          invocationId := req.invocationId, capabilityId := contract.capabilityId
          status := .succeeded, output := .obj (output digits body draftVersion)
          metadata := [("authorization_boundary", .str "ois"),
            ("capability_version", .str "1.0.0")] }

theorem approved_of_kept {verifier : ApprovalVerifier} {req : InvocationRequest}
    {res : InvocationResult} (returns : invoke digits verifier req = .returned res)
    (kept : res.isTerminal = true) :
    asks req.input = true ∧ verifier req.input = .ok true := by
  have unfailed : ∀ kind msg, res ≠ failed req kind msg := by
    rintro kind msg rfl
    simp [failed, InvocationResult.isTerminal] at kept
  unfold invoke at returns
  dsimp only at returns
  split_ifs at returns with incomplete otherMode
  · exact absurd (Outcome.returned.inj returns).symm (unfailed _ _)
  · exact absurd (Outcome.returned.inj returns).symm (unfailed _ _)
  · split at returns
    · exact absurd (Outcome.returned.inj returns).symm (unfailed _ _)
    · exact absurd (Outcome.returned.inj returns).symm (unfailed _ _)
    · rename_i approved
      refine ⟨?_, approved⟩
      simp only [Bool.not_eq_false] at incomplete
      simp only [ne_eq, Decidable.not_not] at otherMode
      simp [asks, incomplete, otherMode]

def serving (verifier : ApprovalVerifier) (world : World) : World :=
  { world with
    invoke := fun moment version req =>
      if req.capabilityId = contract.capabilityId ∧ version = contract.version then
        { outcome := invoke digits verifier req
          workingMemory := req.execution.workingMemory
          token := (world.invoke moment version req).token }
      else world.invoke moment version req }

end OcifContent

open OcifContent

structure Subject where
  approvalId : Option Json
  draftId : Option Json
  contentSha256 : Option Json
  draftVersion : Option Json
  tenantId : String
  deriving DecidableEq, Repr

def subjectOf (body : Members) (tenant : String) : Subject :=
  { approvalId := body.lookup "approval_id", draftId := body.lookup "draft_id"
    contentSha256 := body.lookup "content_sha256"
    draftVersion := body.lookup "draft_version", tenantId := tenant }

/-- One call of `authorize_ocif_content_request`, with what it meets: the verifier as
it answers then, the world, and what the constructors of its context draw. -/
structure Authorization where
  request : Members
  tenantId : String
  verifier : ApprovalVerifier
  world : World
  executionId : Uuid
  createdAt : DateTime
  updatedAt : DateTime

open Authorization

namespace Authorization

def subject (auth : Authorization) : Subject :=
  subjectOf auth.request auth.tenantId

def spineRequest (auth : Authorization) : SpineRequest :=
  { objective := "Authorize a human-approved OCIF draft in sandbox no-op mode"
    capabilityId := "ocif.content.execute", capabilityVersion := "1.0.0"
    input := auth.request, tenantId := auth.tenantId
    workflowId := "ocif.content.workflow", workflowVersion := "1.0" }

variable (digits : UInt64 → String) (spine : OISSpine)

/-- `str(request.get("idempotency_key", "")).strip()`. -/
def idempotencyKey (auth : Authorization) : String :=
  PyText.strip (strOf digits ((auth.request.lookup "idempotency_key").getD (.str "")))

def refusal (res : SpineResult) : Members :=
  let reason : Json :=
    match res.error with
    | some (first :: rest) => .obj (first :: rest)
    | _ => .str "OIS did not authorize execution"
  [("allowed", .bool false), ("reason", reason), ("ois_execution_id", .str res.executionId)]

/-- `{**dict(result.output), "allowed": ..., ...}`. -/
def granted (res : SpineResult) (output : Members) : Members :=
  ((((output.set "allowed" (.bool (output.lookup "allowed" == some (.bool true)))).set
    "invocation_id" (.str res.invocationId)).set
    "ois_execution_id" (.str res.executionId)).set
    "authorization_boundary" (.str "ois")).set "capability_version" (.str "1.0.0")

def decided (res : SpineResult) : Members :=
  if res.status = "succeeded" then
    match res.output with
    | .obj output => granted res output
    | _ => refusal res
  else refusal res

def session (auth : Authorization) (durable : Durable) : Session :=
  { context := submitted auth.executionId auth.createdAt
      auth.updatedAt auth.spineRequest
    durable := durable }

def submission (auth : Authorization) : Operation SpineResult :=
  spine.submit (serving digits auth.verifier auth.world)
    auth.spineRequest (some (auth.idempotencyKey digits))

def after (auth : Authorization) (durable : Durable) : Session :=
  (auth.submission digits spine).stateAfter (auth.session durable)

/-- `authorize_ocif_content_request`, for one spine whose stores are the state. -/
def authorize : Machine Authorization Durable (Except PyError Members) :=
  fun auth durable =>
    if auth.idempotencyKey digits = "" then
      (durable, .ok [("allowed", .bool false), ("reason", .str "idempotency_key is required")])
    else
      ((auth.after digits spine durable).durable,
        ((auth.submission digits spine).outcome
          (auth.session durable)).map decided)

/-- The answer says `allowed=True`. -/
def Allows (answer : Except PyError Members) : Prop :=
  ∃ members, answer = .ok members ∧ members.lookup "allowed" = some (.bool true)

def Verifies (auth : Authorization) (durable : Durable) (subject : Subject) : Prop :=
  auth.idempotencyKey digits ≠ "" ∧ ∃ version req reply,
    Step.invoke version req reply ∈ (auth.after digits spine durable).trace ∧
      asks req.input = true ∧
      auth.verifier req.input = .ok true ∧
      subjectOf req.input req.execution.identity.tenantId = subject

/-- The verifier approved the subject in one of these calls. -/
def Approved (calls : List Authorization) (durable : Durable) (subject : Subject) : Prop :=
  ∃ before asked after, calls = before ++ asked :: after ∧
    asked.Verifies digits spine ((authorize digits spine).run before durable) subject

section calls

variable {digits : UInt64 → String} {spine : OISSpine} {auth : Authorization}
  {durable : Durable}

theorem handled (digits : UInt64 → String) (spine : OISSpine)
    (auth : Authorization) (durable : Durable) :
    OISSpine.Handled spine (serving digits auth.verifier auth.world)
      auth.spineRequest (some (auth.idempotencyKey digits))
      (auth.session durable).view
      ((auth.submission digits spine).outcome (auth.session durable))
      (auth.after digits spine durable).view :=
  Ends.outcome (fun out (after : Session) => OISSpine.Handled spine _ _ _
    (auth.session durable).view out after.view)
    (submit_handled _ _).ends

theorem storage_key (fresh : Uuid) (named : auth.idempotencyKey digits ≠ "") :
    storageKey (call auth.spineRequest
      (some (auth.idempotencyKey digits))) (logicalInvocationId fresh
      (call auth.spineRequest
      (some (auth.idempotencyKey digits)))) =
      auth.idempotencyKey digits := by
  simp [storageKey, logicalInvocationId, call, orDefault, named]

theorem verifies_of_invokes {middle : View} {req : InvocationRequest} {reply : Reply}
    {made : InvocationResult} (named : auth.idempotencyKey digits ≠ "")
    (invokes : Invokes (serving digits auth.verifier auth.world)
      (call auth.spineRequest (some (auth.idempotencyKey digits)))
      (auth.session durable).view.saved middle req reply)
    (same : SameResults middle (auth.after digits spine durable).view)
    (returns : reply.outcome = .returned made) (kept : made.isTerminal = true) :
    auth.Verifies digits spine durable auth.subject := by
  obtain ⟨capability, input, ident⟩ := invokes.input
  obtain ⟨moment, answered⟩ := invokes.reply_eq
  have out : reply.outcome = invoke digits auth.verifier req := by
    rw [answered]
    exact congrArg Reply.outcome (if_pos ⟨capability, rfl⟩)
  obtain ⟨asked, approved⟩ := approved_of_kept digits (out.symm.trans returns) kept
  refine ⟨named, "1.0.0", req, reply, ?_, asked, approved, ?_⟩
  · have told := invokes.told
    rw [← same.story, mem_story _ rfl] at told
    exact invoke_mem_iff.mpr told
  · rw [input, ident]
    rfl

theorem stores_cases (named : auth.idempotencyKey digits ≠ "") :
    (auth.after digits spine durable).durable.idempotency = durable.idempotency ∨
      auth.Verifies digits spine durable auth.subject ∧
      ∃ made, made.isTerminal = true ∧
      (auth.after digits spine durable).durable.idempotency =
      durable.idempotency.put (auth.idempotencyKey digits) made := by
  cases handled digits spine auth durable with
  | unopened raised same => exact Or.inl same.idempotency
  | called fresh ended middle conduct same succeeded =>
    rcases conduct_stores conduct with kept | ⟨req, reply, made, invokes, returns, terminal,
      _, put⟩
    · exact Or.inl (same.idempotency.trans kept)
    · rw [storage_key fresh named] at put
      exact Or.inr ⟨verifies_of_invokes named invokes same returns terminal, made, terminal,
        same.idempotency.trans put⟩

theorem own_of_verifies {subject : Subject}
    (verifies : auth.Verifies digits spine durable subject) :
    subject = auth.subject ∧ auth.verifier auth.request = .ok true := by
  obtain ⟨_, version, req, reply, taken, _, approved, rfl⟩ := verifies
  have told : Mark.invoked version req reply ∈
      (auth.after digits spine durable).view.story :=
    (mem_story _ rfl).mpr (invoke_mem_iff.mp taken)
  cases handled digits spine auth durable with
  | unopened raised same =>
    rw [same.story] at told
    simp [show (auth.session durable).view.story = [] from rfl] at told
  | called fresh ended middle conduct same succeeded =>
    rw [same.story] at told
    have blank : (auth.session durable).view.saved.story = [] := story_saved _
    obtain ⟨_, input, ident⟩ := (invokes_of_told conduct blank told).input
    rw [input] at approved
    exact ⟨by rw [input, ident]; rfl, approved⟩

theorem succeeded_of_decided {res : SpineResult}
    (allowed : (decided res).lookup "allowed" = some (.bool true)) :
    res.status = "succeeded" := by
  by_contra unsucceeded
  simp [decided, unsucceeded, refusal] at allowed

theorem allowed_cases
    (allows : Allows ((authorize digits spine).answer auth durable)) :
    auth.idempotencyKey digits ≠ "" ∧
      ((∃ stored, durable.idempotency.get (auth.idempotencyKey digits) =
      some stored) ∨
      auth.Verifies digits spine durable auth.subject) := by
  obtain ⟨members, answered, allowed⟩ := allows
  unfold Machine.answer authorize at answered
  split_ifs at answered with unnamed
  · rw [← Except.ok.inj answered] at allowed
    simp at allowed
  · refine ⟨unnamed, ?_⟩
    cases ended : (auth.submission digits spine).outcome
        (auth.session durable) with
    | error err => simp [ended, Except.map] at answered
    | ok value =>
      simp only [ended, Except.map, Except.ok.injEq] at answered
      rw [← answered] at allowed
      cases handled digits spine auth durable with
      | unopened raised same => exact absurd ended (raised value)
      | called fresh out middle conduct same succeeded =>
        obtain ⟨res, rfl, status, _⟩ :=
          succeeded value ended (succeeded_of_decided allowed)
        cases conduct_source conduct with
        | store hit =>
          rw [storage_key fresh unnamed] at hit
          exact Or.inl ⟨res, hit⟩
        | cancellation stopped cancelled => simp [status] at cancelled
        | failure req reply err invokes raises failed => simp [status] at failed
        | capability req reply made invokes returns sameId movable sameStatus sameResult =>
            have terminal : made.isTerminal = true := by
              simp [InvocationResult.isTerminal, ← sameStatus, status]
            exact Or.inr (verifies_of_invokes unnamed invokes same returns terminal)

end calls

/-- Callers that share a key share the subject: before these calls nothing was stored
under the key of any of them, and whatever the verifier approved in an earlier call
with the same key is what the call itself is about. -/
def KeysScoped (digits : UInt64 → String) (spine : OISSpine) (calls : List Authorization)
    (durable : Durable) : Prop :=
  ∀ before call after, calls = before ++ call :: after →
    durable.idempotency.get (call.idempotencyKey digits) = none ∧
      ∀ first other rest subject, before = first ++ other :: rest →
        other.idempotencyKey digits = call.idempotencyKey digits →
          other.Verifies digits spine ((authorize digits spine).run first durable) subject →
            subject = call.subject

section runs

variable {digits : UInt64 → String} {spine : OISSpine} {durable : Durable}

variable {auth : Authorization}

theorem next_of_named (named : auth.idempotencyKey digits ≠ "") :
    (authorize digits spine).next auth durable =
      (auth.after digits spine durable).durable :=
  congrArg Prod.fst (if_neg named)

theorem next_of_unnamed (unnamed : auth.idempotencyKey digits = "") :
    (authorize digits spine).next auth durable = durable :=
  congrArg Prod.fst (if_pos unnamed)

theorem found_after_call {key : String} {stored : InvocationResult}
    (found : ((authorize digits spine).next auth durable).idempotency.get key =
      some stored) :
    durable.idempotency.get key = some stored ∨ auth.idempotencyKey digits = key ∧
      auth.Verifies digits spine durable auth.subject := by
  by_cases named : auth.idempotencyKey digits = ""
  · rw [next_of_unnamed named] at found
    exact Or.inl found
  · rw [next_of_named named] at found
    rcases stores_cases named with kept | ⟨verifies, made, terminal, put⟩
    · rw [kept] at found
      exact Or.inl found
    · rw [put, IdempotencyStore.get_put _ _ _ _ terminal, Option.or_eq_some_iff] at found
      rcases found with old | ⟨_, new⟩
      · exact Or.inl old
      · split_ifs at new with same
        exact Or.inr ⟨same.symm, verifies⟩

theorem approved_of_stored (calls : List Authorization) {key : String}
    {stored : InvocationResult} (free : durable.idempotency.get key = none)
    (found : ((authorize digits spine).run calls durable).idempotency.get key = some stored) :
    ∃ before asked after, calls = before ++ asked :: after ∧ asked.idempotencyKey digits = key ∧
      asked.Verifies digits spine ((authorize digits spine).run before durable)
      asked.subject := by
  induction calls using List.reverseRecOn with
  | nil =>
    rw [show (authorize digits spine).run [] durable = durable from rfl, free] at found
    simp at found
  | append_singleton calls last ih =>
    rw [Machine.run_concat] at found
    rcases found_after_call found with past | ⟨same, verifies⟩
    · obtain ⟨before, asked, after, split, same, verifies⟩ := ih past
      exact ⟨before, asked, after ++ [last], by rw [split]; simp, same, verifies⟩
    · exact ⟨calls, last, [], rfl, same, verifies⟩

end runs

/-- With scoped keys every answer that allows a request goes back to an approval of
what the request is about. -/
theorem allowed_only_if_approved (digits : UInt64 → String) (spine : OISSpine)
    (calls : List Authorization) (durable : Durable)
    (keysScoped : KeysScoped digits spine calls durable) (before : List Authorization)
    (call : Authorization) (after : List Authorization) (split : calls = before ++ call :: after)
    (allows : Allows ((authorize digits spine).answer call
      ((authorize digits spine).run before durable))) :
    Approved digits spine (before ++ [call]) durable call.subject := by
  obtain ⟨free, shared⟩ := keysScoped before call after split
  obtain ⟨named, ⟨stored, found⟩ | verifies⟩ := allowed_cases allows
  · -- answered from the store, so an earlier call with this key was approved
    obtain ⟨first, asked, rest, past, sameKey, verifies⟩ :=
      approved_of_stored before free found
    have sameSubject := shared first asked rest asked.subject past sameKey verifies
    rw [sameSubject] at verifies
    exact ⟨first, asked, rest ++ [call], by rw [past]; simp, verifies⟩
  · exact ⟨before, call, [], rfl, verifies⟩

end Authorization

def ocifSpine : OISSpine :=
  { registry := ⟨[(("ocif.content.execute", "1.0.0"), contract)]⟩
    validateInput := fun _ _ => .ok ()
    validateOutput := fun _ _ => .ok ()
    sha256 := fun _ => "digest" }

/-- A request to publish a draft; the verifier approves the draft `draft-1` only. -/
def draftRequest (draftId tenant : String) : Authorization :=
  { request := [("approval_id", .str "approval-1"), ("draft_id", .str draftId),
      ("content_sha256", .str "c1"), ("draft_version", .int 1), ("reviewer_id", .str "r1"),
      ("idempotency_key", .str "key-1"), ("mode", .str "sandbox_noop")]
    tenantId := tenant
    verifier := fun body => .ok (body.lookup "draft_id" == some (.str "draft-1"))
    world := .ending fun _ => .cancelled ""
    executionId := ⟨1⟩, createdAt := DateTime.epoch, updatedAt := DateTime.epoch }

/-- The stores that a spine is built with when it is given none. -/
def newStores : Durable := { checkpoints := .inMemory [], idempotency := .inMemory [] }

/-- The draft `draft-1` is approved once and allowed twice. -/
theorem approved_draft_allowed_again :
    Authorization.Approved (fun _ => "0.0") ocifSpine
      [draftRequest "draft-1" "acme", draftRequest "draft-1" "acme"] newStores
      (draftRequest "draft-1" "acme").subject := by
  refine allowed_only_if_approved (fun _ => "0.0") ocifSpine
    [draftRequest "draft-1" "acme", draftRequest "draft-1" "acme"] newStores ?_
    [draftRequest "draft-1" "acme"] (draftRequest "draft-1" "acme") [] rfl ?_
  · intro before call after split
    have own : ∀ other ∈ before ++ call :: after, other = draftRequest "draft-1" "acme" := by
      rw [← split]
      simp
    refine ⟨rfl, fun first other rest subject past _ verifies => ?_⟩
    rw [(own_of_verifies verifies).1, own call (by simp), own other (by simp [past])]
  · exact ⟨_, rfl, by decide +kernel⟩

/-- A second tenant uses the key of the approved request for a draft that nobody has
approved: it is allowed. -/
theorem unapproved_draft_allowed :
    Authorization.Allows ((authorize (fun _ => "0.0") ocifSpine).answer
      (draftRequest "draft-2" "globex")
      ((authorize (fun _ => "0.0") ocifSpine).run
      [draftRequest "draft-1" "acme"] newStores)) ∧
      ¬Authorization.Approved (fun _ => "0.0") ocifSpine
      [draftRequest "draft-1" "acme", draftRequest "draft-2" "globex"] newStores
      (draftRequest "draft-2" "globex").subject := by
  refine ⟨⟨_, rfl, by decide +kernel⟩, ?_⟩
  rintro ⟨before, asked, after, split, verifies⟩
  obtain ⟨sameSubject, approved⟩ := own_of_verifies verifies
  have member : asked ∈ [draftRequest "draft-1" "acme", draftRequest "draft-2" "globex"] := by
    rw [split]
    simp
  simp only [List.mem_cons, List.not_mem_nil, or_false] at member
  rcases member with rfl | rfl
  · exact absurd sameSubject (by decide +kernel)
  · exact absurd approved (by decide +kernel)

end Ois.Integration
