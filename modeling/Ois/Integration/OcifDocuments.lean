import Ois.Integration.OcifContent
import Ois.Kernel.LastCalls
import Ois.Library.Casing

/-!
# OCIF document processing

The capability of `ocif_document_processing.py` under the orchestrator. It calls its processor
again after a transient exception.
-/

namespace Ois.Integration

open Ois.Library Ois.Kernel Ois.Infrastructure Command ExecutionRuntime PlanOrchestrator

/-- How a call of the processor ends; `transient` is a TimeoutError or a
ConnectionError. -/
inductive Processed where
  | returned (res : Option Members)
  | transient (kind : String)
  | raised (kind : String)
  deriving DecidableEq, Repr

/-- The processor at every attempt of one invocation. -/
abbrev DocumentProcessor := Nat → Members → Processed

namespace OcifDocuments

def contract : CapabilityContract :=
  { capabilityId := "ocif.document.process", version := "1.0.0"
    inputSchema := [("type", .str "object"), ("required", .arr [.str "source_id",
      .str "capture_id", .str "artifact_id", .str "artifact_sha256",
      .str "artifact_size_bytes", .str "media_type", .str "options_digest",
      .str "idempotency_key"])]
    outputSchema := [("type", .str "object")], riskLevel := .medium
    permissions := ["ocif.document.process"], timeoutSeconds := 0x405E000000000000
    sideEffects := .reversible }

def maxTransientRetries : Nat := 2

def maxArtifactBytes : Int := 50 * 1024 * 1024

def required : List String :=
  ["source_id", "capture_id", "artifact_id", "artifact_sha256", "artifact_size_bytes",
    "media_type", "options_digest", "idempotency_key"]

def missing (body : Members) : List String :=
  required.filter fun name =>
    (body.lookup name).all fun value => value == .null || value == .str ""

def metadata : Members :=
  [("authorization_boundary", .str "ois"), ("capability_version", .str "1.0.0")]

def failure (req : InvocationRequest) (kind msg : String) : InvocationResult :=
  { invocationId := req.invocationId, capabilityId := contract.capabilityId
    status := .failed, error := some [("type", .str kind), ("message", .str msg)]
    metadata := metadata }

def isDigest (text : String) : Bool :=
  text.length == 64 && text.toList.all fun char =>
    "0123456789abcdefABCDEF".toList.contains char

/-- The refusal of a size, its type and its message. The conversion stands in a `try` that
catches two classes of exceptions. -/
def sizeRefusal (size : Json) : Except PyError (Option (String × String)) :=
  let nonpositive := ("ValueError", "artifact_size_bytes must be a positive integer")
  match PostgresDurableExecutionStore.intOf size with
  | .error err =>
    if err.kind = .valueError ∨ err.kind = .other "TypeError" then .ok (some nonpositive)
    else .error err
  | .ok bytes =>
    if bytes ≤ 0 then .ok (some nonpositive)
    else if maxArtifactBytes < bytes then
      .ok (some ("ArtifactTooLarge", "artifact exceeds the configured 50 MiB limit"))
    else .ok none

variable (digits : UInt64 → String) (casing : Casing)

def textOf (body : Members) (name : String) : String :=
  strOf digits (OcifContent.member body name)

/-- `invoke` up to the loop. -/
def refusal (body : Members) : Except PyError (Option (String × String)) :=
  if (missing body).isEmpty = false then
    .ok (some ("ValueError", "missing required fields: " ++ ", ".intercalate (missing body)))
  else
    match ["artifact_sha256", "options_digest"].find? fun field =>
        !isDigest (textOf digits body field) with
    | some field => .ok (some ("ValueError", field ++ " must be a SHA-256 hex digest"))
    | none => do
      match ← sizeRefusal (OcifContent.member body "artifact_size_bytes") with
      | some refused => return some refused
      | none =>
        if casing.lower (textOf digits body "media_type") ≠ "application/pdf" then
          return some ("UnsupportedMediaType", "only application/pdf is enabled")
        else return none

def attempts (processor : DocumentProcessor) (body : Members) (attempt : Nat) :
    Nat → Except (String × String) (Option Members) × Nat
  | 0 =>
    match processor attempt body with
    | .returned res => (.ok res, 1)
    | .transient kind => (.error (kind, "bounded transient retry limit exhausted"), 1)
    | .raised kind => (.error (kind, "document processor failed; no automatic retry"), 1)
  | left + 1 =>
    match processor attempt body with
    | .returned res => (.ok res, 1)
    | .transient _ =>
      let later := attempts processor body (attempt + 1) left
      (later.1, later.2 + 1)
    | .raised kind => (.error (kind, "document processor failed; no automatic retry"), 1)

def sameArtifact (body res : Members) : Bool :=
  casing.lower (strOf digits ((res.lookup "artifact_sha256").getD (.str ""))) ==
    casing.lower (textOf digits body "artifact_sha256")

def extractionStatus (res : Members) : Except PyError (Option String) :=
  let value := (res.lookup "extraction_status").getD .null
  match value with
  | .str status =>
    .ok (["success", "partial", "unsupported", "failed", "quarantined"].find? (· == status))
  | .arr _ | .obj _ => .error ⟨.other "TypeError", "unhashable type: '" ++ typeName value ++ "'"⟩
  | _ => .ok none

def output (body res : Members) (status : String) (outputRefs warnings : List Json) :
    Members :=
  [("extraction_status", .str status), ("source_id", .str (textOf digits body "source_id")),
    ("capture_id", .str (textOf digits body "capture_id")),
    ("artifact_id", .str (textOf digits body "artifact_id")),
    ("artifact_sha256", .str (casing.lower (textOf digits body "artifact_sha256"))),
    ("options_digest", .str (casing.lower (textOf digits body "options_digest"))),
    ("processor_id", .str (strOf digits ((res.lookup "processor_id").getD (.str "unknown")))),
    ("processor_version", .str (strOf digits
      ((res.lookup "processor_version").getD (.str "unknown")))),
    ("output_refs", .arr outputRefs), ("warnings", .arr warnings),
    ("idempotency_key", .str (textOf digits body "idempotency_key"))]

/-- `invoke` once the processor has returned a mapping. -/
def conclude (req : InvocationRequest) (res : Members) :
    Except PyError InvocationResult :=
  if sameArtifact digits casing req.input res = false then
    .ok (failure req "ArtifactIdentityError"
      "processor result does not match input artifact hash")
  else do
    match ← extractionStatus res with
    | none =>
      return failure req "ContractError" "processor returned an unknown extraction status"
    | some status =>
      let outputRefs ← iterate ((res.lookup "output_refs").getD (.arr []))
      let warnings ← iterate ((res.lookup "warnings").getD (.arr []))
      let made := .obj (output digits casing req.input res status outputRefs warnings)
      if status = "failed" ∨ status = "quarantined" ∨ status = "unsupported" then
        return { failure req "DocumentProcessingNotAccepted" status with output := made }
      else
        return {
          invocationId := req.invocationId, capabilityId := contract.capabilityId
          status := .succeeded, output := made, metadata := metadata }

def answer (processor : DocumentProcessor) (req : InvocationRequest) :
    Except PyError InvocationResult := do
  match ← refusal digits casing req.input with
  | some (kind, msg) => return failure req kind msg
  | none =>
    match (attempts processor req.input 0 maxTransientRetries).1 with
    | .error (kind, msg) => return failure req kind msg
    | .ok none => return failure req "ProcessingError" "processor returned no result"
    | .ok (some res) => conclude digits casing req res

def invoke (processor : DocumentProcessor) (req : InvocationRequest) : Outcome :=
  match answer digits casing processor req with
  | .ok res => .returned res
  | .error err => .raised err

/-- How often `invoke` calls the processor. -/
def calls (processor : DocumentProcessor) (body : Members) : Nat :=
  match refusal digits casing body with
  | .ok none => (attempts processor body 0 maxTransientRetries).2
  | _ => 0

/-- The world with the capability in it. The processor may answer differently at every
moment. -/
def serving (processors : Nat → DocumentProcessor) (world : World) : World :=
  { world with
    invoke := fun moment version req =>
      if req.capabilityId = contract.capabilityId ∧ version = contract.version then
        { outcome := invoke digits casing (processors moment) req
          workingMemory := req.execution.workingMemory
          token := (world.invoke moment version req).token }
      else world.invoke moment version req }

def callsIn (processors : Nat → DocumentProcessor) (invocationId : String) :
    Step × Nat → Nat
  | (.invoke version req _, moment) =>
    if req.invocationId = invocationId ∧ req.capabilityId = contract.capabilityId ∧
        version = contract.version then
      calls digits casing (processors moment) req.input
    else 0
  | _ => 0

def processorCalls (processors : Nat → DocumentProcessor) (invocationId : String)
    (steps : List Step) : Nat :=
  (steps.zipIdx.map (callsIn digits casing processors invocationId)).sum

structure Accepted (body res : Members) : Prop where
  bound : sameArtifact digits casing body res = true
  status : res.lookup "extraction_status" = some (.str "success") ∨
    res.lookup "extraction_status" = some (.str "partial")

section laws

variable {digits : UInt64 → String} {casing : Casing} {processor : DocumentProcessor}
  {body : Members} {req : InvocationRequest} {res : InvocationResult}

theorem attempts_le (processor : DocumentProcessor) (body : Members) (attempt left : Nat) :
    (attempts processor body attempt left).2 ≤ left + 1 := by
  induction left generalizing attempt with
  | zero => cases ends : processor attempt body <;> simp [attempts, ends]
  | succ left ih =>
    cases ends : processor attempt body with
    | transient kind => simpa [attempts, ends] using ih (attempt + 1)
    | _ => simp [attempts, ends]

theorem attempts_returned {attempt left : Nat} {found : Option Members}
    (ret : (attempts processor body attempt left).1 = .ok found) :
    ∃ moment, processor moment body = .returned found := by
  induction left generalizing attempt with
  | zero =>
    cases ends : processor attempt body with
    | returned res =>
      simp only [attempts, ends, Except.ok.injEq] at ret
      exact ⟨attempt, ret ▸ ends⟩
    | _ => simp [attempts, ends] at ret
  | succ left ih =>
    cases ends : processor attempt body with
    | returned res =>
      simp only [attempts, ends, Except.ok.injEq] at ret
      exact ⟨attempt, ret ▸ ends⟩
    | transient kind =>
      simp only [attempts, ends] at ret
      exact ih ret
    | raised kind => simp [attempts, ends] at ret

theorem calls_le (processor : DocumentProcessor) (body : Members) :
    calls digits casing processor body ≤ maxTransientRetries + 1 := by
  unfold calls
  split
  · exact attempts_le processor body 0 maxTransientRetries
  · exact Nat.zero_le _

theorem status_found {found : Members} {status : String}
    (known : extractionStatus found = .ok (some status)) :
    found.lookup "extraction_status" = some (.str status) ∧
      status ∈ ["success", "partial", "unsupported", "failed", "quarantined"] := by
  unfold extractionStatus at known
  cases held : found.lookup "extraction_status" with
  | none => simp [held] at known
  | some value =>
    cases value with
    | str text =>
      simp only [held, Option.getD_some, Except.ok.injEq] at known
      have same : status = text := by simpa using List.find?_some known
      exact ⟨by rw [same], List.mem_of_find?_eq_some known⟩
    | _ => simp [held] at known

def Answered (processor : DocumentProcessor) (req : InvocationRequest)
    (digits : UInt64 → String) (casing : Casing) (res : InvocationResult) : Prop :=
  (∃ kind msg made, res = { failure req kind msg with output := made }) ∨
    res.error = none ∧ ∃ attempt found,
      processor attempt req.input = .returned (some found) ∧
        Accepted digits casing req.input found

theorem answered_failure (kind msg : String) :
    Answered processor req digits casing (failure req kind msg) :=
  Or.inl ⟨kind, msg, .null, rfl⟩

theorem conclude_answered {attempt : Nat} {found : Members}
    (ret : processor attempt req.input = .returned (some found))
    (concluded : conclude digits casing req found = .ok res) :
    Answered processor req digits casing res := by
  unfold conclude at concluded
  split_ifs at concluded with other
  · obtain rfl := Except.ok.inj concluded
    exact answered_failure _ _
  · obtain ⟨status, known, rest⟩ := bind_ok concluded
    cases status with
    | none =>
      obtain rfl := Except.ok.inj rest
      exact answered_failure _ _
    | some status =>
      obtain ⟨outputRefs, _, rest⟩ := bind_ok rest
      obtain ⟨warnings, _, rest⟩ := bind_ok rest
      dsimp only at rest
      split_ifs at rest with unaccepted
      · obtain rfl := Except.ok.inj rest
        exact Or.inl ⟨_, _, _, rfl⟩
      · obtain rfl := Except.ok.inj rest
        obtain ⟨held, mem⟩ := status_found known
        have accepted : status = "success" ∨ status = "partial" := by
          simp only [List.mem_cons, List.not_mem_nil, or_false] at mem
          rcases mem with same | same | same | same | same
          · exact Or.inl same
          · exact Or.inr same
          · exact absurd (Or.inr (Or.inr same)) unaccepted
          · exact absurd (Or.inl same) unaccepted
          · exact absurd (Or.inr (Or.inl same)) unaccepted
        refine Or.inr ⟨rfl, attempt, found, ret, by simpa using other, ?_⟩
        rcases accepted with rfl | rfl
        · exact Or.inl held
        · exact Or.inr held

theorem answer_answered (answers : answer digits casing processor req = .ok res) :
    Answered processor req digits casing res := by
  unfold answer at answers
  obtain ⟨refused, _, rest⟩ := bind_ok answers
  cases refused with
  | some pair =>
    obtain rfl := Except.ok.inj rest
    exact answered_failure _ _
  | none =>
    dsimp only at rest
    split at rest
    · obtain rfl := Except.ok.inj rest
      exact answered_failure _ _
    · obtain rfl := Except.ok.inj rest
      exact answered_failure _ _
    · rename_i found ended
      obtain ⟨attempt, ret⟩ := attempts_returned ended
      exact conclude_answered ret rest

theorem Answered.never_retried (answered : Answered processor req digits casing res) :
    shouldRetry res = false ∧ structuredFailure? res = none := by
  rcases answered with ⟨kind, msg, made, rfl⟩ | ⟨plain, _⟩
  · exact ⟨rfl, rfl⟩
  · simp [shouldRetry, structuredFailure?, plain]

theorem Answered.accepted (answered : Answered processor req digits casing res)
    (succeeded : res.status = .succeeded) :
    ∃ attempt found, processor attempt req.input = .returned (some found) ∧
      Accepted digits casing req.input found := by
  rcases answered with ⟨kind, msg, made, rfl⟩ | ⟨_, accepted⟩
  · simp [failure] at succeeded
  · exact accepted

variable {processors : Nat → DocumentProcessor} {world : World}

theorem serving_answered {moment : Nat} (own : req.capabilityId = contract.capabilityId)
    (returns : ((serving digits casing processors world).invoke moment contract.version
      req).outcome = .returned res) :
    Answered (processors moment) req digits casing res := by
  simp only [serving, own, and_self, if_true, invoke] at returns
  split at returns
  · rename_i made answers
    obtain rfl := Outcome.returned.inj returns
    exact answer_answered answers
  · simp at returns

theorem calls_in_le (invocationId : String) (step : Step) (moment : Nat) :
    callsIn digits casing processors invocationId (step, moment) ≤
      (maxTransientRetries + 1) * (trail [step]).countP (Mark.invokes invocationId) := by
  cases step with
  | invoke version req reply =>
    simp only [callsIn]
    split_ifs with asked
    · simpa [trail, Step.mark?, Mark.invokes, asked.1] using
        calls_le (processors moment) req.input
    · exact Nat.zero_le _
  | _ => exact Nat.zero_le _

theorem processor_calls_le (invocationId : String) (steps : List Step) :
    processorCalls digits casing processors invocationId steps ≤
      (maxTransientRetries + 1) * (trail steps).countP (Mark.invokes invocationId) := by
  have counted : ∀ start, ((steps.zipIdx start).map
      (callsIn digits casing processors invocationId)).sum ≤
        (maxTransientRetries + 1) * (trail steps).countP (Mark.invokes invocationId) := by
    induction steps with
    | nil => simp
    | cons step rest ih =>
      intro start
      have split : trail (step :: rest) = trail [step] ++ trail rest := trail_append [step] rest
      rw [List.zipIdx_cons, List.map_cons, List.sum_cons, split, List.countP_append, Nat.mul_add]
      exact Nat.add_le_add (calls_in_le invocationId step start) (ih (start + 1))
  exact counted 0

theorem serving_never_retried (processors : Nat → DocumentProcessor) (world : World) :
    NeverRetried (serving digits casing processors world) contract.capabilityId
      contract.version :=
  fun _ _ _ own returns => (serving_answered own returns).never_retried

end laws

/-- For an invocation in these steps, with this input up to the order of its keys, the
processor has returned an accepted result. -/
def AcceptedIn (processors : Nat → DocumentProcessor) (invocationId : String) (input : Members)
    (steps : List Step) : Prop :=
  ∃ moment req reply attempt found, Step.invoke contract.version req reply ∈ steps ∧
    req.invocationId = invocationId ∧
    Json.sortMembers req.input = Json.sortMembers input ∧
    reply.outcome = invoke digits casing (processors moment) req ∧
    processors moment attempt req.input = .returned (some found) ∧
    Accepted digits casing req.input found

/-- In one run the processor is called at most three times for a task. Once the run has
ended, a task that was dispatched has failed, or has succeeded on an accepted result. -/
theorem document_task_bounded (rt : ExecutionRuntime) (world : World)
    (processors : Nat → DocumentProcessor) (fuel : Nat) (start : Orchestration)
    (task : TaskNode) (held : start.plan.task? task.taskId = some task)
    (bound : task.capabilityId = contract.capabilityId ∧
      task.capabilityVersion = contract.version) (begun : start.session.trace = [])
    (fresh : start.session.durable.idempotency.get (invocationId
      start.session.context.identity.executionId task.taskId) = none) :
    let run := PlanOrchestrator.execute rt (serving digits casing processors world) fuel
    let after := run.stateAfter start
    let key := invocationId start.session.context.identity.executionId task.taskId
    let steps := after.session.trace
    processorCalls digits casing processors key steps ≤ maxTransientRetries + 1 ∧
      (run.outcome start ≠ .error .outOfFuel →
      after.plan.status? task.taskId = some .failed ∨
      after.plan.status? task.taskId = some .succeeded ∧
      AcceptedIn digits casing processors key task.inputData steps ∨
      after.plan.status? task.taskId = start.plan.status? task.taskId ∧
      (∀ plan, Step.dispatch plan task.taskId ∉ steps) ∧
      processorCalls digits casing processors key steps = 0) := by
  intro run after key steps
  have never : NeverRetried (serving digits casing processors world) task.spec.capabilityId
      task.spec.capabilityVersion := by
    rw [show task.spec.capabilityId = contract.capabilityId from bound.1,
      show task.spec.capabilityVersion = contract.version from bound.2]
    exact serving_never_retried processors world
  have unstarted : start.session.view.trail = [] := by simp [Session.view, begun, trail]
  have untried : Untried start.session.context.identity.executionId task.spec
      start.session.view := ⟨rfl, by rw [unstarted]; rfl, fresh⟩
  have spec : start.plan.spec? task.spec.taskId = some task.spec := by
    rw [ExecutionPlan.spec?, show task.spec.taskId = task.taskId from rfl, held]
    rfl
  have ends : Command.Ends run (fun _ _ => _) (fun _ _ => _) start :=
    execute_fate never spec untried (by simp [unstarted]) start rfl
  obtain ⟨fate, rested⟩ := Command.Ends.outcome (fun out (last : Orchestration) =>
    Fate (serving digits casing processors world)
        start.session.context.identity.executionId task.spec start.plan last.plan
        last.session.view ∧
      (out ≠ .error .outOfFuel → Rested start.plan last.plan))
    (ends.mono (fun _ _ ended => ⟨ended.1, fun _ => ended.2⟩) fun raised _ ended =>
      ⟨ended.1, fun other => ended.2 fun same => other (congrArg _ same)⟩)
  have counted : processorCalls digits casing processors key steps ≤
      (maxTransientRetries + 1) * after.session.view.trail.countP (Mark.invokes key) :=
    processor_calls_le key steps
  cases fate with
  | untried waits undispatched untried =>
    have silent : after.session.view.trail.countP (Mark.invokes key) = 0 := untried.silent
    rw [silent] at counted
    have none_ : processorCalls digits casing processors key steps = 0 :=
      Nat.le_zero.mp counted
    refine ⟨by omega, fun ended => Or.inr (Or.inr ⟨?_, fun plan told =>
      undispatched plan (dispatch_mem_iff.mp told), none_⟩)⟩
    rcases waits with same | ready
    · exact same
    · exact ready.trans (rested ended task.taskId ready).symm
  | tried failed ended tried =>
    refine ⟨counted.trans (Nat.mul_le_mul_left _ tried.once), fun _ => ?_⟩
    cases failed with
    | true => exact Or.inl ended
    | false =>
      obtain ⟨moment, req, made, told, named, capability, input, returns, succeeded⟩ :=
        tried.earned rfl
      have own : req.capabilityId = contract.capabilityId := capability.trans bound.1
      rw [show task.spec.capabilityVersion = contract.version from bound.2] at told returns
      obtain ⟨attempt, found, ret, accepted⟩ :=
        (serving_answered own returns).accepted succeeded
      exact Or.inr (Or.inl ⟨ended, moment, req, _, attempt, found, invoke_mem_iff.mpr told,
        named, input, by simp [serving, own], ret, accepted⟩)

def digest : String := String.ofList (List.replicate 64 'a')

def documentTask (dependencies : List String) : TaskNode :=
  { taskId := "document", capabilityId := contract.capabilityId
    capabilityVersion := contract.version
    inputData := [("source_id", .str "s"), ("capture_id", .str "c"), ("artifact_id", .str "a"),
      ("artifact_sha256", .str digest), ("artifact_size_bytes", .int 1024),
      ("media_type", .str "application/pdf"), ("options_digest", .str digest),
      ("idempotency_key", .str "k")]
    dependencies := dependencies }

def documentRuntime : ExecutionRuntime :=
  .permissive [contract, { capabilityId := "publish", version := "1.0.0" }]

/-- The processor times out once and then answers in capital letters. -/
def slowProcessor : DocumentProcessor := fun attempt _ =>
  if attempt = 0 then .transient "TimeoutError"
  else .returned (some [("artifact_sha256", .str (String.ofList (List.replicate 64 'A'))),
    ("extraction_status", .str "partial")])

def failingWorld : World :=
  .ending fun req => .raised ⟨.valueError, "unreachable: " ++ req.capabilityId⟩

theorem slow_document_processed :
    let run := PlanOrchestrator.execute documentRuntime
      (serving (fun _ => "0.0") .simple (fun _ => slowProcessor) failingWorld) 3
    let start := startOf { planId := "p", tasks := [documentTask []] }
    (run.stateAfter start).plan.status? "document" = some .succeeded ∧
      AcceptedIn (fun _ => "0.0") .simple (fun _ => slowProcessor) (invocationId ⟨1⟩ "document")
      (documentTask []).inputData (run.stateAfter start).session.trace := by
  intro run start
  have succeeded : (run.stateAfter start).plan.status? "document" = some .succeeded := by
    decide +kernel
  have ended : run.outcome start ≠ .error .outOfFuel := by decide +kernel
  have settled := (document_task_bounded (fun _ => "0.0") .simple documentRuntime failingWorld
    (fun _ => slowProcessor) 3 start (documentTask []) (by decide +kernel) ⟨rfl, rfl⟩ rfl
    rfl).2 ended
  rcases settled with failed | ⟨_, accepted⟩ | ⟨same, _⟩
  · exact absurd (succeeded.symm.trans failed) (by decide)
  · exact ⟨succeeded, accepted⟩
  · exact absurd (succeeded.symm.trans same) (by decide +kernel)

/-- A task that depends on a failed one is not dispatched, and stays PENDING. -/
theorem dependent_document_stays_pending :
    let run := PlanOrchestrator.execute documentRuntime
      (serving (fun _ => "0.0") .simple (fun _ => slowProcessor) failingWorld) 5
    let start := startOf { planId := "p", tasks := [
      { taskId := "publish", capabilityId := "publish", capabilityVersion := "1.0.0" },
      documentTask ["publish"]] }
    run.outcome start ≠ .error .outOfFuel ∧
      (run.stateAfter start).plan.status? "publish" = some .failed ∧
      (run.stateAfter start).plan.status? "document" = some .pending := by
  decide +kernel

end OcifDocuments

end Ois.Integration
