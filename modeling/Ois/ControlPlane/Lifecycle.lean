import Ois.Kernel.Attempts
import Ois.Kernel.CallResults
import Ois.Kernel.PyValues

/-!
# The production lifecycle

`OISProductionLifecycle.execute` of `lifecycle.py` and the handler that `worker` builds around it.
-/

namespace Ois.ControlPlane

open Ois.Library Ois.Kernel Command ExecutionRuntime

structure ControlRequest where
  capabilityId : String
  capabilityVersion : String
  input : Members := []
  deriving DecidableEq, Repr

structure LifecycleResult where
  result : InvocationResult
  executionId : String
  learningState : String
  deriving DecidableEq, Repr

/-- `resolve` is `resolve_capability` of the control plane. -/
structure OISProductionLifecycle where
  registry : CapabilityRegistry
  validateInput : InvocationRequest → CapabilityContract → Except PyError Unit
  validateOutput : InvocationResult → CapabilityContract → Except PyError Unit
  sha256 : Json.Text → String
  resolve : ControlRequest → Except PyError Unit

/-- The arguments of `execute`. -/
structure LifecycleCall where
  request : ControlRequest
  objective : String
  tenantId : String := "default"
  invocationId : Option String := none
  subjectId : String := "system"
  roles : List String := []
  permissions : List String := []
  environment : String := "staging"
  attributes : Members := []
  deriving DecidableEq, Repr

structure Circumstances where
  durable : Durable
  world : World
  executionId : Uuid
  createdAt : DateTime
  updatedAt : DateTime
  invocationId : Uuid

namespace OISProductionLifecycle

def runtime (life : OISProductionLifecycle) : ExecutionRuntime :=
  { registry := life.registry, validateInput := life.validateInput
    validateOutput := life.validateOutput, sha256 := life.sha256 }

def tupleOf (texts : List String) : Json := .arr (texts.eraseDups.map .str)

def contextOf (met : Circumstances) (call : LifecycleCall) : ExecutionContext :=
  { identity := {
      executionId := met.executionId, tenantId := call.tenantId
      workflowId := some "ois.production.lifecycle", workflowVersion := some "1.0.0" }
    objective := call.objective
    metadata := [("subject_id", .str call.subjectId), ("roles", tupleOf call.roles),
      ("permissions", tupleOf call.permissions), ("environment", .str call.environment),
      ("attributes", .obj call.attributes)]
    createdAt := met.createdAt, updatedAt := met.updatedAt }

def sessionOf (met : Circumstances) (call : LifecycleCall) : Session :=
  { context := contextOf met call, durable := met.durable }

/-- `invocation_id or str(uuid4())`. -/
def invocationIdOf (met : Circumstances) (call : LifecycleCall) : String :=
  orDefault call.invocationId met.invocationId.str

def idempotencyKeyOf (met : Circumstances) (call : LifecycleCall) : String :=
  call.tenantId ++ ":" ++ call.request.capabilityId ++ ":" ++ call.request.capabilityVersion ++
    ":" ++ invocationIdOf met call

def kernelCall (met : Circumstances) (call : LifecycleCall) : Call :=
  { capabilityId := call.request.capabilityId, version := call.request.capabilityVersion
    inputData := call.request.input, invocationId := some (invocationIdOf met call)
    idempotencyKey := some (idempotencyKeyOf met call) }

variable (life : OISProductionLifecycle)

/-- `execute` before the kernel is called. -/
def accept (call : LifecycleCall) : Operation Unit :=
  life.runtime.record (.layer "control_plane.request.accepted")
    [("capability_id", .str call.request.capabilityId),
      ("version", .str call.request.capabilityVersion), ("tenant_id", .str call.tenantId)]

def learningStateOf (status : InvocationStatus) : String :=
  if status = .succeeded then "PENDING_APPROVAL" else "REJECTED"

/-- `execute` once the kernel has returned. -/
def conclude (world : World) (res : InvocationResult) : Operation LifecycleResult := do
  if res.status = .succeeded then
    life.runtime.complete world none
  let session ← get
  return {
    result := res, executionId := session.context.identity.executionId.str
    learningState := learningStateOf res.status }

/-- `execute` on the context that `contextOf` gives, once the capability is resolved. -/
def execute (met : Circumstances) (call : LifecycleCall) : Operation LifecycleResult := do
  life.accept call
  let res ← life.runtime.execute met.world (kernelCall met call)
  life.conclude met.world res

def accepted (met : Circumstances) (call : LifecycleCall) : Session :=
  (life.accept call).stateAfter (sessionOf met call)

def invocation (met : Circumstances) (call : LifecycleCall) : Except PyError InvocationResult :=
  (life.runtime.execute met.world (kernelCall met call)).outcome
    (life.accepted met call)

def invocationSteps (met : Circumstances) (call : LifecycleCall) : List Step :=
  ((life.runtime.execute met.world (kernelCall met call)).stateAfter
    (life.accepted met call)).trace

variable {life} {met : Circumstances} {call : LifecycleCall}

theorem conclude_result (world : World) (res : InvocationResult) (session : Session) :
    Ends (life.conclude world res) (fun value _ => value.result = res)
      (fun _ _ => True) session := by
  unfold conclude
  by_cases succeeded : res.status = .succeeded
  · rw [if_pos succeeded, ends_bind]
    exact ends_of_all (fun _ _ => rfl) (fun _ _ => trivial)
  · rw [if_neg succeeded]
    rfl

theorem invocation_of_returned {value : LifecycleResult}
    (ret : (life.execute met call).outcome (sessionOf met call) = .ok value) :
    life.invocation met call = .ok value.result := by
  have ends : Ends (life.execute met call)
      (fun value _ => life.invocation met call = .ok value.result) (fun _ _ => True)
      (sessionOf met call) := by
    rw [execute, ends_bind]
    apply (ends_exactly (life.accept call) (sessionOf met call)).mono ?_
      (fun _ _ _ => trivial)
    intro _ middle ⟨_, reached⟩
    subst reached
    rw [ends_bind]
    apply (ends_exactly (life.runtime.execute met.world (kernelCall met call))
      (life.accepted met call)).mono ?_ (fun _ _ _ => trivial)
    intro res after ⟨ret, _⟩
    apply (conclude_result met.world res after).mono ?_ (fun _ _ _ => trivial)
    intro value _ same
    rw [same]
    exact ret
  exact ends.of_ok (ok_of_outcome ret)

structure Faultless (life : OISProductionLifecycle) (met : Circumstances)
    (call : LifecycleCall) : Prop where
  uncancelled : ∀ moment, (met.world.cancellation moment).cancelled = false
  stored : ∀ res, met.durable.idempotency.get (idempotencyKeyOf met call) = some res →
    res.status = .succeeded
  replies : ∀ version req reply,
    Step.invoke version req reply ∈ life.invocationSteps met call →
      reply.token.cancelled = false ∧ ∃ made, reply.outcome = .returned made ∧
        (made.status = .succeeded ∨ made.invocationId ≠ req.invocationId ∨
          ∃ names fail, structuredFailure? made = some (names, fail) ∧
            (RecoveryPolicy.decision {} fail 0 0).action.endsExecution = true)

theorem accepted_view :
    (life.accepted met call).view = (sessionOf met call).view := by
  have seen : Sees (life.accept call) (fun _ after => after = (sessionOf met call).view)
      (fun _ after => after = (sessionOf met call).view) (sessionOf met call).view :=
    record_quiet _ _ rfl rfl
  exact Ends.outcome (fun _ (after : Session) => after.view = (sessionOf met call).view) seen.ends

theorem storage_key (fresh : Uuid) :
    storageKey (kernelCall met call) (logicalInvocationId fresh (kernelCall met call)) =
      idempotencyKeyOf met call := by
  have named : idempotencyKeyOf met call ≠ "" := by
    intro empty
    have length := congrArg String.length empty
    simp [idempotencyKeyOf] at length
  simp [storageKey, kernelCall, orDefault, named]

theorem reply_of_step {version : String} {req : InvocationRequest} {reply : Reply}
    (taken : Step.invoke version req reply ∈ life.invocationSteps met call) :
    ∃ moment, reply = met.world.invoke moment call.request.capabilityVersion req := by
  have conduct := conduct_of_execute life.runtime met.world (kernelCall met call)
    (life.accepted met call)
  have blank : (life.accepted met call).view.story = [] := by
    rw [accepted_view]
    rfl
  have told : Mark.invoked version req reply ∈
      ((life.runtime.execute met.world (kernelCall met call)).stateAfter
        (life.accepted met call)).view.story :=
    (mem_story _ rfl).mpr (invoke_mem_iff.mp taken)
  exact (invokes_of_told conduct blank told).reply_eq

theorem succeeded_of_faultless (faultless : life.Faultless met call)
    {res : InvocationResult} (ret : life.invocation met call = .ok res) :
    res.status = .succeeded := by
  have conduct := conduct_of_execute life.runtime met.world (kernelCall met call)
    (life.accepted met call)
  rw [accepted_view] at conduct
  unfold invocation at ret
  rw [ret] at conduct
  have replied : ∀ req reply,
      Invokes met.world (kernelCall met call) (sessionOf met call).view
        ((life.runtime.execute met.world (kernelCall met call)).stateAfter
          (life.accepted met call)).view req reply →
        Step.invoke (kernelCall met call).version req reply ∈
          life.invocationSteps met call := by
    intro req reply invokes
    exact invoke_mem_iff.mpr ((mem_story _ rfl).mp invokes.told)
  cases conduct_source conduct with
  | store hit =>
    rw [storage_key] at hit
    exact faultless.stored res hit
  | cancellation stopped status =>
    rcases stopped with ⟨msg, cancels⟩ | ⟨req, reply, msg, invokes, stops⟩
    · exact absurd cancels (not_cancels faultless.uncancelled msg)
    · obtain ⟨live, made, returns, _⟩ :=
        faultless.replies _ req reply (replied req reply invokes)
      rcases stops with interrupted | overtaken
      · simp [returns] at interrupted
      · simp [token_uncancelled.mpr live] at overtaken
  | failure req reply err invokes raises status =>
    obtain ⟨_, made, returns, _⟩ :=
      faultless.replies _ req reply (replied req reply invokes)
    simp [returns] at raises
  | capability req reply made invokes returns sameId movable status same =>
    obtain ⟨_, other, alsoReturns, succeeded | foreign | ⟨names, fail, structured, ends⟩⟩ :=
      faultless.replies _ req reply (replied req reply invokes)
    all_goals
      rw [returns, Outcome.returned.injEq] at alsoReturns
      subst alsoReturns
    · rw [status, succeeded]
    · exact absurd sameId foreign
    · have open_ := movable names fail structured
      exact absurd (ends.symm.trans open_) (by simp)

end OISProductionLifecycle

section handler

variable (digits : UInt64 → String)

/-- `payload[name]`. -/
def required (body : Members) (name : String) : Except PyError Json :=
  match body.lookup name with
  | some value => .ok value
  | none => .error ⟨.other "KeyError", Kernel.reprStr name⟩

/-- `str(payload.get(name, default))`. -/
def textOf (body : Members) (name default : String) : String :=
  strOf digits ((body.lookup name).getD (.str default))

/-- `frozenset(str(item) for item in payload.get(name, ()))`. -/
def textsOf (body : Members) (name : String) : Except PyError (List String) := do
  let items ← iterate ((body.lookup name).getD (.arr []))
  return items.map (strOf digits)

/-- `dict(payload.get(name, {}))`. -/
def mappingOf (body : Members) (name : String) : Except PyError Members :=
  dictOf ((body.lookup name).getD (.obj []))

/-- `payload.get("invocation_id")`, which is given on as it is: a value without a truth
is drawn anew by `execute`, and any other goes by its text. -/
def givenInvocationId (body : Members) : Option String :=
  ((body.lookup "invocation_id").filter truthy).map (strOf digits)

/-- The arguments that `handle` reads from a payload. -/
def readPayload (body : Members) : Except PyError LifecycleCall := do
  let capId ← required body "capability_id"
  let ver ← required body "capability_version"
  let input ← mappingOf body "input"
  let roles ← textsOf digits body "roles"
  let permissions ← textsOf digits body "permissions"
  let attributes ← mappingOf body "attributes"
  return {
    request := {
      capabilityId := strOf digits capId
      capabilityVersion := strOf digits ver, input := input }
    objective := textOf digits body "objective" "worker execution"
    tenantId := textOf digits body "tenant_id" "default"
    invocationId := givenInvocationId digits body
    subjectId := textOf digits body "subject_id" "worker"
    roles := roles, permissions := permissions
    environment := textOf digits body "environment" "staging"
    attributes := attributes.map fun mem => (mem.1, .str (strOf digits mem.2)) }

structure Handling where
  outcome : Except PyError LifecycleResult
  invocation : Option (Except PyError InvocationResult)

/-- `handle` of `worker`, from the reading of the payload on. -/
def handle (life : OISProductionLifecycle) (met : Circumstances) (body : Members) :
    Handling :=
  match readPayload digits body with
  | .error err => { outcome := .error err, invocation := none }
  | .ok call =>
    match life.resolve call.request with
    | .error err => { outcome := .error err, invocation := none }
    | .ok _ => {
        outcome := (life.execute met call).outcome
          (OISProductionLifecycle.sessionOf met call)
        invocation := some (life.invocation met call) }

variable {digits} {life : OISProductionLifecycle} {met : Circumstances}
  {body : Members}

theorem invocation_of_handled {value : LifecycleResult}
    (ret : (handle digits life met body).outcome = .ok value) :
    (handle digits life met body).invocation = some (.ok value.result) := by
  unfold handle at ret ⊢
  split at ret
  · simp at ret
  · split at ret
    · simp at ret
    · simp [OISProductionLifecycle.invocation_of_returned ret]

theorem invocation_of_handle {out : Except PyError InvocationResult}
    (invoked : (handle digits life met body).invocation = some out) :
    ∃ call, readPayload digits body = .ok call ∧
      life.resolve call.request = .ok () ∧ life.invocation met call = out := by
  unfold handle at invoked
  split at invoked
  · simp at invoked
  · rename_i call read
    split at invoked
    · simp at invoked
    · rename_i resolved
      exact ⟨call, read, resolved, Option.some.inj invoked⟩

end handler

end Ois.ControlPlane
