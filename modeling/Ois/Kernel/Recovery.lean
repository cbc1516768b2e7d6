import Ois.Kernel.State
import Ois.Library.PyText

/-!
# Recovery and supervision

`RecoveryPolicy` of `recovery.py`: the classification of a failure against the
budgets of the context, and what applying a decision does to the context. Then
`Supervisor.decide` of `supervisor.py`, where the failure is a failure class or nothing.
-/

namespace Ois.Kernel

open Ois.Library

inductive RecoveryAction where
  | retry | correct | fallback | replan | recover | escalate | stop
  deriving DecidableEq, Repr

namespace RecoveryAction

def value : RecoveryAction → String
  | retry => "retry"
  | correct => "correct"
  | fallback => "fallback"
  | replan => "replan"
  | recover => "recover"
  | escalate => "escalate"
  | stop => "stop"

instance : StrEnum RecoveryAction where
  members := [retry, correct, fallback, replan, recover, escalate, stop]
  value := value
  complete := by intro mem; cases mem <;> simp
  distinct := by decide

/-- The status into which `apply` moves the context, when it moves it. -/
def status? : RecoveryAction → Option ExecutionStatus
  | retry | recover => some .recovering
  | replan => some .replanning
  | escalate => some .escalated
  | stop => some .stopped
  | correct | fallback => none

/-- The actions after which the context cannot move again. -/
def endsExecution : RecoveryAction → Bool
  | escalate | stop => true
  | _ => false

end RecoveryAction

structure RecoveryDecision where
  failure : FailureClass
  action : RecoveryAction
  retryAllowed : Bool
  terminal : Bool
  reason : String
  deriving DecidableEq, Repr

/-- The constructor refuses negative budgets. -/
structure RecoveryPolicy where
  maxRetries : Nat := 2
  maxRecoveryAttempts : Nat := 3
  deriving DecidableEq, Repr

namespace RecoveryPolicy

def decision (policy : RecoveryPolicy) (fail : FailureClass)
    (retryCount recoveryAttempts : Int) : RecoveryDecision :=
  match fail with
  | .transient =>
    let allowed := decide (retryCount < policy.maxRetries)
    { failure := .transient
      action := if allowed then .retry else .escalate
      retryAllowed := allowed
      terminal := !allowed
      reason := if allowed then "Transient failure is retryable."
        else "Transient retry limit exhausted." }
  | .parameter =>
    { failure := .parameter, action := .correct, retryAllowed := false, terminal := false
      reason := "Parameters require correction before retry." }
  | .tool =>
    { failure := .tool, action := .fallback, retryAllowed := false, terminal := false
      reason := "Tool failure should use an alternative capability." }
  | .plan =>
    { failure := .plan, action := .replan, retryAllowed := false, terminal := false
      reason := "Plan failure requires replanning." }
  | .state =>
    let allowed := decide (recoveryAttempts < policy.maxRecoveryAttempts)
    { failure := .state
      action := if allowed then .recover else .escalate
      retryAllowed := false
      terminal := !allowed
      reason := if allowed then "State recovery is permitted."
        else "State recovery limit exhausted." }
  | .permission =>
    { failure := .permission, action := .escalate, retryAllowed := false, terminal := false
      reason := "Permission failures require escalation." }
  | .safety =>
    { failure := .safety, action := .stop, retryAllowed := false, terminal := true
      reason := "Safety failures must terminate execution." }
  | .unknown =>
    { failure := .unknown, action := .escalate, retryAllowed := false, terminal := false
      reason := "Unknown failure requires escalation." }

def classify (policy : RecoveryPolicy) (fail : FailureClass)
    (ctx : ExecutionContext) : RecoveryDecision :=
  policy.decision fail ctx.retryCount ctx.recoveryAttempts

/-- The context after the counters, `last_failure` and `error` are written and
before the status is moved. -/
def recorded (fail : FailureClass) (decision : RecoveryDecision)
    (ctx : ExecutionContext) : ExecutionContext :=
  { ctx with
    lastFailure := .failureClass fail
    error := some [("failure_class", .str fail.value),
      ("recovery_action", .str decision.action.value), ("reason", .str decision.reason)]
    retryCount := if decision.action = .retry then ctx.retryCount + 1
      else ctx.retryCount
    recoveryAttempts := if decision.action = .recover ∨ decision.action = .replan then
      ctx.recoveryAttempts + 1 else ctx.recoveryAttempts }

/-- `apply`: the decision, and the context it leaves or the error of moving a
terminal context. What was recorded before the error stays recorded. -/
def apply (policy : RecoveryPolicy) (now : DateTime) (ctx : ExecutionContext)
    (fail : FailureClass) : ExecutionContext × Except PyError RecoveryDecision :=
  let decision := policy.classify fail ctx
  let written := recorded fail decision ctx
  match decision.action.status? with
  | none => (written, .ok decision)
  | some status =>
    match written.setStatus now status with
    | .ok moved => (moved, .ok decision)
    | .error err => (written, .error err)

theorem apply_decides (policy : RecoveryPolicy) (now : DateTime)
    (ctx : ExecutionContext) (fail : FailureClass)
    (movable : ctx.status.isTerminal = false) :
    (policy.apply now ctx fail).2 = .ok (policy.classify fail ctx) := by
  unfold apply
  cases moved : (policy.classify fail ctx).action.status? with
  | none => simp [moved]
  | some status => simp [moved, ExecutionContext.setStatus, recorded, movable]

theorem decision_retry_iff (policy : RecoveryPolicy) (fail : FailureClass)
    (retryCount recoveryAttempts : Int) :
    (policy.decision fail retryCount recoveryAttempts).action = .retry ↔
      fail = .transient ∧ retryCount < policy.maxRetries := by
  cases fail <;> simp [decision]
  split_ifs <;> simp

end RecoveryPolicy

inductive SupervisionAction where
  | execute | complete | retry | replan | escalate | stop
  deriving DecidableEq, Repr

namespace SupervisionAction

def value : SupervisionAction → String
  | execute => "execute"
  | complete => "complete"
  | retry => "retry"
  | replan => "replan"
  | escalate => "escalate"
  | stop => "stop"

end SupervisionAction

structure SupervisionRequest where
  objective : String
  planValidated : Bool
  authorized : Bool
  status : String
  failure : Option FailureClass := none
  retryAllowed : Bool := false
  recoveryAllowed : Bool := false
  approvalRequired : Bool := false
  approvalGranted : Bool := false
  deriving DecidableEq, Repr

structure SupervisionDecision where
  action : SupervisionAction
  reason : String
  terminal : Bool
  deriving DecidableEq, Repr

namespace Supervisor

/-- The part of `decide` that looks at the failure, once the request may be executed. -/
def decideFailure (req : SupervisionRequest) : SupervisionDecision :=
  if req.failure = some .safety then
    ⟨.stop, "safety failures terminate execution", true⟩
  else if req.failure = some .permission then
    ⟨.escalate, "permission failures require escalation", false⟩
  else if req.failure = some .plan then
    ⟨.replan, "plan failure requires a new executable plan", false⟩
  else if req.retryAllowed then
    ⟨.retry, "bounded retry is permitted by recovery policy", false⟩
  else if req.recoveryAllowed then
    ⟨.replan, "bounded recovery is permitted; replan before continuing", false⟩
  else
    match req.failure with
    | some fail =>
      ⟨.escalate, "failure " ++ fail.value ++ " has no safe automatic action", false⟩
    | none => ⟨.execute, "plan is authorized and ready", false⟩

@[irreducible] def decide (req : SupervisionRequest) : SupervisionDecision :=
  if PyText.strip req.objective = "" then
    ⟨.stop, "objective is required", true⟩
  else if req.approvalRequired && !req.approvalGranted then
    ⟨.escalate, "human approval is required before execution", false⟩
  else if !req.authorized then
    ⟨.escalate, "authorization is not granted by the execution boundary", false⟩
  else if !req.planValidated then
    ⟨.replan, "execution plan has not passed validation", false⟩
  else if ["completed", "success", "succeeded"].contains req.status then
    ⟨.complete, "execution completed successfully", true⟩
  else decideFailure req

end Supervisor

end Ois.Kernel
