import Ois.Library.StrEnum

/-!
# Kernel enumerations and errors

The enumerations of `types.py` with their texts, and the exceptions the kernel
raises. An exception is its class and its message, since these are what the
orchestrator writes into a failed task.
-/

namespace Ois.Kernel

open Ois.Library

inductive ExecutionStatus where
  | received | normalized | understood | classified | riskAssessed | contextRetrieved
  | routed | planned | planValidated | authorized | executing | observing | validating
  | updatingState | checkpointing | completed | failed | recovering | replanning
  | escalated | stopped
  deriving DecidableEq, Repr

namespace ExecutionStatus

def value : ExecutionStatus → String
  | received => "received"
  | normalized => "normalized"
  | understood => "understood"
  | classified => "classified"
  | riskAssessed => "risk_assessed"
  | contextRetrieved => "context_retrieved"
  | routed => "routed"
  | planned => "planned"
  | planValidated => "plan_validated"
  | authorized => "authorized"
  | executing => "executing"
  | observing => "observing"
  | validating => "validating"
  | updatingState => "updating_state"
  | checkpointing => "checkpointing"
  | completed => "completed"
  | failed => "failed"
  | recovering => "recovering"
  | replanning => "replanning"
  | escalated => "escalated"
  | stopped => "stopped"

instance : StrEnum ExecutionStatus where
  members := [received, normalized, understood, classified, riskAssessed, contextRetrieved,
    routed, planned, planValidated, authorized, executing, observing, validating,
    updatingState, checkpointing, completed, failed, recovering, replanning, escalated,
    stopped]
  value := value
  complete := by intro mem; cases mem <;> simp
  distinct := by decide

/-- The statuses `set_status` refuses to leave. -/
def isTerminal : ExecutionStatus → Bool
  | completed | stopped | escalated => true
  | _ => false

end ExecutionStatus

inductive RiskLevel where
  | low | medium | high | critical
  deriving DecidableEq, Repr

namespace RiskLevel

def value : RiskLevel → String
  | low => "low"
  | medium => "medium"
  | high => "high"
  | critical => "critical"

instance : StrEnum RiskLevel where
  members := [low, medium, high, critical]
  value := value
  complete := by intro mem; cases mem <;> simp
  distinct := by decide

end RiskLevel

inductive FailureClass where
  | transient | parameter | tool | plan | state | permission | safety | unknown
  deriving DecidableEq, Repr

namespace FailureClass

def value : FailureClass → String
  | transient => "transient"
  | parameter => "parameter"
  | tool => "tool"
  | plan => "plan"
  | state => "state"
  | permission => "permission"
  | safety => "safety"
  | unknown => "unknown"

instance : StrEnum FailureClass where
  members := [transient, parameter, tool, plan, state, permission, safety, unknown]
  value := value
  complete := by intro mem; cases mem <;> simp
  distinct := by decide

end FailureClass

inductive InvocationStatus where
  | pending | running | succeeded | failed | cancelled | timedOut
  deriving DecidableEq, Repr

namespace InvocationStatus

def value : InvocationStatus → String
  | pending => "pending"
  | running => "running"
  | succeeded => "succeeded"
  | failed => "failed"
  | cancelled => "cancelled"
  | timedOut => "timed_out"

instance : StrEnum InvocationStatus where
  members := [pending, running, succeeded, failed, cancelled, timedOut]
  value := value
  complete := by intro mem; cases mem <;> simp
  distinct := by decide

end InvocationStatus

inductive SideEffectLevel where
  | none | reversible | irreversible
  deriving DecidableEq, Repr

inductive ErrorKind where
  | valueError | attributeError | permissionError | planError | duplicateTaskError
  | unknownDependencyError | cyclicPlanError | planExecutionError | executionError
  | executionAlreadyCompleted | capabilityNotFoundError | inputValidationError
  | outputValidationError | authorizationDenied | fencingError | checkpointError
  | checkpointNotFound
  | other (name : String)
  deriving DecidableEq, Repr

/-- `type(exc).__name__`. -/
def ErrorKind.name : ErrorKind → String
  | valueError => "ValueError"
  | attributeError => "AttributeError"
  | permissionError => "PermissionError"
  | planError => "PlanError"
  | duplicateTaskError => "DuplicateTaskError"
  | unknownDependencyError => "UnknownDependencyError"
  | cyclicPlanError => "CyclicPlanError"
  | planExecutionError => "PlanExecutionError"
  | executionError => "ExecutionError"
  | executionAlreadyCompleted => "ExecutionAlreadyCompleted"
  | capabilityNotFoundError => "CapabilityNotFoundError"
  | inputValidationError => "InputValidationError"
  | outputValidationError => "OutputValidationError"
  | authorizationDenied => "AuthorizationDenied"
  | fencingError => "FencingError"
  | checkpointError => "CheckpointError"
  | checkpointNotFound => "CheckpointNotFound"
  | other name => name

/-- One character of the `repr` of a text between `quote`s. Characters that are
not printable outside ASCII are left as they are. -/
def reprChar (quote char : Char) : List Char :=
  let backslash := Char.ofNat 92
  if char = quote ∨ char = backslash then [backslash, char]
  else if char.toNat = 10 then [backslash, 'n']
  else if char.toNat = 13 then [backslash, 'r']
  else if char.toNat = 9 then [backslash, 't']
  else if char.toNat < 32 ∨ char.toNat = 127 then
    [backslash, 'x', Nat.digitChar (char.toNat / 16), Nat.digitChar (char.toNat % 16)]
  else [char]

/-- `repr(text)`, which prefers single quotes. -/
def reprStr (text : String) : String :=
  let single := Char.ofNat 39
  let double := Char.ofNat 34
  let quote := if single ∈ text.toList ∧ double ∉ text.toList then double else single
  String.ofList (quote :: text.toList.flatMap (reprChar quote) ++ [quote])

structure PyError where
  kind : ErrorKind
  message : String
  deriving DecidableEq, Repr

end Ois.Kernel
