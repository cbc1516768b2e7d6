import Ois.Autonomy.Events
import Ois.Kernel.Policy

/-!
# The policy of automation

`autonomy/policy.py`: the rules of a policy are tried in their order, and the first that
matches decides. A rule raises on a risk level that it does not know, which ends the
evaluation. How Python writes a double is a parameter.
-/

namespace Ois.Autonomy

open Ois.Library Ois.Kernel

inductive PolicyOutcome where
  | allow | deny | approvalRequired
  deriving DecidableEq, Repr

structure PolicyRule where
  ruleId : String
  eventType : Option String := none
  maximumRisk : RiskLevel := .medium
  allowSideEffects : Bool := false
  requiredTags : List String := []
  deriving DecidableEq, Repr

/-- `bool(context.get("requires_approval", False))`. -/
def requiresApproval (context : Members) : Bool :=
  ((context.lookup "requires_approval").map truthy).getD false

def contextTags (context : Members) : List String :=
  match context.lookup "tags" with
  | some (.arr items) => items.filterMap Json.asStr?
  | _ => []

section evaluation

variable (digits : UInt64 → String)

/-- `RiskLevel(str(context.get("risk_level", "low")))`. -/
def contextRisk (context : Members) : Except PyError RiskLevel :=
  let text := strOf digits ((context.lookup "risk_level").getD (.str RiskLevel.low.value))
  match (StrEnum.ofValue? text : Option RiskLevel) with
  | some risk => .ok risk
  | none => .error ⟨.valueError, Kernel.reprStr text ++ " is not a valid RiskLevel"⟩

def PolicyRule.evaluate (context : Members) (rule : PolicyRule) :
    Except PyError (Bool × String) := do
  if rule.eventType.any (fun name => context.lookup "event_type" != some (.str name)) then
    return (false, "event type does not match")
  let risk ← contextRisk digits context
  if riskOrder rule.maximumRisk < riskOrder risk ∧ requiresApproval context = false then
    return (false, "risk exceeds automation policy")
  let sideEffects := (context.lookup "side_effects").getD .null
  if sideEffects ∉ [.null, .str "none"] ∧ rule.allowSideEffects = false then
    return (false, "side effects are not permitted by automation policy")
  if ¬ rule.requiredTags ⊆ contextTags context then
    return (false, "required policy tags are missing")
  return (true, "rule matched")

structure PolicyEvaluation where
  outcome : PolicyOutcome
  ruleId : Option String
  reason : String
  requiresApproval : Bool := false
  deriving DecidableEq, Repr

abbrev AutomationPolicy := List PolicyRule

/-- `evaluate(context)`. -/
def AutomationPolicy.evaluate (context : Members) :
    AutomationPolicy → Except PyError PolicyEvaluation
  | [] => .ok { outcome := .deny, ruleId := none, reason := "no automation policy rule matched" }
  | rule :: rest => do
    let (matched, reason) ← rule.evaluate digits context
    if matched then
      return { outcome := if requiresApproval context then .approvalRequired else .allow
               ruleId := some rule.ruleId, reason := reason
               requiresApproval := requiresApproval context }
    evaluate context rest

/-- `{**event.payload, "event_type": event.event_type}`. -/
def EventEnvelope.context (event : EventEnvelope) : Members :=
  event.payload.set "event_type" (.str event.eventType)

def AutomationPolicy.judge (event : EventEnvelope) (policy : AutomationPolicy) :
    Except PyError PolicyEvaluation := policy.evaluate digits event.context

theorem AutomationPolicy.judge_nil (event : EventEnvelope) :
    AutomationPolicy.judge digits event [] =
      .ok { outcome := .deny, ruleId := none, reason := "no automation policy rule matched" } :=
  rfl

end evaluation

end Ois.Autonomy
