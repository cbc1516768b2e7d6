import Mathlib.Data.List.Dedup
import Ois.Kernel.Contracts

/-!
# The default policy of the kernel

`DefaultPolicyEngine` of `kernel/policy.py`. The permissions that a contract names are
compared with those that the engine was made with; whoever makes the request is not asked
for any.
-/

namespace Ois.Kernel

structure PolicyDecision where
  allowed : Bool
  reasons : List String := []
  requiresApproval : Bool := false
  deriving DecidableEq, Repr

structure DefaultPolicyEngine where
  allowedPermissions : List String := []
  maximumRisk : RiskLevel := .medium
  allowIrreversible : Bool := false

def riskOrder : RiskLevel → Nat
  | .low => 0
  | .medium => 1
  | .high => 2
  | .critical => 3

namespace DefaultPolicyEngine

variable (engine : DefaultPolicyEngine)

/-- `sorted(set(contract.permissions) - self._allowed_permissions)`. -/
def missingPermissions (contract : CapabilityContract) : List String :=
  (contract.permissions.dedup.filter (· ∉ engine.allowedPermissions)).insertionSort (· ≤ ·)

def tenantReasons (req : InvocationRequest) : List String :=
  if req.execution.identity.tenantId = "" then ["Execution must have a tenant identity."]
  else []

def riskReasons (contract : CapabilityContract) : List String :=
  if riskOrder engine.maximumRisk < riskOrder contract.riskLevel then
    ["Capability risk exceeds policy limit: " ++ contract.riskLevel.value]
  else []

def permissionReasons (contract : CapabilityContract) : List String :=
  if engine.missingPermissions contract = [] then []
  else ["Missing permissions: " ++ ", ".intercalate (engine.missingPermissions contract)]

def sideEffectReasons (contract : CapabilityContract) : List String :=
  if contract.sideEffects = .irreversible ∧ engine.allowIrreversible = false then
    ["Irreversible side effects are not permitted."]
  else []

def evaluate (req : InvocationRequest) (contract : CapabilityContract) : PolicyDecision :=
  let reasons := tenantReasons req ++ engine.riskReasons contract ++
    engine.permissionReasons contract ++ engine.sideEffectReasons contract
  { allowed := reasons.isEmpty
    reasons := reasons
    requiresApproval := contract.riskLevel ∈ [.high, .critical] ∨
      contract.sideEffects = .irreversible }

def authorize (req : InvocationRequest) (contract : CapabilityContract) :
    Except PyError Bool :=
  let decision := engine.evaluate req contract
  if decision.allowed = false then
    .error ⟨.authorizationDenied, "; ".intercalate decision.reasons⟩
  else .ok true

/-- What the engine asks of a contract. -/
structure Permits (contract : CapabilityContract) : Prop where
  risk : riskOrder contract.riskLevel ≤ riskOrder engine.maximumRisk
  permissions : ∀ permission ∈ contract.permissions, permission ∈ engine.allowedPermissions
  sideEffects : contract.sideEffects = .irreversible → engine.allowIrreversible = true

variable {engine}

theorem missing_permissions_eq_nil {contract : CapabilityContract} :
    engine.missingPermissions contract = [] ↔
      ∀ permission ∈ contract.permissions, permission ∈ engine.allowedPermissions := by
  have sorted := List.perm_insertionSort (· ≤ ·)
    (contract.permissions.dedup.filter (· ∉ engine.allowedPermissions))
  rw [missingPermissions, ← List.perm_nil, sorted.congr_left, List.perm_nil, List.filter_eq_nil_iff]
  simp

theorem permits_iff {contract : CapabilityContract} :
    engine.Permits contract ↔ engine.riskReasons contract = [] ∧
      engine.permissionReasons contract = [] ∧ engine.sideEffectReasons contract = [] := by
  have risk : engine.riskReasons contract = [] ↔
      riskOrder contract.riskLevel ≤ riskOrder engine.maximumRisk := by
    simp [riskReasons]
  have permissions : engine.permissionReasons contract = [] ↔
      ∀ permission ∈ contract.permissions, permission ∈ engine.allowedPermissions := by
    rw [← missing_permissions_eq_nil]
    simp [permissionReasons]
  have sideEffects : engine.sideEffectReasons contract = [] ↔
      (contract.sideEffects = .irreversible → engine.allowIrreversible = true) := by
    simp [sideEffectReasons]
  rw [risk, permissions, sideEffects]
  constructor
  · exact fun permits => ⟨permits.risk, permits.permissions, permits.sideEffects⟩
  · exact fun ⟨low, allowed, reversible⟩ => ⟨low, allowed, reversible⟩

theorem authorize_iff {req : InvocationRequest} {contract : CapabilityContract} :
    engine.authorize req contract = .ok true ↔
      req.execution.identity.tenantId ≠ "" ∧ engine.Permits contract := by
  have tenant : tenantReasons req = [] ↔ req.execution.identity.tenantId ≠ "" := by
    simp [tenantReasons]
  rw [← tenant, permits_iff]
  simp only [authorize, evaluate]
  split_ifs with refused
  · simp_all
  · simp_all

end DefaultPolicyEngine

end Ois.Kernel
