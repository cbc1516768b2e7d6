import Ois.ControlPlane.Lifecycle
import Ois.Kernel.Policy
import Ois.Production.ControlPlane

/-!
# Roles and attributes before the policy of the kernel

`ProductionPolicyAdapter` of `control_plane/lifecycle.py` asks two engines in turn.
-/

namespace Ois.ControlPlane

open Ois.Library Ois.Kernel Ois.Production
open Ois.Production.RBACABAC (Holds)

structure ProductionPolicyAdapter where
  fallback : DefaultPolicyEngine := {}

namespace ProductionPolicyAdapter

variable (digits : UInt64 → String)

def subjectOf (exec : ExecutionContext) : Except PyError Subject := do
  let roles ← textsOf digits exec.metadata "roles"
  let attributes ← mappingOf exec.metadata "attributes"
  let permissions ← textsOf digits exec.metadata "permissions"
  return { subjectId := textOf digits exec.metadata "subject_id" "system"
           tenantId := exec.identity.tenantId
           roles := roles
           attributes := attributes.map fun mem => (mem.1, strOf digits mem.2)
           permissions := permissions }

def requiredPermission (contract : CapabilityContract) : String :=
  contract.permissions.head?.getD "execution.invoke"

def environmentOf (exec : ExecutionContext) : String :=
  textOf digits exec.metadata "environment" "staging"

def policyOf (exec : ExecutionContext) (contract : CapabilityContract) :
    AuthorizationPolicy where
  permission := requiredPermission contract
  requiredAttributes := [("environment", environmentOf digits exec)]

def authorize (adapter : ProductionPolicyAdapter) (req : InvocationRequest)
    (contract : CapabilityContract) : Except PyError Bool := do
  let subject ← subjectOf digits req.execution
  RBACABAC.authorize subject (policyOf digits req.execution contract)
  adapter.fallback.authorize req contract

/-- A request that is accepted is one of a subject that holds every permission of the
contract. -/
def LeastPrivilege (adapter : ProductionPolicyAdapter) (req : InvocationRequest)
    (contract : CapabilityContract) : Prop :=
  authorize digits adapter req contract = .ok true →
    ∃ subject, subjectOf digits req.execution = .ok subject ∧
      ∀ permission ∈ contract.permissions, Holds subject permission

structure Admits (exec : ExecutionContext) (contract : CapabilityContract)
    (subject : Subject) : Prop where
  tenant : exec.identity.tenantId ≠ ""
  permission : Holds subject (requiredPermission contract)
  environment : subject.attributes.lookup "environment" = some (environmentOf digits exec)

/-- Where both engines pass, the subject holds the permissions after the first as well. -/
def LaterHeld (adapter : ProductionPolicyAdapter) (req : InvocationRequest)
    (contract : CapabilityContract) : Prop :=
  ∀ subject, subjectOf digits req.execution = .ok subject →
    Admits digits req.execution contract subject → adapter.fallback.Permits contract →
      ∀ permission ∈ contract.permissions.tail, Holds subject permission

section checks

variable {digits} {adapter : ProductionPolicyAdapter} {req : InvocationRequest}
  {contract : CapabilityContract} {subject : Subject}

theorem tenant_of_subject {exec : ExecutionContext}
    (read : subjectOf digits exec = .ok subject) :
    subject.tenantId = exec.identity.tenantId := by
  unfold subjectOf at read
  cases roles : textsOf digits exec.metadata "roles" with
  | error err => simp [roles, bind, Except.bind] at read
  | ok roleTexts =>
    cases attributes : mappingOf exec.metadata "attributes" with
    | error err => simp [roles, attributes, bind, Except.bind] at read
    | ok members =>
      cases permissions : textsOf digits exec.metadata "permissions" with
      | error err => simp [roles, attributes, permissions, bind, Except.bind] at read
      | ok texts =>
        simp only [roles, attributes, permissions, bind, Except.bind, pure, Except.pure,
          Except.ok.injEq] at read
        rw [← read]

theorem authorized_iff_admits {exec : ExecutionContext}
    (read : subjectOf digits exec = .ok subject) :
    RBACABAC.authorize subject (policyOf digits exec contract) = .ok () ↔
      Admits digits exec contract subject := by
  rw [RBACABAC.authorize_iff, tenant_of_subject read]
  constructor
  · rintro ⟨tenant, permission, _, attributes⟩
    exact ⟨tenant, permission, attributes _ (List.mem_singleton_self _)⟩
  · intro admits
    refine ⟨admits.tenant, admits.permission, nofun, ?_⟩
    intro entry mem
    rw [List.mem_singleton.mp mem]
    exact admits.environment

theorem authorize_iff : authorize digits adapter req contract = .ok true ↔
    ∃ subject, subjectOf digits req.execution = .ok subject ∧
      Admits digits req.execution contract subject ∧
      adapter.fallback.Permits contract := by
  unfold authorize
  cases read : subjectOf digits req.execution with
  | error err => simp [bind, Except.bind]
  | ok subject =>
    simp only [bind, Except.bind, Except.ok.injEq, exists_eq_left']
    rw [← authorized_iff_admits read]
    cases authorized : RBACABAC.authorize subject
        (policyOf digits req.execution contract) with
    | error err => simp
    | ok passed =>
      have tenant := ((authorized_iff_admits read).mp authorized).tenant
      simp [DefaultPolicyEngine.authorize_iff, tenant]

theorem first_or_later {permission : String} (mem : permission ∈ contract.permissions) :
    permission = requiredPermission contract ∨ permission ∈ contract.permissions.tail := by
  unfold requiredPermission
  cases named : contract.permissions with
  | nil => simp [named] at mem
  | cons first rest => simpa [named] using mem

theorem least_privilege_iff_later_held :
    LeastPrivilege digits adapter req contract ↔
      LaterHeld digits adapter req contract := by
  rw [LeastPrivilege, authorize_iff]
  constructor
  · intro privileged subject read admits permits permission later
    obtain ⟨described, same, holds⟩ := privileged ⟨subject, read, admits, permits⟩
    rw [read, Except.ok.injEq] at same
    rw [same]
    exact holds permission (List.mem_of_mem_tail later)
  · rintro later ⟨subject, read, admits, permits⟩
    refine ⟨subject, read, ?_⟩
    intro permission mem
    rcases first_or_later mem with first | rest
    · rw [first]
      exact admits.permission
    · exact later subject read admits permits permission rest

end checks

def requestWith (permission : String) : InvocationRequest where
  invocationId := "invocation"
  capabilityId := "capability"
  input := []
  execution :=
    { identity := { executionId := ⟨1⟩ }
      objective := "publish"
      metadata := [("permissions", .arr [.str permission]),
        ("attributes", .obj [("environment", .str "staging")])]
      createdAt := DateTime.epoch
      updatedAt := DateTime.epoch }

def subjectWith (permission : String) : Subject where
  subjectId := "system"
  tenantId := "default"
  attributes := [("environment", "staging")]
  permissions := [permission]

theorem subject_of_request_with (permission : String) :
    subjectOf digits (requestWith permission).execution = .ok (subjectWith permission) := by
  rfl

theorem admits_request_with (contract : CapabilityContract) :
    Admits digits (requestWith (requiredPermission contract)).execution contract
      (subjectWith (requiredPermission contract)) where
  tenant := by simp [requestWith]
  permission := Or.inl (List.mem_singleton_self _)
  environment := by rfl

theorem all_later_held_iff (adapter : ProductionPolicyAdapter) (contract : CapabilityContract) :
    (∀ req, LaterHeld digits adapter req contract) ↔ (adapter.fallback.Permits contract →
      ∀ permission ∈ contract.permissions, permission = requiredPermission contract) := by
  constructor
  · intro held permits permission mem
    rcases first_or_later mem with first | rest
    · exact first
    · have holds := held (requestWith (requiredPermission contract)) _
        (subject_of_request_with digits _) (admits_request_with digits contract) permits
        permission rest
      rcases holds with own | ⟨role, mem, _⟩
      · exact List.mem_singleton.mp own
      · cases mem
  · intro single req subject read admits permits permission later
    rw [single permits permission (List.mem_of_mem_tail later)]
    exact admits.permission

/-- The permissions after the first one are asked of nobody: a request is safe exactly when,
if both engines pass it, the subject holds those as well, and a contract is safe from every
request exactly when the fallback refuses it or it names no second permission. -/
theorem least_privilege_iff (adapter : ProductionPolicyAdapter) (contract : CapabilityContract) :
    (∀ req, LeastPrivilege digits adapter req contract ↔
      LaterHeld digits adapter req contract) ∧
      ((∀ req, LeastPrivilege digits adapter req contract) ↔
      (adapter.fallback.Permits contract →
      ∀ permission ∈ contract.permissions, permission = requiredPermission contract)) := by
  refine ⟨fun req => least_privilege_iff_later_held, ?_⟩
  rw [← all_later_held_iff digits adapter contract]
  exact forall_congr' fun req => least_privilege_iff_later_held

def releaseContract : CapabilityContract where
  capabilityId := "capability"
  version := "1.0.0"
  permissions := ["release.read", "release.delete"]

def releaseAdapter : ProductionPolicyAdapter :=
  { fallback := { allowedPermissions := ["release.read", "release.delete"] } }

/-- The subject holds the first permission only, and is accepted. -/
theorem reader_accepted_to_delete :
    authorize (fun _ => "") releaseAdapter (requestWith "release.read") releaseContract = .ok true ∧
      ¬LeastPrivilege (fun _ => "") releaseAdapter (requestWith "release.read")
      releaseContract := by
  have accepted : authorize (fun _ => "") releaseAdapter (requestWith "release.read")
      releaseContract = .ok true := by
    decide +kernel
  refine ⟨accepted, ?_⟩
  intro privileged
  obtain ⟨subject, read, holds⟩ := privileged accepted
  rw [subject_of_request_with, Except.ok.injEq] at read
  have granted := RBACABAC.holds_iff_granted.mp (holds "release.delete" (by decide))
  rw [← read] at granted
  revert granted
  decide

end ProductionPolicyAdapter

end Ois.ControlPlane
