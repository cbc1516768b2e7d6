import Ois.Kernel.State

/-!
# Capability contracts, requests and results

The records of `contracts.py` and the capability registry. A request hands the capability the
execution context itself.
-/

namespace Ois.Kernel

open Ois.Library ExecutionContext Json

/-- The timeout is a double, carried by its bit pattern; the default is 30.0. -/
structure CapabilityContract where
  capabilityId : String
  version : String
  inputSchema : Members := []
  outputSchema : Members := []
  riskLevel : RiskLevel := .low
  permissions : List String := []
  timeoutSeconds : UInt64 := 0x403E000000000000
  sideEffects : SideEffectLevel := .none
  deriving DecidableEq, Repr

structure InvocationRequest where
  invocationId : String
  capabilityId : String
  input : Members
  execution : ExecutionContext
  timeoutSeconds : Option UInt64 := none
  attempt : Nat := 0
  deriving DecidableEq, Repr

structure InvocationResult where
  invocationId : String
  capabilityId : String
  status : InvocationStatus
  output : Json := .null
  error : Option Members := none
  startedAt : Option String := none
  completedAt : Option String := none
  metadata : Members := []
  deriving DecidableEq, Repr

structure CapabilityRegistry where
  entries : Dict (String × String) CapabilityContract := []

namespace CapabilityRegistry

/-- The message is the `repr` of the text, as for every `KeyError`. -/
def get (reg : CapabilityRegistry) (capId version : String) :
    Except PyError CapabilityContract :=
  match reg.entries.lookup (capId, version) with
  | some contract => .ok contract
  | none => .error ⟨.capabilityNotFoundError,
      reprStr ("not registered: " ++ capId ++ "@" ++ version)⟩

end CapabilityRegistry

namespace InvocationResult

def isTerminal (res : InvocationResult) : Bool :=
  res.status == .succeeded || res.status == .cancelled

def sorted (res : InvocationResult) : InvocationResult :=
  { res with
    output := sortKeys res.output
    error := res.error.map sortMembers
    metadata := sortMembers res.metadata }

variable (res : InvocationResult)

theorem sorted_idempotent : res.sorted.sorted = res.sorted := by
  simp [sorted, Function.comp_def]

def toDict (res : InvocationResult) : Members :=
  [("invocation_id", .str res.invocationId), ("capability_id", .str res.capabilityId),
    ("status", .str res.status.value),
    ("output", res.output),
    ("error", ofOption .obj res.error),
    ("started_at", ofOption .str res.startedAt),
    ("completed_at", ofOption .str res.completedAt),
    ("metadata", .obj res.metadata)]

def readStatus (doc : Json) : Option InvocationStatus := do
  let text ← doc.asStr?
  StrEnum.ofValue? text

def fromDict (data : Members) : Option InvocationResult := do
  let callId ← (← data.lookup "invocation_id").asStr?
  let capId ← (← data.lookup "capability_id").asStr?
  let status ← readStatus (← data.lookup "status")
  let output ← field data "output" null some
  let err ← field data "error" none (orNull? asMembers?)
  let startedAt ← field data "started_at" none (orNull? asStr?)
  let completedAt ← field data "completed_at" none (orNull? asStr?)
  let metadata ← field data "metadata" [] asMembers?
  return {
    invocationId := callId, capabilityId := capId, status, output, error := err, startedAt
    completedAt, metadata }

theorem from_dict_to_dict : fromDict res.toDict = some res := by
  have err := or_null_of_option .obj asMembers? (fun _ => rfl) (by simp) res.error
  have optionalStr := or_null_of_option .str asStr? (fun _ => rfl) (by simp)
  have status : readStatus (.str res.status.value) = some res.status :=
    StrEnum.of_value_value res.status
  simp [fromDict, toDict, field, List.lookup_cons, status, err, optionalStr, asStr?, asMembers?]

theorem map_sort_member_to_dict : res.toDict.map sortMember = res.sorted.toDict := by
  simp [toDict, sorted, sortMember, sort_keys_of_option_obj, sort_keys_of_option_str]

theorem from_dict_congr (left right : Members)
    (same : ∀ name, left.lookup name = right.lookup name) :
    fromDict left = fromDict right := by
  simp only [fromDict, field, same]

theorem from_dict_sort_members :
    fromDict (sortMembers res.toDict) = some res.sorted := by
  have lookups : ∀ name, (sortMembers res.toDict).lookup name =
      res.sorted.toDict.lookup name := by
    intro name
    rw [sort_members_eq, lookup_insertion_sort, map_sort_member_to_dict]
  rw [from_dict_congr _ _ lookups, from_dict_to_dict]

end InvocationResult

end Ois.Kernel
