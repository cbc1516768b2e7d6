import Ois.Library.DateTime
import Ois.Library.Dict
import Ois.Library.Uuid
import Ois.Kernel.Types

/-!
# Governance primitives

`production/control_plane.py`: roles, permissions and attributes of a subject, and the hash-linked
evidence ledger.
-/

namespace Ois.Production

open Ois.Library Ois.Kernel

structure Subject where
  subjectId : String
  tenantId : String
  roles : List String := []
  attributes : Dict String String := []
  permissions : List String := []
  deriving DecidableEq, Repr

structure AuthorizationPolicy where
  permission : String
  requiredRole : Option String := none
  requiredAttributes : Dict String String := []
  deriving DecidableEq, Repr

def authorizationError (msg : String) : PyError := ⟨.other "AuthorizationError", msg⟩

namespace RBACABAC

def rolePermissions : Dict String (List String) :=
  [("release-manager", ["deployment.activate", "deployment.rollback"])]

def granted (subject : Subject) : List String :=
  subject.permissions ++ subject.roles.flatMap fun role => (rolePermissions.lookup role).getD []

def Holds (subject : Subject) (permission : String) : Prop :=
  permission ∈ subject.permissions ∨ ∃ role ∈ subject.roles, ∃ permissions,
      rolePermissions.lookup role = some permissions ∧ permission ∈ permissions

def missingAttribute (subject : Subject) (required : Dict String String) : Option String :=
  (required.find? fun entry => subject.attributes.lookup entry.1 ≠ some entry.2).map Prod.fst

def authorize (subject : Subject) (policy : AuthorizationPolicy) : Except PyError Unit :=
  if subject.tenantId = "" then .error (authorizationError "tenant identity is required")
  else if policy.permission ∉ granted subject then
    .error (authorizationError ("permission is missing: " ++ policy.permission))
  else if policy.requiredRole.any fun role => role ≠ "" ∧ role ∉ subject.roles then
    .error (authorizationError "required role is missing")
  else
    match missingAttribute subject policy.requiredAttributes with
    | some key => .error (authorizationError ("required attribute is missing: " ++ key))
    | none => .ok ()

variable {subject : Subject}

theorem holds_iff_granted {permission : String} :
    Holds subject permission ↔ permission ∈ granted subject := by
  rw [Holds, granted, List.mem_append, List.mem_flatMap]
  apply or_congr_right
  constructor
  · rintro ⟨role, mem, permissions, found, named⟩
    exact ⟨role, mem, by rwa [found]⟩
  · rintro ⟨role, mem, named⟩
    cases found : rolePermissions.lookup role with
    | none => simp [found] at named
    | some permissions => exact ⟨role, mem, permissions, found, by simpa [found] using named⟩

theorem missing_attribute_eq_none {required : Dict String String} :
    missingAttribute subject required = none ↔
      ∀ entry ∈ required, subject.attributes.lookup entry.1 = some entry.2 := by
  simp [missingAttribute, List.find?_eq_none]

theorem authorize_iff {policy : AuthorizationPolicy} :
    authorize subject policy = .ok () ↔ subject.tenantId ≠ "" ∧ Holds subject policy.permission ∧
      (∀ role ∈ policy.requiredRole, role ≠ "" → role ∈ subject.roles) ∧
      ∀ entry ∈ policy.requiredAttributes,
      subject.attributes.lookup entry.1 = some entry.2 := by
  have roles : ¬(policy.requiredRole.any fun role => role ≠ "" ∧ role ∉ subject.roles) = true ↔
      ∀ role ∈ policy.requiredRole, role ≠ "" → role ∈ subject.roles := by
    cases policy.requiredRole <;> simp
  rw [holds_iff_granted, ← roles, ← missing_attribute_eq_none, authorize]
  by_cases tenant : subject.tenantId = ""
  · simp [tenant]
  · by_cases permission : policy.permission ∈ granted subject
    · rw [if_neg tenant, if_neg (not_not.mpr permission)]
      by_cases role : (policy.requiredRole.any fun role =>
        role ≠ "" ∧ role ∉ subject.roles) = true
      · rw [if_pos role]
        simp only [role, not_true_eq_false, false_and, and_false, reduceCtorEq]
      · rw [if_neg role]
        cases missingAttribute subject policy.requiredAttributes with
        | some key => simp
        | none => exact ⟨fun _ => ⟨tenant, permission, role, rfl⟩, fun _ => rfl⟩
    · rw [if_neg tenant, if_pos permission]
      simp [permission]

end RBACABAC

structure EvidenceEvent (Payload : Type) where
  eventId : String
  executionId : String
  eventType : String
  payload : Payload
  timestamp : DateTime
  previousHash : Option String
  contentHash : String

structure HashedFields (Payload : Type) where
  eventId : String
  executionId : String
  eventType : String
  payload : Payload
  previousHash : Option String

namespace EvidenceEvent

variable {Payload : Type}

def hashed (event : EvidenceEvent Payload) : HashedFields Payload :=
  ⟨event.eventId, event.executionId, event.eventType, event.payload, event.previousHash⟩

def ofExecution (execId : Option String) (event : EvidenceEvent Payload) : Bool :=
  execId.all (event.executionId == ·)

end EvidenceEvent

/-- The arguments of `append`, with the identifier that it draws and the clock that it
reads. -/
structure EvidenceEntry (Payload : Type) where
  executionId : String
  eventType : String
  payload : Payload
  uuid : Uuid
  now : DateTime

/-- The events of the ledger; `_ids` are their identifiers. -/
abbrev EvidenceLedger (Payload : Type) := List (EvidenceEvent Payload)

namespace EvidenceLedger

variable {Payload : Type} (digest : HashedFields Payload → String)

def lastHash (ledger : EvidenceLedger Payload) : Option String :=
  ledger.getLast?.map (·.contentHash)

def entered (entry : EvidenceEntry Payload) (prev : Option String) :
    EvidenceEvent Payload where
  eventId := entry.uuid.str
  executionId := entry.executionId
  eventType := entry.eventType
  payload := entry.payload
  timestamp := entry.now
  previousHash := prev
  contentHash := digest
    ⟨entry.uuid.str, entry.executionId, entry.eventType, entry.payload, prev⟩

def append (entry : EvidenceEntry Payload) (ledger : EvidenceLedger Payload) :
    Except PyError (EvidenceLedger Payload × EvidenceEvent Payload) :=
  if entry.uuid.str ∈ ledger.map (·.eventId) then
    .error ⟨.valueError, "duplicate evidence event"⟩
  else
    let event := entered digest entry ledger.lastHash
    .ok (ledger ++ [event], event)

def events (execId : Option String) (ledger : EvidenceLedger Payload) :
    List (EvidenceEvent Payload) :=
  ledger.filter (·.ofExecution execId)

end EvidenceLedger

end Ois.Production
