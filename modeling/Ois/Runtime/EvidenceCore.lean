import Ois.Library.DateTime
import Ois.Library.HashChain
import Ois.Library.JsonText
import Ois.Library.Machine
import Ois.Library.Uuid
import Ois.Kernel.PyValues

/-!
# The primitives of the evidence runtime

`runtime/evidence/core.py`: the records of the runtime, and the ledger `EvidenceLedgerV1`. An
event of the ledger carries the digest of its own fields, the digest of the event before it among
them.
-/

namespace Ois.Runtime

open Ois.Library Ois.Kernel HashChain Json

/-- `canonical_digest`, for the digest of the bytes of a text. -/
def canonicalDigest (sha256 : Json.Text → String) (value : Json) : String :=
  sha256 (dumpsSorted value)

structure LedgerEvent where
  sequence : Int
  eventType : String
  runId : Uuid
  payload : Members
  timestamp : DateTime
  previousDigest : String
  eventDigest : String
  deriving DecidableEq, Repr

namespace LedgerEvent

def covered (event : LedgerEvent) : Members :=
  [("sequence", .int event.sequence), ("event_type", .str event.eventType),
    ("run_id", .str event.runId.str), ("payload", .obj event.payload),
    ("timestamp", .str event.timestamp.isoformat),
    ("previous_digest", .str event.previousDigest)]

/-- Equal, but for the order of the keys in the payload. -/
structure Same (event other : LedgerEvent) : Prop where
  sequence : event.sequence = other.sequence
  eventType : event.eventType = other.eventType
  runId : event.runId = other.runId
  payload : sortKeys (.obj event.payload) = sortKeys (.obj other.payload)
  timestamp : event.timestamp = other.timestamp
  previousDigest : event.previousDigest = other.previousDigest
  eventDigest : event.eventDigest = other.eventDigest

end LedgerEvent

/-- The arguments of `append`, and the clock that it reads. -/
structure LedgerAppend where
  runId : Uuid
  eventType : String
  payload : Members
  now : DateTime
  deriving DecidableEq, Repr

namespace EvidenceLedgerV1

variable (sha256 : Json.Text → String)

def genesis : String := String.ofList (List.replicate 64 '0')

def lastDigest (events : List LedgerEvent) : String :=
  (events.getLast?.map (·.eventDigest)).getD genesis

def undigested (call : LedgerAppend) (events : List LedgerEvent) : LedgerEvent where
  sequence := events.length + 1
  eventType := call.eventType
  runId := call.runId
  payload := call.payload
  timestamp := call.now
  previousDigest := lastDigest events
  eventDigest := ""

def digestOf (event : LedgerEvent) : String := canonicalDigest sha256 (.obj event.covered)

/-- `append`; the lock makes it one step. -/
def append : Machine LedgerAppend (List LedgerEvent) LedgerEvent := fun call events =>
  let event := { undigested call events with
    eventDigest := digestOf sha256 (undigested call events) }
  (events ++ [event], event)

/-- The loop of `verify`. -/
def verifyFrom (expectedSequence : Int) (previous : String) : List LedgerEvent → Bool
  | [] => true
  | event :: rest =>
    if event.sequence ≠ expectedSequence ∨ event.previousDigest ≠ previous then false
    else if digestOf sha256 event ≠ event.eventDigest then false
    else verifyFrom (expectedSequence + 1) event.eventDigest rest

def verify (events : List LedgerEvent) : Bool := verifyFrom sha256 1 genesis events

/-- What the ledger is to show of tampering. -/
structure TamperEvident : Prop where
  appended : ∀ calls, verify sha256 ((append sha256).run calls []) = true
  determined : ∀ events others, verify sha256 events = true → verify sha256 others = true →
    events.getLast?.map (·.eventDigest) = others.getLast?.map (·.eventDigest) →
      List.Forall₂ LedgerEvent.Same events others
  edited : ∀ events others, verify sha256 events = true →
    events.getLast?.map (·.eventDigest) = others.getLast?.map (·.eventDigest) →
      ¬List.Forall₂ LedgerEvent.Same events others → verify sha256 others = false

section chains

variable {sha256}

variable {events : List LedgerEvent}

theorem verify_from_iff {expectedSequence : Int} {previous : String} :
    verifyFrom sha256 expectedSequence previous events = true ↔
      HashChain.Linked (·.sequence) (·.sequence + 1) expectedSequence events ∧
      HashChain.Linked (·.previousDigest) (·.eventDigest) previous events ∧
      ∀ event ∈ events, digestOf sha256 event = event.eventDigest := by
  induction events generalizing expectedSequence previous with
  | nil => simp [verifyFrom, HashChain.Linked]
  | cons event rest ih =>
    simp only [verifyFrom, HashChain.Linked, List.forall_mem_cons]
    by_cases placed : event.sequence ≠ expectedSequence ∨ event.previousDigest ≠ previous
    · rw [if_pos placed]
      constructor
      · exact fun same => absurd same Bool.false_ne_true
      · rintro ⟨⟨n, _⟩, ⟨named, _⟩, _⟩
        exact absurd placed (by simp [n, named])
    · rw [if_neg placed]
      simp only [not_or, not_not] at placed
      obtain ⟨rfl, rfl⟩ := placed
      by_cases digested : digestOf sha256 event = event.eventDigest
      · rw [if_neg (not_not.mpr digested), ih]
        constructor
        · rintro ⟨numbers, links, others⟩
          exact ⟨⟨rfl, numbers⟩, ⟨rfl, links⟩, digested, others⟩
        · rintro ⟨⟨_, numbers⟩, ⟨_, links⟩, _, others⟩
          exact ⟨numbers, links, others⟩
      · rw [if_pos digested]
        constructor
        · exact fun same => absurd same Bool.false_ne_true
        · rintro ⟨_, _, here, _⟩
          exact absurd here digested

theorem verify_iff :
    verify sha256 events = true ↔ HashChain.Linked (·.sequence) (·.sequence + 1) 1 events ∧
      HashChain.Linked (·.previousDigest) (·.eventDigest) genesis events ∧
      ∀ event ∈ events, digestOf sha256 event = event.eventDigest :=
  verify_from_iff

theorem last_digest_eq_tip (events : List LedgerEvent) :
    lastDigest events = tip (·.eventDigest) genesis events :=
  (tip_eq_getLast genesis events).symm

theorem tip_sequence {start : Int}
    (numbers : HashChain.Linked (·.sequence) (·.sequence + 1) start events) :
    tip (fun event : LedgerEvent => event.sequence + 1) start events = start + events.length := by
  induction events generalizing start with
  | nil => simp [tip]
  | cons event rest ih =>
    have first : event.sequence = start := numbers.1
    rw [tip, ih numbers.2, List.length_cons]
    dsimp only
    omega

theorem digest_of_undigested (call : LedgerAppend) (events : List LedgerEvent) (digest : String) :
    digestOf sha256 { undigested call events with eventDigest := digest } =
      digestOf sha256 (undigested call events) := rfl

theorem verify_append (call : LedgerAppend) (verified : verify sha256 events = true) :
    verify sha256 ((append sha256).next call events) = true := by
  obtain ⟨numbers, links, digests⟩ := verify_iff.mp verified
  rw [Machine.next, append, verify_iff]
  refine ⟨linked_concat.mpr ⟨numbers, ?_⟩, linked_concat.mpr ⟨links, last_digest_eq_tip events⟩, ?_⟩
  · rw [tip_sequence numbers]
    exact Int.add_comm _ _
  · intro event mem
    rcases List.mem_append.mp mem with past | new
    · exact digests event past
    · rw [List.mem_singleton.mp new]
      exact digest_of_undigested call events _

theorem verify_appended (calls : List LedgerAppend) :
    verify sha256 ((append sha256).run calls []) = true := by
  have keeps : ∀ call events, verify sha256 events = true →
      verify sha256 ((append sha256).next call events) = true := fun call _ => verify_append call
  exact Machine.run_invariant keeps calls rfl

section

variable (injective : ∀ value other, canonicalDigest sha256 value = canonicalDigest sha256 other →
    sortKeys value = sortKeys other)

include injective

theorem same_of_digest
    {event other : LedgerEvent} (digested : digestOf sha256 event = event.eventDigest)
    (otherDigested : digestOf sha256 other = other.eventDigest)
    (same : event.eventDigest = other.eventDigest) : LedgerEvent.Same event other := by
  rw [← digested, ← otherDigested] at same
  have read := lookup_of_sorted (injective _ _ same)
  have sequence := read "sequence"
  have kind := read "event_type"
  have runId := read "run_id"
  have body := read "payload"
  have timestamp := read "timestamp"
  have previousDigest := read "previous_digest"
  simp only [LedgerEvent.covered, List.lookup_cons, String.reduceBEq, Option.map_some,
    Option.some.injEq] at sequence kind runId body timestamp previousDigest
  simp only [sortKeys, int.injEq, str.injEq] at sequence kind runId timestamp previousDigest
  exact ⟨sequence, kind, Uuid.str_injective runId, body,
    DateTime.isoformat_injective timestamp, previousDigest,
    by rw [← digested, ← otherDigested, same]⟩

theorem length_of_last_digest
    {events others : List LedgerEvent} (verified : verify sha256 events = true)
    (otherVerified : verify sha256 others = true)
    (last : events.getLast?.map (·.eventDigest) = others.getLast?.map (·.eventDigest)) :
    events.length = others.length := by
  obtain ⟨numbers, _, digests⟩ := verify_iff.mp verified
  obtain ⟨otherNumbers, _, otherDigests⟩ := verify_iff.mp otherVerified
  have count := tip_sequence numbers
  have otherCount := tip_sequence otherNumbers
  rw [tip_eq_getLast] at count otherCount
  cases final : events.getLast? with
  | none =>
    rw [final, Option.map_none, eq_comm, Option.map_eq_none_iff] at last
    rw [List.getLast?_eq_none_iff.mp final, List.getLast?_eq_none_iff.mp last]
  | some event =>
    rw [final, Option.map_some, eq_comm, Option.map_eq_some_iff] at last
    obtain ⟨other, otherFinal, same⟩ := last
    have matching := same_of_digest injective (digests event (List.mem_of_getLast? final))
      (otherDigests other (List.mem_of_getLast? otherFinal)) same.symm
    have n := matching.sequence
    simp only [final, otherFinal, Option.map_some, Option.getD_some] at count otherCount
    omega

theorem determined_by_last
    {events others : List LedgerEvent} (verified : verify sha256 events = true)
    (otherVerified : verify sha256 others = true)
    (last : events.getLast?.map (·.eventDigest) = others.getLast?.map (·.eventDigest)) :
    List.Forall₂ LedgerEvent.Same events others := by
  have length := length_of_last_digest injective verified otherVerified last
  obtain ⟨_, links, digests⟩ := verify_iff.mp verified
  obtain ⟨_, otherLinks, otherDigests⟩ := verify_iff.mp otherVerified
  refine forall₂_of_tip ?_ links otherLinks digests otherDigests length ?_
  · intro event other digested otherDigested same
    have matching := same_of_digest injective digested otherDigested same
    exact ⟨matching, matching.previousDigest⟩
  · rw [tip_eq_getLast, tip_eq_getLast, last]

end

end chains

/-- With a digest that tells JSON values apart, the ledger verifies whatever is appended,
and the last digest of a verified ledger fixes all of it. -/
theorem ledger_tamper_evident
    (injective : ∀ value other, canonicalDigest sha256 value = canonicalDigest sha256 other →
      sortKeys value = sortKeys other) : TamperEvident sha256 := by
  refine ⟨verify_appended, ?_, ?_⟩
  · intro events others verified otherVerified last
    exact determined_by_last injective verified otherVerified last
  · intro events others verified last different
    cases otherVerified : verify sha256 others with
    | false => rfl
    | true => exact absurd (determined_by_last injective verified otherVerified last) different

theorem plain_ledger_tamper_evident : TamperEvident Json.Text.plain := by
  apply ledger_tamper_evident
  intro value other same
  exact congrArg Json.Text.document (Json.Text.plain_injective same)

end EvidenceLedgerV1

structure EvidenceEnvelope where
  evidenceId : String
  runId : Uuid
  evidenceType : String
  sourceId : String
  observedAt : DateTime
  payloadDigest : String
  provenance : Members
  parentEvidenceIds : List String
  trustClass : String
  schemaVersion : String := "evidence.v1"
  deriving DecidableEq, Repr

/-- What `create` is given besides the run. -/
structure Observation where
  evidenceType : String
  sourceId : String
  payload : Json
  provenance : Option Members := none
  parentEvidenceIds : List String := []
  trustClass : String := "observation"
  observedAt : Option DateTime := none
  deriving DecidableEq, Repr

structure AdmissibilityDecision where
  allowed : Bool
  decisionId : String
  actionDigest : String
  evidenceDigest : String
  policyDigest : String
  reasonCodes : List String := []
  deriving DecidableEq, Repr

/-- `expires_at` is held as the moment that it names. -/
structure SingleUseAuthorization where
  authorizationId : String
  runId : Uuid
  actionDigest : String
  evidenceDigest : String
  policyDigest : String
  issuedAt : DateTime
  expiresAt : Int
  consumed : Bool := false
  deriving DecidableEq, Repr

structure ExecutionReceipt where
  executionId : String
  authorizationId : String
  actionDigest : String
  tool : String
  status : String
  outputDigest : String
  startedAt : DateTime
  completedAt : DateTime
  evidenceIds : List String
  deriving DecidableEq, Repr

/-- `uuid4().hex`. -/
def hexOf (uuid : Uuid) : String := String.ofList uuid.hexDigits

namespace EvidenceEnvelope

def create (sha256 : Json.Text → String) (runId : Uuid) (observation : Observation)
    (now : DateTime) : EvidenceEnvelope :=
  let observed := observation.observedAt.getD now
  let payloadDigest := canonicalDigest sha256 observation.payload
  { evidenceId := canonicalDigest sha256 (.obj [("run_id", .str runId.str),
      ("evidence_type", .str observation.evidenceType),
      ("source_id", .str observation.sourceId),
      ("observed_at", .str observed.isoformat), ("payload_digest", .str payloadDigest),
      ("parent_evidence_ids", .arr (observation.parentEvidenceIds.map .str))])
    runId := runId
    evidenceType := observation.evidenceType
    sourceId := observation.sourceId
    observedAt := observed
    payloadDigest := payloadDigest
    provenance := observation.provenance.getD []
    parentEvidenceIds := observation.parentEvidenceIds
    trustClass := observation.trustClass }

def asRecord (evidence : EvidenceEnvelope) : Members :=
  [("evidence_id", .str evidence.evidenceId), ("run_id", .str evidence.runId.str),
    ("evidence_type", .str evidence.evidenceType), ("source_id", .str evidence.sourceId),
    ("observed_at", .str evidence.observedAt.isoformat),
    ("payload_digest", .str evidence.payloadDigest), ("provenance", .obj evidence.provenance),
    ("parent_evidence_ids", .arr (evidence.parentEvidenceIds.map .str)),
    ("trust_class", .str evidence.trustClass),
    ("schema_version", .str evidence.schemaVersion)]

end EvidenceEnvelope

namespace SingleUseAuthorization

def consume (auth : SingleUseAuthorization) (now : DateTime) :
    Except PyError SingleUseAuthorization :=
  if auth.consumed then .error ⟨.permissionError, "authorization_replay"⟩
  else if auth.expiresAt ≤ now.instant then
    .error ⟨.permissionError, "authorization_expired"⟩
  else .ok { auth with consumed := true }

end SingleUseAuthorization

/-- `canonical_digest(sorted(evidence_ids))`. -/
def evidenceDigest (sha256 : Json.Text → String) (evidenceIds : List String) : String :=
  canonicalDigest sha256 (.arr ((evidenceIds.insertionSort (· ≤ ·)).map .str))

/-- `issued + timedelta(seconds=ttl_seconds)` in UTC. -/
def expiry (issued : DateTime) (ttlSeconds : Int) : Except PyError Int :=
  plusSeconds issued.instant ttlSeconds

def authorizationFor (sha256 : Json.Text → String) (runId : Uuid) (action : Members)
    (evidenceIds : List String) (policy : Members) (ttlSeconds : Int) (issued : DateTime)
    (uuid : Uuid) : Except PyError SingleUseAuthorization := do
  let expiresAt ← expiry issued ttlSeconds
  return { authorizationId := "AUTH-" ++ hexOf uuid
           runId := runId
           actionDigest := canonicalDigest sha256 (.obj action)
           evidenceDigest := evidenceDigest sha256 evidenceIds
           policyDigest := canonicalDigest sha256 (.obj policy)
           issuedAt := issued
           expiresAt := expiresAt }

end Ois.Runtime
