import Ois.Library.HashChain
import Ois.Library.Machine
import Ois.Library.PyObject
import Ois.Production.ControlPlane

/-!
# The durable ledger of production evidence

`SQLiteProductionEvidenceLedger` of `control_plane/sqlite_evidence.py`.
-/

namespace Ois.ControlPlane

open Ois.Library Ois.Production
open Ois.Kernel (PyError)

structure PyDict where
  entries : List (PyKey × PyObject)
  valid : PyObject.Valid (.dict entries)

/-- A row of `production_evidence_events`, in the order of `sequence`. -/
structure ProductionEvidenceRow where
  eventId : String
  executionId : String
  eventType : String
  payloadJson : Json.Text
  timestamp : String
  previousHash : Option String
  contentHash : String

structure SQLiteProductionEvidenceLedger where
  rows : List ProductionEvidenceRow := []
  isOpen : Bool := true

inductive LedgerStep where
  | append (entry : EvidenceEntry PyDict)
  | close
  | reopen

/-- How Python writes values, and the digest of a text. -/
structure EvidenceDigest where
  writing : PyWriting
  sha256 : String → String

namespace SQLiteProductionEvidenceLedger

variable (digests : EvidenceDigest)

def optionalText : Option String → PyObject
  | none => .none
  | some text => .str text

/-- `_digest` of the tuple of the fields. -/
def digest (fields : HashedFields PyObject) : String :=
  digests.sha256 (PyObject.repr digests.writing (.tuple
    [.str fields.eventId, .str fields.executionId, .str fields.eventType, fields.payload,
      optionalText fields.previousHash]))

def closedError : PyError :=
  ⟨.other "ProgrammingError", "Cannot operate on a closed database."⟩

def uniqueError : PyError :=
  ⟨.other "IntegrityError", "UNIQUE constraint failed: production_evidence_events.event_id"⟩

def rowOf (event : EvidenceEvent PyObject) : ProductionEvidenceRow where
  eventId := event.eventId
  executionId := event.executionId
  eventType := event.eventType
  payloadJson := ⟨event.payload.dumps⟩
  timestamp := event.timestamp.isoformat
  previousHash := event.previousHash
  contentHash := event.contentHash

/-- The event that `append` returns. -/
def made (entry : EvidenceEntry PyDict) (rows : List ProductionEvidenceRow) :
    EvidenceEvent PyObject :=
  EvidenceLedger.entered (digest digests)
    { entry with payload := .dict entry.payload.entries } (rows.getLast?.map (·.contentHash))

def append (entry : EvidenceEntry PyDict) (ledger : SQLiteProductionEvidenceLedger) :
    SQLiteProductionEvidenceLedger × Except PyError (EvidenceEvent PyObject) :=
  if ledger.isOpen = false then (ledger, .error closedError)
  else if entry.uuid.str ∈ ledger.rows.map (·.eventId) then (ledger, .error uniqueError)
  else
    let event := made digests entry ledger.rows
    ({ ledger with rows := ledger.rows ++ [rowOf event] }, .ok event)

/-- `fromisoformat` refuses a badly formed text. -/
def eventOf (row : ProductionEvidenceRow) : Except PyError (EvidenceEvent PyObject) :=
  match DateTime.fromisoformat? row.timestamp with
  | none => .error ⟨.valueError, "Invalid isoformat string: " ++ Kernel.reprStr row.timestamp⟩
  | some timestamp => .ok
      { eventId := row.eventId
        executionId := row.executionId
        eventType := row.eventType
        payload := PyObject.loads row.payloadJson.document
        timestamp := timestamp
        previousHash := row.previousHash
        contentHash := row.contentHash }

def events (execId : Option String) (ledger : SQLiteProductionEvidenceLedger) :
    Except PyError (List (EvidenceEvent PyObject)) :=
  if ledger.isOpen = false then .error closedError
  else (ledger.rows.filter fun row => execId.all (row.executionId == ·)).mapM eventOf

/-- The loop of `verify_chain`. -/
def verifyFrom (prev : Option String) : List (EvidenceEvent PyObject) → Bool
  | [] => true
  | event :: rest =>
    let expected := digest digests
      ⟨event.eventId, event.executionId, event.eventType, event.payload, prev⟩
    if event.previousHash ≠ prev ∨ event.contentHash ≠ expected then false
    else verifyFrom (some event.contentHash) rest

def verifyChain (ledger : SQLiteProductionEvidenceLedger) : Except PyError Bool := do
  return verifyFrom digests none (← ledger.events none)

/-- One process; the answer is what `append` returns or raises. -/
def process : Machine LedgerStep SQLiteProductionEvidenceLedger
    (Option (Except PyError (EvidenceEvent PyObject))) := fun step ledger =>
  match step with
  | .append entry => ((append digests entry ledger).1, some (append digests entry ledger).2)
  | .close => ({ ledger with isOpen := false }, none)
  | .reopen => ({ ledger with isOpen := true }, none)

def ledgerAfter (steps : List LedgerStep) : SQLiteProductionEvidenceLedger :=
  (process digests).run steps {}

def eventIn : Option (Except PyError (EvidenceEvent PyObject)) → Option (EvidenceEvent PyObject)
  | some (.ok event) => some event
  | _ => none

/-- The events that the calls of `append` have returned. -/
def returned (steps : List LedgerStep) : List (EvidenceEvent PyObject) :=
  ((process digests).answers steps {}).filterMap eventIn

/-- What the ledger, opened after the steps, says of them. -/
structure Durable (steps : List LedgerStep) : Prop where
  verifies : verifyChain digests { ledgerAfter digests steps with isOpen := true } = .ok true
  returns : ∀ execId, events execId { ledgerAfter digests steps with isOpen := true } =
    .ok ((returned digests steps).filter (·.ofExecution execId))

def Goes (entry : EvidenceEntry PyDict) (ledger : SQLiteProductionEvidenceLedger) : Prop :=
  ledger.isOpen = true ∧ entry.uuid.str ∉ ledger.rows.map (·.eventId)

/-- The payload has no tuple, and only texts as keys. -/
def PlainStep (before : List LedgerStep) (step : LedgerStep) : Prop :=
  ∀ entry, step = .append entry → Goes entry (ledgerAfter digests before) →
    PyObject.Plain (.dict entry.payload.entries)

section steps

variable {digests}

variable {entry : EvidenceEntry PyDict} (steps : List LedgerStep)

theorem append_goes {ledger : SQLiteProductionEvidenceLedger} (goes : Goes entry ledger) :
    append digests entry ledger =
      ({ ledger with rows := ledger.rows ++ [rowOf (made digests entry ledger.rows)] },
        .ok (made digests entry ledger.rows)) := by
  unfold append
  rw [if_neg (by simp [goes.1]), if_neg goes.2]

theorem append_fails {ledger : SQLiteProductionEvidenceLedger} (fails : ¬Goes entry ledger) :
    (append digests entry ledger).1 = ledger ∧
      eventIn (some (append digests entry ledger).2) = none := by
  unfold append
  split_ifs with closed taken
  · exact ⟨rfl, rfl⟩
  · exact ⟨rfl, rfl⟩
  · exact absurd ⟨by simpa using closed, taken⟩ fails

theorem step_cases (step : LedgerStep) (ledger : SQLiteProductionEvidenceLedger) :
    (∃ entry, step = .append entry ∧ Goes entry ledger ∧
        ((process digests).next step ledger).rows =
          ledger.rows ++ [rowOf (made digests entry ledger.rows)] ∧
        eventIn ((process digests).answer step ledger) =
          some (made digests entry ledger.rows)) ∨
      ((∀ entry, step = .append entry → ¬Goes entry ledger) ∧
        ((process digests).next step ledger).rows = ledger.rows ∧
        eventIn ((process digests).answer step ledger) = none) := by
  cases step with
  | close | reopen => exact Or.inr ⟨nofun, rfl, rfl⟩
  | append entry =>
    simp only [Machine.next, Machine.answer, process]
    by_cases goes : Goes entry ledger
    · rw [append_goes goes]
      exact Or.inl ⟨entry, rfl, goes, rfl, rfl⟩
    · obtain ⟨same, none⟩ := @append_fails digests entry ledger goes
      refine Or.inr ⟨?_, by rw [same], none⟩
      rintro other ⟨rfl⟩
      exact goes

theorem ledger_after_concat (step : LedgerStep) :
    ledgerAfter digests (steps ++ [step]) =
      (process digests).next step (ledgerAfter digests steps) :=
  (process digests).run_concat steps step {}

theorem returned_concat (step : LedgerStep) :
    returned digests (steps ++ [step]) = returned digests steps ++
      (eventIn ((process digests).answer step (ledgerAfter digests steps))).toList :=
  (process digests).filter_map_answers_concat eventIn steps step {}

theorem rows_eq : (ledgerAfter digests steps).rows = (returned digests steps).map rowOf := by
  induction steps using List.reverseRecOn with
  | nil => rfl
  | append_singleton past step ih =>
    rw [ledger_after_concat, returned_concat, List.map_append, ← ih]
    rcases step_cases step (ledgerAfter digests past) with
      ⟨entry, _, _, rows, event⟩ | ⟨_, rows, event⟩
    · rw [rows, event]
      rfl
    · rw [rows, event]
      simp

/-- What `events` makes of the row of an event. -/
def reread (event : EvidenceEvent PyObject) : EvidenceEvent PyObject :=
  { event with payload := PyObject.loads event.payload.dumps }

theorem event_of_row (event : EvidenceEvent PyObject) :
    eventOf (rowOf event) = .ok (reread event) := by
  simp only [eventOf, rowOf, DateTime.fromisoformat_isoformat]
  rfl

theorem map_m_event_of (events : List (EvidenceEvent PyObject)) :
    (events.map rowOf).mapM eventOf = .ok (events.map reread) := by
  induction events with
  | nil => rfl
  | cons event rest ih =>
    rw [List.map_cons, List.mapM_cons, event_of_row, ih]
    rfl

theorem events_eq (execId : Option String) :
    events execId { ledgerAfter digests steps with isOpen := true } =
      .ok (((returned digests steps).filter (·.ofExecution execId)).map reread) := by
  unfold events
  rw [if_neg (by simp), rows_eq, List.filter_map]
  exact map_m_event_of _

theorem payload_of_step {event : EvidenceEvent PyObject} {steps : List LedgerStep}
    {rows : List ProductionEvidenceRow}
    (mem : event ∈ returned digests steps ++ [made digests entry rows]) :
    event ∈ returned digests steps ∨ event.payload = .dict entry.payload.entries := by
  rcases List.mem_append.mp mem with past | new
  · exact Or.inl past
  · rw [List.mem_singleton.mp new]
    exact Or.inr rfl

theorem returned_valid : ∀ event ∈ returned digests steps, PyObject.Valid event.payload := by
  induction steps using List.reverseRecOn with
  | nil => exact nofun
  | append_singleton past step ih =>
    rw [returned_concat]
    rcases step_cases step (ledgerAfter digests past) with
      ⟨entry, _, _, _, event⟩ | ⟨_, _, event⟩
    · rw [event, Option.toList_some]
      intro event mem
      rcases payload_of_step mem with before | new
      · exact ih event before
      · rw [new]
        exact entry.payload.valid
    · rw [event, Option.toList_none, List.append_nil]
      exact ih

theorem returned_plain_iff :
    (∀ event ∈ returned digests steps, PyObject.Plain event.payload) ↔
      Historically (PlainStep digests) steps := by
  induction steps using List.reverseRecOn with
  | nil => exact ⟨fun _ => historically_nil _, fun _ => nofun⟩
  | append_singleton past step ih =>
    rw [historically_concat, ← ih, returned_concat]
    rcases step_cases step (ledgerAfter digests past) with
      ⟨entry, rfl, goes, _, event⟩ | ⟨fails, _, event⟩
    · rw [event, Option.toList_some]
      constructor
      · intro plain
        refine ⟨fun event before => plain event (List.mem_append_left _ before), ?_⟩
        rintro other ⟨rfl⟩ _
        exact plain _ List.mem_concat_self
      · rintro ⟨before, last⟩ event mem
        rcases payload_of_step mem with known | new
        · exact before event known
        · rw [new]
          exact last entry rfl goes
    · rw [event, Option.toList_none, List.append_nil]
      constructor
      · intro plain
        refine ⟨plain, ?_⟩
        intro entry made goes
        exact absurd goes (fails entry made)
      · exact fun both => both.1

structure Chained (digests : EvidenceDigest) (events : List (EvidenceEvent PyObject)) : Prop where
  linked : HashChain.Linked (·.previousHash) (fun event => some event.contentHash) none events
  hashed : ∀ event ∈ events, event.contentHash = digest digests event.hashed

theorem last_hash_eq_tip (events : List (EvidenceEvent PyObject)) :
    (events.map rowOf).getLast?.map (·.contentHash) =
      HashChain.tip (fun event : EvidenceEvent PyObject => some event.contentHash) none events := by
  rw [HashChain.tip_eq_getLast, List.getLast?_map]
  cases events.getLast? with
  | none => rfl
  | some last => rfl

theorem returned_chained : Chained digests (returned digests steps) := by
  induction steps using List.reverseRecOn with
  | nil => exact ⟨trivial, nofun⟩
  | append_singleton past step ih =>
    rw [returned_concat]
    rcases step_cases step (ledgerAfter digests past) with
      ⟨entry, _, _, _, event⟩ | ⟨_, _, event⟩
    · rw [event, Option.toList_some]
      constructor
      · refine HashChain.linked_concat.mpr ⟨ih.linked, ?_⟩
        rw [rows_eq, ← last_hash_eq_tip]
        rfl
      · intro event mem
        rcases List.mem_append.mp mem with before | new
        · exact ih.hashed event before
        · rw [List.mem_singleton.mp new]
          rfl
    · rw [event, Option.toList_none, List.append_nil]
      exact ih

theorem verify_of_chained {prev : Option String} {events : List (EvidenceEvent PyObject)}
    (linked : HashChain.Linked (·.previousHash) (fun event => some event.contentHash)
      prev events)
    (hashed : ∀ event ∈ events, event.contentHash = digest digests event.hashed) :
    verifyFrom digests prev events = true := by
  induction events generalizing prev with
  | nil => rfl
  | cons event rest ih =>
    obtain ⟨rfl, others⟩ := linked
    rw [List.forall_mem_cons] at hashed
    have expected : event.contentHash = digest digests
      ⟨event.eventId, event.executionId, event.eventType, event.payload, event.previousHash⟩ :=
      hashed.1
    rw [verifyFrom, ← expected]
    simp only [ne_eq, not_true_eq_false, or_self, if_false]
    exact ih others hashed.2

theorem reread_eq_iff {event : EvidenceEvent PyObject} (valid : PyObject.Valid event.payload) :
    reread event = event ↔ PyObject.Plain event.payload := by
  rw [← PyObject.loads_dumps_iff event.payload valid]
  constructor
  · intro same
    exact congrArg EvidenceEvent.payload same
  · intro back
    rw [reread, back]

end steps

theorem filter_all (events : List (EvidenceEvent PyObject)) :
    events.filter (·.ofExecution none) = events :=
  List.filter_eq_self.mpr fun _ _ => rfl

theorem map_reread_iff {events : List (EvidenceEvent PyObject)} :
    events.map reread = events ↔ ∀ event ∈ events, reread event = event := by
  have mapped := @List.map_inj_left _ _ events reread id
  rwa [List.map_id] at mapped

/-- The ledger verifies and returns what was appended exactly when no payload that goes in
has a tuple or a key that is not a text. -/
theorem durable_iff_plain (digests : EvidenceDigest) (steps : List LedgerStep) :
    Durable digests steps ↔ Historically (PlainStep digests) steps := by
  rw [← returned_plain_iff]
  constructor
  · intro durable event mem
    have read := durable.returns none
    rw [events_eq, filter_all, Except.ok.injEq, map_reread_iff] at read
    exact (reread_eq_iff (returned_valid steps event mem)).mp (read event mem)
  · intro plain
    have same : ∀ event ∈ returned digests steps, reread event = event := by
      intro event mem
      exact (reread_eq_iff (returned_valid steps event mem)).mpr (plain event mem)
    have returns : ∀ execId,
        events execId { ledgerAfter digests steps with isOpen := true } =
          .ok ((returned digests steps).filter (·.ofExecution execId)) := by
      intro execId
      rw [events_eq, Except.ok.injEq, map_reread_iff]
      exact fun event mem => same event (List.mem_of_mem_filter mem)
    refine ⟨?_, returns⟩
    have chained := @returned_chained digests steps
    rw [verifyChain, returns none, filter_all]
    exact congrArg Except.ok (verify_of_chained chained.linked chained.hashed)

def tupleEntry : EvidenceEntry PyDict where
  executionId := "execution"
  eventType := "measured"
  payload := ⟨[(.text "a", .tuple [.int 1, .int 2])], by
    simp [PyObject.Valid, PyObject.ValidEntries, PyObject.ValidItems, Dict.keys]⟩
  uuid := ⟨1⟩
  now := DateTime.epoch

def plainDigests : EvidenceDigest where
  writing := ⟨Kernel.reprStr, fun _ => ""⟩
  sha256 := id

theorem tuple_not_verified :
    verifyChain plainDigests (ledgerAfter plainDigests [.append tupleEntry, .close, .reopen]) =
        .ok false ∧
      ¬Durable plainDigests [.append tupleEntry, .close, .reopen] := by
  have refuted : verifyChain plainDigests
      (ledgerAfter plainDigests [.append tupleEntry, .close, .reopen]) = .ok false := by
    decide +kernel
  refine ⟨refuted, ?_⟩
  intro durable
  have verified := durable.verifies
  rw [show { ledgerAfter plainDigests [.append tupleEntry, .close, .reopen] with
    isOpen := true } = ledgerAfter plainDigests [.append tupleEntry, .close, .reopen] from rfl,
    refuted] at verified
  cases verified

end SQLiteProductionEvidenceLedger

end Ois.ControlPlane
