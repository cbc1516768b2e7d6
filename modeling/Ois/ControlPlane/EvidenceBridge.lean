import Mathlib.Data.List.Forall2
import Ois.Library.Machine
import Ois.Library.PyObject
import Ois.Library.PyText
import Ois.Production.ControlPlane

/-!
# Kernel evidence in the shared ledger

`KernelEvidenceBridge` of `control_plane/lifecycle.py`. The fields of a kernel event go into one
dictionary together with its data, and `list` takes them apart again by the names of the keys.
-/

namespace Ois.ControlPlane

open Ois.Library Ois.Production EvidenceLedger
open Ois.Kernel (PyError)

/-- The objects that data may hold, with `None`, the texts and `str`. -/
structure PyObjects (Object : Type) where
  text : String → Object
  none : Object
  str : Object → String
  str_text : ∀ value, str (text value) = value

/-- `list` hands back whatever object it finds as `correlation_id` and `causation_id`. -/
structure KernelEvidenceEvent (Object : Type) where
  executionId : Uuid
  eventType : String
  timestamp : DateTime
  eventId : Uuid
  actor : String := "kernel"
  component : String := "ois.kernel"
  data : Dict String Object := []
  correlationId : Object
  causationId : Object
  deriving DecidableEq

/-- The arguments of `record`, with the identifier that it draws and the clock that it
reads. -/
structure RecordCall (Object : Type) where
  executionId : Uuid
  eventType : String
  data : Option (Dict String Object) := none
  actor : String := "kernel"
  component : String := "ois.kernel"
  correlationId : Object
  causationId : Object
  uuid : Uuid
  now : DateTime

def RecordCall.event {Object : Type} (call : RecordCall Object) : KernelEvidenceEvent Object where
  executionId := call.executionId
  eventType := call.eventType
  timestamp := call.now
  eventId := call.uuid
  actor := call.actor
  component := call.component
  data := call.data.getD []
  correlationId := call.correlationId
  causationId := call.causationId

/-- Each call ends in an `append` of the ledger, which draws an identifier and reads the
clock. -/
inductive BridgeCall (Object : Type) where
  | append (event : KernelEvidenceEvent Object) (uuid : Uuid) (now : DateTime)
  | record (call : RecordCall Object) (uuid : Uuid) (now : DateTime)
  | direct (entry : EvidenceEntry (Dict String Object))

def BridgeCall.event? {Object : Type} : BridgeCall Object → Option (KernelEvidenceEvent Object)
  | .append event _ _ => some event
  | .record call _ _ => some call.event
  | .direct _ => none

namespace KernelEvidenceBridge

variable {Object : Type} (objects : PyObjects Object)
  (digest : HashedFields (Dict String Object) → String)

def reserved : List String :=
  ["kernel_event_id", "actor", "component", "timestamp", "correlation_id", "causation_id"]

/-- The dictionary that `append` makes of an event. -/
def payloadOf (event : KernelEvidenceEvent Object) : Dict String Object :=
  let named := event.data.set "kernel_event_id" (objects.text event.eventId.str)
  let acted := (named.set "actor" (objects.text event.actor)).set "component"
    (objects.text event.component)
  ((acted.set "timestamp" (objects.text event.timestamp.isoformat)).set "correlation_id"
    event.correlationId).set "causation_id" event.causationId

def entryOf (event : KernelEvidenceEvent Object) (uuid : Uuid) (now : DateTime) :
    EvidenceEntry (Dict String Object) where
  executionId := event.executionId.str
  eventType := event.eventType
  payload := payloadOf objects event
  uuid := uuid
  now := now

def entry : BridgeCall Object → EvidenceEntry (Dict String Object)
  | .append event uuid now => entryOf objects event uuid now
  | .record call uuid now => entryOf objects call.event uuid now
  | .direct entry => entry

def badUuid : PyError := ⟨.valueError, "badly formed hexadecimal UUID string"⟩

def uuidOf (text : String) : Except PyError Uuid :=
  match PyText.uuid? text with
  | some uuid => .ok uuid
  | none => .error badUuid

/-- What `list` makes of an entry of the ledger. -/
def eventOf (entry : EvidenceEvent (Dict String Object)) :
    Except PyError (KernelEvidenceEvent Object) := do
  let execId ← uuidOf entry.executionId
  let eventId ← uuidOf entry.eventId
  return { executionId := execId
           eventType := entry.eventType
           timestamp := entry.timestamp
           eventId := eventId
           actor := objects.str ((entry.payload.lookup "actor").getD (objects.text "kernel"))
           component :=
             objects.str ((entry.payload.lookup "component").getD (objects.text "ois.kernel"))
           data := entry.payload.filter fun mem => mem.1 ∉ reserved
           correlationId := (entry.payload.lookup "correlation_id").getD objects.none
           causationId := (entry.payload.lookup "causation_id").getD objects.none }

def list (execId : Option Uuid) (ledger : EvidenceLedger (Dict String Object)) :
    Except PyError (List (KernelEvidenceEvent Object)) :=
  (ledger.events (execId.map Uuid.str)).mapM (eventOf objects)

def calls : Machine (BridgeCall Object) (EvidenceLedger (Dict String Object))
    (Except PyError (Option (KernelEvidenceEvent Object))) := fun call ledger =>
  match ledger.append digest (entry objects call) with
  | .error err => (ledger, .error err)
  | .ok (after, _) => (after, .ok call.event?)

def ledgerAfter (run : List (BridgeCall Object)) : EvidenceLedger (Dict String Object) :=
  (calls objects digest).run run []

def eventIn : Except PyError (Option (KernelEvidenceEvent Object)) →
    Option (KernelEvidenceEvent Object)
  | .ok event => event
  | .error _ => none

def recorded (run : List (BridgeCall Object)) : List (KernelEvidenceEvent Object) :=
  ((calls objects digest).answers run []).filterMap eventIn

def ofExecution (execId : Option Uuid) (event : KernelEvidenceEvent Object) : Bool :=
  execId.all (event.executionId == ·)

/-- `list` returns what was recorded. -/
def Survives (run : List (BridgeCall Object)) : Prop :=
  ∀ execId, list objects execId (ledgerAfter objects digest run) =
    .ok ((recorded objects digest run).filter (ofExecution execId))

def Accepted (call : BridgeCall Object) (ledger : EvidenceLedger (Dict String Object)) : Prop :=
  (entry objects call).uuid.str ∉ ledger.map (·.eventId)

/-- What goes into the ledger is a kernel event, the ledger draws the identifier that the
event has and reads the time that the event has, and the data has no key of the bridge. -/
def Kept (before : List (BridgeCall Object)) (call : BridgeCall Object) : Prop :=
  Accepted objects call (ledgerAfter objects digest before) →
    ∃ event, call.event? = some event ∧ (entry objects call).uuid = event.eventId ∧
      (entry objects call).now = event.timestamp ∧ ∀ key ∈ event.data.keys, key ∉ reserved

section listing

variable {objects} {digest}

theorem call_cases (call : BridgeCall Object) (ledger : EvidenceLedger (Dict String Object)) :
    (Accepted objects call ledger ∧
        (calls objects digest).next call ledger =
          ledger ++ [entered digest (entry objects call) ledger.lastHash] ∧
        eventIn ((calls objects digest).answer call ledger) = call.event?) ∨
      (¬Accepted objects call ledger ∧ (calls objects digest).next call ledger = ledger ∧
        eventIn ((calls objects digest).answer call ledger) = none) := by
  simp only [Machine.next, Machine.answer, calls, append]
  by_cases accepted : Accepted objects call ledger
  · rw [if_neg accepted]
    exact Or.inl ⟨accepted, rfl, rfl⟩
  · rw [if_pos (not_not.mp accepted)]
    exact Or.inr ⟨accepted, rfl, rfl⟩

theorem ledger_after_concat (run : List (BridgeCall Object)) (call : BridgeCall Object) :
    ledgerAfter objects digest (run ++ [call]) =
      (calls objects digest).next call (ledgerAfter objects digest run) :=
  (calls objects digest).run_concat run call []

theorem recorded_concat (run : List (BridgeCall Object)) (call : BridgeCall Object) :
    recorded objects digest (run ++ [call]) = recorded objects digest run ++
      (eventIn ((calls objects digest).answer call (ledgerAfter objects digest run))).toList :=
  (calls objects digest).filter_map_answers_concat eventIn run call []

/-- The event that `list` finds under the identifier and the time of the ledger. -/
def relisted (event : KernelEvidenceEvent Object) (uuid : Uuid) (now : DateTime) :
    KernelEvidenceEvent Object :=
  { event with
    timestamp := now
    eventId := uuid
    data := event.data.filter fun mem => mem.1 ∉ reserved }

theorem filter_set_reserved {key : String} (own : key ∈ reserved) (value : Object)
    (data : Dict String Object) :
    (data.set key value).filter (fun mem => mem.1 ∉ reserved) =
      data.filter fun mem => mem.1 ∉ reserved := by
  induction data with
  | nil => simp [Dict.set, own]
  | cons mem rest ih =>
    obtain ⟨held, cur⟩ := mem
    by_cases same : held = key
    · simp [Dict.set, same, own]
    · rw [Dict.set, if_neg same, List.filter_cons, List.filter_cons, ih]

theorem filter_payload_of (event : KernelEvidenceEvent Object) :
    (payloadOf objects event).filter (fun mem => mem.1 ∉ reserved) =
      event.data.filter fun mem => mem.1 ∉ reserved := by
  simp only [payloadOf]
  repeat rw [filter_set_reserved (by decide)]

theorem event_of_entered (event : KernelEvidenceEvent Object) (uuid : Uuid) (now : DateTime)
    (prev : Option String) :
    eventOf objects (entered digest (entryOf objects event uuid now)
      prev) = .ok (relisted event uuid now) := by
  have uuids : ∀ uuid : Uuid, uuidOf uuid.str = .ok uuid := by
    intro uuid
    rw [uuidOf, PyText.uuid_str]
  have data := @filter_payload_of Object objects event
  simp only [eventOf, entered, entryOf, uuids, data]
  simp [payloadOf, Dict.lookup_set, objects.str_text, relisted, bind, Except.bind, pure,
    Except.pure]

theorem relisted_eq_iff {event : KernelEvidenceEvent Object} {uuid : Uuid} {now : DateTime} :
    relisted event uuid now = event ↔
      uuid = event.eventId ∧ now = event.timestamp ∧
        ∀ key ∈ event.data.keys, key ∉ reserved := by
  have kept : (event.data.filter fun mem => mem.1 ∉ reserved) = event.data ↔
      ∀ key ∈ event.data.keys, key ∉ reserved := by
    simp [List.filter_eq_self, Dict.keys]
  rw [← kept]
  constructor
  · intro same
    exact ⟨congrArg KernelEvidenceEvent.eventId same,
      congrArg KernelEvidenceEvent.timestamp same, congrArg KernelEvidenceEvent.data same⟩
  · rintro ⟨rfl, rfl, data⟩
    rw [relisted, data]

theorem map_m_eq_ok_iff {Item Value : Type} {read : Item → Except PyError Value}
    {items : List Item} {values : List Value} :
    items.mapM read = .ok values ↔ List.Forall₂ (fun item value => read item = .ok value)
      items values := by
  induction items generalizing values with
  | nil => simp [pure, Except.pure, eq_comm]
  | cons item rest ih =>
    rw [List.mapM_cons, List.forall₂_cons_left_iff]
    constructor
    · intro whole
      cases first : read item with
      | error err => simp [first, bind, Except.bind] at whole
      | ok value =>
        cases others : rest.mapM read with
        | error err => simp [first, others, bind, Except.bind] at whole
        | ok tail =>
          simp only [first, others, bind, Except.bind, pure, Except.pure] at whole
          exact ⟨value, tail, rfl, ih.mp others, (Except.ok.inj whole).symm⟩
    · rintro ⟨value, tail, first, others, rfl⟩
      rw [first, ih.mpr others]
      rfl

theorem forall₂_concat_iff {Item Value : Type} {same : Item → Value → Prop}
    {items : List Item} {values : List Value} {item : Item} {value : Value} :
    List.Forall₂ same (items ++ [item]) (values ++ [value]) ↔
      List.Forall₂ same items values ∧ same item value := by
  rw [← List.forall₂_reverse_iff, List.reverse_append, List.reverse_append,
    List.reverse_singleton, List.reverse_singleton, List.singleton_append, List.singleton_append,
    List.forall₂_cons, List.forall₂_reverse_iff, and_comm]

theorem recorded_length_le (run : List (BridgeCall Object)) :
    (recorded objects digest run).length ≤ (ledgerAfter objects digest run).length := by
  induction run using List.reverseRecOn with
  | nil => exact Nat.zero_le _
  | append_singleton past call ih =>
    rw [ledger_after_concat, recorded_concat, List.length_append]
    rcases @call_cases Object objects digest call (ledgerAfter objects digest past) with
      ⟨_, after, event⟩ | ⟨_, after, event⟩
    · rw [after, List.length_append, List.length_singleton]
      have single := Option.length_toList_le
        (o := eventIn ((calls objects digest).answer call (ledgerAfter objects digest past)))
      omega
    · rw [after, event, Option.toList_none, List.length_nil]
      exact ih

theorem entry_of_event {call : BridgeCall Object} {event : KernelEvidenceEvent Object}
    (made : call.event? = some event) :
    entry objects call =
      entryOf objects event (entry objects call).uuid (entry objects call).now := by
  cases call with
  | append | record =>
    cases made
    rfl
  | direct given => cases made

theorem kept_iff {run : List (BridgeCall Object)} {call : BridgeCall Object}
    {event : KernelEvidenceEvent Object}
    (accepted : Accepted objects call (ledgerAfter objects digest run))
    (made : call.event? = some event) :
    Kept objects digest run call ↔
      relisted event (entry objects call).uuid (entry objects call).now = event := by
  rw [relisted_eq_iff]
  constructor
  · intro kept
    obtain ⟨known, same, own⟩ := kept accepted
    rw [made] at same
    cases same
    exact own
  · exact fun own _ => ⟨event, made, own⟩

theorem forall₂_recorded_iff
    {same : EvidenceEvent (Dict String Object) → KernelEvidenceEvent Object → Prop}
    (matching : ∀ event uuid now prev,
      same (entered digest (entryOf objects event uuid now) prev) event ↔
        relisted event uuid now = event)
    (run : List (BridgeCall Object)) :
    List.Forall₂ same (ledgerAfter objects digest run) (recorded objects digest run) ↔
      Historically (Kept objects digest) run := by
  induction run using List.reverseRecOn with
  | nil => exact ⟨fun _ => historically_nil _, fun _ => .nil⟩
  | append_singleton past call ih =>
    rw [historically_concat, ← ih, ledger_after_concat, recorded_concat]
    rcases @call_cases Object objects digest call (ledgerAfter objects digest past) with
      ⟨accepted, after, event⟩ | ⟨refused, after, event⟩
    · rw [after, event]
      cases made : call.event? with
      | none =>
        rw [Option.toList_none, List.append_nil]
        constructor
        · intro matched
          have longer := matched.length_eq
          have shorter := @recorded_length_le Object objects digest past
          rw [List.length_append, List.length_singleton] at longer
          omega
        · rintro ⟨_, kept⟩
          obtain ⟨event, known, _⟩ := kept accepted
          rw [made] at known
          cases known
      | some event =>
        rw [Option.toList_some, forall₂_concat_iff, kept_iff accepted made, ← matching,
          ← entry_of_event made]
    · rw [after, event, Option.toList_none, List.append_nil]
      constructor
      · intro matched
        exact ⟨matched, fun accepted => absurd accepted refused⟩
      · exact And.left

def Listed (objects : PyObjects Object) (entry : EvidenceEvent (Dict String Object))
    (event : KernelEvidenceEvent Object) : Prop :=
  eventOf objects entry = .ok event ∧ entry.executionId = event.executionId.str

theorem of_execution_of_listed {execId : Option Uuid}
    {entry : EvidenceEvent (Dict String Object)} {event : KernelEvidenceEvent Object}
    (listed : Listed objects entry event) :
    entry.ofExecution (execId.map Uuid.str) = true ↔ ofExecution execId event = true := by
  cases execId with
  | none => exact Iff.rfl
  | some uuid =>
    simp only [EvidenceEvent.ofExecution, ofExecution, Option.map_some, Option.all_some,
      beq_iff_eq, listed.2]
    exact ⟨fun same => Uuid.str_injective same, congrArg Uuid.str⟩

theorem filter_listed (execId : Option Uuid)
    {ledger : EvidenceLedger (Dict String Object)} {events : List (KernelEvidenceEvent Object)}
    (listed : List.Forall₂ (Listed objects) ledger events) :
    List.Forall₂ (Listed objects) (ledger.events (execId.map Uuid.str))
      (events.filter (ofExecution execId)) := by
  apply List.rel_filter
  · intro entry event both
    exact of_execution_of_listed both
  · exact listed

end listing

/-- `list` returns what was recorded exactly when every entry of the ledger is a kernel event
that the bridge entered under its own identifier and time, with no key of the bridge in its
data. -/
theorem survives_iff (run : List (BridgeCall Object)) :
    Survives objects digest run ↔ Historically (Kept objects digest) run := by
  have event_matches : ∀ (event : KernelEvidenceEvent Object) uuid now prev,
      eventOf objects (entered digest (entryOf objects event uuid now)
        prev) = .ok event ↔ relisted event uuid now = event := by
    intro event uuid now prev
    rw [event_of_entered, Except.ok.injEq]
  constructor
  · intro survives
    have whole := survives none
    have entries : (ledgerAfter objects digest run).events none = ledgerAfter objects digest run :=
      List.filter_eq_self.mpr fun _ _ => rfl
    have events : (recorded objects digest run).filter (ofExecution none) =
        recorded objects digest run :=
      List.filter_eq_self.mpr fun _ _ => rfl
    rw [list, map_m_eq_ok_iff, Option.map_none, entries, events] at whole
    exact (forall₂_recorded_iff event_matches run).mp whole
  · intro kept execId
    have listed : List.Forall₂ (Listed objects) (ledgerAfter objects digest run)
        (recorded objects digest run) := by
      refine (forall₂_recorded_iff ?_ run).mpr kept
      intro event uuid now prev
      rw [← event_matches event uuid now prev]
      exact and_iff_left rfl
    rw [list, map_m_eq_ok_iff]
    exact (filter_listed execId listed).imp fun _ _ both => both.1

/-- Texts and `None`. -/
def textObjects : PyObjects (Option String) where
  text := some
  none := none
  str := fun object => object.getD "None"
  str_text := fun _ => rfl

def startedCall : BridgeCall (Option String) :=
  .record
    { executionId := ⟨1⟩
      eventType := "execution.started"
      correlationId := none
      causationId := none
      uuid := ⟨2⟩
      now := DateTime.epoch }
    ⟨3⟩ DateTime.epoch

/-- The entry of a rollout, as the lifecycle appends it. -/
def rolloutCall : BridgeCall (Option String) :=
  .direct
    { executionId := "rollout:v2:staging"
      eventType := "rollout.canary.started"
      payload := [("candidate", some "v2")]
      uuid := ⟨4⟩
      now := DateTime.epoch }

/-- The event comes back under the identifier that the ledger drew, and after a rollout
`list` raises. -/
theorem recorded_event_lost :
    ¬Survives textObjects (fun _ => "") [startedCall] ∧
      list textObjects none (ledgerAfter textObjects (fun _ => "") [startedCall, rolloutCall]) =
        .error badUuid ∧
      ¬Survives textObjects (fun _ => "") [startedCall, rolloutCall] := by
  have raised : list textObjects none
      (ledgerAfter textObjects (fun _ => "") [startedCall, rolloutCall]) = .error badUuid := by
    decide +kernel
  refine ⟨?_, raised, ?_⟩
  · intro survives
    have drawn : (list textObjects none (ledgerAfter textObjects (fun _ => "")
        [startedCall])).map (·.map (·.eventId)) = .ok [⟨3⟩] := by
      decide +kernel
    rw [survives none] at drawn
    revert drawn
    decide +kernel
  · intro survives
    rw [survives none] at raised
    cases raised

end KernelEvidenceBridge

end Ois.ControlPlane
