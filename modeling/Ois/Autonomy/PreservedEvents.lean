import Ois.Library.Machine
import Ois.Autonomy.Approvals

/-!
# What an approval keeps of its event

A run that waits for an approval hands its event to the approval store, and a worker that resumes
the run gets the event back from there.
-/

namespace Ois.Autonomy

open Ois.Library Ois.Kernel Ois.Infrastructure

structure RunOf (event : EventEnvelope) (run : DurableWorkflowRun) : Prop where
  tenantId : run.identity.tenantId = event.tenantId
  workspaceId : run.identity.workspaceId = event.workspaceId
  eventId : run.identity.eventId = event.eventId

inductive ApprovalCall where
  | create (req : ApprovalRequest) (runId : Option Uuid)
  | decide (clock : DateTime) (askId : String) (decision : ApprovalDecision)
      (actor : String) (now : Int)

def approvalStore (pg : Postgres) (double : List Char → UInt64) :
    Machine ApprovalCall ApprovalTable (Except PyError ApprovalRequest)
  | .create req runId, table =>
    match ApprovalTable.create pg req runId table with
    | .ok after => (after, .ok req)
    | .error err => (table, .error err)
  | .decide clock askId decision actor now, table =>
    ApprovalTable.decide pg double clock askId decision actor now table

def ApprovalRow.undecided (row : ApprovalRow) : ApprovalRow :=
  { row with decision := .pending, decidedBy := none, decidedAt := none }

theorem decided_undecided (decision : ApprovalDecision) (actor : String) (now : Int)
    (row : ApprovalRow) :
    (ApprovalTable.decided decision actor now row).undecided = row.undecided := by
  unfold ApprovalTable.decided
  split_ifs <;> rfl

structure ApprovalRow.For (runId : Uuid) (ident : RunIdentity) (row : ApprovalRow) : Prop where
  runId : row.runId = some runId
  tenantId : row.tenantId = ident.tenantId
  workspaceId : row.workspaceId = ident.workspaceId
  workflowId : row.workflowId = ident.workflowId
  eventId : row.eventId = ident.eventId

def Filed (askId : Uuid) (row : ApprovalRow) (table : ApprovalTable) : Prop :=
  ∃ held, table.lookup askId = some held ∧ held.undecided = row.undecided

theorem create_ok {pg : Postgres} {req : ApprovalRequest} {runId : Option Uuid}
    {table after : ApprovalTable}
    (created : ApprovalTable.create pg req runId table = .ok after) :
    ∃ askId row, ApprovalTable.uuidColumn pg req.approvalId = .ok askId ∧
      ApprovalTable.approvalRow pg req runId = .ok row ∧
      table.lookup askId = none ∧ after = table ++ [(askId, row)] := by
  obtain ⟨_, _, parsed⟩ := bind_ok created
  obtain ⟨askId, read, rest⟩ := bind_ok parsed
  obtain ⟨row, written, ended⟩ := bind_ok rest
  cases found : table.lookup askId with
  | some held => simp [found, throw, throwThe, MonadExceptOf.throw] at ended
  | none =>
    simp only [found, Option.isSome_none, Bool.false_eq_true, if_false, pure, Except.pure,
      Except.ok.injEq] at ended
    exact ⟨askId, row, read, written, found, ended.symm⟩

theorem filed_decide {pg : Postgres} {double : List Char → UInt64} {clock : DateTime}
    {askId : Uuid} {row : ApprovalRow} {table : ApprovalTable} (given : String)
    (decision : ApprovalDecision) (actor : String) (now : Int)
    (filed : Filed askId row table) :
    Filed askId row
      (ApprovalTable.decide pg double clock given decision actor now table).1 := by
  obtain ⟨held, found, same⟩ := filed
  unfold ApprovalTable.decide
  cases ApprovalTable.decideParameters pg given actor with
  | error err => exact ⟨held, found, same⟩
  | ok other =>
    cases present : table.lookup other with
    | none =>
      simp only [present]
      exact ⟨held, found, same⟩
    | some cur =>
      simp only [Filed, present, Dict.lookup_set]
      by_cases own : askId = other
      · subst own
        rw [found, Option.some.injEq] at present
        subst present
        refine ⟨_, if_pos rfl, ?_⟩
        rw [decided_undecided, same]
      · exact ⟨held, by rw [if_neg own, found], same⟩

theorem filed_next {pg : Postgres} {double : List Char → UInt64} {askId : Uuid}
    {row : ApprovalRow} (call : ApprovalCall) (table : ApprovalTable)
    (filed : Filed askId row table) :
    Filed askId row ((approvalStore pg double).next call table) := by
  cases call with
  | create req runId =>
    obtain ⟨held, found, same⟩ := filed
    refine ⟨held, ?_, same⟩
    cases created : ApprovalTable.create pg req runId table with
    | error err => simpa [Machine.next, approvalStore, created] using found
    | ok after =>
      obtain ⟨_, _, _, _, _, rfl⟩ := create_ok created
      simp [Machine.next, approvalStore, created, Dict.lookup_append, found]
  | decide clock given decision actor now => exact filed_decide given decision actor now filed

section preserved

variable {pg : Postgres} {double : List Char → UInt64}

theorem text_column_ok {value : Json} {held : Option String}
    (read : ApprovalTable.textColumn value = .ok held) : Json.ofOption .str held = value := by
  cases value with
  | null | str =>
    rw [ApprovalTable.textColumn, Except.ok.injEq] at read
    rw [← read]
    rfl
  | bool | int | float | arr | obj => simp [ApprovalTable.textColumn] at read

theorem approval_row_for_run {run : DurableWorkflowRun} {event : EventEnvelope} {reason : String}
    {now : Int} {row : ApprovalRow}
    (written : ApprovalTable.approvalRow pg (.forRun run event reason now)
      (some run.runId) = .ok row) :
    ∃ kept, pg.column (Json.dumpsSorted (.obj event.payload)) = .ok (.obj kept) ∧
      row.eventPayload = .obj kept ∧ Json.ofOption .str row.sourceId = event.sourceId ∧
      row.eventType = some event.eventType ∧ row.For run.runId run.identity := by
  obtain ⟨body, stored, rest⟩ := bind_ok written
  obtain ⟨source, read, ended⟩ := bind_ok rest
  simp only [ApprovalRequest.forRun, Option.map_some, Option.getD_some] at stored read
  obtain ⟨kept, rfl⟩ := column_obj stored
  have fields := Except.ok.inj ended
  refine ⟨kept, stored, ?_⟩
  rw [← fields]
  exact ⟨rfl, text_column_ok read, rfl, ⟨rfl, rfl, rfl, rfl, rfl⟩⟩

theorem resume_event_ok {runId : Uuid} {row : ApprovalRow} {kept : Members} {kind : String}
    {clock : DateTime} {table : ApprovalTable} {resumed : EventEnvelope}
    (reads : pg.uuid runId.str = some runId) (filed : Filed runId row table)
    (body : row.eventPayload = .obj kept) (typed : row.eventType = some kind)
    (read : ApprovalTable.resumeEvent pg double clock runId.str table = .ok resumed) :
    resumed =
      { eventId := row.eventId, tenantId := row.tenantId, workspaceId := row.workspaceId
        eventType := kind, aggregateId := row.eventId, payload := kept, createdAt := clock
        sourceId := Json.ofOption .str row.sourceId } := by
  obtain ⟨held, found, same⟩ := filed
  have sameId : held.eventId = row.eventId := congrArg (·.eventId) same
  have sameTenant : held.tenantId = row.tenantId := congrArg (·.tenantId) same
  have sameWorkspace : held.workspaceId = row.workspaceId := congrArg (·.workspaceId) same
  have samePayload : held.eventPayload = row.eventPayload := congrArg (·.eventPayload) same
  have sameSource : held.sourceId = row.sourceId := congrArg (·.sourceId) same
  have sameType : held.eventType = row.eventType := congrArg (·.eventType) same
  have asked : ApprovalTable.uuidColumn pg runId.str = .ok runId := by
    simp [ApprovalTable.uuidColumn, reads]
  simp only [ApprovalTable.resumeEvent, ApprovalTable.get, asked, found, ApprovalTable.request,
    samePayload, body, sameType, typed, decodeMembers, bind, Except.bind, pure,
    Except.pure, Option.map_some, Json.asMembers?, Option.getD_some] at read
  split_ifs at read with undecided
  rw [← Except.ok.inj read, sameId, sameTenant, sameWorkspace, sameSource]

/-- The fields of an event that the store does not keep are those that it fills in, and a
column hands out an equal payload. -/
structure KeptByApproval (pg : Postgres) (clock : DateTime) (event : EventEnvelope) :
    Prop where
  aggregateId : event.aggregateId = event.eventId
  correlationId : event.correlationId = none
  createdAt : event.createdAt = clock
  payload : Keeps pg (.obj event.payload)

/-- A run hands its event to the approval store, any other calls are made of the store,
and a worker then resumes the event. It gets the event back as it was handed in, exactly
when the event is one that an approval keeps. -/
theorem resumed_event_same_iff (pg : Postgres) (double : List Char → UInt64)
    (run : DurableWorkflowRun) (event resumed : EventEnvelope) (reason : String) (now : Int)
    (clock : DateTime) (table created : ApprovalTable) (calls : List ApprovalCall)
    (reads : pg.uuid run.runId.str = some run.runId) (own : RunOf event run)
    (stored : ApprovalTable.create pg (.forRun run event reason now) (some run.runId)
      table = .ok created)
    (read : ApprovalTable.resumeEvent pg double clock run.runId.str
      ((approvalStore pg double).run calls created) = .ok resumed) :
    resumed.Same event ↔ KeptByApproval pg clock event := by
  obtain ⟨askId, row, asked, written, missing, rfl⟩ := create_ok stored
  have same : askId = run.runId := by
    simp only [ApprovalRequest.forRun, ApprovalTable.uuidColumn, reads, Except.ok.injEq] at asked
    exact asked.symm
  subst same
  have first : Filed run.runId row (table ++ [(run.runId, row)]) :=
    ⟨row, by simp [Dict.lookup_append, missing], rfl⟩
  have filed : Filed run.runId row ((approvalStore pg double).run calls _) :=
    Machine.run_invariant filed_next calls first
  obtain ⟨kept, column, body, source, typed, _, tenant, workspace, _, eventId⟩ :=
    approval_row_for_run written
  have rebuilt := resume_event_ok reads filed body typed read
  subst rebuilt
  constructor
  · intro both
    refine ⟨?_, both.correlationId.symm, both.createdAt.symm, .obj kept, column, both.payload⟩
    rw [← both.aggregateId, ← both.eventId]
  · rintro ⟨aggregate, correlation, moment, held, again, equal⟩
    rw [column, Except.ok.injEq] at again
    subst again
    constructor
    case eventId => rw [eventId, own.eventId]
    case tenantId => rw [tenant, own.tenantId]
    case workspaceId => rw [workspace, own.workspaceId]
    case eventType => rfl
    case aggregateId => rw [eventId, own.eventId, aggregate]
    case payload => exact equal
    case createdAt => exact moment.symm
    case sourceId => exact source
    case correlationId => exact correlation.symm

end preserved

def sampleRun : DurableWorkflowRun :=
  .new ⟨1⟩ { tenantId := "tenant", workspaceId := "space", workflowId := "flow"
             workflowVersion := "1", eventId := "event" }

def sampleEvent (aggregateId : String) : EventEnvelope :=
  { eventId := "event", tenantId := "tenant", workspaceId := "space", eventType := "created"
    aggregateId := aggregateId, payload := [("amount", .int 1)], createdAt := DateTime.epoch }

def filedTable (event : EventEnvelope) : ApprovalTable :=
  match ApprovalTable.create .exact (.forRun sampleRun event "rule matched" 0)
      (some sampleRun.runId) [] with
  | .ok table => table
  | .error _ => []

def approving : List ApprovalCall :=
  [.decide DateTime.epoch sampleRun.runId.str .approved "reviewer" 1]

/-- What a worker is handed for the event once its approval is granted. -/
def approvedEvent (event : EventEnvelope) : Except PyError EventEnvelope :=
  ApprovalTable.resumeEvent .exact (fun _ => 0) DateTime.epoch sampleRun.runId.str
    ((approvalStore .exact fun _ => 0).run approving (filedTable event))

theorem sample_event_same : (sampleEvent "event").Same (sampleEvent "event") := by
  have read : approvedEvent (sampleEvent "event") = .ok (sampleEvent "event") := by
    decide +kernel
  have filed : ApprovalTable.create .exact (.forRun sampleRun (sampleEvent "event")
      "rule matched" 0) (some sampleRun.runId) [] = .ok (filedTable (sampleEvent "event")) := by
    decide +kernel
  have kept : Keeps .exact (.obj (sampleEvent "event").payload) :=
    ⟨.obj (sampleEvent "event").payload, by decide +kernel, by decide +kernel⟩
  exact (resumed_event_same_iff .exact (fun _ => 0) sampleRun (sampleEvent "event")
    (sampleEvent "event") "rule matched" 0 DateTime.epoch [] _ approving (by decide +kernel)
    ⟨rfl, rfl, rfl⟩ filed read).mpr ⟨rfl, rfl, rfl, kept⟩

/-- An event about an order is handed back as an event about itself. -/
theorem aggregate_replaced :
    approvedEvent (sampleEvent "order") = .ok (sampleEvent "event") ∧
      ¬(sampleEvent "event").Same (sampleEvent "order") := by
  refine ⟨by decide +kernel, fun same => ?_⟩
  exact absurd same.aggregateId (by decide)

end Ois.Autonomy
