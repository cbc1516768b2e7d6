import Ois.Infrastructure.Tables
import Ois.Kernel.PyValues
import Ois.Library.DateTimeOrder
import Ois.Library.RelatedLists
import Ois.Sources.Ledger

/-!
# The two ledgers side by side

`PostgresSourceLedger` of `infrastructure/source_gateway/postgres.py`, on the tables of migration
007, which have the keys of the SQLite tables.
-/

namespace Ois.Sources

open Ois.Library Ois.Kernel Ois.Infrastructure

structure SourceServer where
  numeric : Jsonb.Numeric
  moment : DateTime → DateTime
  collate : String → String → Bool

/-- A server that keeps numbers and moments as they are, with texts in the order of their
characters. -/
def SourceServer.exact : SourceServer :=
  { numeric := some, moment := id, collate := fun text other => text ≤ other }

def textRefused : PyError :=
  ⟨.other "DataError", "PostgreSQL text fields cannot contain NUL (0x00) bytes"⟩

def limitRefused : PyError :=
  ⟨.other "InvalidRowCountInLimitClause", "LIMIT must not be negative"⟩

def aggregatesDiffer : PyError :=
  ⟨.other "PermissionError", "evidence and outbox event scopes/aggregate differ"⟩

def duplicateLost : PyError :=
  ⟨.other "RuntimeError", "duplicate evidence was reported but could not be located"⟩

namespace SourceServer

/-- `%s` for texts. -/
def texts (columns : List String) : Except PyError Unit :=
  if columns.all fun text => (Jsonb.holdText text).isSome then .ok () else .error textRefused

variable (server : SourceServer)

def evidenceRow (evidence : RawEvidence) : Except PyError RawEvidence := do
  texts [evidence.evidenceId, evidence.tenantId, evidence.workspaceId, evidence.sourceId,
    evidence.sourceRecordId, evidence.payloadHash, evidence.connectorVersion,
    evidence.schemaVersion, evidence.ingestionRunId]
  match Jsonb.hold server.numeric evidence.payload with
  | some body =>
    return { evidence with
      payload := body, collectedAt := server.moment evidence.collectedAt }
  | none => throw Postgres.jsonbRefused

def eventRow (event : OutboxEvent) : Except PyError OutboxRow := do
  texts [event.eventId, event.tenantId, event.workspaceId, event.eventType, event.aggregateId]
  match Jsonb.holdMembers server.numeric event.payload with
  | some body =>
    return { event := { event with
      payload := body, createdAt := server.moment event.createdAt } }
  | none => throw Postgres.jsonbRefused

def Before (row other : OutboxRow) : Prop :=
  row.event.createdAt.instant < other.event.createdAt.instant ∨
    row.event.createdAt.instant = other.event.createdAt.instant ∧
      server.collate row.event.eventId other.event.eventId = true

instance : DecidableRel server.Before := fun _ _ => inferInstanceAs (Decidable (_ ∨ _ ∧ _))

end SourceServer

namespace PostgresSourceLedger

/-- `INSERT INTO raw_evidence`. -/
def insertRow (row : RawEvidence) (tables : SourceLedger) (absent : ¬tables.Holds row) :
    SourceLedger :=
  { tables with
    evidence := tables.evidence ++ [row]
    distinct := nodup_map_concat tables.distinct fun held => absent (Or.inl held)
    unique := nodup_map_concat tables.unique fun held => absent (Or.inr held) }

/-- `INSERT INTO source_outbox ... ON CONFLICT (event_id) DO NOTHING`. -/
def insertEvent (row : OutboxRow) (tables : SourceLedger) : SourceLedger :=
  if held : row.event.eventId ∈ tables.outbox.eventIds then tables
  else { tables with
    outbox := ⟨tables.outbox.rows ++ [row], Outbox.distinct_append tables.outbox.distinct held⟩ }

def retargeted (evidenceId : String) (event : OutboxEvent) : OutboxEvent :=
  { event with
    aggregateId := evidenceId, payload := event.payload.set "evidence_id" (.str evidenceId) }

variable (server : SourceServer) (sha : Hashing)

/-- The transaction of `commit_ingest`. -/
def transaction (evidence : RawEvidence) (event : OutboxEvent) (tables : SourceLedger) :
    Except PyError SourceLedger := do
  let row ← server.evidenceRow evidence
  if held : tables.Holds row then
    match tables.evidence.find? (·.observation == evidence.observation) with
    | none => throw duplicateLost
    | some existing =>
      return insertEvent (← server.eventRow (retargeted existing.evidenceId event)) tables
  else return insertEvent (← server.eventRow event) (insertRow row tables held)

/-- `commit_ingest(evidence, event)`. -/
def commitIngest (evidence : RawEvidence) (event : OutboxEvent) (tables : SourceLedger) :
    SourceLedger × Except PyError Bool :=
  if canonicalHash sha evidence.payload ≠ evidence.payloadHash then
    (tables, .error hashMismatch)
  else if evidence.tenantId ≠ event.tenantId ∨ evidence.workspaceId ≠ event.workspaceId ∨
      event.aggregateId ≠ evidence.evidenceId then
    (tables, .error aggregatesDiffer)
  else match transaction server evidence event tables with
    | .error err => (tables, .error err)
    | .ok after => (after, .ok true)

/-- `pending(limit=limit)`. -/
def pending (limit : Int) (tables : SourceLedger) : Except PyError (List OutboxEvent) :=
  if limit < 0 then .error limitRefused
  else .ok ((((tables.outbox.rows.filter (·.publishedAt.isNone)).insertionSort
    server.Before).take limit.toNat).map (·.event))

/-- `published_at = COALESCE(published_at, now)`. -/
def published (eventId : String) (now : DateTime) (row : OutboxRow) : OutboxRow :=
  if row.event.eventId = eventId then
    { row with publishedAt := some (row.publishedAt.getD now) }
  else row

@[simp] theorem published_event (eventId : String) (now : DateTime) (row : OutboxRow) :
    (published eventId now row).event = row.event := by
  unfold published
  split_ifs <;> rfl

theorem event_ids_published (eventId : String) (now : DateTime) (rows : List OutboxRow) :
    ((rows.map (published eventId now)).map (·.event.eventId)) = rows.map (·.event.eventId) := by
  rw [List.map_map]
  apply List.map_congr_left
  intro row _
  rw [Function.comp, published_event]

/-- `mark_published(event_id)` at `now`. -/
def markPublished (eventId : String) (now : DateTime) (tables : SourceLedger) :
    SourceLedger × Except PyError Unit :=
  match SourceServer.texts [eventId] with
  | .error err => (tables, .error err)
  | .ok () =>
    ({ tables with
      outbox := ⟨tables.outbox.rows.map (published eventId now), by
        rw [event_ids_published]
        exact tables.outbox.distinct⟩ }, .ok ())

end PostgresSourceLedger

def postgresSourceLedger (server : SourceServer) (sha : Hashing) :
    LedgerMethods SourceLedger :=
  { commitIngest := PostgresSourceLedger.commitIngest server sha
    pending := PostgresSourceLedger.pending server
    markPublished := PostgresSourceLedger.markPublished }

open Machine

def SameMoment (moment other : DateTime) : Prop :=
  moment.utcoffset.isSome = other.utcoffset.isSome ∧ moment.instant = other.instant

instance (moment other : DateTime) : Decidable (SameMoment moment other) :=
  inferInstanceAs (Decidable (_ ∧ _))

/-- `evidence == other`. -/
structure SameEvidence (evidence other : RawEvidence) : Prop where
  columns : other = { evidence with payload := other.payload, collectedAt := other.collectedAt }
  payload : pyEquals evidence.payload other.payload = true
  collectedAt : SameMoment evidence.collectedAt other.collectedAt

/-- `event == other`. -/
structure SameEvent (event other : OutboxEvent) : Prop where
  columns : other = { event with payload := other.payload, createdAt := other.createdAt }
  payload : pyEquals (.obj event.payload) (.obj other.payload) = true
  createdAt : SameMoment event.createdAt other.createdAt

inductive SameAnswer : GatewayAnswer → GatewayAnswer → Prop where
  | response (res : Except PyError SourceResponse) :
      SameAnswer (.response res) (.response res)
  | events (events others : List OutboxEvent) (same : List.Forall₂ SameEvent events others) :
      SameAnswer (.events (.ok events)) (.events (.ok others))
  | refused (err : PyError) : SameAnswer (.events (.error err)) (.events (.error err))
  | marked (res : Except PyError Unit) : SameAnswer (.marked res) (.marked res)

structure SameStores (server : SourceServer) (sqlite pg : SourceLedger) : Prop where
  evidence : ∀ row ∈ sqlite.evidence, ∃ other ∈ pg.evidence, SameEvidence row other
  evidenceBack : ∀ other ∈ pg.evidence, ∃ row ∈ sqlite.evidence, SameEvidence row other
  pending : ∀ limit, 0 ≤ limit → SameAnswer (.events (.ok (sqlite.outbox.pending limit)))
    (.events (PostgresSourceLedger.pending server limit pg))

def ProcessedOnce (state : GatewayState SourceLedger) : Prop :=
  (state.processed.map (·.eventId)).Nodup

instance (state : GatewayState SourceLedger) : Decidable (ProcessedOnce state) :=
  inferInstanceAs (Decidable (List.Nodup _))

/-- The server puts the names that are made in the order of their characters. -/
def SourceServer.OrdersNames (server : SourceServer) (sha : Hashing) : Prop :=
  ∀ first second, server.collate (sha.uuid5 first) (sha.uuid5 second) = true ↔
    sha.uuid5 first ≤ sha.uuid5 second

open SourceServer

section sides

variable (server : SourceServer) (sha : Hashing) (build : GatewayBuild)

abbrev sqliteSide : Machine GatewayCall (GatewayState SourceLedger) GatewayAnswer :=
  sourceGateway sha (sqliteSourceLedger sha) build

abbrev postgresSide : Machine GatewayCall (GatewayState SourceLedger) GatewayAnswer :=
  sourceGateway sha (postgresSourceLedger server sha) build

/-- No call is told apart by the ledger, in any of the states of a run on empty stores. -/
structure LedgersAgree (calls : List GatewayCall) : Prop where
  answers : ∀ before call after, calls = before ++ call :: after →
    SameAnswer ((sqliteSide sha build).answer call
        ((sqliteSide sha build).run before { ledger := {} }))
      ((postgresSide server sha build).answer call
        ((postgresSide server sha build).run before { ledger := {} }))
  stores : ∀ before after, calls = before ++ after →
    SameStores server ((sqliteSide sha build).run before { ledger := {} }).ledger
      ((postgresSide server sha build).run before { ledger := {} }).ledger
  once : ∀ before after, calls = before ++ after →
    ProcessedOnce ((sqliteSide sha build).run before { ledger := {} }) ∧
      ProcessedOnce ((postgresSide server sha build).run before { ledger := {} })

namespace IngestCall

variable (call : IngestCall)

def ownEvidence : RawEvidence :=
  call.request.evidence sha call.stamps.collectedAt call.stamps.runId

def ownEvent : OutboxEvent :=
  call.request.event sha call.stamps.provenanceAt call.stamps.createdAt

def New (ledger : SourceLedger) : Prop :=
  ¬ledger.Holds (call.ownEvidence sha) ∧
    (call.ownEvent sha).eventId ∉ ledger.outbox.eventIds

/-- The server reads back what the call writes to it. -/
def Kept : Prop :=
  (∃ row, server.evidenceRow (call.ownEvidence sha) = .ok row ∧
      SameEvidence (call.ownEvidence sha).row row) ∧
    ∃ row, server.eventRow (call.ownEvent sha) = .ok row ∧
      SameEvent (Outbox.rowOf (call.ownEvent sha)).event row.event

end IngestCall

/-- An ingest that comes to its commit brings new evidence, which the server keeps; a limit is
no negative number, and the identifier of an event no text that the server refuses. -/
def TakenAlike (call : GatewayCall) (state : GatewayState SourceLedger) : Prop :=
  match call with
  | .ingest call => ∀ verified, call.admission = .admitted verified →
      call.holder build state.claims = none →
        call.New sha state.ledger ∧ call.Kept server sha
  | .pending limit => 0 ≤ limit
  | .markPublished eventId _ => texts [eventId] = .ok ()

end sides

namespace SourceServer

variable {server : SourceServer} {sha : Hashing}

theorem texts_cases (columns : List String) :
    texts columns = .ok () ∨ texts columns = .error textRefused := by
  unfold texts
  split_ifs
  · exact Or.inl rfl
  · exact Or.inr rfl

theorem columns_of_evidence_row {evidence row : RawEvidence}
    (stored : server.evidenceRow evidence = .ok row) :
    row = { evidence with payload := row.payload, collectedAt := row.collectedAt } := by
  obtain ⟨_, _, written⟩ := Infrastructure.bind_ok stored
  split at written
  · rw [← Except.ok.inj written]
  · cases written

theorem columns_of_event_row {event : OutboxEvent} {row : OutboxRow}
    (stored : server.eventRow event = .ok row) :
    row.event.eventId = event.eventId ∧ row.publishedAt = none := by
  obtain ⟨_, _, written⟩ := Infrastructure.bind_ok stored
  split at written
  · rw [← Except.ok.inj written]
    exact ⟨rfl, rfl⟩
  · cases written

end SourceServer

namespace PostgresSourceLedger

variable {server : SourceServer} {sha : Hashing}

theorem holds_of_columns {evidence row : RawEvidence} (tables : SourceLedger)
    (columns : row = { evidence with payload := row.payload, collectedAt := row.collectedAt }) :
    tables.Holds row ↔ tables.Holds evidence := by
  rw [columns]
  exact Iff.rfl

theorem insert_event_rows {row : OutboxRow} {tables : SourceLedger}
    (fresh : row.event.eventId ∉ tables.outbox.eventIds) :
    (insertEvent row tables).outbox.rows = tables.outbox.rows ++ [row] ∧
      (insertEvent row tables).evidence = tables.evidence := by
  rw [insertEvent, dif_neg fresh]
  exact ⟨rfl, rfl⟩

theorem rows_of_transaction {evidence : RawEvidence} {event : OutboxEvent}
    {tables after : SourceLedger} (absent : ¬tables.Holds evidence)
    (fresh : event.eventId ∉ tables.outbox.eventIds)
    (done : transaction server evidence event tables = .ok after) :
    ∃ row eventRow, server.evidenceRow evidence = .ok row ∧
      server.eventRow event = .ok eventRow ∧ after.evidence = tables.evidence ++ [row] ∧
      after.outbox.rows = tables.outbox.rows ++ [eventRow] := by
  obtain ⟨row, stored, rest⟩ := Infrastructure.bind_ok done
  have missing : ¬tables.Holds row :=
    (holds_of_columns tables (columns_of_evidence_row stored)).not.mpr absent
  rw [dif_neg missing] at rest
  obtain ⟨eventRow, written, inserted⟩ := Infrastructure.bind_ok rest
  have unheld : eventRow.event.eventId ∉ (insertRow row tables missing).outbox.eventIds := by
    rw [(columns_of_event_row written).1]
    exact fresh
  have rows := insert_event_rows unheld
  rw [Except.ok.inj inserted] at rows
  exact ⟨row, eventRow, stored, written, rows.2, rows.1⟩

theorem transaction_of_rows {evidence row : RawEvidence} {event : OutboxEvent}
    {eventRow : OutboxRow} {tables : SourceLedger} (absent : ¬tables.Holds evidence)
    (stored : server.evidenceRow evidence = .ok row)
    (written : server.eventRow event = .ok eventRow) :
    ∃ after, transaction server evidence event tables = .ok after := by
  have missing : ¬tables.Holds row :=
    (holds_of_columns tables (columns_of_evidence_row stored)).not.mpr absent
  unfold transaction
  rw [stored]
  change ∃ after, dite _ _ _ = _
  rw [dif_neg missing, written]
  exact ⟨_, rfl⟩

theorem commit_eq (call : IngestCall) (tables : SourceLedger) :
    call.commit sha (postgresSourceLedger server sha) tables =
      match transaction server (call.ownEvidence sha) (call.ownEvent sha) tables with
      | .error err => (tables, .error err)
      | .ok after => (after, .ok true) := by
  change commitIngest server sha (call.ownEvidence sha) (call.ownEvent sha) tables = _
  have hashed : canonicalHash sha (call.ownEvidence sha).payload =
      (call.ownEvidence sha).payloadHash := rfl
  have agree : ¬((call.ownEvidence sha).tenantId ≠ (call.ownEvent sha).tenantId ∨
      (call.ownEvidence sha).workspaceId ≠ (call.ownEvent sha).workspaceId ∨
        (call.ownEvent sha).aggregateId ≠ (call.ownEvidence sha).evidenceId) := by
    rintro (tenants | workspaces | aggregates)
    · exact tenants rfl
    · exact workspaces rfl
    · exact aggregates rfl
  unfold commitIngest
  exact (if_neg (not_not.mpr hashed)).trans (if_neg agree)

end PostgresSourceLedger

open PostgresSourceLedger

section relation

variable (sha : Hashing)

structure SameRow (row other : OutboxRow) : Prop where
  event : SameEvent row.event other.event
  waits : row.publishedAt.isNone = other.publishedAt.isNone
  utc : row.event.createdAt.utcoffset = some 0
  named : ∃ name, row.event.eventId = sha.uuid5 name

structure Abreast (sqlite pg : GatewayState SourceLedger) : Prop where
  evidence : List.Forall₂ SameEvidence sqlite.ledger.evidence pg.ledger.evidence
  outbox : List.Forall₂ (SameRow sha) sqlite.ledger.outbox.rows pg.ledger.outbox.rows
  claims : sqlite.claims = pg.claims
  processed : sqlite.processed = pg.processed
  stored : ∀ event ∈ sqlite.processed, event.eventId ∈ sqlite.ledger.outbox.eventIds
  once : ProcessedOnce sqlite

variable {sha} {server : SourceServer} {build : GatewayBuild}

theorem abreast_start : Abreast sha { ledger := {} } { ledger := {} } := by
  constructor
  · exact List.Forall₂.nil
  · exact List.Forall₂.nil
  · rfl
  · rfl
  · simp
  · exact List.nodup_nil

theorem SameEvent.instant_eq {event other : OutboxEvent} (same : SameEvent event other) :
    event.createdAt.instant = other.createdAt.instant := same.createdAt.2

theorem SameEvent.event_id_eq {event other : OutboxEvent} (same : SameEvent event other) :
    event.eventId = other.eventId := by rw [same.columns]

theorem SameEvidence.evidence_id_eq {evidence other : RawEvidence}
    (same : SameEvidence evidence other) : evidence.evidenceId = other.evidenceId := by
  rw [same.columns]

theorem SameEvidence.observation_eq {evidence other : RawEvidence}
    (same : SameEvidence evidence other) : evidence.observation = other.observation := by
  rw [same.columns]
  rfl

theorem before_iff (collation : server.OrdersNames sha)
    (row other later laterOther : OutboxRow) (same : SameRow sha row other)
    (sameLater : SameRow sha later laterOther) :
    row.Before later ↔ server.Before other laterOther := by
  obtain ⟨name, named⟩ := same.named
  obtain ⟨laterName, laterNamed⟩ := sameLater.named
  have order : server.collate other.event.eventId laterOther.event.eventId = true ↔
      row.event.eventId ≤ later.event.eventId := by
    rw [← same.event.event_id_eq, ← sameLater.event.event_id_eq, named, laterNamed]
    exact collation name laterName
  have equal : row.event.createdAt.isoformat = later.event.createdAt.isoformat ↔
      row.event.createdAt.instant = later.event.createdAt.instant := by
    rw [DateTime.instant_inj same.utc sameLater.utc]
    exact ⟨DateTime.isoformat_injective, congrArg DateTime.isoformat⟩
  unfold OutboxRow.Before SourceServer.Before
  rw [order, equal, DateTime.isoformat_lt_iff_instant same.utc sameLater.utc,
    same.event.instant_eq, sameLater.event.instant_eq]

theorem pending_same (collation : server.OrdersNames sha) {sqlite pg : SourceLedger}
    (rows : List.Forall₂ (SameRow sha) sqlite.outbox.rows pg.outbox.rows)
    {limit : Int} (nonneg : 0 ≤ limit) :
    SameAnswer (.events (.ok (sqlite.outbox.pending limit)))
      (.events (pending server limit pg)) := by
  have waiting : List.Forall₂ (SameRow sha) (sqlite.outbox.rows.filter (·.publishedAt.isNone))
      (pg.outbox.rows.filter (·.publishedAt.isNone)) := by
    apply List.rel_filter _ rows
    intro row other same
    simp only [same.waits]
  have sorted : List.Forall₂ (SameRow sha) sqlite.outbox.waiting _ :=
    related_insertion_sort (before_iff collation) waiting
  rw [Outbox.pending, Outbox.limited, if_neg (by omega), pending, if_neg (by omega)]
  apply SameAnswer.events
  exact List.rel_map (fun _ _ same => same.event) (List.forall₂_take _ sorted)

variable {sqlite pg : GatewayState SourceLedger}

theorem stores_same (collation : server.OrdersNames sha)
    (abreast : Abreast sha sqlite pg) :
    SameStores server sqlite.ledger pg.ledger := by
  constructor
  · intro row mem
    exact exists_of_related abreast.evidence mem
  · intro other mem
    exact exists_of_related_right abreast.evidence mem
  · intro limit nonneg
    exact pending_same collation abreast.outbox nonneg

theorem Abreast.event_ids_eq (abreast : Abreast sha sqlite pg) :
    sqlite.ledger.outbox.eventIds = pg.ledger.outbox.eventIds :=
  map_eq_of_related (fun _ _ same => same.event.event_id_eq) abreast.outbox

theorem Abreast.new_iff (abreast : Abreast sha sqlite pg) (call : IngestCall) :
    call.New sha sqlite.ledger ↔ call.New sha pg.ledger := by
  have ids : sqlite.ledger.evidence.map (·.evidenceId) =
      pg.ledger.evidence.map (·.evidenceId) :=
    map_eq_of_related (fun _ _ same => same.evidence_id_eq) abreast.evidence
  have obs : sqlite.ledger.evidence.map (·.observation) =
      pg.ledger.evidence.map (·.observation) :=
    map_eq_of_related (fun _ _ same => same.observation_eq) abreast.evidence
  unfold IngestCall.New SourceLedger.Holds
  rw [ids, obs, abreast.event_ids_eq]

variable (sha) in
theorem sqlite_commit (call : IngestCall) (ledger : SourceLedger) :
    (¬call.New sha ledger ∧
      call.commit sha (sqliteSourceLedger sha) ledger = (ledger, .ok false)) ∨
      ∃ after, call.New sha ledger ∧
      call.commit sha (sqliteSourceLedger sha) ledger = (after, .ok true) ∧
      after.evidence = ledger.evidence ++ [(call.ownEvidence sha).row] ∧
      after.outbox.rows = ledger.outbox.rows ++ [Outbox.rowOf (call.ownEvent sha)] := by
  cases commit : call.commit sha (sqliteSourceLedger sha) ledger with
  | mk after out =>
    cases out with
    | error err => exact absurd commit (call.commit_ne_error sha)
    | ok taken =>
      cases taken with
      | false =>
        obtain ⟨same, known⟩ := SourceLedger.duplicate_of_commit commit
        apply Or.inl
        rw [same]
        exact ⟨fun new => known.elim new.1 new.2, rfl⟩
      | true =>
        obtain ⟨evidence, rows, absent, fresh⟩ := SourceLedger.stored_of_commit commit
        exact Or.inr ⟨after, ⟨absent, fresh⟩, rfl, evidence, rows⟩

theorem gateway_ingest {Ledger : Type} (methods : LedgerMethods Ledger) (call : IngestCall)
    (state : GatewayState Ledger) :
    sourceGateway sha methods build (.ingest call) state =
      ((call.settled sha methods build state).2,
      .response (call.settled sha methods build state).1) := by
  rw [← ingest_settled]
  rfl

section calls

variable {sqlite pg : GatewayState SourceLedger}

variable (build) in
theorem Abreast.accepted {call : IngestCall} {sqliteAfter : SourceLedger}
    (abreast : Abreast sha sqlite pg) (clock : call.stamps.createdAt.utcoffset = some 0)
    (new : call.New sha sqlite.ledger) (kept : call.Kept server sha)
    (evidence : sqliteAfter.evidence = sqlite.ledger.evidence ++ [(call.ownEvidence sha).row])
    (rows : sqliteAfter.outbox.rows =
      sqlite.ledger.outbox.rows ++ [Outbox.rowOf (call.ownEvent sha)]) :
    ∃ postgresAfter, call.commit sha (postgresSourceLedger server sha) pg.ledger =
      (postgresAfter, .ok true) ∧
      Abreast sha (call.acceptedState sha build sqliteAfter sqlite)
      (call.acceptedState sha build postgresAfter pg) := by
  obtain ⟨⟨row, stored, sameEvidence⟩, eventRow, written, sameEvent⟩ := kept
  have newToo := (abreast.new_iff call).mp new
  obtain ⟨after, done⟩ := transaction_of_rows newToo.1 stored written
  obtain ⟨row', eventRow', stored', written', evidenceToo, rowsToo⟩ :=
    rows_of_transaction newToo.1 newToo.2 done
  obtain rfl : row = row' := Except.ok.inj (stored.symm.trans stored')
  obtain rfl : eventRow = eventRow' := Except.ok.inj (written.symm.trans written')
  apply Exists.intro after
  apply And.intro (by rw [commit_eq, done])
  constructor
  · change List.Forall₂ SameEvidence sqliteAfter.evidence after.evidence
    rw [evidence, evidenceToo]
    exact related_concat abreast.evidence sameEvidence
  · change List.Forall₂ (SameRow sha) sqliteAfter.outbox.rows after.outbox.rows
    rw [rows, rowsToo]
    apply related_concat abreast.outbox
    constructor
    · exact sameEvent
    · rw [(columns_of_event_row written).2]
      rfl
    · exact clock
    · exact ⟨_, rfl⟩
  · simp only [IngestCall.acceptedState, abreast.claims]
  · simp only [IngestCall.acceptedState, abreast.processed]
  · intro event mem
    change event.eventId ∈ sqliteAfter.outbox.rows.map (·.event.eventId)
    rw [rows, List.map_append]
    rcases List.mem_append.mp mem with past | own
    · exact List.mem_append_left _ (abreast.stored event past)
    · split_ifs at own with piped
      · rw [List.mem_singleton.mp own]
        exact List.mem_append_right _ List.mem_cons_self
      · simp at own
  · unfold ProcessedOnce IngestCall.acceptedState
    split_ifs with piped
    · apply nodup_map_concat abreast.once
      intro held
      obtain ⟨event, mem, same⟩ := List.mem_map.mp held
      have stored := abreast.stored event mem
      rw [same] at stored
      exact new.2 stored
    · rw [List.append_nil]
      exact abreast.once

theorem Abreast.marked {eventId : String} (abreast : Abreast sha sqlite pg)
    (now : DateTime) (taken : texts [eventId] = .ok ()) :
    ∃ after, markPublished eventId now pg.ledger = (after, .ok ()) ∧
      Abreast sha { sqlite with ledger := sqlite.ledger.markPublished eventId now }
      { pg with ledger := after } := by
  obtain ⟨after, marks, evidence, rows⟩ : ∃ after, markPublished eventId now pg.ledger =
          (after, .ok ()) ∧ after.evidence = pg.ledger.evidence ∧
        after.outbox.rows = pg.ledger.outbox.rows.map (published eventId now) := by
    unfold markPublished
    rw [taken]
    exact ⟨_, rfl, rfl, rfl⟩
  apply Exists.intro after
  apply And.intro marks
  constructor
  · change List.Forall₂ SameEvidence sqlite.ledger.evidence after.evidence
    rw [evidence]
    exact abreast.evidence
  · change List.Forall₂ (SameRow sha)
      (sqlite.ledger.outbox.rows.map (OutboxRow.published eventId now)) after.outbox.rows
    rw [rows]
    apply List.rel_map _ abreast.outbox
    intro row other same
    constructor
    · rw [OutboxRow.published_event, published_event]
      exact same.event
    · unfold OutboxRow.published PostgresSourceLedger.published
      rw [← same.event.event_id_eq]
      split_ifs
      · rfl
      · exact same.waits
    · rw [OutboxRow.published_event]
      exact same.utc
    · rw [OutboxRow.published_event]
      exact same.named
  · exact abreast.claims
  · exact abreast.processed
  · intro event mem
    change event.eventId ∈ (sqlite.ledger.outbox.markPublished eventId now).eventIds
    rw [Outbox.event_ids_mark_published]
    exact abreast.stored event mem
  · exact abreast.once

theorem Abreast.step (collation : server.OrdersNames sha) {call : GatewayCall}
    (abreast : Abreast sha sqlite pg)
    (clock : ∀ own, call = .ingest own → own.stamps.createdAt.utcoffset = some 0)
    (alike : TakenAlike server sha build call sqlite) :
    SameAnswer ((sqliteSide sha build).answer call sqlite)
      ((postgresSide server sha build).answer call pg) ∧
      Abreast sha ((sqliteSide sha build).next call sqlite)
      ((postgresSide server sha build).next call pg) := by
  cases call with
  | pending limit => exact ⟨pending_same collation abreast.outbox alike, abreast⟩
  | markPublished eventId now =>
    obtain ⟨after, marks, still⟩ := abreast.marked now alike
    have marksToo : (postgresSourceLedger server sha).markPublished eventId now
        pg.ledger = (after, .ok ()) := marks
    simp only [answer, next, sourceGateway, marksToo]
    exact ⟨.marked _, still⟩
  | ingest call =>
    simp only [answer, next, gateway_ingest]
    unfold IngestCall.settled
    rw [← abreast.claims]
    cases met : call.admission with
    | raised | refused => exact ⟨.response _, abreast⟩
    | admitted verified =>
      cases holder : call.holder build sqlite.claims with
      | some claim => exact ⟨.response _, abreast⟩
      | none =>
        obtain ⟨new, kept⟩ := alike verified met holder
        rcases sqlite_commit sha call sqlite.ledger with ⟨known, _⟩ |
          ⟨after, _, commit, evidence, rows⟩
        · exact absurd new known
        · obtain ⟨postgresAfter, commitToo, still⟩ :=
            abreast.accepted build (clock call rfl) new kept evidence rows
          simp only [commit, commitToo]
          exact ⟨.response _, still⟩

theorem processed_ne_duplicate (call : IngestCall) :
    call.processed sha build ≠
      .ok (call.request.response sha false (some "duplicate_evidence")) := by
  unfold IngestCall.processed
  split_ifs
  · cases call.result with
    | error err => simp [Except.map]
    | ok res => simp [Except.map, SourceRequest.response]
  · simp [SourceRequest.response]

theorem postgres_not_duplicate (call : IngestCall) {state : GatewayState SourceLedger}
    {verified : Bool} (met : call.admission = .admitted verified)
    (holder : call.holder build state.claims = none) :
    (call.settled sha (postgresSourceLedger server sha) build state).1 ≠
      .ok (call.request.response sha false (some "duplicate_evidence")) := by
  unfold IngestCall.settled
  simp only [met, holder, commit_eq]
  cases transaction server (call.ownEvidence sha) (call.ownEvent sha) state.ledger with
  | error err => simp
  | ok after => exact processed_ne_duplicate call

theorem eq_of_mem_concat {Item Key : Type} (key : Item → Key) {items : List Item}
    {item last : Item} (mem : item ∈ items ++ [last])
    (fresh : key item ∉ items.map key) : item = last := by
  rcases List.mem_append.mp mem with past | own
  · exact absurd (List.mem_map_of_mem past) fresh
  · exact List.mem_singleton.mp own

theorem Abreast.kept_of_same {call : IngestCall} {sqliteAfter postgresAfter : SourceLedger}
    (abreast : Abreast sha sqlite pg) (new : call.New sha sqlite.ledger)
    (evidence : sqliteAfter.evidence = sqlite.ledger.evidence ++ [(call.ownEvidence sha).row])
    (rows : sqliteAfter.outbox.rows =
      sqlite.ledger.outbox.rows ++ [Outbox.rowOf (call.ownEvent sha)])
    (done : postgresAfter = pg.ledger ∨
      transaction server (call.ownEvidence sha) (call.ownEvent sha)
      pg.ledger = .ok postgresAfter)
    (same : SameStores server sqliteAfter postgresAfter) : call.Kept server sha := by
  have newToo := (abreast.new_iff call).mp new
  have unheld : (call.ownEvidence sha).evidenceId ∉
      pg.ledger.evidence.map (·.evidenceId) := fun held => newToo.1 (Or.inl held)
  obtain ⟨other, mem, equal⟩ := same.evidence (call.ownEvidence sha).row (by
    rw [evidence]
    exact List.mem_append_right _ List.mem_cons_self)
  have named : (call.ownEvidence sha).evidenceId = other.evidenceId := equal.evidence_id_eq
  rcases done with untouched | done
  · rw [untouched] at mem
    rw [named] at unheld
    exact absurd (List.mem_map_of_mem mem) unheld
  · obtain ⟨row, eventRow, stored, written, evidenceToo, rowsToo⟩ :=
      rows_of_transaction newToo.1 newToo.2 done
    constructor
    · rw [evidenceToo] at mem
      rw [named] at unheld
      rw [eq_of_mem_concat (·.evidenceId) mem unheld] at equal
      exact ⟨row, stored, equal⟩
    · have waits : (Outbox.rowOf (call.ownEvent sha)).event ∈
          sqliteAfter.outbox.pending sqliteAfter.outbox.waiting.length := by
        rw [Outbox.pending, Outbox.limited, if_neg (by omega), Int.toNat_natCast, List.take_length]
        apply List.mem_map_of_mem
        rw [Outbox.mem_waiting, rows]
        exact ⟨List.mem_append_right _ List.mem_cons_self, rfl⟩
      have answers := same.pending sqliteAfter.outbox.waiting.length (by omega)
      rw [pending, if_neg (by omega)] at answers
      cases answers with
      | events events others related =>
        obtain ⟨event, listed, equal⟩ := exists_of_related related waits
        obtain ⟨held, taken, rfl⟩ := List.mem_map.mp listed
        have present := List.mem_of_mem_take taken
        rw [List.mem_insertionSort, List.mem_filter, rowsToo] at present
        have fresh : held.event.eventId ∉ pg.ledger.outbox.eventIds := by
          rw [← equal.event_id_eq]
          exact newToo.2
        rw [eq_of_mem_concat (·.event.eventId) present.1 fresh] at equal
        exact ⟨eventRow, written, equal⟩

theorem Abreast.alike_of_same {call : GatewayCall} (abreast : Abreast sha sqlite pg)
    (answers : SameAnswer ((sqliteSide sha build).answer call sqlite)
      ((postgresSide server sha build).answer call pg))
    (same : SameStores server ((sqliteSide sha build).next call sqlite).ledger
      ((postgresSide server sha build).next call pg).ledger) :
    TakenAlike server sha build call sqlite := by
  cases call with
  | pending limit =>
    change SameAnswer (.events (.ok _)) (.events (pending server limit pg.ledger)) at answers
    by_contra negative
    change ¬0 ≤ limit at negative
    rw [pending, if_pos (by omega)] at answers
    cases answers
  | markPublished eventId now =>
    rcases texts_cases [eventId] with taken | refused
    · exact taken
    · change SameAnswer (.marked (.ok ()))
        (.marked (markPublished eventId now pg.ledger).2) at answers
      rw [markPublished, refused] at answers
      cases answers
  | ingest call =>
    intro verified met holder
    have holderToo : call.holder build pg.claims = none := abreast.claims ▸ holder
    simp only [answer, next, gateway_ingest] at answers same
    rcases sqlite_commit sha call sqlite.ledger with ⟨_, commit⟩ |
      ⟨after, new, commit, evidence, rows⟩
    · have refused : (call.settled sha (sqliteSourceLedger sha) build sqlite).1 =
          .ok (call.request.response sha false (some "duplicate_evidence")) := by
        unfold IngestCall.settled
        simp only [met, holder, commit]
      rw [refused] at answers
      generalize out : (call.settled sha (postgresSourceLedger server sha) build
        pg).1 = res at answers
      cases answers
      exact absurd out (postgres_not_duplicate call met holderToo)
    · apply And.intro new
      have taken : (call.settled sha (sqliteSourceLedger sha) build sqlite).2.ledger =
          after := by
        unfold IngestCall.settled
        simp only [met, holder, commit]
        rfl
      rw [taken] at same
      apply abreast.kept_of_same new evidence rows _ same
      unfold IngestCall.settled
      simp only [met, holderToo, commit_eq]
      cases transaction server (call.ownEvidence sha)
          (call.ownEvent sha) pg.ledger with
      | error err => exact Or.inl rfl
      | ok after => exact Or.inr rfl

variable (build) in
theorem abreast_run (collation : server.OrdersNames sha) {calls : List GatewayCall}
    (clock : ∀ call, .ingest call ∈ calls → call.stamps.createdAt.utcoffset = some 0)
    (alike : (sqliteSide sha build).Throughout (TakenAlike server sha build) calls
      { ledger := {} }) :
    Abreast sha ((sqliteSide sha build).run calls { ledger := {} })
      ((postgresSide server sha build).run calls { ledger := {} }) := by
  induction calls using List.reverseRecOn with
  | nil => exact abreast_start
  | append_singleton past call ih =>
    obtain ⟨before, last, _⟩ := throughout_append.mp alike
    have abreast := ih (fun own mem => clock own (List.mem_append_left _ mem)) before
    have own : ∀ own, call = .ingest own → own.stamps.createdAt.utcoffset = some 0 := by
      intro own same
      apply clock own
      rw [same]
      exact List.mem_append_right _ List.mem_cons_self
    rw [run_concat, run_concat]
    exact (abreast.step collation own last).2

theorem agree_of_alike (collation : server.OrdersNames sha) {calls : List GatewayCall}
    (clock : ∀ call, .ingest call ∈ calls → call.stamps.createdAt.utcoffset = some 0)
    (alike : (sqliteSide sha build).Throughout (TakenAlike server sha build) calls
      { ledger := {} }) : LedgersAgree server sha build calls := by
  have reach (before after : List GatewayCall) (split : calls = before ++ after) :
      Abreast sha ((sqliteSide sha build).run before { ledger := {} })
        ((postgresSide server sha build).run before { ledger := {} }) := by
    rw [split] at clock alike
    apply abreast_run build collation
    · exact fun call mem => clock call (List.mem_append_left _ mem)
    · exact (throughout_append.mp alike).1
  constructor
  · intro before call after split
    have own : ∀ own, call = .ingest own → own.stamps.createdAt.utcoffset = some 0 := by
      intro own same
      apply clock own
      rw [split, same]
      exact List.mem_append_right _ List.mem_cons_self
    exact ((reach before _ split).step collation own
      (throughout_iff.mp alike before call after split)).1
  · intro before after split
    exact stores_same collation (reach before after split)
  · intro before after split
    have abreast := reach before after split
    apply And.intro abreast.once
    have processed := abreast.once
    unfold ProcessedOnce at processed
    rw [abreast.processed] at processed
    exact processed

end calls

end relation

theorem LedgersAgree.init {server : SourceServer} {sha : Hashing} {build : GatewayBuild}
    {calls later : List GatewayCall} (agree : LedgersAgree server sha build (calls ++ later)) :
    LedgersAgree server sha build calls := by
  constructor
  · intro before call after split
    apply agree.answers before call (after ++ later)
    rw [split, List.append_assoc, List.cons_append]
  · intro before after split
    apply agree.stores before (after ++ later)
    rw [split, List.append_assoc]
  · intro before after split
    apply agree.once before (after ++ later)
    rw [split, List.append_assoc]

/-- A gateway over the SQLite ledger and one over the PostgreSQL ledger answer alike, hold the
same evidence and pending events and process no evidence twice, in every state of a run,
exactly when every ingest of the run that comes to its commit brings evidence that is new and
that the server keeps, and no other call is one that the server refuses. -/
theorem ledgers_agree_iff (server : SourceServer) (sha : Hashing) (build : GatewayBuild)
    (collation : server.OrdersNames sha) (calls : List GatewayCall)
    (clock : ∀ call, .ingest call ∈ calls → call.stamps.createdAt.utcoffset = some 0) :
    LedgersAgree server sha build calls ↔
      (sqliteSide sha build).Throughout (TakenAlike server sha build) calls
      { ledger := {} } := by
  apply Iff.intro _ (agree_of_alike collation clock)
  intro agree
  induction calls using List.reverseRecOn with
  | nil => trivial
  | append_singleton past call ih =>
    have before := ih (fun own mem => clock own (List.mem_append_left _ mem)) agree.init
    have abreast := abreast_run build collation
      (fun own mem => clock own (List.mem_append_left _ mem)) before
    have same := agree.stores (past ++ [call]) [] (List.append_nil _).symm
    rw [run_concat, run_concat] at same
    rw [throughout_append]
    apply And.intro before
    exact ⟨abreast.alike_of_same (agree.answers past call [] rfl) same, trivial⟩

theorem exact_orders_names (sha : Hashing) : exact.OrdersNames sha := by
  simp [SourceServer.OrdersNames, exact]

theorem tenants_ingests_agree :
    LedgersAgree .exact .plain ⟨false, true⟩
      [.ingest (ingestOf "t" "w"), .ingest (ingestOf "u" "w"), .pending 100] := by
  apply (ledgers_agree_iff .exact .plain ⟨false, true⟩ (exact_orders_names .plain)
    [.ingest (ingestOf "t" "w"), .ingest (ingestOf "u" "w"), .pending 100] _).mpr
  · have kept (tenant : String) (among : tenant ∈ ["t", "u"]) :
        (ingestOf tenant "w").Kept .exact .plain := by
      revert tenant
      simp only [List.forall_mem_cons, List.not_mem_nil, false_implies, implies_true, and_true]
      constructor
      all_goals
        constructor
        · exact ⟨_, rfl, rfl, by decide +kernel, by decide +kernel⟩
        · exact ⟨_, rfl, rfl, by decide +kernel, by decide +kernel⟩
    refine ⟨fun _ _ _ => ⟨⟨by decide +kernel, by decide +kernel⟩, kept "t" (by simp)⟩,
      fun _ _ _ => ⟨⟨by decide +kernel, by decide +kernel⟩, kept "u" (by simp)⟩,
      Int.natCast_nonneg 100, trivial⟩
  · intro call mem
    simp only [List.mem_cons, List.not_mem_nil, reduceCtorEq, or_false,
      GatewayCall.ingest.injEq] at mem
    rcases mem with rfl | rfl <;> rfl

/-- PostgreSQL accepts an observation again, and the pipeline sees it again. -/
theorem repeated_evidence_processed_again :
    let call := ingestOf "t" "w"
    let sqlite := (sqliteSide .plain ⟨false, true⟩).run [.ingest call] { ledger := {} }
    let pg := (postgresSide .exact .plain ⟨false, true⟩).run [.ingest call] { ledger := {} }
    (sqliteSide .plain ⟨false, true⟩).answer (.ingest call) sqlite =
      .response (.ok (call.request.response .plain false (some "duplicate_evidence"))) ∧
      (postgresSide .exact .plain ⟨false, true⟩).answer (.ingest call) pg =
      .response (.ok (call.request.response .plain true none)) ∧
      ((postgresSide .exact .plain ⟨false, true⟩).next (.ingest call) pg).processed.length
      = 2 ∧
      ¬LedgersAgree .exact .plain ⟨false, true⟩ [.ingest call, .ingest call] := by
  intro call sqlite pg
  apply And.intro (by decide +kernel)
  apply And.intro (by decide +kernel)
  apply And.intro (by decide +kernel)
  intro agree
  have once := (agree.once [.ingest call, .ingest call] [] rfl).2
  exact absurd once (by decide +kernel)

end Ois.Sources
