import Ois.Library.Connection
import Ois.Sources.Ledger

/-!
# Ingests that are all or nothing

`SQLiteSourceLedger.commit_ingest` and `SQLiteIdempotencyStore` with the statements that they
run on their connections. An exception can be injected at each of them.
-/

namespace Ois.Sources

open Ois.Library Ois.Kernel Connection

inductive IngestStatement where
  | claimInsert | claimCommit | claimRollback | claimSelect
  | checks | ledgerBegin | evidenceInsert | outboxInsert | ledgerCommit | ledgerRollback
  | releaseDelete | releaseCommit
  deriving DecidableEq, Repr

/-- The exceptions that are injected. -/
abbrev Faults := IngestStatement → Option PyError

/-- `sqlite3.IntegrityError`. -/
def integrityError (columns : String) : PyError :=
  ⟨.other "IntegrityError", "UNIQUE constraint failed: " ++ columns⟩

def Integrity (err : PyError) : Prop := err.kind = .other "IntegrityError"

instance (err : PyError) : Decidable (Integrity err) :=
  inferInstanceAs (Decidable (_ = _))

def nestedTransaction : PyError :=
  ⟨.other "OperationalError", "cannot start a transaction within a transaction"⟩

namespace SourceLedger

/-- `INSERT INTO raw_evidence`. -/
def evidenceInserted (evidence : RawEvidence) (ledger : SourceLedger) :
    Except PyError (Unit × SourceLedger) :=
  if held : ledger.Holds evidence then .error (integrityError "raw_evidence")
  else .ok ((), ledger.insertEvidence evidence held)

/-- `INSERT INTO outbox`. -/
def eventInserted (event : OutboxEvent) (ledger : SourceLedger) :
    Except PyError (Unit × SourceLedger) :=
  if event.eventId ∈ ledger.outbox.eventIds then
    .error (integrityError "outbox.event_id")
  else .ok ((), { ledger with outbox := (ledger.outbox.append event).1 })

end SourceLedger

/-- `INSERT INTO source_idempotency`. -/
def IdempotencyClaims.inserted (key : ClaimKey) (eventId : String) (now : DateTime)
    (claims : IdempotencyClaims) : Except PyError (Unit × IdempotencyClaims) :=
  if (claims.lookup key).isSome then .error (integrityError "source_idempotency")
  else .ok ((), claims ++ [(key, eventId, now)])

section stmts

variable (faults : Faults)

/-- The two inserts of `commit_ingest`, between `BEGIN` and the commit. -/
def commitStatements (evidence : RawEvidence) (event : OutboxEvent) :
    Command PyError (Connection SourceLedger) Bool := do
  raising (faults .ledgerBegin) (beginTransaction nestedTransaction)
  raising (faults .evidenceInsert) (write (SourceLedger.evidenceInserted evidence))
  raising (faults .outboxInsert) (write (SourceLedger.eventInserted event))
  raising (faults .ledgerCommit) commit
  return true

/-- `SQLiteSourceLedger.commit_ingest(evidence, event)`. -/
def sqliteCommitIngest (sha : Hashing) (evidence : RawEvidence) (event : OutboxEvent) :
    Command PyError (Connection SourceLedger) Bool := do
  raising (faults .checks) (pure ())
  if canonicalHash sha evidence.payload ≠ evidence.payloadHash then throw hashMismatch
  if evidence.tenantId ≠ event.tenantId ∨ evidence.workspaceId ≠ event.workspaceId then
    throw scopesDiffer
  tryCatch (commitStatements faults evidence event) fun err => do
    raising (faults .ledgerRollback) rollback
    if Integrity err then return false else throw err

/-- `SQLiteIdempotencyStore.claim(...)` at `now`. -/
def sqliteClaim (key : ClaimKey) (eventId : String) (now : DateTime) :
    Command PyError (Connection IdempotencyClaims) Bool :=
  tryCatch (do
      raising (faults .claimInsert) (write (IdempotencyClaims.inserted key eventId now))
      raising (faults .claimCommit) commit
      return true)
    fun err => do
      if Integrity err then
        raising (faults .claimRollback) rollback
        return false
      else throw err

/-- `get(...)`, for the event of the claim. -/
def sqliteGet (key : ClaimKey) :
    Command PyError (Connection IdempotencyClaims) (Option String) :=
  raising (faults .claimSelect) (read fun claims => (claims.lookup key).map (·.1))

/-- `release(...)`. -/
def sqliteRelease (key : ClaimKey) (eventId : String) :
    Command PyError (Connection IdempotencyClaims) Bool := do
  let released ← raising (faults .releaseDelete) (write fun claims =>
    let (kept, released) := claims.release key eventId
    .ok (released, kept))
  raising (faults .releaseCommit) commit
  return released

end stmts

structure Stores where
  ledger : Connection SourceLedger
  claims : Connection IdempotencyClaims
  processed : List CanonicalSourceEvent := []

/-- A call of `ingest`, with the exceptions that are injected into it. -/
structure FaultyCall where
  call : IngestCall
  faults : Faults := fun _ => none

section gateway

variable (sha : Hashing) (build : GatewayBuild)

def onLedger {Value : Type} (command : Command PyError (Connection SourceLedger) Value) :
    Command PyError Stores Value :=
  Command.focus (·.ledger) (fun ledger stores => { stores with ledger := ledger }) id command

def onClaims {Value : Type} (command : Command PyError (Connection IdempotencyClaims) Value) :
    Command PyError Stores Value :=
  Command.focus (·.claims) (fun claims stores => { stores with claims := claims }) id command

def sqliteClaims (call : FaultyCall) : IdempotencyParts Stores :=
  { claim := fun key eventId =>
      onClaims (sqliteClaim call.faults key eventId call.call.stamps.claimedAt)
    get := fun key => onClaims (sqliteGet call.faults key)
    release := fun key eventId => onClaims (sqliteRelease call.faults key eventId) }

def sqliteParts (call : FaultyCall) : GatewayParts Stores :=
  { idempotency := if build.idempotent then some (sqliteClaims call) else none
    persistence := .ledger fun evidence event =>
      onLedger (sqliteCommitIngest call.faults sha evidence event)
    process := if build.pipeline then some fun event _ => do
      modify fun stores => { stores with processed := stores.processed ++ [event] }
      MonadExcept.ofExcept call.call.result else none }

/-- `ingest(request)` on the SQLite stores. -/
def sqliteIngest (call : FaultyCall) : Command PyError Stores SourceResponse :=
  gatewayIngest sha (sqliteParts sha build call) call.call.stamps call.call.request
    call.call.admission

def sqliteGateway : Machine FaultyCall Stores (Except PyError SourceResponse) :=
  fun call stores =>
    ((sqliteIngest sha build call).stateAfter stores,
      (sqliteIngest sha build call).outcome stores)

end gateway

open Command IdempotencyClaims

def Accepted (answer : Except PyError SourceResponse) : Prop :=
  ∃ response, answer = .ok response ∧ response.accepted = true

def SourceLedger.Paired (ledger : SourceLedger) : Prop :=
  ledger.outbox.rows.map (fun row =>
      (row.event.tenantId, row.event.workspaceId, row.event.aggregateId)) =
    ledger.evidence.map fun row => (row.tenantId, row.workspaceId, row.evidenceId)

open SourceLedger

section calls

variable (sha : Hashing) (build : GatewayBuild)

def SourceRequest.New (req : SourceRequest) (ledger : SourceLedger) : Prop :=
  ¬ledger.Holds (req.evidence sha .epoch "") ∧
    req.eventId sha ∉ ledger.outbox.eventIds

instance (req : SourceRequest) (ledger : SourceLedger) :
    Decidable (req.New sha ledger) :=
  inferInstanceAs (Decidable (_ ∧ _))

/-- The call is admitted, no exception is injected, and its key and its evidence are new. -/
structure FaultyCall.Unobstructed (call : FaultyCall) (stores : Stores) : Prop where
  admitted : ∃ verified, call.call.admission = .admitted verified
  faultless : ∀ stmt, call.faults stmt = none
  free : ∀ key ∈ call.call.key build, stores.claims.committed.lookup key = none
  new : call.call.request.New sha stores.ledger.committed

structure FaultyCall.Atomic (call : FaultyCall) (before after : Stores)
    (answer : Except PyError SourceResponse) : Prop where
  stored : Accepted answer → call.call.request.evidenceId sha ∈
        after.ledger.committed.evidence.map (·.evidenceId) ∧
      call.call.request.eventId sha ∈ after.ledger.committed.outbox.eventIds
  unchanged : ¬Accepted answer → after.ledger.committed = before.ledger.committed
  claims : ∀ entry ∈ after.claims.committed,
    entry ∈ before.claims.committed ∨ call.call.key build = some entry.1 ∧ Accepted answer
  retried : ∀ err, answer = .error err → ∀ retry : FaultyCall,
    retry.call.request = call.call.request → retry.Unobstructed sha build before →
      (∃ res, retry.call.result = .ok res) →
        Accepted ((sqliteGateway sha build).answer retry after)

/-- No exception is raised where nothing takes back what was done: at the commit of a claim
(unless `claim` takes it for a claim that is there, and rolls back), at the statements of a
release, at the rollback of the ledger, and in the pipeline. -/
structure FaultyCall.Sound (call : FaultyCall) : Prop where
  claimed : ∀ err ∈ call.faults .claimCommit, Integrity err ∧ call.faults .claimRollback = none
  released : call.faults .releaseDelete = none ∧ call.faults .releaseCommit = none
  rolledBack : call.faults .ledgerRollback = none
  processed : build.pipeline = true → ∃ res, call.call.result = .ok res

end calls

section ledger

variable {sha : Hashing} {faults : Faults} {evidence : RawEvidence} {event : OutboxEvent}
  {tables : SourceLedger}

variable {ret : Bool → Connection SourceLedger → Prop}
  {raised : PyError → Connection SourceLedger → Prop}

theorem commit_statements_ends
    (interrupted : ∀ stmt err opened, faults stmt = some err →
      raised err ⟨tables, opened⟩)
    (conflicts : ∀ columns opened, tables.Holds evidence ∨ event.eventId ∈ tables.outbox.eventIds →
      raised (integrityError columns) ⟨tables, opened⟩)
    (stored : ∀ held : ¬tables.Holds evidence, event.eventId ∉ tables.outbox.eventIds →
      ret true
      { committed := { tables.insertEvidence evidence held with
      outbox := (tables.outbox.append event).1 } }) :
    Command.Ends (commitStatements faults evidence event) ret raised
      { committed := tables } := by
  unfold commitStatements
  rw [ends_bind]
  cases begins : faults .ledgerBegin with
  | some err => exact interrupted _ _ _ begins
  | none =>
  rw [raising_none, ends_begin_of_idle _ rfl, ends_bind]
  cases inserts : faults .evidenceInsert with
  | some err => exact interrupted _ _ _ inserts
  | none =>
  rw [raising_none]
  by_cases held : tables.Holds evidence
  · have conflict : evidenceInserted evidence tables =
        .error (integrityError "raw_evidence") := dif_pos held
    rw [ends_write_of_error conflict]
    exact conflicts _ _ (Or.inl held)
  have inserted : evidenceInserted evidence tables =
      .ok ((), tables.insertEvidence evidence held) := dif_neg held
  rw [ends_write_of_ok inserted, ends_bind]
  cases appends : faults .outboxInsert with
  | some err => exact interrupted _ _ _ appends
  | none =>
  rw [raising_none]
  by_cases taken : event.eventId ∈ tables.outbox.eventIds
  · have conflict : eventInserted event (tables.insertEvidence evidence held) =
        .error (integrityError "outbox.event_id") := if_pos taken
    rw [ends_write_of_error conflict]
    exact conflicts _ _ (Or.inr taken)
  have appended : eventInserted event (tables.insertEvidence evidence held) =
      .ok ((), { tables.insertEvidence evidence held with
        outbox := (tables.outbox.append event).1 }) := if_neg taken
  rw [ends_write_of_ok appended, ends_bind]
  cases commits : faults .ledgerCommit with
  | some err => exact interrupted _ _ _ commits
  | none => exact stored held taken

theorem commit_handler_ends (unhindered : faults .ledgerRollback = none) (err : PyError)
    {conn : Connection SourceLedger}
    (conflict : Integrity err → ret false { committed := conn.committed })
    (other : ¬Integrity err → raised err { committed := conn.committed }) :
    Command.Ends (do
      raising (faults .ledgerRollback) rollback
      if Integrity err then return false else throw err) ret raised conn := by
  rw [unhindered, raising_none, ends_bind, ends_rollback]
  by_cases integrity : Integrity err
  · rw [if_pos integrity]
    exact conflict integrity
  · rw [if_neg integrity]
    exact other integrity

theorem sqlite_commit_ends (unhindered : faults .ledgerRollback = none)
    (faulty : (∃ stmt, faults stmt ≠ none) →
      ret false { committed := tables } ∧ ∀ err, raised err { committed := tables })
    (ended : ∀ after taken, commitIngest sha evidence event tables = (after, .ok taken) →
      ret taken { committed := after })
    (failed : ∀ after err, commitIngest sha evidence event tables = (after, .error err) →
      raised err { committed := after }) :
    Command.Ends (sqliteCommitIngest faults sha evidence event) ret raised
      { committed := tables } := by
  unfold sqliteCommitIngest
  rw [ends_bind]
  cases checks : faults .checks with
  | some err =>
    rw [ends_raising_some]
    exact (faulty ⟨.checks, by simp [checks]⟩).2 err
  | none =>
    rw [raising_none, ends_pure]
    by_cases mismatch : canonicalHash sha evidence.payload ≠ evidence.payloadHash
    · simp only [if_pos mismatch, ends_bind, ends_throw]
      exact failed tables _ (by rw [commitIngest, if_pos mismatch])
    by_cases scopes : evidence.tenantId ≠ event.tenantId ∨ evidence.workspaceId ≠ event.workspaceId
    · simp only [if_neg mismatch, if_pos scopes, ends_bind, ends_throw]
      exact failed tables _ (by rw [commitIngest, if_neg mismatch, if_pos scopes])
    simp only [if_neg mismatch, if_neg scopes, ends_try_catch]
    apply commit_statements_ends
    · intro stmt err opened injected
      obtain ⟨duplicate, stopped⟩ := faulty ⟨stmt, by simp [injected]⟩
      exact commit_handler_ends unhindered err (fun _ => duplicate) (fun _ => stopped err)
    · intro columns opened held
      have duplicate : commitIngest sha evidence event tables = (tables, .ok false) := by
        rw [commitIngest, if_neg mismatch, if_neg scopes]
        by_cases own : tables.Holds evidence
        · rw [dif_pos own]
        · rw [dif_neg own, if_pos (held.resolve_left own)]
      exact commit_handler_ends unhindered _ (fun _ => ended _ _ duplicate)
        (fun other => absurd rfl other)
    · intro held taken
      apply ended
      rw [commitIngest, if_neg mismatch, if_neg scopes, dif_neg held, if_neg taken]

end ledger

section claims

variable {faults : Faults} {conn : Connection IdempotencyClaims}

/-- A connection that sees what is committed. -/
def Settled {Tables : Type} (conn : Connection Tables) : Prop :=
  conn.view = conn.committed

variable {ret : Bool → Connection IdempotencyClaims → Prop}
  {raised : PyError → Connection IdempotencyClaims → Prop}

theorem claim_handler_ends {err : PyError}
    (rolledBack : ret false { committed := conn.committed })
    (kept : ¬Integrity err ∨ faults .claimRollback ≠ none → ∀ other, raised other conn) :
    Command.Ends (do
      if Integrity err then
      raising (faults .claimRollback) rollback
      return false
      else throw err) ret raised conn := by
  by_cases integrity : Integrity err
  · rw [if_pos integrity, ends_bind]
    cases rollback : faults .claimRollback with
    | none => exact rolledBack
    | some other => exact kept (Or.inr (by simp [rollback])) other
  · rw [if_neg integrity]
    exact kept (Or.inl integrity) err

theorem sqlite_claim_ends {key : ClaimKey} {eventId : String} {now : DateTime}
    (sound : ∀ err ∈ faults .claimCommit, Integrity err ∧ faults .claimRollback = none)
    (settled : Settled conn)
    (refused : (∃ stmt, faults stmt ≠ none) ∨ (conn.committed.lookup key).isSome →
      ∀ after, Settled after → after.committed = conn.committed →
      ret false after ∧ ∀ err, raised err after)
    (claimed : conn.committed.lookup key = none →
      ret true { committed := conn.committed ++ [(key, eventId, now)] }) :
    Command.Ends (sqliteClaim faults key eventId now) ret raised conn := by
  have sees : ∀ claims, inserted key eventId now conn.committed = claims →
      inserted key eventId now conn.view = claims := by
    intro claims same
    rw [settled, same]
  unfold sqliteClaim
  rw [ends_try_catch, ends_bind]
  cases inserts : faults .claimInsert with
  | some err =>
    have refuses := refused (Or.inl ⟨.claimInsert, by simp [inserts]⟩)
    have back := (refuses { committed := conn.committed } rfl rfl).1
    rw [ends_raising_some]
    exact claim_handler_ends back fun _ => (refuses conn settled rfl).2
  | none =>
    rw [raising_none]
    cases held : conn.committed.lookup key with
    | some claim =>
      have refuses := refused (Or.inr (by simp [held]))
      have back := (refuses { committed := conn.committed } rfl rfl).1
      rw [ends_write_of_error (sees _ (if_pos (by simp [held])))]
      exact claim_handler_ends back fun _ =>
        (refuses { conn with opened := some conn.view } settled rfl).2
    | none =>
      rw [ends_write_of_ok (sees _ (if_neg (by simp [held]))), ends_bind]
      cases commits : faults .claimCommit with
      | none => exact claimed held
      | some err =>
        obtain ⟨integrity, rolls⟩ := sound err commits
        have refuses := refused (Or.inl ⟨.claimCommit, by simp [commits]⟩)
        have back := (refuses { committed := conn.committed } rfl rfl).1
        rw [ends_raising_some]
        apply claim_handler_ends
        · exact back
        · intro stuck
          exact absurd stuck (by simp [integrity, rolls])

theorem sqlite_release_ends {key : ClaimKey} {eventId : String}
    (sound : faults .releaseDelete = none ∧ faults .releaseCommit = none) :
    Command.Ends (sqliteRelease faults key eventId) ret raised conn ↔
      ret (conn.view.release key eventId).2
      { committed := (conn.view.release key eventId).1 } := by
  unfold sqliteRelease
  rw [ends_bind, sound.1, raising_none, ends_write_of_ok rfl, sound.2]
  rfl

end claims

section ingest

variable {sha : Hashing} {build : GatewayBuild} {call : FaultyCall} {stores : Stores}

theorem ends_on_ledger {Value : Type} {command : Command PyError (Connection SourceLedger) Value}
    {ret : Value → Stores → Prop} {raised : PyError → Stores → Prop} :
    Command.Ends (onLedger command) ret raised stores ↔
      Command.Ends command (fun value ledger => ret value { stores with ledger := ledger })
      (fun err ledger => raised err { stores with ledger := ledger }) stores.ledger :=
  ends_focus ..

theorem ends_on_claims {Value : Type}
    {command : Command PyError (Connection IdempotencyClaims) Value}
    {ret : Value → Stores → Prop} {raised : PyError → Stores → Prop} :
    Command.Ends (onClaims command) ret raised stores ↔
      Command.Ends command (fun value claims => ret value { stores with claims := claims })
      (fun err claims => raised err { stores with claims := claims }) stores.claims :=
  ends_focus ..

structure Steady (stores : Stores) : Prop where
  ledger : stores.ledger.opened = none
  claims : Settled stores.claims

variable (sha build) in
inductive Dealt (call : FaultyCall) (before : Stores) :
    Except PyError SourceResponse → Stores → Prop where
  | nothing (answer : Except PyError SourceResponse) (after : Stores)
      (refused : ¬Accepted answer) (cause : ¬call.Unobstructed sha build before)
      (ledger : after.ledger = before.ledger) (settled : Settled after.claims)
      (claims : after.claims.committed = before.claims.committed) :
      Dealt call before answer after
  | accepted (after : Stores) (ledger : SourceLedger)
      (commit : call.call.commit sha (sqliteSourceLedger sha) before.ledger.committed =
        (ledger, .ok true)) (stored : after.ledger = { committed := ledger })
      (claims : after.claims.committed = before.claims.committed ++
        ((call.call.key build).map fun key =>
          (key, call.call.request.eventId sha, call.call.stamps.claimedAt)).toList)
      (settled : Settled after.claims) :
      Dealt call before (call.call.processed sha build) after

theorem not_accepted_of_error (err : PyError) : ¬Accepted (.error err) := by
  intro accepted
  obtain ⟨response, same, _⟩ := accepted
  cases same

theorem not_accepted_of_false {response : SourceResponse} (rejected : response.accepted = false) :
    ¬Accepted (.ok response) := by
  intro accepted
  obtain ⟨other, same, holds⟩ := accepted
  cases same
  rw [rejected] at holds
  cases holds

theorem processed_ends (verified : Bool) {law : Except PyError SourceResponse → Stores → Prop}
    (given : ∀ processed, law (call.call.processed sha build)
      { stores with processed := processed }) :
    Command.Ends (processAccepted sha (sqliteParts sha build call) call.call.stamps
      call.call.request verified)
      (fun response => law (.ok response)) (fun err => law (.error err)) stores := by
  unfold processAccepted sqliteParts
  unfold IngestCall.processed at given
  cases piped : build.pipeline with
  | false =>
    simp only [piped, Bool.false_eq_true, if_false] at given ⊢
    exact given stores.processed
  | true =>
    simp only [piped, if_true, ends_bind, ends_modify] at given ⊢
    cases res : call.call.result with
    | error err =>
      rw [res] at given
      exact given _
    | ok answer =>
      rw [res] at given
      simp only [ends_of_ok]
      split_ifs with took
      · simp only [Except.map, if_pos took] at given
        exact given _
      · simp only [Except.map, if_neg took] at given
        exact given _

theorem sqlite_commit_and_process_ends (sound : call.Sound build)
    (idle : stores.ledger.opened = none) (verified : Bool) {release : Command PyError Stores Unit}
    (unclaim : Stores → Stores)
    (gives : ∀ (ret : Unit → Stores → Prop) (raised : PyError → Stores → Prop) other,
      Command.Ends release ret raised other ↔ ret () (unclaim other))
    {law : Except PyError SourceResponse → Stores → Prop}
    (refused : ∀ answer, ¬Accepted answer → (∃ stmt, call.faults stmt ≠ none) ∨
      ¬call.call.request.New sha stores.ledger.committed → law answer (unclaim stores))
    (accepted : ∀ ledger, call.call.commit sha (sqliteSourceLedger sha)
      stores.ledger.committed = (ledger, .ok true) →
      ∀ processed, law (call.call.processed sha build)
      { stores with ledger := { committed := ledger }, processed := processed }) :
    Command.Ends (commitAndProcess sha (sqliteParts sha build call) call.call.stamps
      call.call.request release verified)
      (fun response => law (.ok response)) (fun err => law (.error err)) stores := by
  have same : stores = { stores with ledger := { committed := stores.ledger.committed } } := by
    obtain ⟨⟨committed, opened⟩, claims, processed⟩ := stores
    cases idle
    rfl
  unfold commitAndProcess
  rw [ends_bind, ends_try_catch]
  change Command.Ends (onLedger (sqliteCommitIngest call.faults sha _ _)) _ _ stores
  rw [ends_on_ledger, show stores.ledger = { committed := stores.ledger.committed } from
    congrArg Stores.ledger same]
  apply sqlite_commit_ends sound.rolledBack
  · intro faulty
    rw [← same]
    constructor
    · change Command.Ends (do
        release
        return call.call.request.response sha false (some "duplicate_evidence")) _ _ _
      rw [ends_bind, gives]
      exact refused _ (not_accepted_of_false rfl) (Or.inl faulty)
    · intro err
      rw [ends_bind, gives]
      exact refused _ (not_accepted_of_error err) (Or.inl faulty)
  · intro after taken commit
    cases taken with
    | false =>
      obtain ⟨unchanged, held⟩ := duplicate_of_commit commit
      rw [unchanged, ← same]
      change Command.Ends (do
        release
        return call.call.request.response sha false (some "duplicate_evidence")) _ _ _
      rw [ends_bind, gives]
      exact refused _ (not_accepted_of_false rfl)
        (Or.inr fun new => held.elim (fun own => new.1 own) new.2)
    | true =>
      have given := accepted after commit
      exact processed_ends verified given
  · intro after err commit
    exact absurd commit (call.call.commit_ne_error sha)

variable (sha) in
theorem sqlite_ingest_dealt (sound : call.Sound build) (steady : Steady stores) :
    Dealt sha build call stores ((sqliteGateway sha build).answer call stores)
      ((sqliteGateway sha build).next call stores) := by
  apply Command.Ends.outcome (fun answer after => Dealt sha build call stores answer after)
  unfold sqliteIngest gatewayIngest
  have unmet : (∀ verified, call.call.admission ≠ .admitted verified) →
      ¬call.Unobstructed sha build stores :=
    fun other free => free.admitted.elim other
  have obstructed : (∃ stmt, call.faults stmt ≠ none) ∨
      ¬call.call.request.New sha stores.ledger.committed →
        ¬call.Unobstructed sha build stores := by
    intro cause free
    rcases cause with ⟨stmt, injected⟩ | old
    · exact injected (free.faultless stmt)
    · exact old free.new
  cases met : call.call.admission with
  | raised err =>
    exact .nothing _ _ (not_accepted_of_error err) (unmet (by simp [met])) rfl steady.claims rfl
  | refused refusal =>
    exact .nothing _ _ (not_accepted_of_false rfl) (unmet (by simp [met])) rfl steady.claims rfl
  | admitted verified =>
    have claims : (sqliteParts sha build call).idempotency =
        if build.idempotent then some (sqliteClaims call) else none := rfl
    simp only [claimed_of_key build claims]
    cases own : call.call.key build with
    | none =>
      apply sqlite_commit_and_process_ends sound steady.ledger verified id (fun _ _ _ => Iff.rfl)
      · intro answer refused cause
        exact .nothing answer stores refused (obstructed cause) rfl steady.claims rfl
      · intro ledger commit processed
        apply Dealt.accepted
        · exact commit
        · rfl
        · simp [own]
        · exact steady.claims
    | some key =>
      have taken : (∃ stmt, call.faults stmt ≠ none) ∨
          (stores.claims.committed.lookup key).isSome →
            ¬call.Unobstructed sha build stores := by
        intro cause free
        rcases cause with ⟨stmt, injected⟩ | held
        · exact injected (free.faultless stmt)
        · simp [free.free key own] at held
      simp only [Option.map_some, sqliteClaims, ends_bind, ends_on_claims]
      apply sqlite_claim_ends sound.claimed steady.claims
      · intro cause after settled committed
        constructor
        · change Command.Ends (do
            let existing ← onClaims (sqliteGet call.faults key)
            return claimedBefore sha call.call.request existing) _ _ _
          rw [ends_bind, ends_on_claims]
          unfold sqliteGet
          cases call.faults .claimSelect with
          | some err =>
            exact .nothing _ _ (not_accepted_of_error err) (taken cause) rfl settled committed
          | none =>
            rw [raising_none, ends_read, ends_pure]
            exact .nothing _ _ (not_accepted_of_false rfl) (taken cause) rfl settled committed
        · intro err
          exact .nothing _ _ (not_accepted_of_error err) (taken cause) rfl settled committed
      · intro free
        have back := release_of_claim (call.call.request.eventId sha)
          call.call.stamps.claimedAt free
        have idle : ({ stores with claims := { committed := stores.claims.committed ++
            [(key, call.call.request.eventId sha, call.call.stamps.claimedAt)] } } :
              Stores).ledger.opened = none := steady.ledger
        rw [if_pos rfl]
        apply sqlite_commit_and_process_ends sound idle verified
          (fun after => { after with claims := { committed :=
            (after.claims.view.release key (call.call.request.eventId sha)).1 } })
        · intro ret raised other
          rw [ends_bind, ends_on_claims, sqlite_release_ends sound.released]
          rfl
        · intro answer refused cause
          exact .nothing _ _ refused (obstructed cause) rfl rfl back
        · intro ledger commit processed
          apply Dealt.accepted
          · exact commit
          · rfl
          · simp [own]
          · rfl

theorem accepted_of_processed (sound : call.Sound build) :
    Accepted (call.call.processed sha build) := by
  unfold IngestCall.processed
  cases piped : build.pipeline with
  | false => exact ⟨_, rfl, rfl⟩
  | true =>
    obtain ⟨res, answered⟩ := sound.processed piped
    rw [answered]
    exact ⟨_, rfl, rfl⟩

variable {answer : Except PyError SourceResponse} {after : Stores}

section

variable (dealt : Dealt sha build call stores answer after)

include dealt

theorem Dealt.steady (steady : Steady stores) : Steady after := by
  cases dealt with
  | nothing _ _ refused cause ledger settled claims =>
    constructor
    · rw [ledger]
      exact steady.ledger
    · exact settled
  | accepted _ ledger commit stored claims settled =>
    constructor
    · rw [stored]
    · exact settled

theorem Dealt.paired (paired : stores.ledger.committed.Paired) : after.ledger.committed.Paired := by
  cases dealt with
  | nothing _ _ refused cause ledger settled claims =>
    rw [ledger]
    exact paired
  | accepted _ ledger commit stored claims settled =>
    obtain ⟨evidence, rows, _⟩ := stored_of_commit commit
    rw [stored, SourceLedger.Paired, evidence, rows, List.map_append, List.map_append, paired]
    rfl

theorem Dealt.ledger_of_refused
    (sound : call.Sound build) (refused : ¬Accepted answer) :
    after.ledger = stores.ledger ∧ after.claims.committed = stores.claims.committed := by
  cases dealt with
  | nothing _ _ _ cause ledger settled claims => exact ⟨ledger, claims⟩
  | accepted _ ledger commit stored claims settled =>
    exact absurd (accepted_of_processed sound) refused

theorem Dealt.accepted_of_unobstructed
    (sound : call.Sound build) (free : call.Unobstructed sha build stores) :
    Accepted answer := by
  cases dealt with
  | nothing _ _ refused cause => exact absurd free cause
  | accepted => exact accepted_of_processed sound

end

theorem atomic_of_sound (sound : call.Sound build) (steady : Steady stores) :
    call.Atomic sha build stores ((sqliteGateway sha build).next call stores)
      ((sqliteGateway sha build).answer call stores) := by
  have dealt := sqlite_ingest_dealt sha sound steady
  have steadyAfter := dealt.steady steady
  generalize (sqliteGateway sha build).next call stores = after at *
  generalize (sqliteGateway sha build).answer call stores = answer at *
  constructor
  · intro accepted
    cases dealt with
    | nothing _ _ refused => exact absurd accepted refused
    | accepted _ ledger commit stored claims settled =>
      obtain ⟨evidence, rows, _⟩ := stored_of_commit commit
      rw [stored, Outbox.eventIds, evidence, rows, List.map_append, List.map_append]
      constructor
      · exact List.mem_append_right _ (List.mem_singleton_self _)
      · exact List.mem_append_right _ (List.mem_singleton_self _)
  · intro refused
    rw [(dealt.ledger_of_refused sound refused).1]
  · intro entry mem
    cases dealt with
    | nothing _ _ refused cause ledger settled claims =>
      rw [claims] at mem
      exact Or.inl mem
    | accepted _ ledger commit stored claims settled =>
      rw [claims] at mem
      rcases List.mem_append.mp mem with past | own
      · exact Or.inl past
      · apply Or.inr
        constructor
        · obtain ⟨key, keyed, same⟩ := Option.map_eq_some_iff.mp (Option.mem_toList.mp own)
          rw [← same, keyed]
        · exact accepted_of_processed sound
  · intro err failed retry again free processes
    obtain ⟨ledger, claims⟩ := dealt.ledger_of_refused sound (failed ▸ not_accepted_of_error err)
    have whole : retry.Sound build := by
      constructor
      · intro other injected
        rw [free.faultless] at injected
        cases injected
      · exact ⟨free.faultless _, free.faultless _⟩
      · exact free.faultless _
      · exact fun _ => processes
    have unobstructed : retry.Unobstructed sha build after := by
      constructor
      · exact free.admitted
      · exact free.faultless
      · rw [claims]
        exact free.free
      · rw [ledger]
        exact free.new
    have dealt := sqlite_ingest_dealt sha whole steadyAfter
    exact dealt.accepted_of_unobstructed whole unobstructed

end ingest

section runs

variable (sha : Hashing) (build : GatewayBuild)

def Stores.start : Stores := { ledger := { committed := {} }, claims := { committed := [] } }

/-- In every state of the run evidence and outbox are paired, and every call is all or
nothing. -/
def AtomicRun (calls : List FaultyCall) : Prop :=
  let machine := sqliteGateway sha build
  ∀ before after, calls = before ++ after → (machine.run before .start).ledger.committed.Paired ∧
      ∀ call rest, after = call :: rest → call.Atomic sha build (machine.run before .start)
          (machine.next call (machine.run before .start))
          (machine.answer call (machine.run before .start))

variable {sha build}

variable (sha) in
theorem run_steady {calls : List FaultyCall} (sound : ∀ call ∈ calls, call.Sound build) :
    Steady ((sqliteGateway sha build).run calls .start) ∧
      ((sqliteGateway sha build).run calls .start).ledger.committed.Paired := by
  induction calls using List.reverseRecOn with
  | nil => exact ⟨⟨rfl, rfl⟩, rfl⟩
  | append_singleton past call ih =>
    obtain ⟨steady, paired⟩ :=
      ih fun other mem => sound other (List.mem_append_left _ mem)
    have own : call.Sound build := sound call (by simp)
    have dealt := sqlite_ingest_dealt sha own steady
    rw [Machine.run_concat]
    exact ⟨dealt.steady steady, dealt.paired paired⟩

end runs

/-- In every run whose exceptions are raised where they can be taken back, ingests are all or
nothing. -/
theorem ingests_atomic (sha : Hashing) (build : GatewayBuild) (calls : List FaultyCall)
    (sound : ∀ call ∈ calls, call.Sound build) : AtomicRun sha build calls := by
  intro before after split
  rw [split] at sound
  obtain ⟨steady, paired⟩ := run_steady sha
    fun call mem => sound call (List.mem_append_left _ mem)
  apply And.intro paired
  intro call rest first
  rw [first] at sound
  exact atomic_of_sound (sound call (by simp)) steady

def lockedError : PyError := ⟨.other "OperationalError", "database is locked"⟩

def lockedAt (stmt : IngestStatement) : FaultyCall :=
  { call := ingestOf "tenant" "workspace" (some "key")
    faults := fun other => if other = stmt then some lockedError else none }

def unlocked : FaultyCall := { call := ingestOf "tenant" "workspace" (some "key") }

theorem ledger_fault_retried :
    AtomicRun Hashing.plain ⟨true, true⟩
      [lockedAt .outboxInsert, lockedAt .ledgerCommit, unlocked] := by
  apply ingests_atomic
  intro call mem
  simp only [List.mem_cons, List.not_mem_nil, or_false] at mem
  rcases mem with rfl | rfl | rfl
  · exact ⟨by decide, ⟨rfl, rfl⟩, rfl, fun _ => ⟨_, rfl⟩⟩
  · exact ⟨by decide, ⟨rfl, rfl⟩, rfl, fun _ => ⟨_, rfl⟩⟩
  · exact ⟨by decide, ⟨rfl, rfl⟩, rfl, fun _ => ⟨_, rfl⟩⟩

/-- The claim that could not be committed is still seen, so the request cannot be retried. -/
theorem claim_fault_not_retried :
    ¬AtomicRun Hashing.plain ⟨true, true⟩ [lockedAt .claimCommit] := by
  intro atomic
  have call := (atomic [] _ rfl).2 _ _ rfl
  have again : Accepted _ := call.retried lockedError (by decide +kernel) unlocked rfl
    ⟨⟨_, rfl⟩, fun _ => rfl, by decide +kernel, by decide +kernel⟩ ⟨_, rfl⟩
  have refused : (sqliteGateway Hashing.plain ⟨true, true⟩).answer unlocked
      ((sqliteGateway Hashing.plain ⟨true, true⟩).next (lockedAt .claimCommit) .start) =
        .ok (unlocked.call.request.response Hashing.plain false
          (some "duplicate_idempotency")) := by decide +kernel
  exact not_accepted_of_false rfl (refused ▸ again)

end Ois.Sources
