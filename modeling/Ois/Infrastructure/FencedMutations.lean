import Ois.Infrastructure.Tables

/-!
# Fenced mutations and the rows they touch

`FencedPostgresDurableExecutionStore` of `postgres_fencing.py` and
`FencedPostgresWorkflowRunRepository.transition` of `durable.py`.
-/

namespace Ois.Infrastructure

open Ois.Library Ois.Kernel Dict DateTime

/-- A mutation with its arguments. `touched` is the clock that `context.touch()`
reads. -/
inductive FencedMutation where
  | save (ctx : ExecutionContext) (touched : DateTime)
  | putIdempotency (callId : String) (execId : Uuid) (tenant : String)
      (res : InvocationResult)
  | commitCheckpointAndSideEffect (ctx : ExecutionContext) (touched : DateTime)
      (command : SideEffectCommand)
  | completeSideEffect (command : SideEffectCommand) (res : SideEffectResult)
  | delete (execId : Uuid)
  | transition (runId : Uuid) (status : DurableRunStatus) (attempt : Option Int)
      (checkpoint : Option Members) (res : Option Json) (err : Option Members)

namespace FencedStore

variable (pg : Postgres) (lease : WorkerLease) (now : Int)

/-- `_assert_current_cursor(cursor, lease)` in the transaction of a mutation. -/
def asserting {Value : Type} (db : Database) (body : Except PyError Value) :
    Except PyError Value := do
  db.leases.assertCurrent now lease
  body

def checkpointFor (ctx : ExecutionContext) (touched : DateTime) :
    Except PyError ExecutionCheckpointRow := do
  let cur := ctx.touch touched
  let (text, digest) ← pg.statePayload cur
  let state ← pg.column text
  return Database.checkpointRow cur state digest

/-- The state is serialised before the transaction begins, and cast to `jsonb` in
it. -/
def save (ctx : ExecutionContext) (touched : DateTime) (db : Database) :
    Except PyError Database := do
  let _ ← pg.statePayload (ctx.touch touched)
  asserting lease now db do
    let row ← checkpointFor pg ctx touched
    return db.upsertCheckpoint ctx.identity.executionId row

def putIdempotency (callId : String) (execId : Uuid) (tenant : String)
    (res : InvocationResult) (db : Database) : Except PyError Database :=
  if res.isTerminal then
    asserting lease now db do
      let row ← pg.resultRow execId tenant res
      return db.insertIdempotency callId row
  else .ok db

def commitCheckpointAndSideEffect (ctx : ExecutionContext) (touched : DateTime)
    (command : SideEffectCommand) (db : Database) : Except PyError Database := do
  let _ ← pg.statePayload (ctx.touch touched)
  asserting lease now db do
    let row ← checkpointFor pg ctx touched
    let staged ← pg.outboxRow now command
    (db.upsertCheckpoint ctx.identity.executionId row).insertOutboxOnce
      command.effectId staged

def completionMissing : PyError :=
  ⟨.fencingError, "side-effect completion target is missing"⟩

def completeSideEffect (command : SideEffectCommand) (res : SideEffectResult)
    (db : Database) : Except PyError Database :=
  asserting lease now db do
    let output ← pg.outputColumn res
    match db.outbox.lookup command.effectId with
    | none => .error completionMissing
    | some row =>
      if row.executionId = command.executionId then
        return { db with
          outbox := db.outbox.set command.effectId (row.completedBy now output res) }
      else .error completionMissing

def delete (execId : Uuid) (db : Database) : Except PyError Database :=
  asserting lease now db (.ok (db.deleteCheckpoint execId))

def optionalColumn (argument : Option Json) : Except PyError (Option Json) :=
  match argument with
  | none => .ok none
  | some doc => (pg.column (Json.dumpsSorted doc)).map some

/-- The run as the assignments of `transition` leave it. -/
def transitioned (status : DurableRunStatus) (attempt : Option Int)
    (checkpoint res err : Option Json) (run : WorkflowRunRow) : WorkflowRunRow :=
  { run with
    status := status
    updatedAt := now
    attempt := attempt.getD run.attempt
    checkpoint := checkpoint.getD run.checkpoint
    result := res.or run.result
    error := err.or run.error }

def runMissing (runId : Uuid) : PyError :=
  ⟨.other "KeyError", Kernel.reprStr ("workflow run not found: " ++ runId.str)⟩

def transitionedRun (runId : Uuid) (status : DurableRunStatus) (attempt : Option Int)
    (checkpoint : Option Members) (res : Option Json) (err : Option Members)
    (db : Database) : Except PyError WorkflowRunRow := do
  let checkpoint ← optionalColumn pg (checkpoint.map .obj)
  let res ← optionalColumn pg res
  let err ← optionalColumn pg (err.map .obj)
  match db.runs.lookup runId with
  | none => .error (runMissing runId)
  | some run => return transitioned now status attempt checkpoint res err run

/-- `transition` with the run it returns. -/
def transition (runId : Uuid) (status : DurableRunStatus) (attempt : Option Int)
    (checkpoint : Option Members) (res : Option Json) (err : Option Members)
    (db : Database) : Except PyError (Database × WorkflowRunRow) :=
  asserting lease now db do
    let run ← transitionedRun pg now runId status attempt checkpoint res err db
    return ({ db with runs := db.runs.set runId run }, run)

/-- The tables that a mutation leaves. -/
def perform : FencedMutation → Database → Except PyError Database
  | .save ctx touched => save pg lease now ctx touched
  | .putIdempotency callId execId tenant res =>
    putIdempotency pg lease now callId execId tenant res
  | .commitCheckpointAndSideEffect ctx touched command =>
    commitCheckpointAndSideEffect pg lease now ctx touched command
  | .completeSideEffect command res => completeSideEffect pg lease now command res
  | .delete execId => delete lease now execId
  | .transition runId status attempt checkpoint res err => fun db =>
    (transition pg lease now runId status attempt checkpoint res err
      db).map Prod.fst

end FencedStore

open FencedStore

@[ext] structure ExecutionRows where
  checkpoint : Option ExecutionCheckpointRow
  history : Dict Uuid CheckpointHistoryRow
  idempotency : Dict String IdempotencyRow
  outbox : Dict String OutboxRow
  run : Option WorkflowRunRow
  deriving DecidableEq, Repr

def Database.rowsOf (execId : Uuid) (db : Database) : ExecutionRows :=
  { checkpoint := db.checkpoints.lookup execId
    history := db.history.filter fun entry => entry.2.executionId == execId
    idempotency := db.idempotency.filter fun entry => entry.2.executionId == execId
    outbox := db.outbox.filter fun entry => entry.2.executionId == execId
    run := db.runs.lookup execId }

open Database

/-- The rows of every other execution are as they were. -/
def Frames (execId : Uuid) (before after : Database) : Prop :=
  ∀ other, other ≠ execId → after.rowsOf other = before.rowsOf other

section stmts

variable {execId : Uuid} (db : Database)

theorem frames_refl : Frames execId db db := fun _ _ => rfl

theorem frames_upsert_iff (target : Uuid) (row : ExecutionCheckpointRow) :
    Frames execId db (db.upsertCheckpoint target row) ↔ target = execId ∨
        db.checkpoints.lookup target = some (db.upserted target row) := by
  constructor
  · intro frames
    by_cases own : target = execId
    · exact Or.inl own
    · have same := congrArg ExecutionRows.checkpoint (frames target own)
      simp only [rowsOf, upsertCheckpoint, lookup_set_same] at same
      exact Or.inr same.symm
  · intro idle other foreign
    ext1
    case checkpoint =>
      simp only [rowsOf, upsertCheckpoint, lookup_set]
      split_ifs with same
      · rcases idle with own | already
        · exact absurd (same.trans own) foreign
        · rw [same]
          exact already.symm
      · rfl
    all_goals rfl

theorem frames_delete_iff (target : Uuid) :
    Frames execId db (db.deleteCheckpoint target) ↔
      target = execId ∨ db.checkpoints.lookup target = none := by
  constructor
  · intro frames
    by_cases own : target = execId
    · exact Or.inl own
    · have same := congrArg ExecutionRows.checkpoint (frames target own)
      simp only [rowsOf, deleteCheckpoint, lookup_without, if_true] at same
      exact Or.inr same.symm
  · intro idle other foreign
    ext1
    case checkpoint =>
      simp only [rowsOf, deleteCheckpoint, lookup_without]
      split_ifs with same
      · rcases idle with own | missing
        · exact absurd (same.trans own) foreign
        · rw [same, missing]
      · rfl
    all_goals rfl

theorem frames_insert_idempotency_iff (callId : String) (row : IdempotencyRow) :
    Frames execId db (db.insertIdempotency callId row) ↔
      row.executionId = execId ∨ db.idempotency.lookup callId ≠ none := by
  constructor
  · intro frames
    by_contra changes
    push Not at changes
    have same := congrArg ExecutionRows.idempotency (frames row.executionId changes.1)
    simp [rowsOf, insertIdempotency, filter_setdefault, changes.2] at same
  · intro idle other foreign
    ext1
    case idempotency =>
      simp only [rowsOf, insertIdempotency, filter_setdefault]
      rw [if_neg, List.append_nil]
      rintro ⟨missing, own⟩
      rcases idle with target | present
      · exact foreign ((beq_iff_eq.mp own).symm.trans target)
      · exact present missing
    all_goals rfl

theorem frames_set_outbox_iff {effect : String} {row next : OutboxRow}
    (found : db.outbox.lookup effect = some row)
    (same : next.executionId = row.executionId) :
    Frames execId db { db with outbox := db.outbox.set effect next } ↔
      row.executionId = execId ∨ next = row := by
  constructor
  · intro frames
    by_cases own : row.executionId = execId
    · exact Or.inl own
    · have rows := congrArg ExecutionRows.outbox (frames row.executionId own)
      simp only [rowsOf] at rows
      have after : ((db.outbox.set effect next).filter fun entry =>
          entry.2.executionId == row.executionId).lookup effect = some next :=
        lookup_filter_of_kept (lookup_set_same effect next db.outbox) (by simp [same])
      have before : (db.outbox.filter fun entry =>
          entry.2.executionId == row.executionId).lookup effect = some row :=
        lookup_filter_of_kept found (by simp)
      rw [rows, before, Option.some.injEq] at after
      exact Or.inr after.symm
  · intro idle other foreign
    ext1
    case outbox =>
      simp only [rowsOf]
      rcases idle with own | unchanged
      · have away : row.executionId ≠ other := fun here => foreign (here.symm.trans own)
        exact filter_set_of_dropped found (by simpa using away) (by simpa [same] using away)
      · rw [unchanged, set_of_lookup found]
    all_goals rfl

theorem frames_set_run_iff (runId : Uuid) (run : WorkflowRunRow) :
    Frames execId db { db with runs := db.runs.set runId run } ↔
      runId = execId ∨ db.runs.lookup runId = some run := by
  constructor
  · intro frames
    by_cases own : runId = execId
    · exact Or.inl own
    · have same := congrArg ExecutionRows.run (frames runId own)
      simp only [rowsOf, lookup_set_same] at same
      exact Or.inr same.symm
  · intro idle other foreign
    ext1
    case run =>
      simp only [rowsOf, lookup_set]
      split_ifs with same
      · rcases idle with own | already
        · exact absurd (same.trans own) foreign
        · rw [same]
          exact already.symm
      · rfl
    all_goals rfl

theorem frames_stage_iff (effect : String) (row : OutboxRow) (staged : Bool) :
    Frames execId db { db with
        outbox := db.outbox ++ if staged then [] else [(effect, row)] } ↔
      row.executionId = execId ∨ staged = true := by
  constructor
  · intro frames
    by_contra changes
    push Not at changes
    have same := congrArg ExecutionRows.outbox (frames row.executionId changes.1)
    simp [rowsOf, changes.2] at same
  · intro idle other foreign
    ext1
    case outbox =>
      rcases idle with own | already
      · have away : row.executionId ≠ other := fun here => foreign (here.symm.trans own)
        cases staged <;> simp [rowsOf, away]
      · simp [rowsOf, already]
    all_goals rfl

theorem frames_both_iff (checkpoints : Dict Uuid ExecutionCheckpointRow)
    (outbox : Dict String OutboxRow) :
    Frames execId db { db with checkpoints := checkpoints, outbox := outbox } ↔
      Frames execId db { db with checkpoints := checkpoints } ∧
        Frames execId db { db with outbox := outbox } := by
  constructor
  · intro frames
    constructor
    · intro other foreign
      ext1
      case checkpoint =>
        have rows := congrArg ExecutionRows.checkpoint (frames other foreign)
        exact rows
      all_goals rfl
    · intro other foreign
      ext1
      case outbox =>
        have rows := congrArg ExecutionRows.outbox (frames other foreign)
        exact rows
      all_goals rfl
  · intro frames other foreign
    ext1
    case checkpoint =>
      have rows := congrArg ExecutionRows.checkpoint (frames.1 other foreign)
      exact rows
    case outbox =>
      have rows := congrArg ExecutionRows.outbox (frames.2 other foreign)
      exact rows
    all_goals rfl

end stmts

/-- Every execution that the mutation is aimed at is the one leased, or what the
mutation would write for another execution is there already. -/
def FencedMutation.OwnTargets (pg : Postgres) (now : Int) (execId : Uuid)
    (db : Database) : FencedMutation → Prop
  | .save ctx touched => ctx.identity.executionId = execId ∨
      ∃ row, checkpointFor pg ctx touched = .ok row ∧
        db.checkpoints.lookup ctx.identity.executionId =
          some (db.upserted ctx.identity.executionId row)
  | .putIdempotency callId target _ res => res.isTerminal = false ∨
      target = execId ∨ db.idempotency.lookup callId ≠ none
  | .commitCheckpointAndSideEffect ctx touched command =>
    (ctx.identity.executionId = execId ∨
      ∃ row, checkpointFor pg ctx touched = .ok row ∧
        db.checkpoints.lookup ctx.identity.executionId =
          some (db.upserted ctx.identity.executionId row)) ∧
    (command.executionId = execId ∨ db.staged command.invocationId = true)
  | .completeSideEffect command res => command.executionId = execId ∨
      ∃ output row, pg.outputColumn res = .ok output ∧
        db.outbox.lookup command.effectId = some row ∧ row.completedBy now output res = row
  | .delete target => target = execId ∨ db.checkpoints.lookup target = none
  | .transition runId status attempt checkpoint res err => runId = execId ∨
      ∃ run, transitionedRun pg now runId status attempt checkpoint res
          err db = .ok run ∧ db.runs.lookup runId = some run

namespace FencedStore

variable {pg : Postgres} {lease : WorkerLease} {now : Int} {db after : Database}

theorem asserting_ok {Value : Type} {body : Except PyError Value} {value : Value}
    (done : asserting lease now db body = .ok value) : body = .ok value := by
  obtain ⟨_, _, ran⟩ := bind_ok done
  exact ran

theorem save_ok {ctx : ExecutionContext} {touched : DateTime}
    (done : save pg lease now ctx touched db = .ok after) :
    ∃ row, checkpointFor pg ctx touched = .ok row ∧
      after = db.upsertCheckpoint ctx.identity.executionId row := by
  obtain ⟨_, _, inside⟩ := bind_ok done
  obtain ⟨row, written, ended⟩ := bind_ok (asserting_ok inside)
  exact ⟨row, written, (Except.ok.inj ended).symm⟩

theorem put_idempotency_ok {callId tenant : String} {execId : Uuid}
    {res : InvocationResult} (terminal : res.isTerminal = true)
    (done : putIdempotency pg lease now callId execId tenant res
      db = .ok after) :
    ∃ row, row.executionId = execId ∧ after = db.insertIdempotency callId row := by
  rw [putIdempotency, if_pos terminal] at done
  obtain ⟨row, written, ended⟩ := bind_ok (asserting_ok done)
  obtain ⟨doc, _, made⟩ := bind_ok written
  refine ⟨row, ?_, (Except.ok.inj ended).symm⟩
  rw [← Except.ok.inj made]

theorem commit_ok {ctx : ExecutionContext} {touched : DateTime} {command : SideEffectCommand}
    (done : commitCheckpointAndSideEffect pg lease now ctx touched command
      db = .ok after) :
    ∃ row staged, checkpointFor pg ctx touched = .ok row ∧
      staged.executionId = command.executionId ∧
      after = { db.upsertCheckpoint ctx.identity.executionId row with
        outbox := db.outbox ++ if db.staged command.invocationId then []
          else [(command.effectId, staged)] } := by
  obtain ⟨_, _, inside⟩ := bind_ok done
  obtain ⟨row, written, rest⟩ := bind_ok (asserting_ok inside)
  obtain ⟨staged, stages, ended⟩ := bind_ok rest
  obtain ⟨req, _, made⟩ := bind_ok stages
  have fields := Except.ok.inj made
  refine ⟨row, staged, written, ?_, ?_⟩
  · rw [← fields]
  · have inserted := insert_outbox_once_ok ended
    rw [inserted, ← fields]
    rfl

theorem complete_ok {command : SideEffectCommand} {res : SideEffectResult}
    (done : completeSideEffect pg lease now command res db = .ok after) :
    ∃ output row, pg.outputColumn res = .ok output ∧
      db.outbox.lookup command.effectId = some row ∧
      row.executionId = command.executionId ∧
      after = { db with
        outbox := db.outbox.set command.effectId (row.completedBy now output res) } := by
  obtain ⟨output, columns, rest⟩ := bind_ok (asserting_ok done)
  cases found : db.outbox.lookup command.effectId with
  | none => simp [found] at rest
  | some row =>
    simp only [found] at rest
    split_ifs at rest with own
    exact ⟨output, row, columns, rfl, own, (Except.ok.inj rest).symm⟩

theorem transition_ok {runId : Uuid} {status : DurableRunStatus} {attempt : Option Int}
    {checkpoint err : Option Members} {res : Option Json} {run : WorkflowRunRow}
    (done : transition pg lease now runId status attempt checkpoint res err
      db = .ok (after, run)) :
    transitionedRun pg now runId status attempt checkpoint res err db =
        .ok run ∧ after = { db with runs := db.runs.set runId run } := by
  obtain ⟨written, assigned, ended⟩ := bind_ok (asserting_ok done)
  have both := Except.ok.inj ended
  rw [Prod.mk.injEq] at both
  obtain ⟨left, rfl⟩ := both
  exact ⟨assigned, left.symm⟩

end FencedStore

/-- A mutation that succeeds under a lease leaves the rows of every other execution
alone exactly when it is aimed at the execution of the lease, or has nothing to change
where it is aimed elsewhere. -/
theorem fenced_mutation_frames_iff (pg : Postgres) (lease : WorkerLease) (now : Int)
    (mutation : FencedMutation) (db after : Database)
    (done : perform pg lease now mutation db = .ok after) :
    Frames lease.executionId db after ↔
      mutation.OwnTargets pg now lease.executionId db := by
  cases mutation with
  | save ctx touched =>
    obtain ⟨row, written, rfl⟩ := save_ok done
    rw [frames_upsert_iff]
    simp [FencedMutation.OwnTargets, written]
  | putIdempotency callId execId tenant res =>
    by_cases terminal : res.isTerminal = true
    · obtain ⟨row, target, rfl⟩ := put_idempotency_ok terminal done
      rw [frames_insert_idempotency_iff, target]
      simp [FencedMutation.OwnTargets, terminal]
    · have unchanged : after = db := by
        simp only [perform, putIdempotency, if_neg terminal] at done
        exact (Except.ok.inj done).symm
      rw [unchanged]
      exact iff_of_true (frames_refl db) (Or.inl (by simpa using terminal))
  | commitCheckpointAndSideEffect ctx touched command =>
    obtain ⟨row, staged, written, target, rfl⟩ := commit_ok done
    have stages : Frames lease.executionId db _ ↔ _ :=
      frames_stage_iff db command.effectId staged (db.staged command.invocationId)
    have saves : Frames lease.executionId db _ ↔ _ :=
      frames_upsert_iff db ctx.identity.executionId row
    rw [target] at stages
    simp only [upsertCheckpoint] at saves ⊢
    rw [frames_both_iff, saves, stages]
    simp [FencedMutation.OwnTargets, written]
  | completeSideEffect command res =>
    obtain ⟨output, row, columns, found, own, rfl⟩ := complete_ok done
    have kept : (row.completedBy now output res).executionId = row.executionId := rfl
    rw [frames_set_outbox_iff db found kept, own]
    simp [FencedMutation.OwnTargets, columns, found]
  | delete execId =>
    have deleted : after = db.deleteCheckpoint execId :=
      (Except.ok.inj (asserting_ok done)).symm
    rw [deleted, frames_delete_iff]
    rfl
  | transition runId status attempt checkpoint res err =>
    have mapped : (transition pg lease now runId status attempt checkpoint res err
        db).map Prod.fst = .ok after := done
    cases ended : transition pg lease now runId status attempt checkpoint res err
        db with
    | error err => simp [ended, Except.map] at mapped
    | ok both =>
      obtain ⟨left, run⟩ := both
      simp only [ended, Except.map, Except.ok.injEq] at mapped
      subst mapped
      obtain ⟨assigned, rfl⟩ := transition_ok ended
      rw [frames_set_run_iff]
      simp [FencedMutation.OwnTargets, assigned]

def heldLease : WorkerLease :=
  { executionId := ⟨1⟩, workerId := "worker-a", epoch := 1, leaseExpiresAt := 30000000 }

/-- The lease of execution 1 is held, and nothing is stored yet. -/
def leasedDatabase : Database :=
  { leases := [(⟨1⟩, { workerId := "worker-a", epoch := 1, leaseExpiresAt := 30000000 })] }

/-- A context of the given execution with its default fields. -/
def contextOf (execId : Uuid) : ExecutionContext :=
  { identity := { executionId := execId, tenantId := "tenant" }, objective := "fenced"
    createdAt := epoch, updatedAt := epoch }

def savedDatabase (execId : Uuid) : Database :=
  match perform .exact heldLease 0 (.save (contextOf execId) epoch) leasedDatabase with
  | .ok after => after
  | .error _ => leasedDatabase

theorem own_save_framed :
    perform .exact heldLease 0 (.save (contextOf ⟨1⟩) epoch)
        leasedDatabase = .ok (savedDatabase ⟨1⟩) ∧
      Frames ⟨1⟩ leasedDatabase (savedDatabase ⟨1⟩) := by
  have done : perform .exact heldLease 0
      (.save (contextOf ⟨1⟩) epoch) leasedDatabase = .ok (savedDatabase ⟨1⟩) := by
    decide +kernel
  exact ⟨done, (fenced_mutation_frames_iff .exact heldLease 0
    (.save (contextOf ⟨1⟩) epoch) leasedDatabase (savedDatabase ⟨1⟩) done).mpr (Or.inl rfl)⟩

/-- The worker that holds execution 1 writes a checkpoint for execution 2. -/
theorem foreign_save_accepted :
    perform .exact heldLease 0 (.save (contextOf ⟨2⟩) epoch)
        leasedDatabase = .ok (savedDatabase ⟨2⟩) ∧
      ¬Frames heldLease.executionId leasedDatabase (savedDatabase ⟨2⟩) := by
  refine ⟨by decide +kernel, fun frames => ?_⟩
  have same := frames ⟨2⟩ (by decide)
  revert same
  decide +kernel

end Ois.Infrastructure
