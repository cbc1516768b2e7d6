import Ois.Library.Machine
import Ois.Library.Ranking
import Ois.Kernel.Postgres

/-!
# The newest checkpoint

The durable store keeps the current state of an execution in one table and the history of its
states in another, and recovery reads the second.
-/

namespace Ois.Kernel

open Ois.Library Ois.Infrastructure Database Machine

/-- `touched` is the clock that `context.touch()` reads, and `now` the clock of the
database. -/
inductive CheckpointCall where
  | save (scope : Option Uuid) (ctx : ExecutionContext) (touched : DateTime)
  | saveCheckpoint (checkpointId : Uuid) (ctx : ExecutionContext) (touched : DateTime)
  | commit (scope : Option Uuid) (ctx : ExecutionContext) (touched : DateTime) (now : Int)
      (command : SideEffectCommand)
  deriving DecidableEq, Repr

namespace NewestCheckpoint

open PostgresDurableExecutionStore

variable (pg : Postgres) (fresh : Uuid) (now : DateTime)

def perform : CheckpointCall → Database → Except PyError Database
  | .save scope ctx touched => save pg scope ctx touched
  | .saveCheckpoint checkpointId ctx touched =>
    saveWithHistory pg checkpointId ctx touched
  | .commit scope ctx touched now command =>
    commitCheckpointAndSideEffect pg scope ctx touched now command

/-- The store. A call that raises is rolled back. -/
def store : Machine CheckpointCall Database (Except PyError Unit) := fun call db =>
  match perform pg call db with
  | .ok after => (after, .ok ())
  | .error err => (db, .error err)

def current : CheckpointCall → ExecutionContext
  | .save _ ctx touched => ctx.touch touched
  | .saveCheckpoint _ ctx touched => ctx.touch touched
  | .commit _ ctx touched _ _ => ctx.touch touched

/-- The context as it is read back. -/
def saved (call : CheckpointCall) : ExecutionContext :=
  { (current call).sorted with lastFailure := (current call).lastFailure.restored }

def address? (call : CheckpointCall) : Option Uuid :=
  match call with
  | .save _ _ _ => some (checkpointAddress pg ⟨0⟩ (current call))
  | .saveCheckpoint checkpointId _ _ =>
    some (checkpointAddress pg checkpointId (current call))
  | .commit _ _ _ _ _ => none

def candidates (call : CheckpointCall) (db : Database) : List CheckpointHistoryRow :=
  historyOf (current call).identity.executionId (current call).identity.tenantId db

def read (row : CheckpointHistoryRow) : Option ExecutionContext :=
  snapshot pg fresh now row.state row.stateHash

def Recovers (call : CheckpointCall) (db : Database) : Prop :=
  load pg fresh now (current call).identity.executionId db = .ok (saved call) ∧
    ∀ rows, Ranking.Arranged Above (candidates call db) rows →
      fetchLastValidCheckpoint pg fresh now rows = some (saved call)

/-- After every call that returned, what it saved is recovered. -/
def RecoversNewest (calls : List CheckpointCall) : Prop :=
  ∀ before call after, calls = before ++ call :: after →
    (store pg).answer call ((store pg).run before {}) = .ok () →
    Recovers pg fresh now call ((store pg).run (before ++ [call]) {})

def ReadsBack (call : CheckpointCall) : Prop :=
  ∃ text digest state, pg.statePayload (current call) = .ok (text, digest) ∧
    pg.column text = .ok state ∧ snapshot pg fresh now state digest = some (saved call)

def Appends (call : CheckpointCall) (db : Database) : Prop :=
  ∃ checkpointId, address? pg call = some checkpointId ∧
    db.history.lookup checkpointId = none

/-- A newest row that the call finds and does not rank over holds the saved state; where
the call writes no row of its own, there is such a row and all newest ones hold it. -/
def KeepsNewest (call : CheckpointCall) (db : Database) : Prop :=
  ReadsBack pg fresh now call ∧
    (Appends pg call db → ∀ step, stepIndex (current call) = .ok step →
      ∀ row, Ranking.Newest Above (read pg fresh now) (candidates call db) row →
        Outranks (rank row) (step, (current call).updatedAt.instant) →
        read pg fresh now row = some (saved call)) ∧
    (¬Appends pg call db →
      (∃ row ∈ candidates call db, (read pg fresh now row).isSome) ∧
        ∀ row, Ranking.Newest Above (read pg fresh now) (candidates call db) row →
          read pg fresh now row = some (saved call))

instance : DecidableRel Above := fun left right =>
  inferInstanceAs (Decidable ((rank right).1 < (rank left).1 ∨
    (rank right).1 = (rank left).1 ∧ (rank right).2 ≤ (rank left).2))

instance : IsTrans CheckpointHistoryRow Above where
  trans first second third firstAbove secondAbove := by
    unfold Above Outranks at *
    omega

instance : Std.Total Above where
  total left right := by
    unfold Above Outranks
    omega

variable {pg fresh now} {call : CheckpointCall} {db after : Database}

structure Wrote (pg : Postgres) (call : CheckpointCall) (text : Json.Text)
    (digest : String) (state : Json) (db after : Database) : Prop where
  payload : pg.statePayload (current call) = .ok (text, digest)
  column : pg.column text = .ok state
  checkpoints : after.checkpoints = (db.upsertCheckpoint (current call).identity.executionId
      (checkpointRow (current call) state digest)).checkpoints
  history : match address? pg call with
    | none => after.history = db.history
    | some checkpointId => ∃ step, stepIndex (current call) = .ok step ∧
        after.history = db.history.setdefault checkpointId
          (historyRow (current call) step state digest)

theorem save_with_history_wrote {checkpointId : Uuid} {ctx : ExecutionContext}
    {touched : DateTime}
    (done : saveWithHistory pg checkpointId ctx touched db = .ok after)
    (same : current call = ctx.touch touched)
    (filed : address? pg call =
      some (checkpointAddress pg checkpointId (ctx.touch touched))) :
    ∃ text digest state, Wrote pg call text digest state db after := by
  obtain ⟨⟨text, digest⟩, body, rest⟩ := bind_ok done
  obtain ⟨step, steps, rest⟩ := bind_ok rest
  obtain ⟨state, columns, rest⟩ := bind_ok rest
  obtain ⟨column, fits, rest⟩ := bind_ok rest
  have whole : column = step := by
    unfold integerColumn at fits
    split_ifs at fits
    exact (Except.ok.inj fits).symm
  have left := (Except.ok.inj rest).symm
  subst left
  refine ⟨text, digest, state, ?_, columns, ?_, ?_⟩
  · rw [same, body]
  · rw [same]
  · rw [filed]
    refine ⟨step, by rw [same, steps], ?_⟩
    rw [same, whole]
    rfl

theorem perform_wrote (done : perform pg call db = .ok after) :
    ∃ text digest state, Wrote pg call text digest state db after := by
  cases call with
  | save scope ctx touched =>
    obtain ⟨_, _, rest⟩ := bind_ok done
    exact save_with_history_wrote rest rfl rfl
  | saveCheckpoint checkpointId ctx touched => exact save_with_history_wrote done rfl rfl
  | commit scope ctx touched now command =>
    obtain ⟨_, _, rest⟩ := bind_ok done
    obtain ⟨_, _, rest⟩ := bind_ok rest
    obtain ⟨⟨text, digest⟩, body, rest⟩ := bind_ok rest
    obtain ⟨state, columns, rest⟩ := bind_ok rest
    obtain ⟨staged, _, inserts⟩ := bind_ok rest
    rw [insert_outbox_once_ok inserts]
    exact ⟨text, digest, state, body, columns, rfl, rfl⟩

theorem load_iff (call : CheckpointCall) (row : ExecutionCheckpointRow)
    (found : db.checkpoints.lookup (current call).identity.executionId = some row) :
    load pg fresh now (current call).identity.executionId db = .ok (saved call) ↔
      snapshot pg fresh now row.state row.stateHash = some (saved call) := by
  unfold load snapshot
  rw [found]
  by_cases intact : pg.sha256 (Json.dumpsSorted row.state) = row.stateHash
  · simp only [intact, ne_eq, not_true_eq_false, if_false, if_true]
    cases CheckpointStore.readState fresh now row.state with
    | error | ok => simp [Except.toOption]
  · simp [intact]

variable {text : Json.Text} {digest : String} {state : Json}

section

variable (wrote : Wrote pg call text digest state db after)

include wrote

theorem reads_back_iff :
    ReadsBack pg fresh now call ↔
      snapshot pg fresh now state digest = some (saved call) := by
  constructor
  · intro ⟨text', digest', state', body, column, reads⟩
    have same := Except.ok.inj (body.symm.trans wrote.payload)
    rw [Prod.mk.injEq] at same
    rw [same.1] at column
    have equal := Except.ok.inj (column.symm.trans wrote.column)
    rw [← equal, ← same.2]
    exact reads
  · intro reads
    exact ⟨text, digest, state, wrote.payload, wrote.column, reads⟩

theorem load_wrote :
    load pg fresh now (current call).identity.executionId after = .ok (saved call) ↔
      ReadsBack pg fresh now call := by
  have found : after.checkpoints.lookup (current call).identity.executionId =
      some (db.upserted (current call).identity.executionId
        (checkpointRow (current call) state digest)) := by
    rw [wrote.checkpoints, upsertCheckpoint, Dict.lookup_set_same]
  have stored : (db.upserted (current call).identity.executionId
      (checkpointRow (current call) state digest)).state = state ∧
      (db.upserted (current call).identity.executionId
        (checkpointRow (current call) state digest)).stateHash = digest := by
    unfold upserted
    cases db.checkpoints.lookup (current call).identity.executionId <;> exact ⟨rfl, rfl⟩
  rw [load_iff call _ found, stored.1, stored.2, reads_back_iff wrote]

omit wrote in
theorem candidates_append (call : CheckpointCall) (checkpointId : Uuid) (row : CheckpointHistoryRow)
    (tenant : row.tenantId = (current call).identity.tenantId)
    (exec : row.executionId = (current call).identity.executionId)
    (grown : after.history = db.history ++ [(checkpointId, row)]) :
    candidates call after = candidates call db ++ [row] := by
  simp [candidates, historyOf, grown, tenant, exec]

theorem history_kept
    (kept : ¬Appends pg call db) : after.history = db.history := by
  have history := wrote.history
  cases filed : address? pg call with
  | none =>
    rw [filed] at history
    exact history
  | some checkpointId =>
    rw [filed] at history
    obtain ⟨step, _, grown⟩ := history
    cases found : db.history.lookup checkpointId with
    | none => exact absurd ⟨checkpointId, filed, found⟩ kept
    | some row => rw [grown, Dict.setdefault, found]

theorem history_grown
    (appends : Appends pg call db) :
    ∃ checkpointId step, stepIndex (current call) = .ok step ∧ after.history = db.history ++
      [(checkpointId, historyRow (current call) step state digest)] := by
  obtain ⟨checkpointId, filed, unused⟩ := appends
  have history := wrote.history
  rw [filed] at history
  obtain ⟨step, steps, grown⟩ := history
  refine ⟨checkpointId, step, steps, ?_⟩
  rw [grown, Dict.setdefault, unused]

end

theorem newest_append_iff {rows : List CheckpointHistoryRow} {row : CheckpointHistoryRow}
    {value : ExecutionContext} (reads : read pg fresh now row = some value) :
    (∀ item, Ranking.Newest Above (read pg fresh now) (rows ++ [row]) item →
      read pg fresh now item = some value) ↔
      ∀ item, Ranking.Newest Above (read pg fresh now) rows item → Above item row →
      read pg fresh now item = some value := by
  constructor
  · intro all item newest outranks
    apply all
    refine ⟨List.mem_append_left _ newest.member, newest.readable, ?_⟩
    intro other mem readable
    rcases List.mem_append.mp mem with old | new
    · exact newest.first other old readable
    · rw [List.mem_singleton.mp new]
      exact outranks
  · intro old item newest
    rcases List.mem_append.mp newest.member with mem | new
    · apply old item
      · refine ⟨mem, newest.readable, ?_⟩
        intro other among readable
        exact newest.first other (List.mem_append_left _ among) readable
      · exact newest.first row (by simp) (by simp [reads])
    · rw [List.mem_singleton.mp new]
      exact reads

theorem recovers_iff (done : perform pg call db = .ok after) :
    Recovers pg fresh now call after ↔ KeepsNewest pg fresh now call db := by
  obtain ⟨text, digest, state, wrote⟩ := perform_wrote done
  unfold Recovers KeepsNewest fetchLastValidCheckpoint
  rw [load_wrote wrote]
  apply and_congr_right
  intro readsBack
  have finds : (∀ rows, Ranking.Arranged Above (candidates call after) rows →
      rows.findSome? (read pg fresh now) = some (saved call)) ↔ _ :=
    Ranking.every_arrangement_finds_iff (saved call)
  apply Iff.trans finds
  by_cases appends : Appends pg call db
  · obtain ⟨checkpointId, step, steps, grown⟩ := history_grown wrote appends
    have reads : read pg fresh now (historyRow (current call) step state digest) =
        some (saved call) := (reads_back_iff wrote).mp readsBack
    rw [candidates_append call checkpointId _ rfl rfl grown, newest_append_iff reads]
    constructor
    · intro ⟨_, newest⟩
      refine ⟨?_, fun kept => absurd appends kept⟩
      intro _ other stepped row first outranks
      rw [steps, Except.ok.injEq] at stepped
      rw [← stepped] at outranks
      exact newest row first outranks
    · intro ⟨newest, _⟩
      refine ⟨⟨historyRow (current call) step state digest, by simp, by simp [reads]⟩, ?_⟩
      intro row first outranks
      exact newest appends step steps row first outranks
  · have same : candidates call after = candidates call db := by
      rw [candidates, historyOf, history_kept wrote appends]
      rfl
    rw [same]
    constructor
    · intro newest
      exact ⟨fun grows => absurd grows appends, fun _ => newest⟩
    · intro ⟨_, newest⟩
      exact newest appends

theorem answer_iff : (store pg).answer call db = .ok () ↔
    perform pg call db = .ok ((store pg).next call db) := by
  unfold answer next store
  cases perform pg call db <;> simp

end NewestCheckpoint

open NewestCheckpoint

/-- After every call of a run that returned, loading and recovering the execution both
lead to what the call saved, exactly when every call that returned saved a state that
its columns give back and left it the newest of the history. -/
theorem newest_recovered_iff (pg : Postgres) (fresh : Uuid) (now : DateTime)
    (calls : List CheckpointCall) :
    RecoversNewest pg fresh now calls ↔ (store pg).Throughout (fun call db =>
      (store pg).answer call db = .ok () →
      KeepsNewest pg fresh now call db) calls {} := by
  rw [throughout_iff]
  constructor
  · intro recovers before call after split ret
    have recovered := recovers before call after split ret
    rw [run_concat] at recovered
    exact (recovers_iff (answer_iff.mp ret)).mp recovered
  · intro keeps before call after split ret
    rw [run_concat]
    exact (recovers_iff (answer_iff.mp ret)).mpr (keeps before call after split ret)

def firstCommit : CheckpointCall :=
  .commit none
    { identity := { executionId := ⟨1⟩, tenantId := (Uuid.mk 2).str }, objective := "first"
      createdAt := DateTime.epoch, updatedAt := DateTime.epoch }
    DateTime.epoch 0
    { effectId := "effect", tenantId := (Uuid.mk 2).str, executionId := ⟨1⟩
      invocationId := "invocation", capabilityId := "capability", idempotencyKey := "key"
      request := [] }

theorem first_commit_not_recovered :
    (store .exact).answer firstCommit {} = .ok () ∧
      ¬NewestCheckpoint.RecoversNewest .exact ⟨0⟩ DateTime.epoch [firstCommit] := by
  have ret : (store .exact).answer firstCommit {} = .ok () := by
    decide +kernel
  refine ⟨ret, ?_⟩
  intro recovers
  have recovered := recovers [] firstCommit [] rfl ret
  rw [run_concat] at recovered
  have keeps := (recovers_iff (answer_iff.mp ret)).mp recovered
  have unfiled : ¬NewestCheckpoint.Appends .exact firstCommit {} := by
    intro ⟨checkpointId, filed, _⟩
    cases filed
  obtain ⟨⟨row, mem, _⟩, _⟩ := keeps.2.2 unfiled
  cases mem

end Ois.Kernel
