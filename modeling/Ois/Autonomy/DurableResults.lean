import Ois.Autonomy.EffectResults
import Ois.Autonomy.EngineInvariants

/-!
# The results that are kept

The decoder of a row takes a result that is a text for the text of a document, and it reads the
row after the transaction has committed.
-/

namespace Ois.Autonomy

open Ois.Library Ois.Kernel Ois.Infrastructure FencedStore Jsonb DateTime Json

/-- The server hands out no number as a text. -/
def NumbersRead (pg : Postgres) : Prop :=
  ∀ n text, pg.numeric n = some (.str text) → n = .str text

def Untouched (runId : Uuid) (stmt : EngineStatement) (scene : EngineScene) : Prop :=
  ∀ change, Writes scene stmt runId change → RunTable.given change.result = none

/-- The callback of a call has returned: the transition returns its result, the later
reads of the run return it too, and the call goes on to release its lease. -/
structure ResultKept (site : Deployment) (n : Nat) (exec : Execution)
    (res : Json) (input : EngineInput) (scene : EngineScene) : Prop where
  returns : ∃ receipt,
    ((engineMachine site).next (.proceed n input) scene).calls n =
        some (.releasing exec.lease receipt) ∧
      pyEquals receipt.run.result res = true
  reads : ∀ later, (engineMachine site).Throughout (Untouched exec.run.runId) later
      ((engineMachine site).next (.proceed n input) scene) →
    ∃ run, pyEquals run.result res = true ∧
      ((engineMachine site).run (.proceed n input :: later) scene).shared.runs.get
        site.double exec.run.runId = .ok (some run) ∧
      ((engineMachine site).run (.proceed n input :: later) scene).shared.runs.getByEvent
        site.double exec.run.identity = .ok (some run)
  releases : ∀ others ended, (∀ stmt ∈ others, Statement.number stmt ≠ n) →
    ∀ now, ((engineMachine site).run
      (.proceed n input :: others ++ [.proceed n ended]) scene).shared.leases.isCurrent
        now exec.lease = false

abbrev ledgerOf (site : Deployment) :
    Machine LedgerCall LedgerTable (Except PyError (Option SideEffectLedgerEntry)) :=
  sideEffectLedger site.postgres site.reprFloat site.double

def Returnable (site : Deployment) (row : DurableRunRow) (res : Json) : Prop :=
  if res = .null then decodeText site.double (row.result.getD .null) = .ok .null
  else Keeps site.postgres res ∧ NoText (some res)

/-- The lease still holds, and the result can be written to the row and read back. -/
def Completable (site : Deployment) (exec : Execution) (res : Json)
    (input : EngineInput) (tables : EngineTables) : Prop :=
  tables.leases.isCurrent input.now exec.lease = true ∧
    ∃ row, tables.runs.lookup exec.run.runId = some row ∧ Returnable site row res

section columns

variable {pg : Postgres}

theorem str_of_column {res : Json} {text : String} (numbers : NumbersRead pg)
    (written : pg.column (dumpsSorted res) = .ok (.str text)) :
    res = .str text := by
  unfold Postgres.column at written
  cases stored : hold pg.numeric (dumpsSorted res).document with
  | none => simp [stored] at written
  | some doc =>
    simp only [stored, Except.ok.injEq] at written
    subst written
    rw [dumpsSorted] at stored
    cases res with
    | null => simp at stored
    | bool value => simp [hold] at stored
    | int value =>
      simp only [sort_keys_int, hold] at stored
      exact absurd (numbers _ text stored) (by simp)
    | float bits =>
      simp only [sort_keys_float, hold] at stored
      exact absurd (numbers _ text stored) (by simp)
    | str value =>
      simp only [sort_keys_str] at stored
      rw [hold_str stored]
    | arr | obj => simp [hold] at stored

end columns

def EnginePoint.called? : EnginePoint → Option Execution
  | .running exec _ => some exec
  | .failed exec _ _ _ => some exec
  | .returned exec _ => some exec
  | _ => none

def PointWritten (_tables : EngineTables) (point : EnginePoint) : Prop :=
  ∀ exec, point.called? = some exec →
    ∃ eventId, holdText exec.event.eventId = some eventId

section engine

variable {site : Deployment} {scene : EngineScene}

variable {input : EngineInput} {exec : Execution} {res : Json} {old : DurableRunRow}
  {written : Option Json}

theorem written_of_enters {tables : EngineTables} {req : EngineRequest} {next : EnginePoint}
    {stride : EngineStride} (step : Enters site input tables req stride)
    (ahead : stride.point = some next) : PointWritten stride.shared next := by
  intro exec called
  cases step with
  | conflicted | created | approved =>
    cases ahead
    cases called
  | _ => simp at ahead

theorem written_of_proceeds {tables : EngineTables} {point next : EnginePoint}
    {stride : EngineStride} (written : PointWritten tables point)
    (step : Proceeds site input tables point stride) (ahead : stride.point = some next) :
    PointWritten stride.shared next := by
  intro exec called
  cases step with
  | ended => simp at ahead
  | broken => simp at ahead
  | called | threw =>
    cases ahead
    exact written exec called
  | moved own _ change following row run moves cur changed =>
    cases ahead
    cases moves with
    | running =>
      cases called
      obtain ⟨_, _, _, _, _, first, _⟩ := RunTable.changed_ok changed
      obtain ⟨held, column, _⟩ := optional_column_some first
      rw [column_phase _ _ (by decide +kernel)] at column
      cases accepted : holdText exec.event.eventId with
      | none => simp [accepted] at column
      | some eventId => exact ⟨eventId, rfl⟩
    | _ => cases called
  | _ =>
    cases ahead
    cases called

theorem point_written_run (stmts : List EngineStatement) :
    ∀ n point,
      ((engineMachine site).run stmts (.quiet {})).calls n = some point →
      PointWritten ((engineMachine site).run stmts (.quiet {})).shared point := by
  induction stmts using List.reverseRecOn with
  | nil =>
    intro n point reached
    simp [Machine.run] at reached
  | append_singleton past stmt ih =>
    rw [Machine.run_concat]
    apply (engine site).points_next PointWritten stmt
    case entered => exact fun _ req input point _ => written_of_enters (enters req)
    case proceeded =>
      exact fun _ before input point _ _ written => written_of_proceeds written (proceeds before)
    case kept => exact fun point written => written
    case before => exact ih

theorem completed_row {now : Int} {runs : RunTable} {row : DurableRunRow}
    (changed : RunTable.changed site.postgres now exec.run.runId
      (exec.toCompleted res) runs = .ok row) :
    ∃ old written, runs.lookup exec.run.runId = some old ∧
      optionalColumn site.postgres (RunTable.given (some res)) =
      .ok written ∧ row.result = written.or old.result := by
  obtain ⟨old, _, written, _, found, _, column, _, rfl⟩ := RunTable.changed_ok changed
  exact ⟨old, written, found, column, rfl⟩

theorem null_of_equals {value : Json} (equal : pyEquals value .null = true) : value = .null := by
  cases value with
  | null => rfl
  | bool | int | float => simp [pyEquals, number?] at equal
  | str | arr | obj => simp [pyEquals] at equal

theorem given_of_ne_null (present : res ≠ .null) :
    RunTable.given (some res) = some res := by
  simp [RunTable.given, present]

theorem held_iff {res held : Json} (numbers : NumbersRead site.postgres)
    (stored : site.postgres.column (dumpsSorted res) = .ok held) :
    (∃ read, decodeText site.double held = .ok read ∧ pyEquals read res = true) ↔
      Keeps site.postgres res ∧ NoText (some res) := by
  constructor
  · rintro ⟨read, decoded, equal⟩
    have plain : NoText (some held) := by
      intro text same
      have text_held : held = .str text := Option.some.inj same
      rw [text_held] at stored
      rw [text_held, decodeText] at decoded
      rw [str_of_column numbers stored] at equal
      have itself : read = .str text := equals_str.mp equal
      unfold jsonLoads at decoded
      cases loaded : JsonScan.loads? site.double text with
      | none => simp [loaded] at decoded
      | some doc =>
        simp only [loaded, Except.ok.injEq] at decoded
        rw [decoded, itself] at loaded
        exact JsonScan.loads_ne_self text loaded
    have same : held = read := by
      have decodes : decodeText site.double _ = .ok _ := decode_text_of_no_text plain
      rw [Option.getD_some, decoded, Except.ok.injEq] at decodes
      exact decodes.symm
    subst same
    exact ⟨⟨held, stored, equal⟩, (no_text_of_equal equal).mp plain⟩
  · rintro ⟨⟨kept, again, equal⟩, plain⟩
    rw [stored, Except.ok.injEq] at again
    subst again
    exact ⟨held, decode_text_of_no_text ((no_text_of_equal equal).mpr plain), equal⟩

theorem returnable_iff (numbers : NumbersRead site.postgres)
    (column : optionalColumn site.postgres (RunTable.given (some res)) = .ok written) :
    (∃ read, decodeText site.double ((written.or old.result).getD .null) = .ok read ∧
      pyEquals read res = true) ↔ Returnable site old res := by
  unfold Returnable
  by_cases absent : res = .null
  · subst absent
    have ungiven : RunTable.given (some .null) = none := by decide
    have unwritten : written = none := by
      rw [ungiven, optionalColumn, Except.ok.injEq] at column
      exact column.symm
    subst unwritten
    rw [if_pos rfl, Option.none_or]
    constructor
    · rintro ⟨read, decoded, equal⟩
      rw [decoded, null_of_equals equal]
    · exact fun decoded => ⟨.null, decoded, rfl⟩
  · rw [given_of_ne_null absent] at column
    obtain ⟨held, stored, rfl⟩ := optional_column_some column
    rw [if_neg absent, Option.some_or, Option.getD_some]
    exact held_iff numbers stored

theorem column_of_returnable (returnable : Returnable site old res) :
    ∃ written, optionalColumn site.postgres (RunTable.given (some res)) = .ok written := by
  unfold Returnable at returnable
  by_cases absent : res = .null
  · subst absent
    exact ⟨none, rfl⟩
  · rw [if_neg absent] at returnable
    obtain ⟨⟨held, stored, _⟩, _⟩ := returnable
    rw [given_of_ne_null absent]
    exact ⟨some held, by simp [optionalColumn, stored, Except.map]⟩

theorem completed_of_columns {runs : RunTable} {eventId : String}
    (found : runs.lookup exec.run.runId = some old)
    (plain : holdText exec.event.eventId = some eventId)
    (column : optionalColumn site.postgres (RunTable.given (some res)) = .ok written) :
    ∃ row, RunTable.changed site.postgres input.now exec.run.runId
      (exec.toCompleted res) runs = .ok row ∧ row.result = written.or old.result := by
  have checkpoint : ∃ doc, optionalColumn site.postgres
      (some (.obj (exec.phase "completed"))) = .ok (some doc) := by
    simp only [optionalColumn]
    rw [column_phase _ _ (by decide +kernel), plain]
    exact ⟨_, rfl⟩
  obtain ⟨doc, checkpoint⟩ := checkpoint
  exact ⟨_, RunTable.changed_of_columns found checkpoint column rfl, rfl⟩

theorem result_kept_step {stmt : EngineStatement} {runs : RunTable}
    {said : List EngineEvent} {runId : Uuid} {row : DurableRunRow}
    (untouched : Untouched runId stmt scene) (distinct : (Dict.keys scene.shared.runs).Nodup)
    (step : RunsStep site scene stmt runs said)
    (found : scene.shared.runs.lookup runId = some row) :
    ∃ after, runs.lookup runId = some after ∧ after.result = row.result := by
  have fate := row_fate runId distinct step
  rw [found] at fate
  generalize runs.lookup runId = new at fate ⊢
  generalize marks runId said = marked at fate
  cases fate with
  | kept => exact ⟨row, rfl, rfl⟩
  | written _ change _ _ after _ writes changed =>
    obtain ⟨old, _, written, _, here, _, column, _, rfl⟩ := RunTable.changed_ok changed
    rw [found, Option.some.injEq] at here
    subst here
    rw [untouched change writes, optionalColumn, Except.ok.injEq] at column
    subst column
    exact ⟨_, rfl, rfl⟩
  | swept => exact ⟨_, rfl, rfl⟩

def ResultStands (runId : Uuid) (ident : RunIdentity) (written : Option Json)
    (scene : EngineScene) : Prop :=
  EngineSound scene ∧ ∃ row, scene.shared.runs.lookup runId = some row ∧
    row.identity = ident ∧ row.result = written

theorem result_stands_next {runId : Uuid} {ident : RunIdentity} (stmt : EngineStatement)
    (scene : EngineScene) (untouched : Untouched runId stmt scene)
    (stands : ResultStands runId ident written scene) :
    ResultStands runId ident written ((engineMachine site).next stmt scene) := by
  obtain ⟨sound, row, found, own, res⟩ := stands
  have step : RunsStep site scene stmt _ _ := runs_step stmt scene
  obtain ⟨after, there, kept⟩ := result_kept_step untouched sound.runs.distinct step found
  obtain ⟨same, here, identified, _⟩ := row_kept sound.runs.distinct step found
  rw [there, Option.some.injEq] at here
  subst here
  exact ⟨engine_sound_next stmt scene sound, after, there, identified.trans own,
    kept.trans res⟩

theorem read_standing {runId : Uuid} {ident : RunIdentity} {read : Json}
    (stands : ResultStands runId ident written scene)
    (decoded : decodeText site.double (written.getD .null) = .ok read) :
    ∃ run, run.result = read ∧ scene.shared.runs.get site.double runId = .ok (some run) ∧
      scene.shared.runs.getByEvent site.double ident = .ok (some run) := by
  obtain ⟨sound, row, found, own, rfl⟩ := stands
  have sure : ∃ run, row.run site.double runId = .ok run ∧ run.result = read :=
    run_of_sound (sound.runs.rows runId row found) decoded
  obtain ⟨run, reads, res⟩ := sure
  have selected := (of_identity_iff sound.runs).mpr ⟨found, own⟩
  refine ⟨run, res, ?_, ?_⟩
  · simp [RunTable.get, found, reads, Except.map]
  · simp [RunTable.getByEvent, selected, reads, Except.map]

theorem released_not_current (lease : WorkerLease) (leases : LeaseTable) (now : Int) :
    (leases.release lease).isCurrent now lease = false := by
  unfold LeaseTable.isCurrent
  cases found : (leases.release lease).lookup lease.executionId with
  | none => rfl
  | some row =>
    have kept := (List.mem_filter.mp (Dict.mem_of_lookup found)).2
    simp only [beq_self_eq_true, Bool.true_and, Bool.not_eq_true'] at kept
    simp [kept]

theorem result_kept_iff {n : Nat} (numbers : NumbersRead site.postgres)
    (sound : EngineSound scene)
    (written : ∀ n point, scene.calls n = some point → PointWritten scene.shared point)
    (ret : scene.calls n = some (.returned exec res)) :
    ResultKept site n exec res input scene ↔
      Completable site exec res input scene.shared := by
  constructor
  · rintro ⟨⟨receipt, reached, equal⟩, _, _⟩
    have step : Proceeds site input scene.shared (.returned exec res) _ :=
      proceeds_move (.completed res)
    rw [(engine site).next_of_reached input ret, Scene.strode_calls,
      if_pos rfl] at reached
    change (exec.move site (exec.toCompleted res) (exec.receipt none)
      input scene.shared).point = some (.releasing exec.lease receipt) at reached
    generalize exec.move site (exec.toCompleted res)
      (exec.receipt none) input scene.shared = stride at step reached
    cases step with
    | ended => simp at reached
    | broken => simp at reached
    | moved own _ change next row run moves cur changed decoded =>
      cases moves with
      | completed =>
        cases reached
        obtain ⟨before, column, found, stored, rows⟩ := completed_row changed
        obtain ⟨_, _, _, _, _, _, reads, _⟩ := DurableRunRow.run_ok decoded
        rw [rows] at reads
        exact ⟨cur, before, found,
          (returnable_iff numbers stored).mp ⟨run.result, reads, equal⟩⟩
  · rintro ⟨cur, old, found, returnable⟩
    obtain ⟨column, stored⟩ := column_of_returnable returnable
    obtain ⟨read, decoded, equal⟩ := (returnable_iff numbers stored).mpr returnable
    obtain ⟨eventId, plain⟩ := written n _ ret exec rfl
    have moved : ∃ row, RunTable.changed site.postgres input.now exec.run.runId
        (exec.toCompleted res) scene.shared.runs = .ok row ∧
          row.result = column.or old.result := completed_of_columns found plain stored
    obtain ⟨row, changed, rows⟩ := moved
    have whole := row_sound_changed found (sound.runs.rows _ old found) changed
    rw [← rows] at decoded
    have sure : ∃ run, row.run site.double exec.run.runId = .ok run ∧
        run.result = read := run_of_sound whole decoded
    obtain ⟨run, reads, same⟩ := sure
    have after : (engineMachine site).next (.proceed n input) scene =
        scene.strode n (.going
          { scene.shared with runs := scene.shared.runs.set exec.run.runId row }
          (exec.receipt none run)
          [EngineEvent.transitioned exec.run.runId .completed input.now]) := by
      rw [(engine site).next_of_reached input ret]
      change scene.strode n (exec.move site (exec.toCompleted res)
        (exec.receipt none) input scene.shared) = _
      rw [move_of_written cur changed reads]
      rfl
    have stands : ResultStands exec.run.runId exec.run.identity row.result
        ((engineMachine site).next (.proceed n input) scene) := by
      obtain ⟨known, here, own, _⟩ := sound.known n _ ret exec.run rfl
      rw [found, Option.some.injEq] at here
      subst here
      refine ⟨engine_sound_next _ scene sound, row, ?_, ?_, rfl⟩
      · rw [after]
        simp
      · rw [(changed_identity found changed).1, own]
    constructor
    case returns =>
      refine ⟨{ run := run }, ?_, ?_⟩
      · rw [after, Scene.strode_calls, if_pos rfl]
        rfl
      · rw [same]
        exact equal
    case reads =>
      intro later untouched
      obtain ⟨final, res, byId, byEvent⟩ := read_standing
        (Machine.run_keeps result_stands_next untouched stands) decoded
      exact ⟨final, by rw [res, equal], byId, byEvent⟩
    case releases =>
      intro others ended apart now
      have waits : ((engineMachine site).run others
          ((engineMachine site).next (.proceed n input) scene)).calls n =
            some (exec.receipt none run) := by
        rw [(engine site).calls_of_others apart, after, Scene.strode_calls, if_pos rfl]
        rfl
      rw [List.cons_append, Machine.run, Machine.run_concat,
        (engine site).next_of_reached ended waits]
      exact released_not_current _ _ now

end engine

/-- A prepared effect is completed with the result: the call returns it, and so does every
later `get`. -/
structure EffectKept (site : Deployment) (key : String) (res : Json) (now : DateTime)
    (table : LedgerTable) : Prop where
  completes : ∃ entry, pyEquals entry.result res = true ∧
    (ledgerOf site).answer (.complete key res now) table = .ok (some entry)
  reads : ∀ later, ∃ entry, pyEquals entry.result res = true ∧
    (ledgerOf site).answer (.get key)
      ((ledgerOf site).run (.complete key res now :: later) table) = .ok (some entry)

section ledger

variable {site : Deployment}

/-- What is read of a row whatever its result is. -/
structure LedgerRow.Sound (row : LedgerRow) : Prop where
  request : ∃ members, row.request = .obj members
  error : row.error = none

def LedgerSound (table : LedgerTable) : Prop :=
  ∀ key row, table.lookup key = some row → row.Sound

variable {key : String} {row : LedgerRow} {table : LedgerTable}

theorem completed_of_done {doc : Json} {now : DateTime} (done : row.status = .completed) :
    LedgerTable.completed doc now row = row := by
  rw [LedgerTable.completed, if_pos done]

theorem completed_row_next (done : row.status = .completed) (call : LedgerCall)
    (table : LedgerTable) (found : table.lookup key = some row) :
    ((ledgerOf site).next call table).lookup key = some row := by
  have fate : LedgerFate (table.lookup key) (((ledgerOf site).next call table).lookup key) :=
    ledger_fate key
  rw [found] at fate
  generalize ((ledgerOf site).next call table).lookup key = after at fate ⊢
  cases fate with
  | kept => rfl
  | completed => rw [completed_of_done done]

theorem ledger_sound_next (call : LedgerCall) (table : LedgerTable) (sound : LedgerSound table) :
    LedgerSound ((ledgerOf site).next call table) := by
  intro key row found
  have fate : LedgerFate (table.lookup key) (((ledgerOf site).next call table).lookup key) :=
    ledger_fate key
  rw [found] at fate
  generalize before : table.lookup key = old at fate
  cases fate with
  | kept => exact sound key row before
  | prepared _ _ members => exact ⟨⟨members, rfl⟩, rfl⟩
  | completed past doc now =>
    obtain ⟨req, err⟩ := sound key past before
    rw [LedgerTable.completed]
    split_ifs
    · exact ⟨req, err⟩
    · exact ⟨req, err⟩

theorem ledger_sound_run (calls : List LedgerCall) :
    LedgerSound ((ledgerOf site).run calls []) :=
  Machine.run_invariant ledger_sound_next calls (by simp [LedgerSound])

theorem entry_of_completed (site : Deployment) (key : String) (sound : row.Sound)
    (unfinished : row.status ≠ .completed) (held : Json) (now : DateTime) :
    ∃ recorded : SideEffectLedgerEntry,
      (LedgerTable.completed held now row).entry site.reprFloat site.double key =
      (decodeText site.double held).map fun res =>
      { recorded with result := res } := by
  obtain ⟨⟨members, req⟩, err⟩ := sound
  rw [LedgerTable.completed, if_neg unfinished]
  exact ⟨_, entry_of_row req err⟩

theorem effect_kept_iff {res : Json} {now : DateTime} (numbers : NumbersRead site.postgres)
    (sound : LedgerSound table) (prepared : table.lookup key = some row)
    (unfinished : row.status ≠ .completed) :
    EffectKept site key res now table ↔
      Keeps site.postgres res ∧ NoText (some res) := by
  constructor
  · rintro ⟨⟨entry, equal, answered⟩, _⟩
    simp only [Machine.answer, sideEffectLedger, LedgerTable.complete] at answered
    cases stored : site.postgres.column (dumpsSorted res) with
    | error err => simp [stored, Except.map] at answered
    | ok held =>
      obtain ⟨recorded, reads⟩ :=
        entry_of_completed site key (sound key row prepared) unfinished held now
      simp only [stored, prepared, reads] at answered
      cases decoded : decodeText site.double held with
      | error err => simp [decoded, Except.map] at answered
      | ok read =>
        simp only [decoded, Except.map, Except.ok.injEq, Option.some.injEq] at answered
        subst answered
        exact (held_iff numbers stored).mp ⟨read, decoded, equal⟩
  · rintro ⟨kept, plain⟩
    obtain ⟨held, stored, _⟩ := kept
    obtain ⟨read, decoded, equal⟩ := (held_iff numbers stored).mpr ⟨⟨held, stored, ‹_›⟩, plain⟩
    have filed : ((ledgerOf site).next (.complete key res now) table).lookup key =
        some (LedgerTable.completed held now row) := by
      simp [Machine.next, sideEffectLedger, LedgerTable.complete, stored, prepared]
    have reading : ∃ entry, pyEquals entry.result res = true ∧
        (LedgerTable.completed held now row).entry site.reprFloat site.double key =
          .ok entry := by
      obtain ⟨recorded, reads⟩ :=
        entry_of_completed site key (sound key row prepared) unfinished held now
      exact ⟨_, equal, by rw [reads, decoded]; rfl⟩
    obtain ⟨entry, same, reads⟩ := reading
    constructor
    case completes =>
      refine ⟨entry, same, ?_⟩
      simp [Machine.answer, sideEffectLedger, LedgerTable.complete, stored, prepared, reads,
        Except.map]
    case reads =>
      intro later
      have done : (LedgerTable.completed held now row).status = .completed := by
        simp [LedgerTable.completed, unfinished]
      have stays : ((ledgerOf site).run (.complete key res now :: later) table).lookup
          key = some (LedgerTable.completed held now row) :=
        Machine.run_invariant (completed_row_next done) later filed
      refine ⟨entry, same, ?_⟩
      simp [Machine.answer, sideEffectLedger, LedgerTable.get, stays, reads, Except.map]

end ledger

/-- A callback of a call in any run has returned, or a prepared effect is completed for the
first time after any calls of the ledger. Then the result is returned, read back by every
later call, and the lease is released, exactly when the call can complete with it. -/
theorem results_round_trip_iff (site : Deployment) (numbers : NumbersRead site.postgres)
    (res : Json) :
    (∀ stmts n exec input,
      ((engineMachine site).run stmts (.quiet {})).calls n =
      some (.returned exec res) →
      (ResultKept site n exec res input
      ((engineMachine site).run stmts (.quiet {})) ↔
      Completable site exec res input
      ((engineMachine site).run stmts (.quiet {})).shared)) ∧
      ∀ calls key row now, ((ledgerOf site).run calls []).lookup key = some row →
      row.status ≠ .completed →
      (EffectKept site key res now ((ledgerOf site).run calls []) ↔
      Keeps site.postgres res ∧ NoText (some res)) := by
  constructor
  · intro stmts n exec input ret
    exact result_kept_iff numbers (engine_sound_run stmts) (point_written_run stmts)
      ret
  · intro calls key row now prepared unfinished
    exact effect_kept_iff numbers (ledger_sound_run calls) prepared unfinished

def callingBack (res : Json) : List EngineStatement :=
  starting 0 "tenant" false ⟨1⟩ 3 ++ [.proceed 0 { second 0 with outcome := .returned res }]

def sampleExecution : Execution :=
  let call := orderCall "tenant" "worker"
  let event := orderEvent "tenant" false
  { policy := call.policy, run := .new ⟨1⟩ (runIdentity call.workflow event), event := event
    lease := { executionId := ⟨1⟩, workerId := "worker", epoch := 1, leaseExpiresAt := 30000000 } }

/-- A number is kept, by the run and by the ledger. -/
theorem number_kept :
    ResultKept .exact 0 sampleExecution (.int 1) (second 0)
      ((engineMachine .exact).run (callingBack (.int 1)) (.quiet {})) ∧
      EffectKept .exact "key" (.int 1) epoch
      ((ledgerOf .exact).run [.prepare ⟨1⟩ (sampleRequest "key")] []) := by
  have numbers : NumbersRead Deployment.exact.postgres := fun _ _ read => Option.some.inj read
  obtain ⟨runs, effects⟩ := results_round_trip_iff .exact numbers (.int 1)
  have kept : Keeps Deployment.exact.postgres (.int 1) :=
    ⟨.int 1, by decide +kernel, by decide +kernel⟩
  have plain : NoText (some (.int 1)) := by simp [NoText]
  constructor
  · apply (runs (callingBack (.int 1)) 0 sampleExecution (second 0) (by decide +kernel)).mpr
    refine ⟨by decide +kernel, ?_⟩
    have found : ∃ row, ((engineMachine .exact).run (callingBack (.int 1))
        (.quiet {})).shared.runs.lookup sampleExecution.run.runId = some row :=
      Option.isSome_iff_exists.mp (by decide +kernel)
    obtain ⟨row, found⟩ := found
    exact ⟨row, found, by rw [Returnable, if_neg (by decide)]; exact ⟨kept, plain⟩⟩
  · have filed : ((ledgerOf .exact).run [.prepare ⟨1⟩ (sampleRequest "key")] []).lookup "key" =
        some (LedgerTable.prepared ⟨1⟩ (sampleRequest "key") (.obj [("amount", .int 1)])) := by
      decide +kernel
    exact (effects _ "key" _ epoch filed (by decide)).mpr ⟨kept, plain⟩

/-- A callback returns a text: its run is completed, its call raises, and its lease is
held. The ledger raises on the same text once it has completed the effect. -/
theorem text_not_kept :
    let scene := (engineMachine .exact).run (callingBack (.str "done")) (.quiet {})
    let ledger := (ledgerOf .exact).run [.prepare ⟨1⟩ (sampleRequest "key")] []
    statusOfRun ⟨1⟩ ((engineMachine .exact).next (.proceed 0 (second 0)) scene) = some .completed ∧
      ((engineMachine .exact).next (.proceed 0 (second 0)) scene).calls 0 = none ∧
      ((engineMachine .exact).next (.proceed 0 (second 0)) scene).shared.leases.isCurrent 0
      sampleExecution.lease = true ∧
      ¬ResultKept .exact 0 sampleExecution (.str "done") (second 0) scene ∧
      ((ledgerOf .exact).next (.complete "key" (.str "done") epoch) ledger).lookup "key" =
      some { LedgerTable.prepared ⟨1⟩ (sampleRequest "key") (.obj [("amount", .int 1)]) with
      status := .completed, result := some (.str "done"), completedAt := some .epoch } ∧
      ¬EffectKept .exact "key" (.str "done") epoch ledger := by
  intro scene ledger
  have ended : ((engineMachine .exact).next (.proceed 0 (second 0)) scene).calls 0 = none := by
    decide +kernel
  refine ⟨by decide +kernel, ended, by decide +kernel, ?_, by decide +kernel, ?_⟩
  · intro kept
    obtain ⟨receipt, reached, _⟩ := kept.returns
    rw [ended] at reached
    simp at reached
  · intro kept
    obtain ⟨entry, _, answered⟩ := kept.completes
    have raises : (ledgerOf .exact).answer (.complete "key" (.str "done") epoch) ledger =
        .error ⟨.other "JSONDecodeError", "the text is no JSON document"⟩ := by decide +kernel
    rw [raises] at answered
    simp at answered

end Ois.Autonomy
