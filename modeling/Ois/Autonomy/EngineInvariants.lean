import Ois.Autonomy.RowFates

/-!
# What holds in every state of the engine

Each idempotency key and each identity has at most one run, every row but for its result
can be decoded, and the runs that the calls under way are about are rows of the table.
-/

namespace Ois.Autonomy

open Ois.Library Ois.Kernel Ois.Infrastructure RunTable Jsonb FencedStore Dict Json

structure RowSound (row : DurableRunRow) : Prop where
  keyed : row.idempotencyKey = row.identity.idempotencyKey
  checkpoint : ∃ members, row.checkpoint = .obj members
  error : ∀ doc, row.error = some doc → ∃ members, doc = .obj members

structure RunsSound (runs : RunTable) : Prop where
  distinct : (keys runs).Nodup
  rows : ∀ runId row, runs.lookup runId = some row → RowSound row
  single : ∀ first second row other, runs.lookup first = some row →
    runs.lookup second = some other → row.idempotencyKey = other.idempotencyKey → first = second

def Known (runs : RunTable) (run : DurableWorkflowRun) : Prop :=
  ∃ row, runs.lookup run.runId = some row ∧ row.identity = run.identity ∧
    row.idempotencyKey = run.idempotencyKey

def EnginePoint.run? : EnginePoint → Option DurableWorkflowRun
  | .conflicted _ _ _ => none
  | .created _ _ run => some run
  | .refused run => some run
  | .claimed _ _ run => some run
  | .approved _ _ _ => none
  | .found _ _ run => some run
  | .owned _ _ run _ => some run
  | .current _ _ run _ => some run
  | .leased exec => some exec.run
  | .requesting exec _ => some exec.run
  | .waiting exec _ => some exec.run
  | .running exec _ => some exec.run
  | .failed exec _ _ _ => some exec.run
  | .returned exec _ => some exec.run
  | .releasing _ _ => none

def PointKnown (tables : EngineTables) (point : EnginePoint) : Prop :=
  ∀ run, point.run? = some run → Known tables.runs run

structure EngineSound (scene : EngineScene) : Prop where
  runs : RunsSound scene.shared.runs
  known : ∀ n point, scene.calls n = some point → PointKnown scene.shared point

section checkpoints

theorem sort_phase (exec : Execution) (name : String) :
    sortKeys (.obj (exec.phase name)) =
      .obj [("event_id", .str exec.event.eventId), ("phase", .str name)] := by
  have order : ¬Json.KeyOrder ("phase", .str name) ("event_id", .str exec.event.eventId) := by
    change ¬"phase" ≤ "event_id"
    decide
  simp [Execution.phase, sortValues, sortKeys, order]

theorem column_phase (pg : Postgres) (exec : Execution) {name : String}
    (plain : holdText name = some name) :
    pg.column (dumpsSorted (.obj (exec.phase name))) =
      match holdText exec.event.eventId with
      | some eventId => .ok (.obj [("event_id", .str eventId), ("phase", .str name)])
      | none => .error Postgres.jsonbRefused := by
  have first : holdText "event_id" = some "event_id" := by decide +kernel
  have second : holdText "phase" = some "phase" := by decide +kernel
  simp only [Postgres.column, dumpsSorted, sort_phase]
  cases held : holdText exec.event.eventId with
  | none | some => simp [hold, holdMembers, first, second, plain, held]

end checkpoints

section rows

variable {pg : Postgres} {now : Int} {runId : Uuid} {change : RunChange} {table : RunTable}
  {row : DurableRunRow}

theorem optional_column_some {doc : Json} {written : Option Json}
    (done : optionalColumn pg (some doc) = .ok written) :
    ∃ held, pg.column (dumpsSorted doc) = .ok held ∧ written = some held := by
  simp only [optionalColumn] at done
  cases column : pg.column (dumpsSorted doc) with
  | error err => simp [column, Except.map] at done
  | ok held =>
    simp only [column, Except.map, Except.ok.injEq] at done
    exact ⟨held, rfl, done.symm⟩

theorem optional_column_obj {members : Option Members} {written : Option Json}
    (done : optionalColumn pg (members.map .obj) = .ok written) :
    ∀ doc, written = some doc → ∃ kept, doc = .obj kept := by
  rintro doc rfl
  cases members with
  | none => simp [optionalColumn] at done
  | some members =>
    simp only [optionalColumn, Option.map_some] at done
    cases held : pg.column (dumpsSorted (.obj members)) with
    | error err => simp [held, Except.map] at done
    | ok kept =>
      obtain ⟨inside, rfl⟩ := column_obj held
      simp only [held, Except.map, Except.ok.injEq, Option.some.injEq] at done
      exact ⟨inside, done.symm⟩

theorem changed_identity {old : DurableRunRow} (found : table.lookup runId = some old)
    (changed : changed pg now runId change table = .ok row) :
    row.identity = old.identity ∧ row.idempotencyKey = old.idempotencyKey := by
  obtain ⟨held, _, _, _, here, _, _, _, rfl⟩ := changed_ok changed
  rw [found, Option.some.injEq] at here
  subst here
  exact ⟨rfl, rfl⟩

theorem row_sound_changed {old : DurableRunRow} (found : table.lookup runId = some old)
    (sound : RowSound old)
    (changed : changed pg now runId change table = .ok row) : RowSound row := by
  obtain ⟨held, checkpoint, res, err, here, first, _, third, rfl⟩ :=
    changed_ok changed
  rw [found, Option.some.injEq] at here
  subst here
  constructor
  case keyed => exact sound.keyed
  case checkpoint =>
    cases checkpoint with
    | none => exact sound.checkpoint
    | some doc => exact optional_column_obj first doc rfl
  case error =>
    intro doc written
    cases err with
    | none => exact sound.error doc written
    | some kept => exact optional_column_obj third doc written

end rows

section steps

variable {site : Deployment} {scene : EngineScene} {stmt : EngineStatement}
  {runs : RunTable} {said : List EngineEvent}

theorem row_kept (distinct : (keys scene.shared.runs).Nodup)
    (step : RunsStep site scene stmt runs said) {runId : Uuid} {row : DurableRunRow}
    (found : scene.shared.runs.lookup runId = some row) :
    ∃ after, runs.lookup runId = some after ∧ after.identity = row.identity ∧
      after.idempotencyKey = row.idempotencyKey := by
  have fate := row_fate runId distinct step
  rw [found] at fate
  generalize runs.lookup runId = new at fate ⊢
  generalize marks runId said = marked at fate
  cases fate with
  | kept => exact ⟨row, rfl, rfl, rfl⟩
  | written _ _ _ _ after here _ changed =>
    exact ⟨after, rfl, changed_identity found changed⟩
  | swept => exact ⟨_, rfl, rfl, rfl⟩

theorem known_kept (distinct : (keys scene.shared.runs).Nodup)
    (step : RunsStep site scene stmt runs said) {run : DurableWorkflowRun}
    (known : Known scene.shared.runs run) : Known runs run := by
  obtain ⟨row, found, ident, key⟩ := known
  obtain ⟨after, there, sameIdentity, sameKey⟩ := row_kept distinct step found
  exact ⟨after, there, sameIdentity.trans ident, sameKey.trans key⟩

theorem row_sound_step (sound : RunsSound scene.shared.runs)
    (step : RunsStep site scene stmt runs said) {runId : Uuid} {row : DurableRunRow}
    (found : runs.lookup runId = some row) : RowSound row := by
  have fate := row_fate runId sound.distinct step
  rw [found] at fate
  generalize past : scene.shared.runs.lookup runId = old at fate
  generalize marks runId said = marked at fate
  cases fate with
  | kept => exact sound.rows runId row past
  | inserted n call event input checkpoint stored =>
    obtain ⟨members, rfl⟩ := column_obj stored
    exact { keyed := rfl, checkpoint := ⟨members, rfl⟩
            error := fun doc written => by simp [insertion] at written }
  | written _ change now before _ here _ changed =>
    exact row_sound_changed here (sound.rows runId before here) changed
  | swept n limit locked input before here =>
    have held := sound.rows runId before here
    exact ⟨held.keyed, held.checkpoint, held.error⟩

theorem key_origin (distinct : (keys scene.shared.runs).Nodup)
    (step : RunsStep site scene stmt runs said) {runId : Uuid} {row : DurableRunRow}
    (found : runs.lookup runId = some row) :
    (∃ old, scene.shared.runs.lookup runId = some old ∧ old.idempotencyKey = row.idempotencyKey) ∨
      (∀ entry ∈ scene.shared.runs, entry.2.idempotencyKey ≠ row.idempotencyKey) ∧
      ∃ n call event input, stmt = .enter n (.start call event runId) input := by
  cases past : scene.shared.runs.lookup runId with
  | some old =>
    obtain ⟨after, there, _, key⟩ := row_kept distinct step past
    rw [found, Option.some.injEq] at there
    exact Or.inl ⟨old, rfl, there ▸ key.symm⟩
  | none =>
    have fate := row_fate runId distinct step
    rw [found, past] at fate
    generalize marks runId said = marked at fate
    cases fate with
    | inserted n call event input checkpoint stored identified unkeyed =>
      exact Or.inr ⟨unkeyed, n, call, event, input, rfl⟩

theorem runs_sound_step (sound : RunsSound scene.shared.runs)
    (step : RunsStep site scene stmt runs said) : RunsSound runs := by
  constructor
  case distinct => exact distinct_step sound.distinct step
  case rows => exact fun runId row found => row_sound_step sound step found
  case single =>
    intro first second row other here there same
    rcases key_origin sound.distinct step here with ⟨old, before, key⟩ | ⟨fresh, made⟩
    · rcases key_origin sound.distinct step there with ⟨older, past, lock⟩ | ⟨fresh, _⟩
      · exact sound.single first second old older before past (by rw [key, lock, same])
      · exact absurd (key.trans same) (fresh _ (mem_of_lookup before))
    · rcases key_origin sound.distinct step there with ⟨older, past, lock⟩ | ⟨_, again⟩
      · exact absurd (lock.trans same.symm) (fresh _ (mem_of_lookup past))
      · obtain ⟨_, _, _, _, rfl⟩ := made
        obtain ⟨_, _, _, _, equal⟩ := again
        cases equal
        rfl

end steps

section reading

variable {site : Deployment} {scene : EngineScene} {runs : RunTable}
  {ident : RunIdentity} {run : DurableWorkflowRun}

theorem of_identity_iff (sound : RunsSound runs) {runId : Uuid} {row : DurableRunRow} :
    runs.ofIdentity ident = some (runId, row) ↔
      runs.lookup runId = some row ∧ row.identity = ident := by
  unfold ofIdentity
  constructor
  · intro selected
    have mem := List.mem_of_find?_eq_some selected
    have same := List.find?_some selected
    exact ⟨lookup_of_mem sound.distinct mem, by simpa using same⟩
  · rintro ⟨found, rfl⟩
    have mem := mem_of_lookup found
    cases selected : runs.find? fun entry => entry.2.identity = row.identity with
    | none =>
      have unequal := List.find?_eq_none.mp selected (runId, row) mem
      simp at unequal
    | some entry =>
      obtain ⟨other, held⟩ := entry
      have there := lookup_of_mem sound.distinct (List.mem_of_find?_eq_some selected)
      have equal : held.identity = row.identity := by simpa using List.find?_some selected
      have key : held.idempotencyKey = row.idempotencyKey := by
        rw [(sound.rows other held there).keyed, (sound.rows runId row found).keyed, equal]
      have same := sound.single other runId held row there found key
      subst same
      rw [found, Option.some.injEq] at there
      rw [there]

theorem read_ok (sound : RunsSound runs)
    (read : runs.getByEvent site.double ident = .ok (some run)) :
    Known runs run ∧ run.identity = ident := by
  unfold getByEvent at read
  cases selected : runs.ofIdentity ident with
  | none => simp [selected] at read
  | some entry =>
    obtain ⟨runId, row⟩ := entry
    obtain ⟨found, same⟩ := (of_identity_iff sound).mp selected
    simp only [selected] at read
    cases decoded : row.run site.double runId with
    | error err => simp [decoded, Except.map] at read
    | ok res =>
      simp only [decoded, Except.map, Except.ok.injEq, Option.some.injEq] at read
      subst read
      obtain ⟨own, ident, _, _, key, _⟩ := DurableRunRow.run_ok decoded
      exact ⟨⟨row, by rw [own, found], ident.symm, key.symm⟩, ident.trans same⟩

theorem run_of_sound {runId : Uuid} {row : DurableRunRow} {res : Json} (sound : RowSound row)
    (decoded : decodeText site.double (row.result.getD .null) = .ok res) :
    ∃ run, row.run site.double runId = .ok run ∧ run.result = res := by
  obtain ⟨members, checkpoint⟩ := sound.checkpoint
  have err : ∃ held, decodeText site.double (row.error.getD .null) = .ok held := by
    cases written : row.error with
    | none => exact ⟨.null, rfl⟩
    | some doc =>
      obtain ⟨kept, rfl⟩ := sound.error doc written
      exact ⟨.obj kept, rfl⟩
  obtain ⟨held, err⟩ := err
  simp only [DurableRunRow.run, checkpoint, decodeMembers, decoded, err, bind, Except.bind,
    pure, Except.pure]
  exact ⟨_, rfl, rfl⟩

end reading

section engine

variable {site : Deployment} {scene : EngineScene}

theorem moves_run {exec : Execution} {point : EnginePoint} {change : RunChange}
    {next : DurableWorkflowRun → EnginePoint} (moves : Moves exec point change next) :
    point.run? = some exec.run := by
  cases moves <;> rfl

theorem run_of_proceeds {input : EngineInput} {tables : EngineTables} {point next : EnginePoint}
    {stride : EngineStride} {run : DurableWorkflowRun} (sound : RunsSound tables.runs)
    (step : Proceeds site input tables point stride) (ahead : stride.point = some next)
    (about : next.run? = some run) : point.run? = some run ∨ Known tables.runs run := by
  cases step with
  | ended => simp at ahead
  | broken => simp at ahead
  | conflicted call event _ existing read | found call askId approval existing read =>
    cases ahead
    cases about
    exact Or.inr (read_ok sound read).1
  | moved exec _ change following row res moves =>
    cases ahead
    cases moves with
    | running => exact Or.inl about
    | _ => cases about
  | _ =>
    cases ahead
    exact Or.inl about

theorem known_inserted {pg : Postgres} {now : Int} {runs after : RunTable} {runId : Uuid}
    {ident : RunIdentity}
    (inserted : runs.insert pg now (.new runId ident) = .ok (some after)) :
    Known after (.new runId ident) := by
  obtain ⟨checkpoint, _, missing, _, _, rfl⟩ := insert_ok inserted
  exact ⟨_, by rw [lookup_append_fresh missing, if_pos rfl], rfl, rfl⟩

theorem known_of_enters {input : EngineInput} {tables : EngineTables} {req : EngineRequest}
    {next : EnginePoint} {stride : EngineStride} {run : DurableWorkflowRun}
    (step : Enters site input tables req stride) (ahead : stride.point = some next)
    (about : next.run? = some run) : Known stride.shared.runs run := by
  cases step with
  | created call event runId runs fires inserted =>
    cases ahead
    cases about
    exact known_inserted inserted
  | conflicted | approved =>
    cases ahead
    cases about
  | ended | decided | swept | moved => simp at ahead

theorem engine_sound_next (stmt : EngineStatement) (scene : EngineScene)
    (sound : EngineSound scene) :
    EngineSound ((engineMachine site).next stmt scene) := by
  have step : RunsStep site scene stmt _ _ := runs_step stmt scene
  refine ⟨runs_sound_step sound.runs step, ?_⟩
  apply (engine site).points_next PointKnown stmt scene
  case entered =>
    intro n req input point _ reached run about
    exact known_of_enters (enters req) reached about
  case proceeded =>
    intro n past input point _ there known reached run about
    have after : RunsStep site scene (.proceed n input) _ _ := proceed_runs input there
    rcases run_of_proceeds sound.runs (proceeds past) reached about with same | read
    · exact known_kept sound.runs.distinct after (known run same)
    · exact known_kept sound.runs.distinct after read
  case kept =>
    intro point known run about
    exact known_kept sound.runs.distinct step (known run about)
  case before => exact sound.known

theorem engine_sound_quiet : EngineSound (.quiet {}) :=
  { runs := { distinct := List.nodup_nil, rows := by simp, single := by simp }
    known := by simp }

theorem engine_sound_run (stmts : List EngineStatement) :
    EngineSound ((engineMachine site).run stmts (.quiet {})) :=
  Machine.run_invariant engine_sound_next stmts engine_sound_quiet

theorem of_identity_of_conflict {pg : Postgres} {now : Int} {runs : RunTable}
    {run : DurableWorkflowRun} (conflict : runs.insert pg now run = .ok none) :
    ∃ entry, runs.ofIdentity run.identity = some entry := by
  obtain ⟨_, _, rest⟩ := bind_ok conflict
  rw [← Option.isSome_iff_exists]
  by_contra fresh
  rw [if_neg fresh] at rest
  split_ifs at rest
  cases rest

/-- The run that a waiting `create` conflicted with is in the table. -/
def Met (tables : EngineTables) (point : EnginePoint) : Prop :=
  ∀ call event run, point = .conflicted call event run →
    ∃ runId row, tables.runs.lookup runId = some row ∧ row.identity = run.identity

theorem met_entered {input : EngineInput} {tables : EngineTables} {req : EngineRequest}
    {point : EnginePoint} (sound : RunsSound tables.runs)
    (reached : (enterEngine site req input tables).point = some point) :
    Met (enterEngine site req input tables).shared point := by
  rintro call event run rfl
  have step : Enters site input tables req _ := enters req
  cases req with
  | start asked given runId =>
    simp only [enterEngine, enterStart, attempting] at reached ⊢
    split_ifs at reached ⊢
    · cases inserted : tables.runs.insert site.postgres input.now
          (.new runId (runIdentity asked.workflow given)) with
      | error err => simp [inserted] at reached
      | ok answer =>
        cases answer with
        | some runs => simp [inserted] at reached
        | none =>
          simp only [inserted] at reached ⊢
          cases reached
          obtain ⟨⟨found, row⟩, selected⟩ := of_identity_of_conflict inserted
          exact ⟨found, row, (of_identity_iff sound).mp selected⟩
    · cases reached
  | _ =>
    generalize enterEngine site _ input tables = stride at step reached
    cases step <;> cases reached

def EngineMet (scene : EngineScene) : Prop :=
  EngineSound scene ∧ ∀ n point, scene.calls n = some point → Met scene.shared point

theorem engine_met_next (stmt : EngineStatement) (scene : EngineScene)
    (before : EngineMet scene) : EngineMet ((engineMachine site).next stmt scene) := by
  obtain ⟨sound, met⟩ := before
  refine ⟨engine_sound_next stmt scene sound, ?_⟩
  apply (engine site).points_next Met stmt scene
  case entered => exact fun _ _ _ _ _ reached => met_entered sound.runs reached
  case proceeded =>
    rintro n past input _ _ _ _ reached call event run rfl
    exfalso
    have step : Proceeds site input scene.shared past _ := proceeds past
    change (proceedEngine site past input scene.shared).point = _ at reached
    generalize proceedEngine site past input scene.shared = stride at step reached
    cases step with
    | moved _ _ _ _ _ _ moves => cases moves <;> cases reached
    | _ => cases reached
  case kept =>
    intro point met call event run stands
    obtain ⟨runId, row, found, same⟩ := met call event run stands
    obtain ⟨after, there, kept, _⟩ := row_kept sound.runs.distinct (runs_step stmt scene) found
    exact ⟨runId, after, there, kept.trans same⟩
  case before => exact met

/-- Each event of a workflow has one run, whoever starts it and wherever calls crash, and a call
of `create` that met one there finds it, however long it waits. -/
theorem conflicting_run_found (stmts : List EngineStatement) :
    let scene := (engineMachine site).run stmts (.quiet {})
    (scene.shared.runs.map (·.2.identity)).Nodup ∧
      ∀ n call event run, scene.calls n = some (.conflicted call event run) →
        scene.shared.runs.getByEvent site.double run.identity ≠ .ok none := by
  have whole : EngineMet ((engineMachine site).run stmts (.quiet {})) :=
    Machine.run_invariant engine_met_next stmts ⟨engine_sound_quiet, by simp⟩
  generalize (engineMachine site).run stmts (.quiet {}) = scene at whole
  obtain ⟨⟨sound, _⟩, met⟩ := whole
  constructor
  · apply List.Nodup.map_on _ (List.Nodup.of_map _ sound.distinct)
    rintro ⟨first, row⟩ here ⟨second, other⟩ there same
    have selected := (of_identity_iff sound).mpr ⟨lookup_of_mem sound.distinct here, same⟩
    rw [(of_identity_iff sound).mpr ⟨lookup_of_mem sound.distinct there, rfl⟩] at selected
    exact (Option.some.inj selected).symm
  · intro n call event run waits read
    obtain ⟨runId, row, found⟩ := met n _ waits call event run rfl
    rw [getByEvent, (of_identity_iff sound).mpr found] at read
    cases decoded : row.run site.double runId <;> simp [decoded, Except.map] at read

end engine

end Ois.Autonomy
