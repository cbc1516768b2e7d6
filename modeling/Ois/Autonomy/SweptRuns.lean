import Ois.Autonomy.RowFates

/-!
# Which runs a sweep moves

A sweep takes a run for abandoned when its heartbeat is old, and the `UPDATE` of a transition does
not write the heartbeat.
-/

namespace Ois.Autonomy

open Ois.Library Ois.Kernel Ois.Infrastructure WorkflowRecoverySweeper Machine

/-- No sweep moves a run that a transition was the last to change, and less than the stale
time ago. -/
def RespectsWorkers (sweeper : WorkflowRecoverySweeper) (log : List (Option (List EngineEvent))) :
    Prop :=
  Historically (fun before said => ∀ runIds now, said = some [.swept runIds now] →
    ∀ runId ∈ runIds, ∀ moved,
      (marks runId (eventsOf before)).getLast? = some (.transitioned moved) →
        sweeper.staleAfter ≤ now - moved) log

def SweptAtMost (sweeper : WorkflowRecoverySweeper) (log : List (Option (List EngineEvent))) :
    Prop :=
  ∀ runId, (marks runId (eventsOf log)).countP RunMark.isSweep ≤ sweeper.maxRecoveries

/-- A sweep raises, or selects only rows that were last updated at least the stale time
ago. -/
def SelectsOld (site : Deployment) (stmt : EngineStatement) (scene : EngineScene) :
    Prop :=
  ∀ n limit locked input res, stmt = .enter n (.sweep limit locked) input →
    scene.calls n = none →
      site.sweeper.sweep site.double input.now limit locked scene.shared.runs =
        .ok res →
        ∀ entry ∈ site.sweeper.selected input.now limit.toNat locked scene.shared.runs,
          entry.2.updatedAt ≤ input.now - site.sweeper.staleAfter

structure RowMarked (sweeper : WorkflowRecoverySweeper) (changes : List RunMark)
    (row : DurableRunRow) : Prop where
  last : ∃ mark, changes.getLast? = some mark ∧ mark.now = row.updatedAt ∧
    (mark.isTransition = false → row.lastHeartbeatAt = row.updatedAt)
  sweeps : changes.countP RunMark.isSweep = row.recoveryCount
  bounded : row.recoveryCount ≤ sweeper.maxRecoveries

structure Marked (sweeper : WorkflowRecoverySweeper) (events : List EngineEvent)
    (runs : RunTable) : Prop where
  distinct : (Dict.keys runs).Nodup
  missing : ∀ runId, runs.lookup runId = none → marks runId events = []
  rows : ∀ runId row, runs.lookup runId = some row → RowMarked sweeper (marks runId events) row

section step

variable {site : Deployment} {scene : EngineScene} {stmt : EngineStatement}
  {runs : RunTable} {events said : List EngineEvent}

theorem row_marked_concat {changes : List RunMark} {mark : RunMark}
    {sweeper : WorkflowRecoverySweeper} {row : DurableRunRow} (time : mark.now = row.updatedAt)
    (heard : mark.isTransition = false → row.lastHeartbeatAt = row.updatedAt)
    (sweeps : changes.countP RunMark.isSweep + (if mark.isSweep then 1 else 0) = row.recoveryCount)
    (bounded : row.recoveryCount ≤ sweeper.maxRecoveries) :
    RowMarked sweeper (changes ++ [mark]) row :=
  { last := ⟨mark, by simp, time, heard⟩
    sweeps := by rw [List.countP_append, List.countP_singleton, sweeps]
    bounded := bounded }

theorem marked_step (marked : Marked site.sweeper events scene.shared.runs)
    (step : RunsStep site scene stmt runs said) :
    Marked site.sweeper (events ++ said) runs := by
  constructor
  case distinct => exact distinct_step marked.distinct step
  case missing =>
    intro runId absent
    have row := row_fate runId marked.distinct step
    rw [marks_append]
    rw [absent] at row
    generalize found : scene.shared.runs.lookup runId = old at row
    generalize marks runId said = new at row ⊢
    cases row with
    | kept => rw [marked.missing runId found, List.append_nil]
  case rows =>
    intro runId row present
    have change := row_fate runId marked.distinct step
    rw [marks_append]
    rw [present] at change
    generalize found : scene.shared.runs.lookup runId = old at change
    generalize marks runId said = new at change ⊢
    cases change with
    | kept =>
      rw [List.append_nil]
      exact marked.rows runId row found
    | inserted =>
      rw [marked.missing runId found]
      exact row_marked_concat rfl (fun _ => rfl) rfl (Nat.zero_le _)
    | written _ change now old _ _ _ changed =>
      have before := marked.rows runId old found
      obtain ⟨held, _, _, _, here, _, _, _, rfl⟩ := RunTable.changed_ok changed
      rw [found, Option.some.injEq] at here
      subst here
      apply row_marked_concat rfl
      · simp [RunMark.isTransition]
      · simp [RunMark.isSweep, before.sweeps]
      · exact before.bounded
    | swept n limit locked input old _ selected =>
      have before := marked.rows runId old found
      have stale := (mem_selected selected).2
      apply row_marked_concat rfl
      · exact fun _ => rfl
      · simp [RunMark.isSweep, before.sweeps, swept]
      · exact stale.2.2

theorem marked_run (stmts : List EngineStatement) :
    Marked site.sweeper (eventsOf ((engineMachine site).answers stmts (.quiet {})))
      ((engineMachine site).run stmts (.quiet {})).shared.runs := by
  induction stmts using List.reverseRecOn with
  | nil =>
    exact { distinct := List.nodup_nil, missing := fun _ _ => rfl
            rows := fun runId row found => by simp [run] at found }
  | append_singleton past stmt ih =>
    rw [answers_concat, run_concat, events_of_concat]
    exact marked_step ih (runs_step stmt _)

theorem respects_step_iff (marked : Marked site.sweeper events scene.shared.runs) :
    (∀ runIds now, (engineMachine site).answer stmt scene =
      some [.swept runIds now] → ∀ runId ∈ runIds, ∀ moved,
      (marks runId events).getLast? = some (.transitioned moved) →
      site.sweeper.staleAfter ≤ now - moved) ↔
      SelectsOld site stmt scene := by
  constructor
  · intro respects n limit locked input res made free done entry selected
    obtain ⟨after, recovered⟩ := res
    obtain ⟨_, ids⟩ := sweep_ok done
    have answer : (engineMachine site).answer stmt scene =
        some [.swept (recovered.map (·.runId)) input.now] := by
      rw [made]
      simp [answer, Program.machine, free, engine, enterEngine, enterSweep, attempting, done]
    obtain ⟨mem, stale⟩ := mem_selected selected
    have row := marked.rows entry.1 entry.2 (Dict.lookup_of_mem marked.distinct mem)
    obtain ⟨mark, last, time, heard⟩ := row.last
    cases mark with
    | transitioned moved =>
      have inside : entry.1 ∈ recovered.map (·.runId) := by
        rw [ids]
        exact List.mem_map_of_mem selected
      have waited := respects _ _ answer entry.1 inside moved last
      have moment : moved = entry.2.updatedAt := time
      omega
    | created now | swept now =>
      have heartbeat := heard rfl
      have old := stale.2.1
      omega
  · intro selects runIds now said runId mem moved last
    have step : RunsStep site scene stmt _ _ := runs_step stmt scene
    rw [said, Option.getD_some] at step
    generalize ((engineMachine site).next stmt scene).shared.runs = after at step
    cases step with
    | kept _ _ quiet =>
      have none : runIds = [] := quiet _ (List.mem_singleton_self _)
      rw [none] at mem
      exact absurd mem List.not_mem_nil
    | swept n limit locked input free _ recovered done =>
      obtain ⟨_, ids⟩ := sweep_ok done
      rw [ids] at mem
      obtain ⟨entry, selected, rfl⟩ := List.mem_map.mp mem
      have old := selects n limit locked input _ rfl free done entry selected
      have held := (mem_selected selected).1
      obtain ⟨mark, here, time, _⟩ :=
        (marked.rows entry.1 entry.2 (Dict.lookup_of_mem marked.distinct held)).last
      rw [last, Option.some.injEq] at here
      rw [← here] at time
      have moment : moved = entry.2.updatedAt := time
      omega

end step

/-- In a run of statements of any calls, with any clocks, no sweep moves a run that a
transition has changed less than the stale time ago and no run is swept too often, exactly
when every sweep selects only rows that were last updated at least the stale time ago. -/
theorem sweeps_respect_iff (site : Deployment) (stmts : List EngineStatement) :
    RespectsWorkers site.sweeper ((engineMachine site).answers stmts (.quiet {})) ∧
      SweptAtMost site.sweeper
      ((engineMachine site).answers stmts (.quiet {})) ↔
      (engineMachine site).Throughout (SelectsOld site) stmts (.quiet {}) := by
  have bounded : SweptAtMost site.sweeper
      ((engineMachine site).answers stmts (.quiet {})) := by
    intro runId
    have marked : Marked site.sweeper _ _ := marked_run stmts
    cases found : ((engineMachine site).run stmts (.quiet {})).shared.runs.lookup
        runId with
    | none => simp [marked.missing runId found]
    | some row =>
      rw [(marked.rows runId row found).sweeps]
      exact (marked.rows runId row found).bounded
  rw [and_iff_left bounded]
  clear bounded
  induction stmts using List.reverseRecOn with
  | nil => exact iff_of_true (historically_nil _) trivial
  | append_singleton past stmt ih =>
    rw [answers_concat, RespectsWorkers, historically_concat, throughout_append]
    apply and_congr ih
    simpa [Machine.Throughout] using respects_step_iff (marked_run past)

/-- A run is created and claimed, a worker comes to it after 350 seconds, and a sweep is
made 50 seconds later. -/
def lateStart : List EngineStatement :=
  starting 0 "tenant" false ⟨1⟩ 1 ++ rest 0 2 (second 350) ++
    [.enter 1 (.sweep 100 []) (second 400)]

/-- The sweep takes the run away from its worker. -/
theorem live_run_swept :
    ((engineMachine .exact).run lateStart (.quiet {})).calls 0 ≠ none ∧
      statusOfRun ⟨1⟩ ((engineMachine .exact).run lateStart (.quiet {})) = some .recovering ∧
      ¬RespectsWorkers Deployment.exact.sweeper
      ((engineMachine .exact).answers lateStart (.quiet {})) := by
  refine ⟨by decide +kernel, by decide +kernel, fun respects => ?_⟩
  let log := (engineMachine .exact).answers (starting 0 "tenant" false ⟨1⟩ 1 ++
    rest 0 2 (second 350)) (.quiet {})
  have split : (engineMachine .exact).answers lateStart (.quiet {}) =
      log ++ some [.swept [⟨1⟩] 400000000] :: [] := by decide +kernel
  have moved : (marks ⟨1⟩ (eventsOf log)).getLast? = some (.transitioned 350000000) := by
    decide +kernel
  have waited := respects log _ [] split [⟨1⟩] 400000000 rfl ⟨1⟩ (by decide) 350000000 moved
  exact absurd waited (by decide)

end Ois.Autonomy
