import Ois.Autonomy.EngineSteps

/-!
# What becomes of the row of a run

A statement leaves the row of a run alone, inserts it, writes a transition or sweeps it,
and what is told of the statement says which.
-/

namespace Ois.Autonomy

open Ois.Library Ois.Kernel Ois.Infrastructure WorkflowRecoverySweeper Dict RunTable

/-- All that is told of a run of statements. -/
def eventsOf (log : List (Option (List EngineEvent))) : List EngineEvent :=
  log.flatMap (·.getD [])

theorem events_of_concat (log : List (Option (List EngineEvent)))
    (said : Option (List EngineEvent)) :
    eventsOf (log ++ [said]) = eventsOf log ++ said.getD [] := by
  simp [eventsOf]

inductive RunMark where
  | created (now : Int)
  | transitioned (now : Int)
  | swept (now : Int)
  deriving DecidableEq, Repr

namespace RunMark

def now : RunMark → Int
  | .created now => now
  | .transitioned now => now
  | .swept now => now

def isSweep : RunMark → Bool
  | .swept _ => true
  | _ => false

def isTransition : RunMark → Bool
  | .transitioned _ => true
  | _ => false

end RunMark

def EngineEvent.mark? (runId : Uuid) : EngineEvent → Option RunMark
  | .created other now => if other = runId then some (.created now) else none
  | .transitioned other _ now => if other = runId then some (.transitioned now) else none
  | .swept runIds now => if runId ∈ runIds then some (.swept now) else none
  | _ => none

def marks (runId : Uuid) (events : List EngineEvent) : List RunMark :=
  events.filterMap (EngineEvent.mark? runId)

theorem marks_append (runId : Uuid) (first second : List EngineEvent) :
    marks runId (first ++ second) = marks runId first ++ marks runId second :=
  List.filterMap_append

theorem marks_cons (runId : Uuid) (event : EngineEvent) (rest : List EngineEvent) :
    marks runId (event :: rest) = (event.mark? runId).toList ++ marks runId rest := by
  unfold marks
  rw [List.filterMap_cons]
  cases event.mark? runId <;> rfl

theorem mark_of_other {runId : Uuid} {event : EngineEvent} (other : runId ∉ event.runIds) :
    event.mark? runId = none := by
  cases event with
  | created created now =>
    have different : created ≠ runId := fun same => other (by simp [EngineEvent.runIds, same])
    simp [EngineEvent.mark?, different]
  | transitioned moved status now =>
    have different : moved ≠ runId := fun same => other (by simp [EngineEvent.runIds, same])
    simp [EngineEvent.mark?, different]
  | swept runIds now => simpa [EngineEvent.mark?, EngineEvent.runIds] using other
  | called => rfl
  | returned => rfl
  | raised => rfl

theorem marks_of_quiet {runId : Uuid} {events : List EngineEvent}
    (quiet : ∀ event ∈ events, runId ∉ event.runIds) : marks runId events = [] :=
  List.filterMap_eq_nil_iff.mpr fun event mem => mark_of_other (quiet event mem)

inductive RowFate (site : Deployment) (scene : EngineScene) (runId : Uuid) :
    EngineStatement → Option DurableRunRow → Option DurableRunRow → List RunMark → Prop where
  | kept (stmt : EngineStatement) (row : Option DurableRunRow) :
      RowFate site scene runId stmt row row []
  | inserted (n : Nat) (call : EngineCall) (event : EventEnvelope) (input : EngineInput)
      (checkpoint : Json)
      (stored : site.postgres.column (Json.dumpsSorted (.obj [])) = .ok checkpoint)
      (identified : scene.shared.runs.ofIdentity (runIdentity call.workflow event) = none)
      (unkeyed : ∀ entry ∈ scene.shared.runs,
        entry.2.idempotencyKey ≠ (runIdentity call.workflow event).idempotencyKey) :
      RowFate site scene runId (.enter n (.start call event runId) input) none
        (some (insertion input.now (.new runId (runIdentity call.workflow event))
          checkpoint)) [.created input.now]
  | written (stmt : EngineStatement) (change : RunChange) (now : Int)
      (old row : DurableRunRow) (found : scene.shared.runs.lookup runId = some old)
      (writes : Writes scene stmt runId change)
      (changed : changed site.postgres now runId change scene.shared.runs = .ok row) :
      RowFate site scene runId stmt (some old) (some row) [.transitioned now]
  | swept (n : Nat) (limit : Int) (locked : List Uuid) (input : EngineInput)
      (old : DurableRunRow) (found : scene.shared.runs.lookup runId = some old)
      (selected : (runId, old) ∈ site.sweeper.selected input.now limit.toNat locked
        scene.shared.runs) :
      RowFate site scene runId (.enter n (.sweep limit locked) input) (some old)
        (some (swept input.now old)) [.swept input.now]

section step

variable {site : Deployment} {scene : EngineScene} {stmt : EngineStatement}
  {runs : RunTable} {said : List EngineEvent}

theorem distinct_step (distinct : (keys scene.shared.runs).Nodup)
    (step : RunsStep site scene stmt runs said) : (keys runs).Nodup := by
  cases step with
  | kept => exact distinct
  | created n call event runId input _ inserted =>
    obtain ⟨checkpoint, _, fresh, _, _, rfl⟩ := insert_ok inserted
    exact nodup_keys_append_fresh distinct fresh
  | moved => exact nodup_keys_set distinct
  | swept n limit locked input free _ recovered done =>
    rw [(sweep_ok done).1, keys_swept]
    exact distinct

theorem mem_selected_of_key {limit : Nat} {locked : List Uuid} {now : Int} {runId : Uuid}
    {table : RunTable} {row : DurableRunRow} {sweeper : WorkflowRecoverySweeper}
    (distinct : (keys table).Nodup) (found : table.lookup runId = some row)
    (selected : runId ∈ keys (sweeper.selected now limit locked table)) :
    (runId, row) ∈ sweeper.selected now limit locked table := by
  obtain ⟨⟨key, held⟩, mem, rfl⟩ := List.mem_map.mp selected
  have same := lookup_of_mem distinct (mem_selected mem).1
  rw [found, Option.some.injEq] at same
  rwa [same]

theorem row_fate (runId : Uuid) (distinct : (keys scene.shared.runs).Nodup)
    (step : RunsStep site scene stmt runs said) :
    RowFate site scene runId stmt (scene.shared.runs.lookup runId)
      (runs.lookup runId) (marks runId said) := by
  cases step with
  | kept _ _ quiet =>
    rw [marks_of_quiet (fun event mem => by simp [quiet event mem])]
    exact .kept _ _
  | created n call event other input _ inserted =>
    obtain ⟨checkpoint, stored, missing, identified, unkeyed, rfl⟩ := insert_ok inserted
    have fresh : scene.shared.runs.lookup other = none := missing
    rw [lookup_append_fresh missing]
    by_cases same : runId = other
    · subst same
      have marked : marks runId [.created runId input.now] = [.created input.now] := by
        simp [marks, EngineEvent.mark?]
      have own : runId = (DurableWorkflowRun.new runId (runIdentity call.workflow event)).runId :=
        rfl
      rw [fresh, marked, if_pos own]
      exact .inserted n call event input checkpoint stored identified unkeyed
    · rw [marks_of_quiet (by simpa [EngineEvent.runIds] using same)]
      have different : runId ≠ (DurableWorkflowRun.new other
        (runIdentity call.workflow event)).runId := same
      rw [if_neg different]
      exact .kept _ _
  | moved _ other change now row rest quiet writes written =>
    obtain ⟨old, _, _, _, found, _⟩ := changed_ok written
    rw [lookup_set]
    have silent : marks runId rest = [] :=
      marks_of_quiet fun event mem => by simp [quiet event mem]
    by_cases same : runId = other
    · subst same
      have marked : marks runId (.transitioned runId change.status now :: rest) =
          [.transitioned now] := by
        rw [marks_cons, silent]
        simp [EngineEvent.mark?]
      rw [found, if_pos rfl, marked]
      exact .written stmt change now old row found writes written
    · have marked : marks runId (.transitioned other change.status now :: rest) = [] := by
        have different : other ≠ runId := fun equal => same equal.symm
        rw [marks_cons, silent]
        simp [EngineEvent.mark?, different]
      rw [if_neg same, marked]
      exact .kept _ _
  | swept n limit locked input free _ recovered done =>
    obtain ⟨rfl, ids⟩ := sweep_ok done
    rw [lookup_swept, ids]
    cases found : scene.shared.runs.lookup runId with
    | none =>
      have unselected : runId ∉ keys (site.sweeper.selected input.now limit.toNat
          locked scene.shared.runs) := by
        intro selected
        obtain ⟨entry, mem, rfl⟩ := List.mem_map.mp selected
        have held := lookup_of_mem distinct (mem_selected mem).1
        rw [found] at held
        exact absurd held (by simp)
      have marked : marks runId [.swept (keys (site.sweeper.selected input.now
          limit.toNat locked scene.shared.runs)) input.now] = [] :=
        marks_of_quiet (by simpa [EngineEvent.runIds] using unselected)
      rw [marked]
      exact .kept _ none
    | some row =>
      simp only [Option.map_some]
      split_ifs with selected
      · have mem := mem_selected_of_key distinct found selected
        have marked : marks runId [.swept (keys (site.sweeper.selected input.now
            limit.toNat locked scene.shared.runs)) input.now] = [.swept input.now] := by
          simp [marks, EngineEvent.mark?, selected]
        rw [marked]
        exact .swept n limit locked input row found mem
      · have marked : marks runId [.swept (keys (site.sweeper.selected input.now
            limit.toNat locked scene.shared.runs)) input.now] = [] :=
          marks_of_quiet (by simpa [EngineEvent.runIds] using selected)
        rw [marked]
        exact .kept _ _

end step

end Ois.Autonomy
