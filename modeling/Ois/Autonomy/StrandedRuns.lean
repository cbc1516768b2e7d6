import Ois.Autonomy.ApprovedRuns
import Ois.Autonomy.LostRuns
import Ois.Autonomy.ProvidedRuns

/-!
# Runs that nobody moves any more

A run for which nothing is provided is stranded: no later call executes it or moves it, and a
repeated start returns it as it is.
-/

namespace Ois.Autonomy

open Ois.Library Ois.Kernel Ois.Infrastructure Machine

inductive NotStranded (site : Deployment) (scene : EngineScene) (runId : Uuid)
    (row : DurableRunRow) : Prop where
  | ended (finished : row.IsOver)
  | waits (waits : Waits site scene.shared row)
  | inHand (inHand : InHand scene runId)
  | moves (moves : MovesLater site scene runId row)

inductive Executed (site : Deployment) (scene : EngineScene) (runId : Uuid)
    (row : DurableRunRow) : Prop where
  | ended (finished : row.IsOver)
  | waits (waits : Waits site scene.shared row)
  | inHand (inHand : InHand scene runId)
  | executes (executes : ExecutesLater site scene runId)

def RepeatsExecuted (site : Deployment) (stmt : EngineStatement) (scene : EngineScene) :
    Prop :=
  ∀ n input run receipt, stmt = .proceed n input →
    scene.calls n = some (.refused run) →
      (engineMachine site).answer stmt scene = some [.returned receipt] →
        ∃ row, scene.shared.runs.lookup receipt.run.runId = some row ∧
          Executed site scene receipt.run.runId row

structure NoneStranded (site : Deployment) (stmts : List EngineStatement) : Prop where
  rows : ∀ runId row,
    ((engineMachine site).run stmts (.quiet {})).shared.runs.lookup runId = some row →
      NotStranded site ((engineMachine site).run stmts (.quiet {})) runId row
  repeats : (engineMachine site).Throughout (RepeatsExecuted site) stmts
    (.quiet {})

section stranded

variable {site : Deployment} {scene : EngineScene} {stmt : EngineStatement}
  {runId : Uuid} {row : DurableRunRow}

theorem not_stranded (uuids : UuidsRead site.postgres) (sound : Cared site scene)
    (found : scene.shared.runs.lookup runId = some row) :
    NotStranded site scene runId row := by
  obtain ⟨n, free⟩ := sound.free
  rcases sound.kept runId row found with provided | inHand
  · rcases moves_later_of_provided uuids sound.engine.runs sound.filed sound.readable
        (free n le_rfl) found provided with finished | waits | moves
    · exact .ended finished
    · exact .waits waits
    · exact .moves moves
  · exact .inHand inHand

theorem receipt_of_refused {n : Nat} {input : EngineInput} {run : DurableWorkflowRun}
    {receipt : DurableExecutionReceipt} (reached : scene.calls n = some (.refused run))
    (said : (engineMachine site).answer (.proceed n input) scene =
      some [.returned receipt]) :
    scene.shared.runs.getByEvent site.double run.identity = .ok (some receipt.run) := by
  rw [(engine site).answer_of_reached input reached] at said
  simp only [engine, proceedEngine, attempting, Option.some.injEq] at said
  cases read : scene.shared.runs.getByEvent site.double run.identity with
  | error err => simp [read] at said
  | ok answer =>
    cases answer with
    | none => simp [read, raising] at said
    | some existing =>
      simp only [read, Stride.ending_said, List.cons.injEq, EngineEvent.returned.injEq] at said
      rw [← said.1]

theorem repeats_executed (uuids : UuidsRead site.postgres)
    (provides : Provides site stmt scene) (sound : Cared site scene) :
    RepeatsExecuted site stmt scene := by
  rintro n input run receipt rfl reached said
  have read := receipt_of_refused reached said
  obtain ⟨known, same⟩ := read_ok sound.engine.runs read
  have own : receipt.run.runId = run.runId := by
    obtain ⟨other, there, ident, _⟩ := sound.engine.known n _ reached run rfl
    exact run_of_identity sound.engine.runs known there (same.trans ident.symm)
  obtain ⟨row, found, _⟩ := known
  refine ⟨row, found, ?_⟩
  obtain ⟨free, quiet⟩ := sound.free
  rcases (provides _ reached).2.2 row (own ▸ found) with finished | waits | resumable | inHand
  · exact .ended finished
  · exact .waits waits
  · by_cases ended : row.IsOver
    · exact .ended ended
    obtain ⟨decoded, reads⟩ := sound.readable _ row found ended
    exact .executes (executes_later (taken_up_resumable uuids sound.engine.runs sound.filed
      (quiet free le_rfl) found reads resumable))
  · exact .inHand (own ▸ inHand)

theorem cared_run (uuids : UuidsRead site.postgres) {stmts : List EngineStatement}
    (inside : ∀ stmt ∈ stmts, Inside stmt)
    (provides : (engineMachine site).Throughout (Provides site) stmts
      (.quiet {})) : Cared site ((engineMachine site).run stmts (.quiet {})) := by
  induction stmts using List.reverseRecOn with
  | nil => exact cared_quiet
  | append_singleton past stmt ih =>
    obtain ⟨before, here, _⟩ := throughout_append.mp provides
    rw [run_concat]
    exact cared_next uuids (inside stmt (by simp)) here
      (ih (fun other mem => inside other (List.mem_append_left _ mem)) before)

theorem stranded_of_lost (lost : Lost site runId row scene) (unfinished : ¬row.IsOver)
    (idle : ¬Waits site scene.shared row) :
    ¬NotStranded site scene runId row ∧ ¬Executed site scene runId row := by
  constructor
  · intro stranded
    cases stranded with
    | ended finished => exact unfinished finished
    | waits waits => exact idle waits
    | inHand inHand => exact lost_unheld lost inHand
    | moves moves => exact lost_unmoved lost moves
  · intro executed
    cases executed with
    | ended finished => exact unfinished finished
    | waits waits => exact idle waits
    | inHand inHand => exact lost_unheld lost inHand
    | executes executes => exact lost_unexecuted lost executes

end stranded

/-- Calls of any workers start and resume runs, humans decide and sweeps are made, with any
clocks and crashes. As long as every statement leaves the runs provided for, no run is
stranded in any state, and every repeated start returns a run that is executed. -/
theorem none_stranded (site : Deployment) (uuids : UuidsRead site.postgres)
    (stmts : List EngineStatement) (inside : ∀ stmt ∈ stmts, Inside stmt)
    (provides : (engineMachine site).Throughout (Provides site) stmts
      (.quiet {})) : NoneStranded site stmts := by
  constructor
  case rows =>
    intro runId row found
    exact not_stranded uuids (cared_run uuids inside provides) found
  case repeats =>
    apply throughout_iff.mpr
    intro before stmt after split
    have here := throughout_iff.mp provides before stmt after split
    subst split
    have past := (throughout_append.mp provides).1
    exact repeats_executed uuids here
      (cared_run uuids (fun other mem => inside other (List.mem_append_left _ mem)) past)

theorem provides_of_unheld {site : Deployment} {stmt : EngineStatement}
    {scene : EngineScene} (provides : ProvidesBut site (fun _ _ => False) stmt scene) :
    Provides site stmt scene := by
  cases stmt with
  | enter n req input =>
    intro free
    have enters := provides free
    cases req with
    | sweep limit locked =>
      intro entry selected
      rcases enters entry selected with few | resumable | never
      · exact Or.inl few
      · exact Or.inr (Or.inl resumable)
      · exact never.elim
    | _ => exact enters
  | proceed n input =>
    intro point reached
    obtain ⟨goes, writes, repeats⟩ := provides point reached
    refine ⟨goes, writes, ?_⟩
    cases point with
    | refused run =>
      intro row found
      rcases repeats row found with finished | waits | resumable | never
      · exact Or.inl finished
      · exact Or.inr (Or.inl waits)
      · exact Or.inr (Or.inr (Or.inl resumable))
      · exact never.elim
    | _ => exact repeats
  | crash n => exact provides

/-- A run waits for its approval while its event is started again. The call that resumes it
crashes in its callback, a sweep takes the run, and another call completes it. -/
def recoveredRun : List EngineStatement :=
  starting 0 "tenant" true ⟨1⟩ 6 ++ starting 1 "tenant" true ⟨2⟩ 3 ++
    [deciding 2 ⟨1⟩ .approved (second 10)] ++ resuming 3 "tenant" ⟨1⟩ 6 (second 20) ++
      [.crash 3, .enter 4 (.sweep 100 []) (second 1000)] ++ resuming 5 "tenant" ⟨1⟩ 8 (second 2000)

theorem recovered_run_not_stranded : NoneStranded .exact recoveredRun := by
  have unheld : (engineMachine .exact).Throughout (ProvidesBut .exact fun _ _ => False)
      recoveredRun (.quiet {}) := by decide +kernel
  apply none_stranded .exact exact_reads_uuids recoveredRun (by decide +kernel)
  exact throughout_iff.mpr fun before stmt after split =>
    provides_of_unheld (throughout_iff.mp unheld before stmt after split)

example : statusOfRun ⟨1⟩ ((engineMachine .exact).run recoveredRun (.quiet {})) =
    some .completed := by decide +kernel

def EngineEvent.receipt? : EngineEvent → Option (Uuid × DurableRunStatus)
  | .returned receipt => some (receipt.run.runId, receipt.run.status)
  | _ => none

/-- A call claims the key of the run that it has created, and crashes. -/
def crashedStart : List EngineStatement := starting 0 "tenant" false ⟨1⟩ 1 ++ [.crash 0]

theorem crashed_start_lost :
    ∃ row, row.status = .received ∧
      Lost .exact ⟨1⟩ row ((engineMachine .exact).run crashedStart (.quiet {})) := by
  have columns : (((engineMachine .exact).run crashedStart (.quiet {})).shared.runs.lookup ⟨1⟩).map
      (fun row => (row.status, (((engineMachine .exact).run crashedStart
        (.quiet {})).shared.claims.lookup row.idempotencyKey).isSome)) =
          some (.received, true) := by decide +kernel
  obtain ⟨row, found, same⟩ := Option.map_eq_some_iff.mp columns
  obtain ⟨received, claimed⟩ := Prod.mk.inj same
  have unfiled : ((engineMachine .exact).run crashedStart (.quiet {})).shared.approvals = [] := by
    decide +kernel
  refine ⟨row, received, ?_⟩
  constructor
  case engine => exact engine_sound_run crashedStart
  case found => exact found
  case claimed => exact Option.isSome_iff_ne_none.mp claimed
  case unswept => simp [Sweepable, received]
  case ungranted => simp [unfiled, Resumable, Dict.keys]
  case apart =>
    intro n point reached
    by_cases first : n = 0
    · subst first
      have gone : (((engineMachine .exact).run crashedStart (.quiet {})).calls 0).isNone := by
        decide +kernel
      simp [reached] at gone
    · have others : ∀ stmt ∈ crashedStart, stmt.number ≠ n := by
        intro stmt mem
        have zero : ∀ stmt ∈ crashedStart, stmt.number = 0 := by decide +kernel
        rw [zero stmt mem]
        exact Ne.symm first
      rw [(engine .exact).calls_of_others others] at reached
      cases reached

/-- The event is started again, and the call returns the receipt of a run that has only been
received. No later call executes or moves that run. -/
theorem crashed_start_stranded :
    let stmts := crashedStart ++ starting 1 "tenant" false ⟨2⟩ 3
    let scene := (engineMachine .exact).run stmts (.quiet {})
    (((engineMachine .exact).answers stmts (.quiet {})).getLast?.map fun said =>
      (said.getD []).map EngineEvent.receipt?) =
      some [some (⟨1⟩, DurableRunStatus.received)] ∧
    (∃ row, scene.shared.runs.lookup ⟨1⟩ = some row ∧ row.status = .received ∧
      ¬MovesLater .exact scene ⟨1⟩ row) ∧ ¬ExecutesLater .exact scene ⟨1⟩ ∧
    ¬NoneStranded .exact stmts := by
  intro stmts scene
  obtain ⟨row, received, before⟩ := crashed_start_lost
  have drives : ∀ stmt ∈ starting 1 "tenant" false ⟨2⟩ 3, Drives 0 stmt := by
    intro stmt mem
    rcases List.mem_cons.mp mem with rfl | later
    · exact ⟨trivial, by decide, by decide⟩
    · rw [List.eq_of_mem_replicate later]
      exact ⟨by decide, by decide⟩
  have lost : Lost .exact ⟨1⟩ row scene := by
    have after := lost_run before drives
    rw [← run_append] at after
    exact after
  refine ⟨by decide +kernel, ⟨row, lost.found, received, lost_unmoved lost⟩, lost_unexecuted lost,
    fun none => ?_⟩
  have stranded := (stranded_of_lost lost (by simp [DurableRunRow.IsOver, received])
    (by simp [Waits, received])).1
  exact stranded (none.rows ⟨1⟩ row lost.found)

end Ois.Autonomy
