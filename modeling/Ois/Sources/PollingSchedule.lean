import Mathlib.Algebra.Order.Ring.Rat
import Mathlib.Tactic.Linarith
import Ois.Library.Machine
import Ois.Sources.Fabric

/-!
# The schedule of polls

`register`, `unregister`, `due_sources` and `run_due` of the `PollingEngine` of
`infrastructure/source_adapters/polling_engine.py`, with exact readings of its clock.
-/

namespace Ois.Sources

open Ois.Library Ois.Kernel Dict

structure ScheduledJob extends PollingJob where
  intervalSeconds : ℚ
  positive : 0 < intervalSeconds

structure PollingRun where
  sourceId : String
  startedAt : ℚ
  completedAt : ℚ
  outcome : Except String AdapterResult

structure PollingEngine where
  jobs : Dict String ScheduledJob := []
  nextDue : Dict String ℚ := []

/-- `runDue` reads the clock before the polls and after them. -/
inductive PollingCall where
  | register (job : ScheduledJob)
  | unregister (source : String)
  | runDue (now finished : ℚ) (runOnce : String → PollingRun)

namespace PollingEngine

def dueSources (now : ℚ) (engine : PollingEngine) : List String :=
  let due := engine.jobs.filter fun entry => (engine.nextDue.lookup entry.1).getD 0 ≤ now
  (keys due).insertionSort (· ≤ ·)

def postponed (jobs : Dict String ScheduledJob) (finished : ℚ) (nextDue : Dict String ℚ)
    (source : String) : Dict String ℚ :=
  match jobs.lookup source with
  | none => nextDue
  | some job => nextDue.set source (finished + job.intervalSeconds)

def machine : Machine PollingCall PollingEngine (Except PyError (List PollingRun))
  | .register job, engine =>
    if (engine.jobs.lookup job.sourceId).isSome then (engine, .error (jobTaken job.sourceId))
    else ({ engine with jobs := engine.jobs.set job.sourceId job }, .ok [])
  | .unregister source, engine =>
    if (engine.jobs.lookup source).isNone then (engine, .error (jobMissing source))
    else
      ({ jobs := engine.jobs.filter (·.1 != source)
         nextDue := engine.nextDue.filter (·.1 != source) }, .ok [])
  | .runDue now finished runOnce, engine =>
    let due := engine.dueSources now
    ({ engine with nextDue := due.foldl (postponed engine.jobs finished) engine.nextDue },
      .ok (due.map runOnce))


theorem lookup_postponed {source : String} {jobs : Dict String ScheduledJob} {job : ScheduledJob}
    (found : jobs.lookup source = some job) (finished : ℚ) (due : List String)
    (nextDue : Dict String ℚ) : (due.foldl (postponed jobs finished) nextDue).lookup source =
      if source ∈ due then some (finished + job.intervalSeconds)
      else nextDue.lookup source := by
  induction due generalizing nextDue with
  | nil => rfl
  | cons first rest ih =>
    rw [List.foldl_cons, ih]
    by_cases own : source = first
    · subst own
      simp [postponed, found]
    · cases there : jobs.lookup first <;> simp [postponed, there, own, lookup_set]

theorem due_of_mem {source : String} {now : ℚ} {engine : PollingEngine}
    (mem : source ∈ engine.dueSources now) :
    (engine.nextDue.lookup source).getD 0 ≤ now := by
  simp only [dueSources, List.mem_insertionSort, keys, List.mem_map, List.mem_filter] at mem
  obtain ⟨entry, ⟨_, due⟩, rfl⟩ := mem
  exact of_decide_eq_true due

/-- The job of a source stays, and its next poll is not due before `moment`. -/
def Rests (source : String) (job : ScheduledJob) (moment : ℚ) (engine : PollingEngine) : Prop :=
  engine.jobs.lookup source = some job ∧
    ∃ due, engine.nextDue.lookup source = some due ∧ moment ≤ due

/-- The clock does not go back within the call, which does not unregister the source. -/
def Keeps (source : String) : PollingCall → Prop
  | .register _ => True
  | .unregister other => other ≠ source
  | .runDue now finished runOnce => now ≤ finished ∧ ∀ polled,
    (runOnce polled).sourceId = polled ∧ now ≤ (runOnce polled).startedAt ∧
      (runOnce polled).completedAt ≤ finished

theorem rests_next {source : String} {job : ScheduledJob} {moment : ℚ} (call : PollingCall)
    (engine : PollingEngine) (keeps : Keeps source call)
    (rests : Rests source job moment engine) :
    Rests source job moment (machine.next call engine) := by
  obtain ⟨found, due, known, later⟩ := rests
  unfold Machine.next
  cases call with
  | register other =>
    by_cases taken : (engine.jobs.lookup other.sourceId).isSome
    · rw [machine, if_pos taken]
      exact ⟨found, due, known, later⟩
    · rw [machine, if_neg taken]
      refine ⟨?_, due, known, later⟩
      dsimp only
      rw [lookup_set, if_neg, found]
      rintro rfl
      simp [found] at taken
  | unregister other =>
    by_cases missing : (engine.jobs.lookup other).isNone
    · rw [machine, if_pos missing]
      exact ⟨found, due, known, later⟩
    · rw [machine, if_neg missing]
      have unlike : source ≠ other := Ne.symm keeps
      refine ⟨?_, due, ?_, later⟩
      · dsimp only
        rw [lookup_without, if_neg unlike, found]
      · dsimp only
        rw [lookup_without, if_neg unlike, known]
  | runDue now finished runOnce =>
    refine ⟨found, ?_⟩
    dsimp only [machine]
    rw [lookup_postponed found]
    split_ifs with polled
    · have reached := due_of_mem polled
      rw [known, Option.getD_some] at reached
      have positive := job.positive
      have forward := keeps.1
      exact ⟨_, rfl, by linarith⟩
    · exact ⟨due, known, later⟩

def polls (call : PollingCall) (engine : PollingEngine) : List PollingRun :=
  (machine.answer call engine).toOption.getD []

theorem polled_of_mem {call : PollingCall} {engine : PollingEngine} {run : PollingRun}
    (mem : run ∈ polls call engine) : ∃ now finished runOnce source,
      call = .runDue now finished runOnce ∧ source ∈ engine.dueSources now ∧
        runOnce source = run := by
  unfold polls Machine.answer at mem
  cases call with
  | register | unregister =>
    dsimp only [machine] at mem
    split_ifs at mem <;> simp [Except.toOption] at mem
  | runDue now finished runOnce =>
    obtain ⟨source, due, made⟩ := List.mem_map.mp mem
    exact ⟨now, finished, runOnce, source, rfl, due, made⟩

/-- From the end of a poll to the start of the next one of the same source its interval passes,
whatever came of the poll and whatever is called between, as long as the source is registered. -/
theorem polls_spaced {engine : PollingEngine} {job : ScheduledJob} {first second : PollingCall}
    {between : List PollingCall} {run other : PollingRun}
    (registered : engine.jobs.lookup run.sourceId = some job)
    (keeps : ∀ call ∈ first :: between ++ [second], Keeps run.sourceId call)
    (polled : run ∈ polls first engine)
    (again : other ∈ polls second (machine.run (first :: between) engine))
    (same : other.sourceId = run.sourceId) :
    run.completedAt + job.intervalSeconds ≤ other.startedAt := by
  have rests : Rests run.sourceId job (run.completedAt + job.intervalSeconds)
      (machine.next first engine) := by
    obtain ⟨now, finished, runOnce, source, rfl, due, rfl⟩ := polled_of_mem polled
    obtain ⟨_, clock⟩ := keeps (.runDue now finished runOnce) (by simp)
    obtain ⟨named, _, before⟩ := clock source
    refine ⟨registered, finished + job.intervalSeconds, ?_, by linarith⟩
    dsimp only [Machine.next, machine]
    rw [lookup_postponed registered, named, if_pos due]
  have throughout : machine.Throughout (fun call _ => Keeps run.sourceId call) between
      (machine.next first engine) := by
    refine Machine.throughout_iff.mpr fun before call after split => keeps call ?_
    simp [split]
  obtain ⟨_, due, known, later⟩ := Machine.run_keeps rests_next throughout rests
  obtain ⟨now, finished, runOnce, source, rfl, reached, rfl⟩ := polled_of_mem again
  obtain ⟨_, clock⟩ := keeps (.runDue now finished runOnce) (by simp)
  obtain ⟨named, after, _⟩ := clock source
  have passed := due_of_mem reached
  rw [← named, same, Machine.run, known, Option.getD_some] at passed
  linarith

/-- Polled at 0 for a second, the source is due again at 6 and polled at 7. -/
def slow : ScheduledJob :=
  { sourceId := "a", adapter := ⟨"a"⟩, tenantId := "t", workspaceId := "w", intervalSeconds := 5
    positive := by norm_num }

def polledFrom (now : ℚ) : PollingCall :=
  .runDue now (now + 1) fun source => ⟨source, now, now + 1, .error "TimeoutError: "⟩

theorem polls_spaced_slow : (1 : ℚ) + slow.intervalSeconds ≤ 7 := by
  have keeps : ∀ now, Keeps "a" (polledFrom now) := fun now =>
    ⟨by linarith, fun _ => ⟨rfl, le_refl _, le_refl _⟩⟩
  have due : "a" ∈ dueSources 7 (machine.run [polledFrom 0] ⟨[("a", slow)], []⟩) := by
    decide +kernel
  have apart := @polls_spaced ⟨[("a", slow)], []⟩ slow (polledFrom 0) (polledFrom 7) []
    ⟨"a", 0, 0 + 1, .error "TimeoutError: "⟩ ⟨"a", 7, 7 + 1, .error "TimeoutError: "⟩ rfl
    (by simpa using ⟨keeps 0, keeps 7⟩) (List.mem_singleton.mpr rfl)
    (List.mem_map.mpr ⟨_, due, rfl⟩) rfl
  simpa using apart

end PollingEngine

end Ois.Sources
