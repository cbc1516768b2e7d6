import Ois.Runtime.WorkerJobs

/-!
# The states of a job

`retry`, `acknowledge` and `fail_job` check the status of a job and write it in two statements,
and the second asks only who owns the job. A job that is completed or failed keeps its owner, so a
second call of the owner may still write it.
-/

namespace Ois.Runtime

open Ois.Library Ois.Kernel JobOperation Machine

def jobsAfter (stmts : List JobStatement) : JobScene :=
  jobMachine.run stmts (.quiet [])

def statusOf (jobId : String) (scene : JobScene) : Option JobStatus :=
  (scene.shared.lookup jobId).map (·.status)

/-- The job is retried or fails: it leaves `leased`, and not as completed. -/
def givenUp (jobId : String) (before after : JobScene) : Bool :=
  statusOf jobId before == some .leased &&
    (statusOf jobId after == some .pending || statusOf jobId after == some .failed)

/-- No statement of the run changes the status of a job that is completed or failed. -/
def TerminalAbsorbing (stmts : List JobStatement) : Prop :=
  ∀ before stmt after, stmts = before ++ stmt :: after →
    ∀ jobId status, status.isTerminal = true → statusOf jobId (jobsAfter before) = some status →
        statusOf jobId (jobMachine.next stmt (jobsAfter before)) = some status

/-- All along the run, the attempts of a job are the times it was retried or failed. -/
def AttemptsCounted (stmts : List JobStatement) : Prop :=
  ∀ before after, stmts = before ++ after →
    ∀ jobId row, (jobsAfter before).shared.lookup jobId = some row →
      row.attempts = jobMachine.tally (givenUp jobId) before (.quiet [])

/-- An `UPDATE` of `retry`, `acknowledge` or `fail_job` that finds its job finds it
leased, or acknowledges a job that is completed already. -/
def FindsLeased (stmt : JobStatement) (scene : JobScene) : Prop :=
  ∀ call now operation jobId worker row, stmt = .proceed call now →
    scene.calls call = some (.asserted operation jobId worker) →
      scene.shared.lookup jobId = some row → row.leaseOwner = some worker →
        row.status = .leased ∨ operation = .acknowledge ∧ row.status = .completed

theorem jobs_after_concat (stmts : List JobStatement) (stmt : JobStatement) :
    jobsAfter (stmts ++ [stmt]) = jobMachine.next stmt (jobsAfter stmts) :=
  jobMachine.run_concat stmts stmt (.quiet [])

def PendingUnowned (scene : JobScene) : Prop :=
  ∀ jobId row, scene.shared.lookup jobId = some row → row.leaseOwner ≠ none → row.status ≠ .pending

theorem pending_unowned_next (stmt : JobStatement) (scene : JobScene)
    (unowned : PendingUnowned scene) : PendingUnowned (jobMachine.next stmt scene) := by
  intro jobId row found owned
  have step := job_row_step jobId stmt scene
  rw [found] at step
  generalize past : scene.shared.lookup jobId = old at step
  cases step with
  | kept => exact unowned jobId row past owned
  | enqueued => exact absurd rfl owned
  | leased call worker now row reached claimable => simp [JobRow.claimedBy]
  | updated call operation worker now row reached owner =>
    cases operation with
    | retry => exact absurd rfl owned
    | acknowledge => simp [assign]
    | failJob => simp [assign]

theorem pending_unowned_after (stmts : List JobStatement) :
    PendingUnowned (jobsAfter stmts) := by
  apply run_invariant pending_unowned_next
  intro jobId row found
  simp at found

def attemptsOf (jobId : String) (scene : JobScene) : Nat :=
  ((scene.shared.lookup jobId).map (·.attempts)).getD 0

section step

variable {stmt : JobStatement} {scene : JobScene} {jobId : String}

theorem terminal_kept (finds : FindsLeased stmt scene) {status : JobStatus}
    (terminal : status.isTerminal = true) (reached : statusOf jobId scene = some status) :
    statusOf jobId (jobMachine.next stmt scene) = some status := by
  have step := job_row_step jobId stmt scene
  unfold statusOf at reached ⊢
  generalize past : scene.shared.lookup jobId = old at step reached
  generalize (jobMachine.next stmt scene).shared.lookup jobId = new at step ⊢
  cases step with
  | kept => exact reached
  | enqueued => simp at reached
  | leased call worker now row point claimable =>
    rw [Option.map_some, claimable.1, Option.some.injEq] at reached
    rw [← reached] at terminal
    exact absurd terminal (by decide)
  | updated call operation worker now row point owned =>
    rw [Option.map_some, Option.some.injEq] at reached
    rcases finds call now operation jobId worker row rfl point past owned with
      leased | ⟨rfl, completed⟩
    · rw [← reached, leased] at terminal
      exact absurd terminal (by decide)
    · rw [← reached, completed]
      rfl

theorem attempts_counted_step (finds : FindsLeased stmt scene) :
    attemptsOf jobId (jobMachine.next stmt scene) = attemptsOf jobId scene +
      if givenUp jobId scene (jobMachine.next stmt scene) then 1 else 0 := by
  have step := job_row_step jobId stmt scene
  unfold attemptsOf givenUp statusOf
  generalize past : scene.shared.lookup jobId = old at step
  generalize (jobMachine.next stmt scene).shared.lookup jobId = new at step ⊢
  cases step with
  | kept =>
    cases old with
    | none => rfl
    | some row =>
      obtain ⟨queue, body, attempts, owner, status, updatedAt⟩ := row
      cases status <;> rfl
  | enqueued => rfl
  | leased call worker now row point claimable => simp [claimable.1, JobRow.claimedBy]
  | updated call operation worker now row point owned =>
    rcases finds call now operation jobId worker row rfl point past owned with
      leased | ⟨rfl, completed⟩
    · cases operation <;> simp [assign, leased]
    · simp [assign, completed]

theorem finds_leased_of_kept (unowned : PendingUnowned scene)
    (absorbing : ∀ jobId status, status.isTerminal = true → statusOf jobId scene = some status →
      statusOf jobId (jobMachine.next stmt scene) = some status)
    (counted : ∀ jobId, scene.shared.lookup jobId ≠ none →
      attemptsOf jobId (jobMachine.next stmt scene) = attemptsOf jobId scene +
      if givenUp jobId scene (jobMachine.next stmt scene) then 1 else 0) :
    FindsLeased stmt scene := by
  intro call now operation jobId worker row made reached found owned
  subst made
  have next : (jobMachine.next (.proceed call now) scene).shared.lookup jobId =
      some (operation.assign now row) := by
    simp [next, Program.machine, reached, workerQueue, proceedJob,
      JobTable.lookup_update, found, owned]
  have waiting : row.status ≠ .pending := unowned jobId row found (by simp [owned])
  have kept := absorbing jobId row.status
  have count := counted jobId (by simp [found])
  simp only [statusOf, attemptsOf, givenUp, next, found, Option.map_some] at kept count
  cases status : row.status with
  | pending => exact absurd status waiting
  | leased => exact Or.inl rfl
  | completed =>
    refine Or.inr ⟨?_, rfl⟩
    have same := kept (by rw [status]; rfl) trivial
    cases operation with
    | acknowledge => rfl
    | retry | failJob => simp [assign, status] at same
  | failed =>
    have same := kept (by rw [status]; rfl) trivial
    cases operation with
    | acknowledge | retry => simp [assign, status] at same
    | failJob => simp [assign, status] at count

end step

theorem attempts_after {stmts : List JobStatement}
    (finds : jobMachine.Throughout FindsLeased stmts (.quiet [])) (jobId : String) :
    attemptsOf jobId (jobsAfter stmts) =
      jobMachine.tally (givenUp jobId) stmts (.quiet []) := by
  induction stmts using List.reverseRecOn with
  | nil => rfl
  | append_singleton past stmt ih =>
    obtain ⟨before, here, _⟩ := throughout_append.mp finds
    rw [tally_concat, ← ih before, jobs_after_concat]
    exact attempts_counted_step here

theorem present_next {jobId : String} {stmt : JobStatement} {scene : JobScene}
    (present : scene.shared.lookup jobId ≠ none) :
    (jobMachine.next stmt scene).shared.lookup jobId ≠ none := by
  have step := job_row_step jobId stmt scene
  generalize scene.shared.lookup jobId = old at step present
  generalize (jobMachine.next stmt scene).shared.lookup jobId = new at step ⊢
  cases step with
  | kept => exact present
  | enqueued => simp
  | leased => simp
  | updated => simp

theorem attempts_of_counted {stmts : List JobStatement}
    (counted : AttemptsCounted stmts) {before after : List JobStatement}
    (split : stmts = before ++ after) (jobId : String)
    (present : (jobsAfter before).shared.lookup jobId ≠ none) :
    attemptsOf jobId (jobsAfter before) = jobMachine.tally (givenUp jobId) before (.quiet []) := by
  cases found : (jobsAfter before).shared.lookup jobId with
  | none => exact absurd found present
  | some row =>
    rw [attemptsOf, found]
    exact counted before after split jobId row found

/-- In a run of statements of any calls terminal states are absorbing and attempts are
counted, exactly when every `UPDATE` of `retry`, `acknowledge` or `fail_job` that finds
its job finds it leased or acknowledges it again. -/
theorem job_states_iff (stmts : List JobStatement) :
    TerminalAbsorbing stmts ∧ AttemptsCounted stmts ↔
      jobMachine.Throughout FindsLeased stmts (.quiet []) := by
  constructor
  · rintro ⟨absorbing, counted⟩
    apply throughout_iff.mpr
    intro before stmt after split
    apply finds_leased_of_kept (pending_unowned_after before)
    · intro jobId status terminal reached
      exact absorbing before stmt after split jobId status terminal reached
    · intro jobId present
      have past := attempts_of_counted counted split jobId present
      have longer : stmts = (before ++ [stmt]) ++ after := by simp [split]
      have later := attempts_of_counted counted longer jobId (by
        rw [jobs_after_concat]
        exact present_next present)
      rw [jobs_after_concat, tally_concat, ← past] at later
      exact later
  · intro finds
    constructor
    · intro before stmt after split jobId status terminal reached
      have here := throughout_iff.mp finds before stmt after split
      exact terminal_kept here terminal reached
    · intro before after split jobId row found
      rw [split] at finds
      have count := attempts_after (throughout_append.mp finds).1 jobId
      rw [attemptsOf, found] at count
      exact count

/-- One job, with its claim and two checks of its owner that both pass before either
writes. -/
def twoChecks (first second : JobOperation) : List JobStatement :=
  [.enter 0 (.enqueue "job" "queue" []) "now", .proceed 0 "now",
    .enter 1 (.claim "queue" "worker") "now", .proceed 1 "now",
    .enter 2 (.owned first "job" "worker") "now", .enter 3 (.owned second "job" "worker") "now",
    .proceed 2 "now", .proceed 3 "now"]

/-- A worker acknowledges the job, and its other thread puts it back. -/
theorem completed_job_retried :
    statusOf "job" (jobsAfter ((twoChecks .acknowledge .retry).take 7)) = some .completed ∧
      statusOf "job" (jobsAfter (twoChecks .acknowledge .retry)) = some .pending ∧
      ¬(TerminalAbsorbing (twoChecks .acknowledge .retry) ∧
      AttemptsCounted (twoChecks .acknowledge .retry)) := by
  have completed : statusOf "job" (jobsAfter ((twoChecks .acknowledge .retry).take 7)) =
      some .completed := by decide +kernel
  have retried : statusOf "job" (jobsAfter (twoChecks .acknowledge .retry)) =
      some .pending := by decide +kernel
  refine ⟨completed, retried, fun both => ?_⟩
  have kept := both.1 ((twoChecks .acknowledge .retry).take 7) (.proceed 3 "now") [] rfl "job"
    .completed rfl completed
  rw [← jobs_after_concat] at kept
  exact absurd (kept.symm.trans retried) (by decide)

end Ois.Runtime
