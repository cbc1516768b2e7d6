import Ois.Library.Interleaving
import Ois.Library.Json
import Ois.Kernel.Types

/-!
# The jobs of the worker queue

`SQLiteWorkerQueue` of `execution_backend.py`.
-/

namespace Ois.Runtime

open Ois.Library Ois.Kernel

inductive JobStatus where
  | pending | leased | completed | failed
  deriving DecidableEq, Repr

namespace JobStatus

def value : JobStatus → String
  | pending => "pending"
  | leased => "leased"
  | completed => "completed"
  | failed => "failed"

/-- `_VALID_JOB_TRANSITIONS`. -/
def transitions : JobStatus → List JobStatus
  | pending => [leased]
  | leased => [completed, failed, pending]
  | completed => []
  | failed => []

def isTerminal (status : JobStatus) : Bool := status.transitions.isEmpty

end JobStatus

/-- A row of `worker_jobs`, which is filed under its `job_id`. -/
structure JobRow where
  queue : String
  payload : Json.Text
  attempts : Nat := 0
  leaseOwner : Option String := none
  status : JobStatus := .pending
  updatedAt : String
  deriving DecidableEq, Repr

structure QueueJob where
  jobId : String
  queue : String
  payload : Json
  attempts : Nat
  leaseOwner : Option String
  status : JobStatus
  updatedAt : String
  deriving DecidableEq, Repr

abbrev JobTable := Dict String JobRow

namespace JobRow

def Claimable (row : JobRow) : Prop := row.status = .pending ∧ row.leaseOwner = none

instance : DecidablePred Claimable := fun row =>
  inferInstanceAs (Decidable (row.status = .pending ∧ row.leaseOwner = none))

/-- `_record(row)`. -/
def record (jobId : String) (row : JobRow) : QueueJob :=
  { jobId := jobId, queue := row.queue, payload := Json.loads row.payload
    attempts := row.attempts, leaseOwner := row.leaseOwner, status := row.status
    updatedAt := row.updatedAt }

def claimedBy (worker now : String) (row : JobRow) : JobRow :=
  { row with leaseOwner := some worker, status := .leased, updatedAt := now }

end JobRow

inductive JobOperation where
  | retry | acknowledge | failJob
  deriving DecidableEq, Repr

/-- The assignments of the `UPDATE` of a call. -/
def JobOperation.assign (now : String) (row : JobRow) : JobOperation → JobRow
  | .retry => { row with
      attempts := row.attempts + 1, leaseOwner := none, status := .pending, updatedAt := now }
  | .acknowledge => { row with status := .completed, updatedAt := now }
  | .failJob => { row with status := .failed, attempts := row.attempts + 1, updatedAt := now }

namespace JobTable

def notFound (jobId : String) : PyError :=
  ⟨.other "JobNotFoundError", "Job '" ++ jobId ++ "' not found in worker queue."⟩

/-- `get(job_id)`. -/
def get (jobId : String) (table : JobTable) : Except PyError QueueJob :=
  match table.lookup jobId with
  | none => .error (notFound jobId)
  | some row => .ok (row.record jobId)

def Older (left right : String × JobRow) : Prop :=
  left.2.updatedAt < right.2.updatedAt ∨ left.2.updatedAt = right.2.updatedAt ∧ left.1 ≤ right.1

instance : DecidableRel Older := fun left right =>
  inferInstanceAs (Decidable (left.2.updatedAt < right.2.updatedAt ∨
    left.2.updatedAt = right.2.updatedAt ∧ left.1 ≤ right.1))

/-- The job that `claim` selects. -/
def oldest (queue : String) (table : JobTable) : Option String :=
  let pending := table.filter fun entry => entry.2.queue == queue && decide entry.2.Claimable
  (pending.insertionSort Older).head?.map Prod.fst

/-- The `UPDATE` of `claim`. -/
def lease (jobId worker now : String) (table : JobTable) : JobTable :=
  match table.lookup jobId with
  | none => table
  | some row => if row.Claimable then table.set jobId (row.claimedBy worker now) else table

def Owns (jobId worker : String) (table : JobTable) : Prop :=
  (table.lookup jobId).any fun row => row.leaseOwner = some worker

instance (jobId worker : String) (table : JobTable) : Decidable (table.Owns jobId worker) :=
  inferInstanceAs (Decidable (_ = true))

/-- The `UPDATE` of `retry`, `acknowledge` or `fail_job`. -/
def update (operation : JobOperation) (jobId worker now : String) (table : JobTable) :
    JobTable :=
  match table.lookup jobId with
  | none => table
  | some row =>
    if row.leaseOwner = some worker then table.set jobId (operation.assign now row)
    else table

def notOwner (jobId worker : String) (owner : Option String) : PyError :=
  ⟨.other "JobOwnershipError", "Worker '" ++ worker ++ "' does not own the lease for job '" ++
    jobId ++ "'. Current owner: '" ++ owner.getD "None" ++ "'."⟩

def wrongStatus (jobId : String) (status expected : JobStatus) : PyError :=
  ⟨.other "InvalidStatusTransitionError", "Job '" ++ jobId ++ "' is in status '" ++
    status.value ++ "', expected '" ++ expected.value ++ "'."⟩

/-- `_assert_ownership(job_id, worker_id, expected_status)`. -/
def assertOwnership (jobId worker : String) (expected : JobStatus) (table : JobTable) :
    Except PyError QueueJob := do
  let job ← table.get jobId
  if job.leaseOwner ≠ some worker then throw (notOwner jobId worker job.leaseOwner)
  if job.status ≠ expected then throw (wrongStatus jobId job.status expected)
  return job

def duplicate (jobId queue : String) : PyError :=
  ⟨.other "DuplicateJobError", "Job '" ++ jobId ++ "' already exists in queue '" ++ queue ++ "'."⟩

def keyTaken : PyError :=
  ⟨.other "IntegrityError", "UNIQUE constraint failed: worker_jobs.job_id"⟩

/-- The `INSERT` of `enqueue`. -/
def insert (jobId queue : String) (body : Members) (now : String) (table : JobTable) :
    Except PyError JobTable :=
  match table.lookup jobId with
  | some _ => .error keyTaken
  | none =>
    .ok (table ++ [(jobId, { queue := queue, payload := ⟨.obj body⟩, updatedAt := now })])

end JobTable

inductive JobRequest where
  | enqueue (jobId queue : String) (body : Members)
  | claim (queue worker : String)
  | owned (operation : JobOperation) (jobId worker : String)
  deriving DecidableEq, Repr

inductive JobPoint where
  | unregistered (jobId queue : String) (body : Members)
  | selected (jobId worker : String)
  | leased (jobId worker : String)
  | asserted (operation : JobOperation) (jobId worker : String)
  | reading (jobId : String)
  deriving DecidableEq, Repr

/-- What is told of a statement. `updated` stands for an `UPDATE` that found its row. -/
inductive JobSaid where
  | silent
  | empty
  | updated (operation : JobOperation) (jobId : String)
  | claimed (worker : String) (job : QueueJob)
  | returned (job : QueueJob)
  | raised (err : PyError)
  deriving DecidableEq, Repr

abbrev JobStride := Stride JobPoint JobTable JobSaid

open Stride

def enterJob : JobRequest → String → JobTable → JobStride
  | .enqueue jobId queue body, _, table =>
    match table.lookup jobId with
    | some _ => ending table (.raised (JobTable.duplicate jobId queue))
    | none => going table (.unregistered jobId queue body) .silent
  | .claim queue worker, _, table =>
    match table.oldest queue with
    | none => ending table .empty
    | some jobId => going table (.selected jobId worker) .silent
  | .owned operation jobId worker, _, table =>
    match table.assertOwnership jobId worker .leased with
    | .error err => ending table (.raised err)
    | .ok _ => going table (.asserted operation jobId worker) .silent

/-- The next statement of a call, at the moment `now`. -/
def proceedJob : JobPoint → String → JobTable → JobStride
  | .unregistered jobId queue body, now, table =>
    match table.insert jobId queue body now with
    | .error err => ending table (.raised err)
    | .ok after => going after (.reading jobId) .silent
  | .selected jobId worker, now, table =>
    going (table.lease jobId worker now) (.leased jobId worker) .silent
  | .leased jobId worker, _, table =>
    match table.get jobId with
    | .error err => ending table (.raised err)
    | .ok job => ending table (.claimed worker job)
  | .asserted operation jobId worker, now, table =>
    going (table.update operation jobId worker now) (.reading jobId)
      (if table.Owns jobId worker then .updated operation jobId else .silent)
  | .reading jobId, _, table =>
    match table.get jobId with
    | .error err => ending table (.raised err)
    | .ok job => ending table (.returned job)

abbrev JobStatement := Statement JobRequest String

abbrev JobScene := Scene JobPoint JobTable

def workerQueue : Program JobRequest String JobPoint JobTable JobSaid := ⟨enterJob, proceedJob⟩

abbrev jobMachine : Machine JobStatement JobScene (Option JobSaid) := workerQueue.machine

namespace JobTable

variable {table : JobTable} {jobId : String} {row : JobRow}

theorem lookup_lease (jobId worker now other : String) (table : JobTable) :
    (table.lease jobId worker now).lookup other =
      if other = jobId then (table.lookup jobId).map fun row =>
      if row.Claimable then row.claimedBy worker now else row
      else table.lookup other := by
  unfold lease
  by_cases same : other = jobId
  · subst same
    cases found : table.lookup other with
    | none => simp [found]
    | some row =>
      by_cases claimable : row.Claimable
      · simp [claimable]
      · simp [claimable, found]
  · rw [if_neg same]
    cases found : table.lookup jobId with
    | none => rfl
    | some row =>
      by_cases claimable : row.Claimable
      · simp [claimable, Dict.lookup_set, same]
      · simp [claimable]

theorem lookup_update (operation : JobOperation) (jobId worker now other : String)
    (table : JobTable) :
    (table.update operation jobId worker now).lookup other =
      if other = jobId then (table.lookup jobId).map fun row =>
      if row.leaseOwner = some worker then operation.assign now row else row
      else table.lookup other := by
  unfold update
  by_cases same : other = jobId
  · subst same
    cases found : table.lookup other with
    | none => simp [found]
    | some row =>
      by_cases owned : row.leaseOwner = some worker
      · simp [owned]
      · simp [owned, found]
  · rw [if_neg same]
    cases found : table.lookup jobId with
    | none => rfl
    | some row =>
      by_cases owned : row.leaseOwner = some worker
      · simp [owned, Dict.lookup_set, same]
      · simp [owned]

theorem insert_ok {queue now : String} {body : Members} {after : JobTable}
    (inserted : table.insert jobId queue body now = .ok after) :
    table.lookup jobId = none ∧ ∀ other, after.lookup other =
      if other = jobId then some { queue := queue, payload := ⟨.obj body⟩, updatedAt := now }
      else table.lookup other := by
  unfold insert at inserted
  cases found : table.lookup jobId with
  | some row => simp [found] at inserted
  | none =>
    simp only [found, Except.ok.injEq] at inserted
    refine ⟨rfl, fun other => ?_⟩
    rw [← inserted, Dict.lookup_append]
    by_cases same : other = jobId
    · subst same
      simp [found]
    · have unequal : (other == jobId) = false := by simpa using same
      simp [List.lookup_cons, unequal, same]

theorem get_ok {job : QueueJob} (read : table.get jobId = .ok job) :
    ∃ row, table.lookup jobId = some row ∧ job = row.record jobId := by
  unfold get at read
  cases found : table.lookup jobId with
  | none => simp [found] at read
  | some row =>
    simp only [found, Except.ok.injEq] at read
    exact ⟨row, rfl, read.symm⟩

end JobTable

inductive JobRowStep (jobId : String) (scene : JobScene) :
    JobStatement → Option JobRow → Option JobRow → Prop where
  | kept (stmt : JobStatement) (row : Option JobRow) : JobRowStep jobId scene stmt row row
  | enqueued (call : Nat) (queue now : String) (body : Members) :
      JobRowStep jobId scene (.proceed call now) none
        (some { queue := queue, payload := ⟨.obj body⟩, updatedAt := now })
  | leased (call : Nat) (worker now : String) (row : JobRow)
      (reached : scene.calls call = some (.selected jobId worker))
      (claimable : row.Claimable) :
      JobRowStep jobId scene (.proceed call now) (some row) (some (row.claimedBy worker now))
  | updated (call : Nat) (operation : JobOperation) (worker now : String) (row : JobRow)
      (reached : scene.calls call = some (.asserted operation jobId worker))
      (owned : row.leaseOwner = some worker) :
      JobRowStep jobId scene (.proceed call now) (some row) (some (operation.assign now row))

theorem enter_keeps (req : JobRequest) (now : String) (table : JobTable) :
    (enterJob req now table).shared = table := by
  cases req with
  | enqueue jobId queue body =>
    simp only [enterJob]
    cases table.lookup jobId <;> rfl
  | claim queue worker =>
    simp only [enterJob]
    cases table.oldest queue <;> rfl
  | owned operation jobId worker =>
    simp only [enterJob]
    cases table.assertOwnership jobId worker .leased <;> rfl

theorem job_row_step (jobId : String) (stmt : JobStatement) (scene : JobScene) :
    JobRowStep jobId scene stmt (scene.shared.lookup jobId)
      ((jobMachine.next stmt scene).shared.lookup jobId) := by
  have happens := workerQueue.machine_happens stmt scene
  change JobRowStep jobId scene stmt _
    ((workerQueue.machine stmt scene).1.shared.lookup jobId)
  generalize workerQueue.machine stmt scene = res at happens ⊢
  cases happens with
  | ignored => exact .kept stmt _
  | crashed call => exact .kept _ _
  | entered call req now free =>
    simp only [Scene.strode_shared, workerQueue, enter_keeps]
    exact .kept _ _
  | proceeded call point now reached =>
    simp only [Scene.strode_shared, workerQueue]
    cases point with
    | unregistered target queue body =>
      simp only [proceedJob]
      cases inserted : scene.shared.insert target queue body now with
      | error err => exact .kept _ _
      | ok after =>
        obtain ⟨missing, rows⟩ := JobTable.insert_ok inserted
        simp only [going_shared, rows]
        by_cases same : jobId = target
        · subst same
          rw [if_pos rfl, missing]
          exact .enqueued call queue now body
        · rw [if_neg same]
          exact .kept _ _
    | selected target worker =>
      simp only [proceedJob, going_shared, JobTable.lookup_lease]
      by_cases same : jobId = target
      · subst same
        rw [if_pos rfl]
        cases found : scene.shared.lookup jobId with
        | none => exact .kept _ _
        | some row =>
          by_cases claimable : row.Claimable
          · simp only [Option.map_some, if_pos claimable]
            exact .leased call worker now row reached claimable
          · simp only [Option.map_some, if_neg claimable]
            exact .kept _ _
      · rw [if_neg same]
        exact .kept _ _
    | leased target worker =>
      simp only [proceedJob]
      cases scene.shared.get target <;> exact .kept _ _
    | asserted operation target worker =>
      simp only [proceedJob, going_shared, JobTable.lookup_update]
      by_cases same : jobId = target
      · subst same
        rw [if_pos rfl]
        cases found : scene.shared.lookup jobId with
        | none => exact .kept _ _
        | some row =>
          by_cases owned : row.leaseOwner = some worker
          · simp only [Option.map_some, if_pos owned]
            exact .updated call operation worker now row reached owned
          · simp only [Option.map_some, if_neg owned]
            exact .kept _ _
      · rw [if_neg same]
        exact .kept _ _
    | reading target =>
      simp only [proceedJob]
      cases scene.shared.get target <;> exact .kept _ _

end Ois.Runtime
