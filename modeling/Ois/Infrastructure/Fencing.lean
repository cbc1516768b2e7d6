import Ois.Library.Dict
import Ois.Library.Uuid
import Ois.Kernel.Types

/-!
# Worker leases with epoch fencing

`PostgresWorkerLeaseStore` of `postgres_fencing.py`. Every method is one transaction on the table
of leases, which has at most one row per execution.
-/

namespace Ois.Infrastructure

open Ois.Library Ois.Kernel

structure WorkerLease where
  executionId : Uuid
  workerId : String
  epoch : Nat
  leaseExpiresAt : Int
  deriving DecidableEq, Repr

structure LeaseRow where
  workerId : String
  epoch : Nat
  leaseExpiresAt : Int
  deriving DecidableEq, Repr

abbrev LeaseTable := Dict Uuid LeaseRow

namespace LeaseTable

def leaseOf (execId : Uuid) (row : LeaseRow) : WorkerLease :=
  { executionId := execId, workerId := row.workerId, epoch := row.epoch
    leaseExpiresAt := row.leaseExpiresAt }

def claimOver (ttl now workerNow : Int) (worker : String) (row : LeaseRow) :
    Option LeaseRow :=
  if workerNow < row.leaseExpiresAt ∧ row.workerId ≠ worker then none
  else some {
    workerId := worker
    epoch := if row.workerId = worker ∧ workerNow < row.leaseExpiresAt then row.epoch
      else row.epoch + 1
    leaseExpiresAt := now + ttl }

/-- `claim(execution_id, worker_id)`. -/
def claim (ttl now workerNow : Int) (execId : Uuid) (worker : String)
    (table : LeaseTable) : Except PyError (LeaseTable × Option WorkerLease) :=
  if worker = "" then .error ⟨.valueError, "worker_id must not be empty"⟩
  else match table.lookup execId with
    | none =>
      let row : LeaseRow := { workerId := worker, epoch := 1, leaseExpiresAt := now + ttl }
      .ok (table.set execId row, some (leaseOf execId row))
    | some row =>
      match claimOver ttl now workerNow worker row with
      | none => .ok (table, none)
      | some next => .ok (table.set execId next, some (leaseOf execId next))

/-- The row that `assert_current` selects. -/
def isCurrent (now : Int) (lease : WorkerLease) (table : LeaseTable) : Bool :=
  match table.lookup lease.executionId with
  | none => false
  | some row => row.workerId == lease.workerId && row.epoch == lease.epoch &&
      decide (now < row.leaseExpiresAt)

def staleLease (lease : WorkerLease) : PyError :=
  ⟨.fencingError, "stale or expired worker lease: execution=" ++ lease.executionId.str ++
    " worker=" ++ lease.workerId ++ " epoch=" ++ toString lease.epoch⟩

def assertCurrent (now : Int) (lease : WorkerLease) (table : LeaseTable) :
    Except PyError Unit :=
  if table.isCurrent now lease then .ok () else .error (staleLease lease)

def renew (ttl now : Int) (lease : WorkerLease) (table : LeaseTable) :
    Except PyError (LeaseTable × WorkerLease) :=
  if table.isCurrent now lease then
    let row : LeaseRow := {
      workerId := lease.workerId, epoch := lease.epoch, leaseExpiresAt := now + ttl }
    .ok (table.set lease.executionId row, leaseOf lease.executionId row)
  else .error ⟨.fencingError, "cannot renew a stale or expired worker lease"⟩

/-- Deletes the row of this worker and epoch, expired or not. -/
def release (lease : WorkerLease) (table : LeaseTable) : LeaseTable :=
  table.filter fun entry => !(entry.1 == lease.executionId &&
    entry.2.workerId == lease.workerId && entry.2.epoch == lease.epoch)

end LeaseTable

end Ois.Infrastructure
