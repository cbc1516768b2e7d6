import Ois.Library.Machine
import Ois.Infrastructure.Fencing

/-!
# Epochs over whole runs of the lease store

The lease store takes the calls of any number of workers in any order. An ownership of an
execution begins with a granted claim that does not continue an unexpired lease of its own worker.
-/

namespace Ois.Infrastructure

open Ois.Library Ois.Kernel Dict

inductive LeaseCall where
  | claim (ttl now workerNow : Int) (execId : Uuid) (workerId : String)
  | renew (ttl now : Int) (lease : WorkerLease)
  | release (lease : WorkerLease)
  | assertCurrent (now : Int) (lease : WorkerLease)
  deriving DecidableEq, Repr

def leaseStore : Machine LeaseCall LeaseTable (Except PyError (Option WorkerLease))
  | .claim ttl now workerNow execId workerId, table =>
    match table.claim ttl now workerNow execId workerId with
    | .ok (after, lease) => (after, .ok lease)
    | .error err => (table, .error err)
  | .renew ttl now lease, table =>
    match table.renew ttl now lease with
    | .ok (after, renewed) => (after, .ok (some renewed))
    | .error err => (table, .error err)
  | .release lease, table => (table.release lease, .ok none)
  | .assertCurrent now lease, table =>
    (table, (table.assertCurrent now lease).map fun _ => none)

def LeaseCall.issued? (call : LeaseCall) (table : LeaseTable) : Option WorkerLease :=
  match leaseStore.answer call table with
  | .ok lease => lease
  | .error _ => none

namespace LeaseTable

def Keyed (table : LeaseTable) : Prop := (keys table).Nodup

theorem lookup_release {table : LeaseTable} (keyed : table.Keyed) (lease : WorkerLease)
    (execId : Uuid) :
    (table.release lease).lookup execId =
      (table.lookup execId).filter fun row => !(execId == lease.executionId &&
      row.workerId == lease.workerId && row.epoch == lease.epoch) :=
  lookup_filter _ table keyed execId

theorem claim_over_epoch {ttl now workerNow : Int} {workerId : String} {row next : LeaseRow}
    (granted : claimOver ttl now workerNow workerId row = some next) :
    next.workerId = workerId ∧ (row.epoch < next.epoch ∨
      row.epoch = next.epoch ∧ row.workerId = workerId ∧ workerNow < row.leaseExpiresAt) := by
  unfold claimOver at granted
  split_ifs at granted with refused continued
  · rw [← Option.some.inj granted]
    exact ⟨rfl, Or.inr ⟨rfl, continued.1, continued.2⟩⟩
  · rw [← Option.some.inj granted]
    exact ⟨rfl, Or.inl (Nat.lt_succ_self _)⟩

theorem is_current_row {now : Int} {lease : WorkerLease} {table : LeaseTable}
    (cur : table.isCurrent now lease = true) :
    ∃ row, table.lookup lease.executionId = some row ∧ row.workerId = lease.workerId ∧
      row.epoch = lease.epoch ∧ now < row.leaseExpiresAt := by
  unfold isCurrent at cur
  cases found : table.lookup lease.executionId with
  | none => simp [found] at cur
  | some row =>
    simp only [found, Bool.and_eq_true, beq_iff_eq, decide_eq_true_eq] at cur
    exact ⟨row, rfl, cur.1.1, cur.1.2, cur.2⟩

end LeaseTable

open LeaseTable

inductive RowMoves (execId : Uuid) (call : LeaseCall) (table : LeaseTable) :
    Option LeaseRow → Option LeaseRow → Prop where
  | kept (row : Option LeaseRow) : RowMoves execId call table row row
  | inserted (lease : WorkerLease) (ttl now workerNow : Int)
      (made : call = .claim ttl now workerNow execId lease.workerId)
      (same : lease.executionId = execId) (first : lease.epoch = 1)
      (issued : call.issued? table = some lease) :
      RowMoves execId call table none
        (some ⟨lease.workerId, lease.epoch, lease.leaseExpiresAt⟩)
  | claimed (row : LeaseRow) (lease : WorkerLease) (ttl now workerNow : Int)
      (made : call = .claim ttl now workerNow execId lease.workerId)
      (same : lease.executionId = execId)
      (granted : claimOver ttl now workerNow lease.workerId row =
        some ⟨lease.workerId, lease.epoch, lease.leaseExpiresAt⟩)
      (issued : call.issued? table = some lease) :
      RowMoves execId call table (some row)
        (some ⟨lease.workerId, lease.epoch, lease.leaseExpiresAt⟩)
  | renewed (row : LeaseRow) (expires : Int) : RowMoves execId call table (some row)
        (some ⟨row.workerId, row.epoch, expires⟩)
  | deleted (row : LeaseRow) : RowMoves execId call table (some row) none

theorem claim_moves (table : LeaseTable) (ttl now workerNow : Int) (claimed execId : Uuid)
    (workerId : String) :
    RowMoves execId (.claim ttl now workerNow claimed workerId) table
      (table.lookup execId)
      ((leaseStore.next (.claim ttl now workerNow claimed workerId) table).lookup execId) := by
  by_cases nameless : workerId = ""
  · simp only [Machine.next, leaseStore, claim, nameless, if_true]
    exact .kept _
  cases found : table.lookup claimed with
  | none =>
    have issued : (LeaseCall.claim ttl now workerNow claimed workerId).issued? table =
        some ⟨claimed, workerId, 1, now + ttl⟩ := by
      simp [LeaseCall.issued?, Machine.answer, leaseStore, claim, nameless, found, leaseOf]
    simp only [Machine.next, leaseStore, claim, nameless, if_false, found, lookup_set]
    by_cases same : execId = claimed
    · subst same
      rw [if_pos rfl, found]
      exact .inserted ⟨execId, workerId, 1, now + ttl⟩ ttl now workerNow rfl rfl rfl issued
    · rw [if_neg same]
      exact .kept _
  | some row =>
    cases granted : claimOver ttl now workerNow workerId row with
    | none =>
      simp only [Machine.next, leaseStore, claim, nameless, if_false, found, granted]
      exact .kept _
    | some next =>
      have named := (claim_over_epoch granted).1
      have issued : (LeaseCall.claim ttl now workerNow claimed workerId).issued? table =
          some (leaseOf claimed next) := by
        simp [LeaseCall.issued?, Machine.answer, leaseStore, claim, nameless, found, granted]
      simp only [Machine.next, leaseStore, claim, nameless, if_false, found, granted, lookup_set]
      by_cases same : execId = claimed
      · subst same
        subst named
        rw [if_pos rfl, found]
        exact .claimed row (leaseOf execId next) ttl now workerNow rfl rfl granted issued
      · rw [if_neg same]
        exact .kept _

variable {table : LeaseTable} {lease : WorkerLease} {call : LeaseCall} {execId : Uuid}

theorem row_moves (keyed : table.Keyed) (call : LeaseCall) (execId : Uuid) :
    RowMoves execId call table (table.lookup execId)
      ((leaseStore.next call table).lookup execId) := by
  cases call with
  | claim ttl now workerNow claimed workerId =>
    exact claim_moves table ttl now workerNow claimed execId workerId
  | renew ttl now lease =>
    by_cases cur : table.isCurrent now lease = true
    · obtain ⟨row, found, worker, epoch, _⟩ := is_current_row cur
      simp only [Machine.next, leaseStore, renew, cur, if_true, lookup_set]
      by_cases same : execId = lease.executionId
      · rw [if_pos same, same, found, ← worker, ← epoch]
        exact .renewed row (now + ttl)
      · rw [if_neg same]
        exact .kept _
    · simp only [Machine.next, leaseStore, renew, cur, Bool.false_eq_true, if_false]
      exact .kept _
  | release lease =>
    simp only [Machine.next, leaseStore, lookup_release keyed]
    cases found : table.lookup execId with
    | none => exact .kept none
    | some row =>
      simp only [Option.filter]
      split_ifs
      · exact .kept _
      · exact .deleted row
  | assertCurrent now lease => exact .kept _

theorem keyed_next (call : LeaseCall) (table : LeaseTable) (keyed : table.Keyed) :
    (leaseStore.next call table).Keyed := by
  cases call with
  | claim ttl now workerNow execId workerId =>
    simp only [Machine.next, leaseStore, claim]
    split_ifs
    · exact keyed
    · cases table.lookup execId with
      | none => exact nodup_keys_set keyed
      | some row =>
        cases granted : claimOver ttl now workerNow workerId row with
        | none =>
          simp only [granted]
          exact keyed
        | some next =>
          simp only [granted]
          exact nodup_keys_set keyed
  | renew ttl now lease =>
    simp only [Machine.next, leaseStore, renew]
    split_ifs
    · exact nodup_keys_set keyed
    · exact keyed
  | release lease => exact nodup_keys_filter keyed
  | assertCurrent now lease => exact keyed

def tableAfter (calls : List LeaseCall) : LeaseTable := leaseStore.run calls []

theorem table_after_concat (calls : List LeaseCall) (call : LeaseCall) :
    tableAfter (calls ++ [call]) = leaseStore.next call (tableAfter calls) :=
  leaseStore.run_concat calls call []

theorem table_after_keyed (calls : List LeaseCall) : (tableAfter calls).Keyed :=
  Machine.run_invariant keyed_next calls List.nodup_nil

def BeginsOwnership (execId : Uuid) (call : LeaseCall) (table : LeaseTable) : Prop :=
  ∃ ttl now workerNow workerId lease,
    call = .claim ttl now workerNow execId workerId ∧ call.issued? table = some lease ∧
      ∀ row, table.lookup execId = some row →
        ¬(row.workerId = workerId ∧ now < row.leaseExpiresAt)

def EndsLease (lease : WorkerLease) (call : LeaseCall) (table : LeaseTable) : Prop :=
  (∃ given : WorkerLease, call = .release given ∧ given.executionId = lease.executionId ∧
    given.workerId = lease.workerId ∧ given.epoch = lease.epoch) ∨
  BeginsOwnership lease.executionId call table

def Leased (execId : Uuid) (calls : List LeaseCall) : Prop :=
  ∃ before call after lease, calls = before ++ call :: after ∧
    call.issued? (tableAfter before) = some lease ∧ lease.executionId = execId

/-- The epochs issued for one execution grow from one ownership to the next. -/
def EpochsIncrease (calls : List LeaseCall) : Prop :=
  ∀ before first between last after lease next,
    calls = before ++ first :: between ++ last :: after →
    first.issued? (tableAfter before) = some lease →
    last.issued? (tableAfter (before ++ first :: between)) = some next →
    next.executionId = lease.executionId →
    (∃ early call late, between ++ [last] = early ++ call :: late ∧
      BeginsOwnership lease.executionId call (tableAfter (before ++ first :: early))) →
    lease.epoch < next.epoch

/-- A lease that has ended is never current again. -/
def EndedLeasesFenced (calls : List LeaseCall) : Prop :=
  ∀ before first early call late after lease,
    calls = before ++ first :: early ++ call :: late ++ after →
    first.issued? (tableAfter before) = some lease →
    EndsLease lease call (tableAfter (before ++ first :: early)) →
    ∀ now, (tableAfter (before ++ first :: early ++ call :: late)).isCurrent now lease = false

/-- Every claim of an execution that was leased before finds its row, and no worker
takes its own lease for unexpired that has expired on the database clock. -/
def ClaimsAdvance (calls : List LeaseCall) : Prop :=
  ∀ before ttl now workerNow execId workerId after,
    calls = before ++ .claim ttl now workerNow execId workerId :: after →
    workerId ≠ "" →
    (Leased execId before → (tableAfter before).lookup execId ≠ none) ∧
    ∀ row, (tableAfter before).lookup execId = some row → row.workerId = workerId →
      row.leaseExpiresAt ≤ now → row.leaseExpiresAt ≤ workerNow

def HeldOrEnded (lease : WorkerLease) (table : LeaseTable) : Prop :=
  ∀ row, table.lookup lease.executionId = some row →
    lease.epoch < row.epoch ∨ row.epoch = lease.epoch ∧ row.workerId = lease.workerId

def Ended (lease : WorkerLease) (table : LeaseTable) : Prop :=
  ∀ row, table.lookup lease.executionId = some row → lease.epoch < row.epoch

theorem Ended.not_current (ended : Ended lease table) (now : Int) :
    table.isCurrent now lease = false := by
  by_contra cur
  rw [Bool.not_eq_false] at cur
  obtain ⟨row, found, _, epoch, _⟩ := is_current_row cur
  have later := ended row found
  omega

def FindsRow (execId : Uuid) (call : LeaseCall) (table : LeaseTable) : Prop :=
  ∀ lease, call.issued? table = some lease → lease.executionId = execId →
    table.lookup execId ≠ none

theorem HeldOrEnded.next (keyed : table.Keyed) (finds : FindsRow lease.executionId call table)
    (held : HeldOrEnded lease table) : HeldOrEnded lease (leaseStore.next call table) := by
  intro row after
  have moves := row_moves keyed call lease.executionId
  rw [after] at moves
  generalize before : table.lookup lease.executionId = past at moves
  cases moves with
  | kept => exact held row before
  | inserted issued ttl now workerNow made same first gave =>
    exact absurd before (finds issued gave same)
  | claimed old next ttl now workerNow made same granted gave =>
    have previous := held old before
    obtain ⟨_, later | ⟨equal, worker, _⟩⟩ := claim_over_epoch granted
    · left
      simp only at later ⊢
      omega
    · simp only at equal ⊢
      rw [← equal, ← worker]
      exact previous
  | renewed old expires => exact held old before

theorem Ended.next (keyed : table.Keyed) (finds : FindsRow lease.executionId call table)
    (ended : Ended lease table) : Ended lease (leaseStore.next call table) := by
  intro row after
  have moves := row_moves keyed call lease.executionId
  rw [after] at moves
  generalize before : table.lookup lease.executionId = past at moves
  cases moves with
  | kept => exact ended row before
  | inserted issued ttl now workerNow made same first gave =>
    exact absurd before (finds issued gave same)
  | claimed old next ttl now workerNow made same granted gave =>
    have previous := ended old before
    obtain ⟨_, later | ⟨equal, _, _⟩⟩ := claim_over_epoch granted
    · simp only at later ⊢
      omega
    · simp only at equal ⊢
      omega
  | renewed old expires => exact ended old before

variable {ttl now workerNow : Int} {workerId : String}

theorem claim_issued
    (issued : (LeaseCall.claim ttl now workerNow execId workerId).issued? table = some lease) :
    lease.executionId = execId ∧ (table.lookup execId = none ∧ lease.epoch = 1 ∨
      ∃ row, table.lookup execId = some row ∧
      claimOver ttl now workerNow workerId row =
      some ⟨lease.workerId, lease.epoch, lease.leaseExpiresAt⟩) := by
  by_cases nameless : workerId = ""
  · simp [LeaseCall.issued?, Machine.answer, leaseStore, claim, nameless] at issued
  cases found : table.lookup execId with
  | none =>
    simp only [LeaseCall.issued?, Machine.answer, leaseStore, claim, nameless,
      if_false, found, Option.some.injEq] at issued
    rw [← issued]
    exact ⟨rfl, Or.inl ⟨rfl, rfl⟩⟩
  | some row =>
    cases granted : claimOver ttl now workerNow workerId row with
    | none =>
      simp [LeaseCall.issued?, Machine.answer, leaseStore, claim, nameless,
        found, granted] at issued
    | some next =>
      simp only [LeaseCall.issued?, Machine.answer, leaseStore, claim, nameless,
        if_false, found, granted, Option.some.injEq] at issued
      rw [← issued]
      exact ⟨rfl, Or.inr ⟨row, rfl, granted⟩⟩

theorem claim_named
    (issued : (LeaseCall.claim ttl now workerNow execId workerId).issued? table = some lease) :
    workerId ≠ "" := by
  intro nameless
  simp [LeaseCall.issued?, Machine.answer, leaseStore, claim, nameless] at issued

theorem renew_issued {ttl now : Int} {given lease : WorkerLease}
    (issued : (LeaseCall.renew ttl now given).issued? table = some lease) :
    table.isCurrent now given = true ∧
      leaseOf given.executionId ⟨given.workerId, given.epoch, now + ttl⟩ = lease := by
  by_cases cur : table.isCurrent now given = true
  · simp only [LeaseCall.issued?, Machine.answer, leaseStore, renew, cur,
      if_true, Option.some.injEq] at issued
    exact ⟨cur, issued⟩
  · simp [LeaseCall.issued?, Machine.answer, leaseStore, renew, cur] at issued

theorem release_not_issued (given : WorkerLease) (table : LeaseTable) :
    (LeaseCall.release given).issued? table = none := rfl

theorem assert_not_issued (now : Int) (given : WorkerLease) (table : LeaseTable) :
    (LeaseCall.assertCurrent now given).issued? table = none := by
  unfold LeaseCall.issued?
  simp only [Machine.answer, leaseStore, assertCurrent]
  split_ifs
  · rfl
  · rfl

theorem issued_row (issued : call.issued? table = some lease) :
    (leaseStore.next call table).lookup lease.executionId =
      some ⟨lease.workerId, lease.epoch, lease.leaseExpiresAt⟩ := by
  cases call with
  | claim ttl now workerNow execId workerId =>
    have named := claim_named issued
    cases found : table.lookup execId with
    | none =>
      simp only [LeaseCall.issued?, Machine.answer, leaseStore, claim, named,
        if_false, found, Option.some.injEq] at issued
      simp [Machine.next, leaseStore, claim, named, found, ← issued, leaseOf]
    | some row =>
      cases granted : claimOver ttl now workerNow workerId row with
      | none =>
        simp [LeaseCall.issued?, Machine.answer, leaseStore, claim, named, found, granted] at issued
      | some next =>
        simp only [LeaseCall.issued?, Machine.answer, leaseStore, claim,
          named, if_false, found, granted, Option.some.injEq] at issued
        simp [Machine.next, leaseStore, claim, named, found, granted, ← issued, leaseOf]
  | renew ttl now given =>
    obtain ⟨cur, same⟩ := renew_issued issued
    simp [Machine.next, leaseStore, renew, cur, ← same, leaseOf]
  | release given =>
    rw [release_not_issued] at issued
    cases issued
  | assertCurrent now given =>
    rw [assert_not_issued] at issued
    cases issued

theorem held_of_issued (issued : call.issued? table = some lease) :
    HeldOrEnded lease (leaseStore.next call table) := by
  intro row found
  rw [issued_row issued, Option.some.injEq] at found
  rw [← found]
  exact Or.inr ⟨rfl, rfl⟩

def ClockAgrees (call : LeaseCall) (table : LeaseTable) : Prop :=
  ∀ ttl now workerNow execId workerId,
    call = .claim ttl now workerNow execId workerId → workerId ≠ "" →
    ∀ row, table.lookup execId = some row → row.workerId = workerId →
      row.leaseExpiresAt ≤ now → row.leaseExpiresAt ≤ workerNow

theorem ended_of_ends (keyed : table.Keyed) (finds : FindsRow lease.executionId call table)
    (agrees : ClockAgrees call table) (held : HeldOrEnded lease table)
    (ends : EndsLease lease call table) : Ended lease (leaseStore.next call table) := by
  intro row after
  rcases ends with ⟨given, rfl, exec, worker, epoch⟩ |
    ⟨ttl, now, workerNow, workerId, next, rfl, issued, starts⟩
  · simp only [Machine.next, leaseStore, lookup_release keyed] at after
    rw [Option.filter_eq_some_iff] at after
    obtain ⟨found, unmatched⟩ := after
    rcases held row found with later | ⟨sameEpoch, sameWorker⟩
    · exact later
    · simp [exec, worker, epoch, sameEpoch, sameWorker] at unmatched
  · obtain ⟨same, inserted | ⟨old, found, granted⟩⟩ := claim_issued issued
    · exact absurd inserted.1 (finds next issued same)
    · have written := issued_row issued
      rw [same, after, Option.some.injEq] at written
      obtain ⟨_, later | ⟨_, worker, unexpired⟩⟩ := claim_over_epoch granted
      · rw [written]
        rcases held old found with past | ⟨equal, _⟩
        · simp only at later ⊢
          omega
        · simp only at later ⊢
          omega
      · have expired : old.leaseExpiresAt ≤ now := by
          by_contra unexpiredStill
          exact starts old found ⟨worker, by omega⟩
        have agreed := agrees ttl now workerNow lease.executionId workerId rfl
          (claim_named issued) old found worker expired
        omega

theorem Leased.append {calls : List LeaseCall} (leased : Leased execId calls)
    (more : List LeaseCall) : Leased execId (calls ++ more) := by
  obtain ⟨before, first, after, lease, rfl, issued⟩ := leased
  exact ⟨before, first, after ++ more, lease, by simp, issued⟩

theorem leased_of_issued {before : List LeaseCall}
    (issued : call.issued? (tableAfter before) = some lease) :
    Leased lease.executionId (before ++ [call]) :=
  ⟨before, call, [], lease, rfl, issued, rfl⟩

section advance

variable {calls before middle after : List LeaseCall}

theorem finds_of_advance {call : LeaseCall} {execId : Uuid}
    (advance : ClaimsAdvance calls) (split : calls = before ++ call :: after)
    (leased : Leased execId before) :
    FindsRow execId call (tableAfter before) := by
  intro lease issued same
  cases call with
  | claim ttl now workerNow claimed workerId =>
    have target := (claim_issued issued).1
    rw [same] at target
    subst target
    exact (advance before ttl now workerNow execId workerId after split
      (claim_named issued)).1 leased
  | renew ttl now given =>
    obtain ⟨cur, renewed⟩ := renew_issued issued
    obtain ⟨row, found, _⟩ := is_current_row cur
    have target : given.executionId = execId := by
      rw [← same, ← renewed]
      rfl
    rw [← target, found]
    simp
  | release given =>
    rw [release_not_issued] at issued
    cases issued
  | assertCurrent now given =>
    rw [assert_not_issued] at issued
    cases issued

theorem agrees_of_advance {call : LeaseCall} (advance : ClaimsAdvance calls)
    (split : calls = before ++ call :: after) : ClockAgrees call (tableAfter before) := by
  intro ttl now workerNow execId workerId made named row found worker expired
  subst made
  exact (advance before ttl now workerNow execId workerId after split named).2 row found
    worker expired

theorem run_after_leased {execId : Uuid} {holds : LeaseTable → Prop}
    (keeps : ∀ call table, LeaseTable.Keyed table → FindsRow execId call table →
      holds table → holds (leaseStore.next call table))
    (advance : ClaimsAdvance calls) (split : calls = before ++ middle ++ after)
    (leased : Leased execId before) (base : holds (tableAfter before)) :
    holds (tableAfter (before ++ middle)) := by
  induction middle generalizing before with
  | nil => simpa using base
  | cons call rest ih =>
    have here : calls = before ++ call :: (rest ++ after) := by simp [split]
    have finds := finds_of_advance advance here leased
    have step := keeps call (tableAfter before) (table_after_keyed before) finds base
    rw [← table_after_concat] at step
    have later := ih (by simp [split]) (leased.append [call]) step
    simpa using later

theorem ended_after {early late : List LeaseCall} {first call : LeaseCall}
    {lease : WorkerLease} (advance : ClaimsAdvance calls)
    (split : calls = before ++ first :: early ++ call :: late ++ after)
    (issued : first.issued? (tableAfter before) = some lease)
    (ends : EndsLease lease call (tableAfter (before ++ first :: early))) :
    Ended lease (tableAfter (before ++ first :: early ++ call :: late)) := by
  have leased := leased_of_issued issued
  have heldFirst : HeldOrEnded lease (tableAfter (before ++ [first])) := by
    rw [table_after_concat]
    exact held_of_issued issued
  have held : HeldOrEnded lease (tableAfter (before ++ first :: early)) := by
    have part : calls = (before ++ [first]) ++ early ++ (call :: late ++ after) := by
      simp [split]
    have later := run_after_leased
      (fun call table keyed finds held => HeldOrEnded.next keyed finds held) advance
      part leased heldFirst
    simpa using later
  have leasedLater : Leased lease.executionId (before ++ first :: early) := by
    have later := leased.append early
    simpa using later
  have here : calls = (before ++ first :: early) ++ call :: (late ++ after) := by
    simp [split]
  have ended : Ended lease (tableAfter (before ++ first :: early ++ [call])) := by
    rw [table_after_concat]
    exact ended_of_ends (table_after_keyed _) (finds_of_advance advance here leasedLater)
      (agrees_of_advance advance here) held ends
  have part : calls = (before ++ first :: early ++ [call]) ++ late ++ after := by
    simp [split]
  have last := run_after_leased
    (fun call table keyed finds ended => Ended.next keyed finds ended) advance
    part (leasedLater.append [call]) ended
  simpa using last

end advance

variable {calls : List LeaseCall} {execId : Uuid}

theorem epochs_increase_of_advance (advance : ClaimsAdvance calls) : EpochsIncrease calls := by
  intro before first between last after lease next split issued issuedNext same begun
  obtain ⟨early, call, late, parts, begins⟩ := begun
  have whole : calls = before ++ first :: early ++ call :: late ++ after := by
    have regroup : before ++ first :: between ++ last :: after =
        before ++ first :: (between ++ [last]) ++ after := by simp
    rw [split, regroup, parts]
    simp
  have ended := ended_after advance whole issued (Or.inr begins)
  have rejoin : before ++ first :: early ++ call :: late =
      before ++ first :: between ++ [last] := by
    have regroup : before ++ first :: early ++ call :: late =
        before ++ first :: (early ++ call :: late) := by simp
    rw [regroup, ← parts]
    simp
  rw [rejoin, table_after_concat] at ended
  have written := issued_row issuedNext
  rw [same] at written
  exact ended _ written

theorem ended_leases_fenced_of_advance (advance : ClaimsAdvance calls) :
    EndedLeasesFenced calls := by
  intro before first early call late after lease split issued ends now
  exact (ended_after advance split issued ends).not_current now

theorem row_issued (calls : List LeaseCall) {row : LeaseRow}
    (found : (tableAfter calls).lookup execId = some row) :
    ∃ before call after lease, calls = before ++ call :: after ∧
      call.issued? (tableAfter before) = some lease ∧ lease.executionId = execId ∧
      lease.epoch = row.epoch ∧ 1 ≤ row.epoch := by
  induction calls using List.reverseRecOn generalizing row with
  | nil => simp [tableAfter, Machine.run] at found
  | append_singleton calls last ih =>
    rw [table_after_concat] at found
    have moves := row_moves (table_after_keyed calls) last execId
    rw [found] at moves
    generalize past : (tableAfter calls).lookup execId = old at moves
    cases moves with
    | kept =>
      obtain ⟨before, call, after, lease, rfl, rest⟩ := ih past
      exact ⟨before, call, after ++ [last], lease, by simp, rest⟩
    | inserted lease ttl now workerNow made same first issued =>
      exact ⟨calls, last, [], lease, rfl, issued, same, rfl, by simp [first]⟩
    | claimed old lease ttl now workerNow made same granted issued =>
      obtain ⟨_, _, _, _, _, _, _, _, positive⟩ := ih past
      refine ⟨calls, last, [], lease, rfl, issued, same, rfl, ?_⟩
      obtain ⟨_, later | ⟨equal, _⟩⟩ := claim_over_epoch granted
      · exact le_trans positive (le_of_lt later)
      · exact equal ▸ positive
    | renewed old expires =>
      obtain ⟨before, call, after, lease, rfl, rest⟩ := ih past
      exact ⟨before, call, after ++ [last], lease, by simp, rest⟩

theorem issued_positive {before : List LeaseCall} {call : LeaseCall} {lease : WorkerLease}
    (issued : call.issued? (tableAfter before) = some lease) : 1 ≤ lease.epoch := by
  have written := issued_row issued
  rw [← table_after_concat] at written
  obtain ⟨_, _, _, _, _, _, _, _, positive⟩ := row_issued _ written
  exact positive

theorem issued_missing {table : LeaseTable}
    (named : workerId ≠ "") (missing : table.lookup execId = none) :
    (LeaseCall.claim ttl now workerNow execId workerId).issued? table =
      some ⟨execId, workerId, 1, now + ttl⟩ := by
  simp [LeaseCall.issued?, Machine.answer, leaseStore, claim, named, missing, leaseOf]

theorem issued_continued {table : LeaseTable}
    {row : LeaseRow} (named : workerId ≠ "") (found : table.lookup execId = some row)
    (own : row.workerId = workerId) (unexpired : workerNow < row.leaseExpiresAt) :
    (LeaseCall.claim ttl now workerNow execId workerId).issued? table =
      some ⟨execId, workerId, row.epoch, now + ttl⟩ := by
  simp [LeaseCall.issued?, Machine.answer, leaseStore, claim, named, found,
    claimOver, own, unexpired, leaseOf]

theorem advance_of_increase (increase : EpochsIncrease calls) : ClaimsAdvance calls := by
  intro before ttl now workerNow execId workerId after split named
  -- an ownership that begins at this claim cannot get an epoch issued before
  have grows : ∀ past first between lease epoch expires, before = past ++ first :: between →
      first.issued? (tableAfter past) = some lease → lease.executionId = execId →
      (LeaseCall.claim ttl now workerNow execId workerId).issued? (tableAfter before) =
        some ⟨execId, workerId, epoch, expires⟩ →
      (∀ row, (tableAfter before).lookup execId = some row →
        ¬(row.workerId = workerId ∧ now < row.leaseExpiresAt)) →
      lease.epoch < epoch := by
    intro past first between lease epoch expires parts issued same issuedNow starts
    subst parts
    exact increase past first between _ after lease _ split issued issuedNow same.symm
      ⟨between, _, [], rfl, ttl, now, workerNow, workerId, _, by rw [same], issuedNow,
        by rw [same]; exact starts⟩
  constructor
  · intro leased missing
    obtain ⟨past, first, between, lease, parts, issued, same⟩ := leased
    have grown := grows past first between lease 1 (now + ttl) parts issued same
      (issued_missing named missing) (by simp [missing])
    have positive := issued_positive issued
    omega
  · intro row found own expired
    by_contra lagging
    obtain ⟨past, first, between, lease, parts, issued, same, epoch, _⟩ :=
      row_issued before found
    have grown := grows past first between lease row.epoch (now + ttl) parts issued same
      (issued_continued named found own (by omega)) (by
        intro other again continued
        rw [found, Option.some.injEq] at again
        subst again
        omega)
    omega

/-- In a run of the lease store the epochs of an execution grow from one ownership to
the next, and ended leases stay fenced, exactly when every claim of an execution that
was leased before finds its row and no claimant's clock lags behind an expiry. -/
theorem epochs_fence_iff (calls : List LeaseCall) :
    EpochsIncrease calls ∧ EndedLeasesFenced calls ↔ ClaimsAdvance calls :=
  ⟨fun fences => advance_of_increase fences.1,
    fun advance => ⟨epochs_increase_of_advance advance, ended_leases_fenced_of_advance advance⟩⟩

def reclaiming : List LeaseCall :=
  [.claim 30000000 0 0 ⟨1⟩ "worker-a", .release ⟨⟨1⟩, "worker-a", 1, 30000000⟩,
    .claim 30000000 1 1 ⟨1⟩ "worker-a"]

/-- The released lease is current again, and its epoch was issued twice. -/
theorem released_lease_current_again :
    (tableAfter reclaiming).isCurrent 2 ⟨⟨1⟩, "worker-a", 1, 30000000⟩ = true ∧
      ¬(EpochsIncrease reclaiming ∧ EndedLeasesFenced reclaiming) := by
  have cur : (tableAfter reclaiming).isCurrent 2 ⟨⟨1⟩, "worker-a", 1, 30000000⟩ = true := by
    decide +kernel
  refine ⟨cur, fun fences => ?_⟩
  have fenced := fences.2 [] (.claim 30000000 0 0 ⟨1⟩ "worker-a") []
    (.release ⟨⟨1⟩, "worker-a", 1, 30000000⟩) [.claim 30000000 1 1 ⟨1⟩ "worker-a"] []
    ⟨⟨1⟩, "worker-a", 1, 30000000⟩ rfl (by decide +kernel) (Or.inl ⟨_, rfl, rfl, rfl, rfl⟩) 2
  exact absurd (fenced.symm.trans cur) (by decide)

end Ois.Infrastructure
