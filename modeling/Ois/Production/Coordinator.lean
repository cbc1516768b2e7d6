import Mathlib.Algebra.Order.Ring.Rat
import Ois.Production.Deployments

/-!
# The distributed coordinator

`DistributedCoordinator` of `production/governance.py` over its two tables. Each call of `claim`
takes one reading of the clock. `complete` takes none: the reading that comes with it is what the
clock shows when it is made.
-/

namespace Ois.Production

open Ois.Kernel Ois.Library Machine

inductive JobState where
  | claimed | completed
  deriving DecidableEq, Repr

structure JobRow where
  state : JobState
  result : Option String := none
  deriving DecidableEq, Repr

structure LeaseRow where
  workerId : String
  expires : ℚ
  deriving DecidableEq, Repr

structure Lease where
  jobId : String
  workerId : String
  expiresAt : ℚ
  deriving DecidableEq, Repr

/-- The tables `jobs` and `leases`, each with `job_id` as its key. -/
structure Coordinator where
  jobs : Dict String JobRow := []
  leases : Dict String LeaseRow := []
  deriving DecidableEq, Repr

open Coordinator

inductive CoordinatorCall where
  | claim (jobId worker : String) (ttlSeconds now : ℚ)
  | complete (jobId worker : String) (result : Except PyError String) (now : ℚ)

inductive CoordinatorAnswer where
  | claimed (lease : Option Lease)
  | completed
  deriving DecidableEq, Repr

def foreignLease : PyError := governanceError "worker does not own job lease"

namespace Coordinator

variable (coord : Coordinator)

def Taken (jobId worker : String) (now : ℚ) : Prop :=
  ∃ lease ∈ coord.leases.lookup jobId, now < lease.expires ∧ lease.workerId ≠ worker

instance (jobId worker : String) (now : ℚ) : Decidable (coord.Taken jobId worker now) :=
  inferInstanceAs (Decidable (∃ lease ∈ coord.leases.lookup jobId, _))

def granted (jobId worker : String) (expires : ℚ) : Coordinator where
  leases := Dict.set jobId ⟨worker, expires⟩ coord.leases
  jobs := Dict.setdefault jobId ⟨.claimed, none⟩ coord.jobs

def claim (jobId worker : String) (ttlSeconds now : ℚ) : Coordinator × Option Lease :=
  if coord.Taken jobId worker now then (coord, none)
  else (coord.granted jobId worker (now + ttlSeconds),
    some ⟨jobId, worker, now + ttlSeconds⟩)

def owner (jobId : String) : Option String :=
  (coord.leases.lookup jobId).map LeaseRow.workerId

/-- `UPDATE jobs SET state = 'completed', result = ? WHERE job_id = ?`, and the lease is deleted. -/
def finished (jobId text : String) : Coordinator where
  jobs := coord.jobs.map fun entry =>
    if entry.1 = jobId then (entry.1, ⟨.completed, some text⟩) else entry
  leases := coord.leases.filter fun entry => entry.1 != jobId

def complete (jobId worker : String) (result : Except PyError String) :
    Coordinator × Except PyError Unit :=
  if coord.owner jobId ≠ some worker then (coord, .error foreignLease)
  else match result with
    | .error err => (coord, .error err)
    | .ok text => (coord.finished jobId text, .ok ())

/-- The text that `result(job_id)` reads. -/
def result (jobId : String) : Option String := (coord.jobs.lookup jobId).bind JobRow.result

end Coordinator

def coordination : Machine CoordinatorCall Coordinator (Except PyError CoordinatorAnswer)
  | .claim jobId worker ttlSeconds now, coord =>
    let claimed := coord.claim jobId worker ttlSeconds now
    (claimed.1, .ok (.claimed claimed.2))
  | .complete jobId worker result _, coord =>
    let completed := coord.complete jobId worker result
    (completed.1, completed.2.map fun _ => .completed)

namespace Coordinator

variable (coord : Coordinator)

def Completed (jobId : String) : Prop :=
  ∃ row ∈ coord.jobs.lookup jobId, row.state = .completed

instance (jobId : String) : Decidable (coord.Completed jobId) :=
  inferInstanceAs (Decidable (∃ row ∈ coord.jobs.lookup jobId, _))

def holders (now : ℚ) (jobId : String) : List String :=
  (coord.leases.filter fun entry => entry.1 = jobId ∧ now < entry.2.expires).map
    (·.2.workerId)

end Coordinator

/-- What the coordinator promises of a call in a state. -/
structure CompletesOnce (call : CoordinatorCall) (coord : Coordinator) : Prop where
  unclaimed : ∀ jobId worker ttlSeconds now, call = .claim jobId worker ttlSeconds now →
    coord.Completed jobId → coordination.answer call coord = .ok (.claimed none)
  unchanged : ∀ jobId, coord.Completed jobId →
    (coordination.next call coord).Completed jobId ∧
      (coordination.next call coord).result jobId = coord.result jobId
  alone : ∀ now jobId, ((coordination.next call coord).holders now jobId).length ≤ 1
  free : ∀ jobId worker ttlSeconds now lease, call = .claim jobId worker ttlSeconds now →
    coordination.answer call coord = .ok (.claimed (some lease)) →
      ∀ other ∈ coord.holders now jobId, other = worker
  byHolder : ∀ jobId worker result now, call = .complete jobId worker result now →
    coordination.answer call coord = .ok .completed → worker ∈ coord.holders now jobId

/-- No completed job is claimed, and the owner of a lease completes its job before the lease
expires. -/
def Timely : CoordinatorCall → Coordinator → Prop
  | .claim jobId _ _ _, coord => ¬coord.Completed jobId
  | .complete jobId worker result now, coord =>
    ∀ lease ∈ coord.leases.lookup jobId, lease.workerId = worker →
      result.isOk = true → now < lease.expires

/-- Each job has one lease at most, and a completed job has none. -/
structure Coordinator.Sound (coord : Coordinator) : Prop where
  distinct : (Dict.keys coord.leases).Nodup
  released : ∀ jobId, coord.Completed jobId → coord.leases.lookup jobId = none

section steps

variable {coord : Coordinator}

theorem holders_of_lookup {jobId : String} {lease : LeaseRow}
    (found : coord.leases.lookup jobId = some lease) {now : ℚ} (live : now < lease.expires) :
    lease.workerId ∈ coord.holders now jobId := by
  apply List.mem_map.mpr
  apply Exists.intro (jobId, lease)
  constructor
  · rw [List.mem_filter]
    exact ⟨Dict.mem_of_lookup found, decide_eq_true ⟨rfl, live⟩⟩
  · rfl

theorem lookup_of_holder (sound : coord.Sound) {now : ℚ} {jobId worker : String}
    (holder : worker ∈ coord.holders now jobId) :
    ∃ lease ∈ coord.leases.lookup jobId, now < lease.expires ∧ lease.workerId = worker := by
  obtain ⟨entry, mem, rfl⟩ := List.mem_map.mp holder
  obtain ⟨there, live⟩ := List.mem_filter.mp mem
  have own := of_decide_eq_true live
  have found := Dict.lookup_of_mem sound.distinct there
  rw [own.1] at found
  exact ⟨entry.2, found, own.2, rfl⟩

theorem holders_length (distinct : (Dict.keys coord.leases).Nodup) (now : ℚ)
    (jobId : String) : (coord.holders now jobId).length ≤ 1 := by
  unfold holders
  rw [List.length_map]
  have keys : (Dict.keys (coord.leases.filter fun entry =>
      entry.1 = jobId ∧ now < entry.2.expires)).Nodup := Dict.nodup_keys_filter distinct
  have same : ∀ key ∈ Dict.keys (coord.leases.filter fun entry =>
      entry.1 = jobId ∧ now < entry.2.expires), key = jobId := by
    intro key mem
    obtain ⟨entry, there, rfl⟩ := List.mem_map.mp mem
    exact (of_decide_eq_true (List.mem_filter.mp there).2).1
  have all := List.eq_replicate_of_mem same
  rw [all, List.nodup_replicate] at keys
  exact (List.length_map Prod.fst) ▸ keys

variable (call : CoordinatorCall) (jobId worker : String)

theorem coordination_cases (coord : Coordinator) :
    (coordination.next call coord = coord ∧
      (coordination.answer call coord = .ok (.claimed none) ∨
      ∃ err, coordination.answer call coord = .error err)) ∨
    (∃ jobId worker ttlSeconds now, call = .claim jobId worker ttlSeconds now ∧
      ¬coord.Taken jobId worker now ∧
      coordination.next call coord = coord.granted jobId worker (now + ttlSeconds)) ∨
    ∃ jobId worker text now, call = .complete jobId worker (.ok text) now ∧
      coord.owner jobId = some worker ∧
      coordination call coord = (coord.finished jobId text, .ok .completed) := by
  cases call with
  | claim jobId worker ttlSeconds now =>
    by_cases taken : coord.Taken jobId worker now
    · have runs : coord.claim jobId worker ttlSeconds now = (coord, none) :=
        if_pos taken
      apply Or.inl
      unfold next answer
      rw [coordination, runs]
      exact ⟨rfl, Or.inl rfl⟩
    · have runs : coord.claim jobId worker ttlSeconds now =
          (coord.granted jobId worker (now + ttlSeconds), _) := if_neg taken
      apply Or.inr
      apply Or.inl
      refine ⟨jobId, worker, ttlSeconds, now, rfl, taken, ?_⟩
      unfold next
      rw [coordination, runs]
  | complete jobId worker result now =>
    by_cases foreign : coord.owner jobId ≠ some worker
    · have runs : coord.complete jobId worker result =
          (coord, .error foreignLease) := if_pos foreign
      apply Or.inl
      unfold next answer
      rw [coordination, runs]
      exact ⟨rfl, Or.inr ⟨foreignLease, rfl⟩⟩
    · cases result with
      | error err =>
        have runs : coord.complete jobId worker (.error err) =
            (coord, .error err) := if_neg foreign
        apply Or.inl
        unfold next answer
        rw [coordination, runs]
        exact ⟨rfl, Or.inr ⟨err, rfl⟩⟩
      | ok text =>
        have runs : coord.complete jobId worker (.ok text) =
            (coord.finished jobId text, .ok ()) := if_neg foreign
        apply Or.inr
        apply Or.inr
        refine ⟨jobId, worker, text, now, rfl, not_not.mp foreign, ?_⟩
        rw [coordination, runs]
        rfl

theorem lookup_finished (jobId text other : String) :
    (coord.finished jobId text).jobs.lookup other =
      if other = jobId then (coord.jobs.lookup other).map fun _ => ⟨.completed, some text⟩
      else coord.jobs.lookup other := by
  unfold finished
  dsimp only
  induction coord.jobs with
  | nil => simp
  | cons entry rest ih =>
    rw [List.map_cons, List.lookup_cons, List.lookup_cons, ih]
    by_cases same : entry.1 = jobId
    · rw [if_pos same]
      dsimp only
      by_cases here : other = jobId
      · rw [same, here, beq_self_eq_true, if_pos rfl, if_pos rfl]
        rfl
      · rw [if_neg here, if_neg here]
        cases read : other == entry.1 with
        | true => exact absurd ((beq_iff_eq.mp read).trans same) here
        | false => rfl
    · rw [if_neg same]
      cases read : other == entry.1 with
      | true =>
        have unlike : other ≠ jobId := by
          rw [beq_iff_eq.mp read]
          exact same
        rw [if_neg unlike, if_neg unlike]
      | false => rfl

theorem granted_jobs (expires : ℚ) (other : String) :
    ((coord.granted jobId worker expires).Completed other ↔ coord.Completed other) ∧
      (coord.granted jobId worker expires).result other = coord.result other := by
  have reads : (coord.granted jobId worker expires).jobs.lookup other =
      (coord.jobs.lookup other).or (if other = jobId then some ⟨.claimed, none⟩ else none) :=
    Dict.lookup_setdefault _ _ _ _
  unfold Coordinator.Completed result
  rw [reads]
  cases coord.jobs.lookup other with
  | some row => exact ⟨Iff.rfl, rfl⟩
  | none =>
    rw [Option.none_or]
    split_ifs
    · simp
    · simp

theorem owner_of_lookup {jobId worker : String} (owns : coord.owner jobId = some worker) :
    ∃ lease, coord.leases.lookup jobId = some lease ∧ lease.workerId = worker :=
  Option.map_eq_some_iff.mp owns

theorem finished_jobs (sound : coord.Sound) {jobId worker text other : String}
    (owns : coord.owner jobId = some worker) (completed : coord.Completed other) :
    (coord.finished jobId text).Completed other ∧
      (coord.finished jobId text).result other = coord.result other := by
  have apart : other ≠ jobId := by
    intro same
    obtain ⟨lease, found, _⟩ := owner_of_lookup owns
    have none := sound.released other completed
    rw [same, found] at none
    cases none
  unfold Coordinator.Completed result
  rw [lookup_finished, if_neg apart]
  exact ⟨completed, rfl⟩

theorem distinct_next (sound : coord.Sound) :
    (Dict.keys (coordination.next call coord).leases).Nodup := by
  rcases coordination_cases call coord with same | granted | finished
  · rw [same.1]
    exact sound.distinct
  · obtain ⟨jobId, worker, ttlSeconds, now, _, _, next⟩ := granted
    rw [next]
    exact Dict.nodup_keys_set sound.distinct
  · obtain ⟨jobId, worker, text, now, _, _, runs⟩ := finished
    unfold next
    rw [runs]
    exact Dict.nodup_keys_filter sound.distinct

theorem sound_next (sound : coord.Sound) (timely : Timely call coord) :
    (coordination.next call coord).Sound := by
  apply Coordinator.Sound.mk (distinct_next call sound)
  intro other completed
  rcases coordination_cases call coord with same | granted | finished
  · rw [same.1] at completed ⊢
    exact sound.released other completed
  · obtain ⟨jobId, worker, ttlSeconds, now, rfl, _, next⟩ := granted
    rw [next] at completed ⊢
    have before := (granted_jobs jobId worker _ other).1.mp completed
    have apart : other ≠ jobId := by
      intro same
      exact timely (same ▸ before)
    unfold granted
    dsimp only
    rw [Dict.lookup_set, if_neg apart]
    exact sound.released other before
  · obtain ⟨jobId, worker, text, now, _, _, runs⟩ := finished
    unfold next at completed ⊢
    rw [runs] at completed ⊢
    unfold finished
    dsimp only
    rw [Dict.lookup_without]
    by_cases same : other = jobId
    · exact if_pos same
    · rw [if_neg same]
      apply sound.released other
      unfold Coordinator.Completed at completed ⊢
      rw [lookup_finished, if_neg same] at completed
      exact completed

theorem unchanged_next (sound : coord.Sound) (jobId : String)
    (completed : coord.Completed jobId) :
    (coordination.next call coord).Completed jobId ∧
      (coordination.next call coord).result jobId = coord.result jobId := by
  rcases coordination_cases call coord with same | granted | finished
  · rw [same.1]
    exact ⟨completed, rfl⟩
  · obtain ⟨other, worker, ttlSeconds, now, _, _, next⟩ := granted
    rw [next]
    have jobs := @granted_jobs coord other worker (now + ttlSeconds) jobId
    exact ⟨jobs.1.mpr completed, jobs.2⟩
  · obtain ⟨other, worker, text, now, _, owns, runs⟩ := finished
    unfold next
    rw [runs]
    exact finished_jobs sound owns completed

theorem claim_answer (ttlSeconds now : ℚ) :
    coordination.answer (.claim jobId worker ttlSeconds now) coord =
      .ok (.claimed (if coord.Taken jobId worker now then none
      else some ⟨jobId, worker, now + ttlSeconds⟩)) := by
  unfold answer
  rw [coordination, claim]
  split_ifs
  · rfl
  · rfl

theorem complete_answer_iff (result : Except PyError String) (now : ℚ) :
    coordination.answer (.complete jobId worker result now) coord = .ok .completed ↔
      coord.owner jobId = some worker ∧ result.isOk = true := by
  unfold answer
  rw [coordination]
  unfold complete
  by_cases foreign : coord.owner jobId ≠ some worker
  · rw [if_pos foreign]
    exact iff_of_false (by simp [Except.map]) fun both => foreign both.1
  · rw [if_neg foreign]
    cases result with
    | error err => simp [Except.map, Except.isOk, Except.toBool]
    | ok text => simp [Except.map, Except.isOk, Except.toBool, not_not.mp foreign]

theorem completes_once_iff (sound : coord.Sound) :
    CompletesOnce call coord ↔ Timely call coord := by
  constructor
  · intro once
    cases call with
    | claim jobId worker ttlSeconds now =>
      intro completed
      have untaken : ¬coord.Taken jobId worker now := by
        unfold Coordinator.Taken
        rw [sound.released jobId completed]
        simp
      have refused := once.unclaimed jobId worker ttlSeconds now rfl completed
      rw [claim_answer, if_neg untaken] at refused
      cases refused
    | complete jobId worker result now =>
      intro lease found own written
      have owns : coord.owner jobId = some worker := by
        unfold owner
        rw [found, ← own]
        rfl
      have answered := (complete_answer_iff jobId worker result now).mpr ⟨owns, written⟩
      have holder := once.byHolder jobId worker result now rfl answered
      obtain ⟨held, there, live, _⟩ := lookup_of_holder sound holder
      obtain rfl := Option.some.inj (found.symm.trans there)
      exact live
  · intro timely
    constructor
    · intro jobId worker ttlSeconds now same completed
      subst same
      exact absurd completed timely
    · exact unchanged_next call sound
    · intro now jobId
      exact holders_length (distinct_next call sound) now jobId
    · intro jobId worker ttlSeconds now lease same granted other holder
      subst same
      rw [claim_answer] at granted
      by_contra unlike
      obtain ⟨held, there, live, own⟩ := lookup_of_holder sound holder
      rw [if_pos ⟨held, there, live, own.trans_ne unlike⟩] at granted
      cases granted
    · intro jobId worker result now same answered
      subst same
      obtain ⟨owns, written⟩ := (complete_answer_iff jobId worker result now).mp answered
      obtain ⟨lease, found, own⟩ := owner_of_lookup owns
      rw [← own]
      exact holders_of_lookup found (timely lease found own written)

end steps

/-- The coordinator keeps its promises in every run exactly when no completed job is claimed and
every owner completes its job in time. -/
theorem jobs_complete_once_iff (calls : List CoordinatorCall) :
    Historically (fun before call => CompletesOnce call (coordination.run before {})) calls ↔
      coordination.Throughout Timely calls {} := by
  apply historically_iff_throughout fun _ coord => Coordinator.Sound coord
  · intro before call sound timely
    exact sound_next call sound timely
  · constructor
    · exact List.nodup_nil
    · intro jobId _
      rfl
  · intro before call sound
    exact completes_once_iff call sound

/-- A completed job is claimed and completed again, and its result changes. -/
theorem completed_job_claimed_again :
    let calls : List CoordinatorCall := [.claim "j" "a" 30 0, .complete "j" "a" (.ok "1") 1]
    let more : List CoordinatorCall := calls ++ [.claim "j" "b" 30 2, .complete "j" "b" (.ok "2") 3]
    (coordination.run calls {}).Completed "j" ∧ (coordination.run calls {}).result "j" = some "1" ∧
      coordination.answer (.claim "j" "b" 30 2) (coordination.run calls {}) =
      .ok (.claimed (some ⟨"j", "b", 32⟩)) ∧
      (coordination.run more {}).result "j" = some "2" ∧
      ¬CompletesOnce (.claim "j" "b" 30 2) (coordination.run calls {}) := by
  intro calls more
  have completed : (coordination.run calls {}).Completed "j" := by decide +kernel
  have claimed : coordination.answer (.claim "j" "b" 30 2) (coordination.run calls {}) =
      .ok (.claimed (some ⟨"j", "b", 32⟩)) := by decide +kernel
  refine ⟨completed, by decide +kernel, claimed, by decide +kernel, ?_⟩
  intro once
  have refused := once.unclaimed "j" "b" 30 2 rfl completed
  rw [claimed] at refused
  cases refused

end Ois.Production
