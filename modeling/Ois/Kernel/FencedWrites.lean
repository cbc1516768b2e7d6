import Ois.Kernel.OrchestratorSteps

/-!
# Writes of a worker that may lose its lease

Other workers may claim, renew and release leases between any two steps of a run, and leases
expire.
-/

namespace Ois.Kernel

open Ois.Library Ois.Infrastructure Command ExecutionRuntime PlanOrchestrator

def Step.isWrite : Step → Bool
  | .save _ | .put _ _ => true
  | _ => false

open Step

def Step.isFence : Step → Bool
  | .fence _ _ => true
  | _ => false

def World.holds (world : World) (lease : WorkerLease) (moment : Nat) : Bool :=
  (world.leases moment).isCurrent (world.databaseClock moment) lease

/-- Every write takes effect while the lease is current. -/
def WritesHeld (world : World) (lease : WorkerLease) (steps : List Step) : Prop :=
  ∀ moment step, steps[moment]? = some step → step.isWrite = true → world.holds lease moment = true

/-- No lease is lost between a fence check that finds it current and a write
directly behind it. -/
def KeptBehindChecks (world : World) (lease : WorkerLease) (steps : List Step) : Prop :=
  ∀ moment step, steps[moment]? = some (.fence lease true) →
    steps[moment + 1]? = some step → step.isWrite = true → world.holds lease (moment + 1) = true

/-- The lease is current at the first step and not lost between two steps. -/
def HeldThroughout (world : World) (lease : WorkerLease) (steps : List Step) : Prop :=
  world.holds lease 0 = true ∧ ∀ moment, moment + 1 < steps.length →
    world.holds lease moment = true → world.holds lease (moment + 1) = true

/-- Every new write is directly behind a fence check that found the lease
current. -/
def Guarded (lease : WorkerLease) (before after : Session) : Prop :=
  ∃ steps, after.trace = before.trace ++ steps ∧
    ∀ index step, steps[index]? = some step → step.isWrite = true →
      ∃ past, index = past + 1 ∧ steps[past]? = some (.fence lease true)

def Unchecked (before after : Session) : Prop :=
  ∃ steps, after.trace = before.trace ++ steps ∧ ∀ step ∈ steps, step.isFence = false

namespace ExecutionRuntime

variable {rt : ExecutionRuntime} {world : World} {lease : WorkerLease}

theorem assert_fence_checks (fenced : rt.fencing = true) (session : Session) :
    Ends (rt.assertFence world (some lease))
      (fun _ after => after = session.taking rt.sha256 (.fence lease true))
      (fun _ after => after = session.taking rt.sha256 (.fence lease false)) session := by
  simp only [assertFence, fenced, if_true, ends_bind, ends_get, emit, ends_modify,
    LeaseTable.assertCurrent]
  cases cur : (world.leases session.trace.length).isCurrent
      (world.databaseClock session.trace.length) lease with
  | true => rfl
  | false => rfl

theorem store_checkpoint_steps (session : Session) :
    Ends (rt.storeCheckpoint world)
      (fun _ after => ∃ ctx, after.trace = session.trace ++ [.save ctx])
      (fun _ after => after.trace = session.trace) session := by
  simp only [storeCheckpoint, ends_bind, ends_get, change, ends_modify]
  cases session.durable.checkpoints.write rt.sha256
      (session.durable.checkpoints.touched (world.clock session.trace.length) session.context) with
  | error err => rfl
  | ok store => exact ⟨_, rfl⟩

variable {before after : Session}

theorem guarded_of_unwritten (steps : List Step) (grows : after.trace = before.trace ++ steps)
    (unwritten : ∀ step ∈ steps, step.isWrite = false) : Guarded lease before after := by
  refine ⟨steps, grows, ?_⟩
  intro index step found written
  rw [unwritten step (List.mem_of_getElem? found)] at written
  simp at written

theorem guarded_refl (lease : WorkerLease) : Std.Refl (Guarded lease) :=
  ⟨fun session => guarded_of_unwritten [] (by simp) (by simp)⟩

theorem guarded_trans (lease : WorkerLease) : IsTrans Session (Guarded lease) := by
  constructor
  rintro first second third ⟨steps, grows, guarded⟩ ⟨more, growsMore, guardedMore⟩
  refine ⟨steps ++ more, by rw [growsMore, grows, List.append_assoc], ?_⟩
  intro index step found written
  rcases Nat.lt_or_ge index steps.length with early | late
  · rw [List.getElem?_append_left early] at found
    obtain ⟨past, rfl, checked⟩ := guarded index step found written
    exact ⟨past, rfl, by rw [List.getElem?_append_left (by omega), checked]⟩
  · rw [List.getElem?_append_right late] at found
    obtain ⟨past, next, checked⟩ := guardedMore _ step found written
    refine ⟨steps.length + past, by omega, ?_⟩
    rw [List.getElem?_append_right (by omega), Nat.add_sub_cancel_left, checked]

theorem guarded_behind_check (step : Step)
    (grows : after.trace = (before.taking rt.sha256 (.fence lease true)).trace ++ [step]) :
    Guarded lease before after := by
  refine ⟨[.fence lease true, step], by simpa [Session.taking] using grows, ?_⟩
  intro index other found written
  match index with
  | 0 =>
    simp only [List.getElem?_cons_zero, Option.some.injEq] at found
    simp [← found, isWrite] at written
  | 1 => exact ⟨0, rfl, rfl⟩
  | index + 2 => simp at found

theorem assert_fence_guarded (fenced : rt.fencing = true) :
    Moves (Guarded lease) (rt.assertFence world (some lease)) := by
  intro session
  refine (assert_fence_checks fenced session).mono ?_ ?_
  · rintro _ after rfl
    exact guarded_of_unwritten [.fence lease true] rfl (by simp [isWrite])
  · rintro _ after rfl
    exact guarded_of_unwritten [.fence lease false] rfl (by simp [isWrite])

theorem guarded_of_check {Value : Type} {write : Operation Value}
    (fenced : rt.fencing = true) (session : Session)
    (writes : ∀ middle, Ends write (fun _ after => ∃ step, after.trace = middle.trace ++ [step])
      (fun _ after => after.trace = middle.trace) middle) :
    Ends (rt.assertFence world (some lease) >>= fun _ => write)
      (fun _ => Guarded lease session) (fun _ => Guarded lease session) session := by
  rw [ends_bind]
  refine (assert_fence_checks fenced session).mono ?_ ?_
  · rintro _ _ rfl
    refine (writes _).mono ?_ ?_
    · rintro _ after ⟨step, grows⟩
      exact guarded_behind_check step grows
    · intro _ after same
      exact guarded_of_unwritten [.fence lease true] same (by simp [isWrite])
  · rintro _ after rfl
    exact guarded_of_unwritten [.fence lease false] rfl (by simp [isWrite])

theorem guarded_respected (fenced : rt.fencing = true) :
    Respected rt world (some lease) (Guarded lease) where
  refl := guarded_refl lease
  trans := guarded_trans lease
  changes session ctx _ := guarded_of_unwritten [] (by simp) (by simp)
  notes session step note := by
    apply guarded_of_unwritten [step] rfl
    cases step <;> simp [isNote, isWrite] at note ⊢
  fences := assert_fence_guarded fenced
  saves session := guarded_of_check fenced session fun middle =>
    (store_checkpoint_steps middle).mono (fun _ _ ⟨ctx, grows⟩ => ⟨.save ctx, grows⟩)
      (fun _ _ same => same)
  caches key res := by
    have := guarded_refl lease
    refine moves_ite (fun _ session => ?_) fun _ => moves_pure _
    exact guarded_of_check fenced session fun middle => ⟨.put key res, rfl⟩

theorem writes_held_iff (fresh : before.trace = [])
    (guarded : Guarded lease before after) :
    WritesHeld world lease after.trace ↔ KeptBehindChecks world lease after.trace := by
  obtain ⟨steps, grows, behind⟩ := guarded
  rw [fresh, List.nil_append] at grows
  rw [grows]
  constructor
  · intro held moment step _ found written
    exact held (moment + 1) step found written
  · intro kept moment step found written
    obtain ⟨past, rfl, checked⟩ := behind moment step found written
    exact kept past step checked found written

theorem unchecked_refl : Std.Refl Unchecked :=
  ⟨fun session => ⟨[], by simp, by simp⟩⟩

theorem unchecked_trans : IsTrans Session Unchecked := by
  constructor
  rintro first second third ⟨steps, grows, plain⟩ ⟨more, growsMore, plainMore⟩
  refine ⟨steps ++ more, by rw [growsMore, grows, List.append_assoc], ?_⟩
  intro step mem
  rcases List.mem_append.mp mem with early | late
  · exact plain step early
  · exact plainMore step late

theorem store_checkpoint_unchecked :
    Moves Unchecked (rt.storeCheckpoint world) := by
  intro session
  refine (store_checkpoint_steps session).mono ?_ ?_
  · rintro _ after ⟨ctx, grows⟩
    exact ⟨[.save ctx], grows, by simp [isFence]⟩
  · intro _ after same
    exact ⟨[], by simpa using same, by simp⟩

theorem unchecked_respected (fenced : rt.fencing = true) :
    Respected rt world none Unchecked := by
  have := unchecked_refl
  have := unchecked_trans
  have refused : Moves Unchecked (rt.assertFence world none) := by
    simp only [assertFence, fenced, if_true]
    exact moves_throw _
  exact {
    refl := unchecked_refl
    trans := unchecked_trans
    changes := fun session ctx _ => ⟨[], by simp, by simp⟩
    notes := fun session step note =>
      ⟨[step], rfl, by cases step <;> simp [isNote, isFence] at note ⊢⟩
    fences := refused
    saves := moves_bind refused fun _ => store_checkpoint_unchecked
    caches := fun key res => moves_ite (fun _ => moves_bind refused fun _ => fun session =>
        ⟨[.put key res], rfl, by simp [isFence]⟩) fun _ => moves_pure _ }

end ExecutionRuntime

theorem held_of_held_throughout {world : World} {lease : WorkerLease} {steps : List Step}
    (held : HeldThroughout world lease steps) (moment : Nat) (inside : moment < steps.length) :
    world.holds lease moment = true := by
  induction moment with
  | zero => exact held.1
  | succ moment ih => exact held.2 moment inside (ih (by omega))

theorem writes_held_of_held_throughout {world : World} {lease : WorkerLease}
    {steps : List Step} (held : HeldThroughout world lease steps) :
    WritesHeld world lease steps := by
  intro moment step found _
  apply held_of_held_throughout held moment
  exact (List.getElem?_eq_some_iff.mp found).1

/-- Over a runtime with a lease store: a run of the runtime writes only under its
lease exactly when no lease is lost between a fence check and the write behind it. A
run of the orchestrator, which checks no lease, does so if it holds the lease from
its first step on. -/
theorem fenced_writes_held (rt : ExecutionRuntime) (world : World)
    (lease : WorkerLease) (fenced : rt.fencing = true) :
    (∀ (call : Call) (session : Session), call.workerLease = some lease → session.trace = [] →
      let after := (rt.execute world call).stateAfter session
      WritesHeld world lease after.trace ↔ KeptBehindChecks world lease after.trace) ∧
    (∀ session : Session, session.trace = [] →
      let after := (rt.complete world (some lease)).stateAfter session
      WritesHeld world lease after.trace ↔ KeptBehindChecks world lease after.trace) ∧
    (∀ (fuel : Nat) (orch : Orchestration), orch.session.trace = [] →
      let after := (execute rt world fuel).stateAfter orch
      (∀ step ∈ after.session.trace, step.isFence = false) ∧
      (HeldThroughout world lease after.session.trace →
      WritesHeld world lease after.session.trace)) ∧
    ∀ (fuel : Nat) (execId : Uuid) (durable : Durable)
      (run : EStateM.Result Raised Orchestration ExecutionPlan),
      resume rt world fuel execId durable = .ok run →
      (∀ step ∈ (stateOf run).session.trace, step.isFence = false) ∧
      (HeldThroughout world lease (stateOf run).session.trace →
      WritesHeld world lease (stateOf run).session.trace) := by
  have orchestrated : ∀ (fuel : Nat) (orch : Orchestration),
      orch.session.trace = [] → ∀ step ∈ ((execute rt world fuel).stateAfter
          orch).session.trace, step.isFence = false := by
    intro fuel orch fresh
    have respected : PlanOrchestrator.RunRespected rt world Unchecked :=
      ⟨unchecked_respected fenced, store_checkpoint_unchecked⟩
    obtain ⟨steps, grows, plain⟩ := (respected.execute fuel).after orch
    rw [fresh, List.nil_append] at grows
    rw [grows]
    exact plain
  refine ⟨?_, ?_, ?_, ?_⟩
  · intro call session supplied fresh after
    have respected : Respected rt world call.workerLease (Guarded lease) := by
      rw [supplied]
      exact guarded_respected fenced
    exact writes_held_iff fresh (respected.execute.after session)
  · intro session fresh after
    exact writes_held_iff fresh ((guarded_respected fenced).complete.after session)
  · intro fuel orch fresh after
    exact ⟨orchestrated fuel orch fresh, writes_held_of_held_throughout⟩
  · intro fuel execId durable run resumed
    refine ⟨?_, writes_held_of_held_throughout⟩
    obtain ⟨orch, restored, rfl⟩ := resume_ok resumed
    rw [state_of_run]
    exact orchestrated fuel orch (restore_fresh restored)

/-- A worker whose lease is taken over at this moment: it expires on both clocks and
another worker claims the execution. -/
def takenOver (moment : Nat) : World :=
  let held : LeaseTable := [(⟨1⟩, { workerId := "a", epoch := 1, leaseExpiresAt := 10 })]
  let claimed := match held.claim 30 20 20 ⟨1⟩ "b" with
    | .ok (table, _) => table
    | .error _ => held
  { World.ending fun req => .returned {
      invocationId := req.invocationId, capabilityId := req.capabilityId
      status := .succeeded } with
    leases := fun now => if now < moment then held else claimed
    databaseClock := fun now => if now < moment then 0 else 20 }

def fencedRuntime : ExecutionRuntime :=
  { ExecutionRuntime.permissive [{ capabilityId := "publish", version := "1.0.0" }] with
    fencing := true }

def firstLease : WorkerLease :=
  { executionId := ⟨1⟩, workerId := "a", epoch := 1, leaseExpiresAt := 10 }

def leasedCall : Call :=
  { capabilityId := "publish", version := "1.0.0", inputData := []
    invocationId := some "publish-1", workerLease := some firstLease }

def newSession : Session :=
  { context := .fresh ⟨1⟩ "default"
    durable := { checkpoints := .sqlite [], idempotency := .sqlite {} } }

theorem late_takeover_writes_held :
    WritesHeld (takenOver 50) firstLease
      ((fencedRuntime.execute (takenOver 50) leasedCall).stateAfter newSession).trace := by
  refine ((fenced_writes_held fencedRuntime (takenOver 50) firstLease rfl).1 leasedCall
    newSession rfl rfl).mpr ?_
  intro moment step checked _ _
  have short : ((fencedRuntime.execute (takenOver 50) leasedCall).stateAfter
      newSession).trace.length = 15 := by
    decide +kernel
  have inside := (List.getElem?_eq_some_iff.mp checked).1
  rw [short] at inside
  have held : ∀ early < 15, (takenOver 50).holds firstLease (early + 1) = true := by
    decide +kernel
  exact held moment inside

/-- The first checkpoint is step 5 and its fence check step 4: a lease that is taken
over in between has been superseded when the checkpoint is written. -/
theorem superseded_worker_writes :
    ((fencedRuntime.execute (takenOver 5) leasedCall).stateAfter newSession).trace[4]? =
      some (.fence firstLease true) ∧
      ¬WritesHeld (takenOver 5) firstLease
      ((fencedRuntime.execute (takenOver 5) leasedCall).stateAfter newSession).trace := by
  refine ⟨by decide +kernel, ?_⟩
  intro held
  have written : (((fencedRuntime.execute (takenOver 5) leasedCall).stateAfter
      newSession).trace[5]?.map isWrite) = some true := by
    decide +kernel
  obtain ⟨step, found, isWrite⟩ := Option.map_eq_some_iff.mp written
  have cur := held 5 step found isWrite
  revert cur
  decide +kernel

end Ois.Kernel
