import Ois.Kernel.Attempts
import Ois.Kernel.FencedWrites

/-!
# Calls that never find their lease lost

A call goes as it would if its lease were current at every moment, unless it ends at a fence check
that fails.
-/

namespace Ois.Kernel

open Ois.Library Ois.Infrastructure Command

/-- The world with the lease current at every moment. -/
def World.granting (lease : Option WorkerLease) (world : World) : World :=
  { world with leases := fun moment => lease.toList.map fun held => (held.executionId, {
      workerId := held.workerId, epoch := held.epoch
      leaseExpiresAt := world.databaseClock moment + 1 }) }

theorem granting_current (world : World) (lease : WorkerLease) (moment : Nat) :
    ((world.granting (some lease)).leases moment).isCurrent (world.databaseClock moment) lease =
      true := by
  simp [World.granting, LeaseTable.isCurrent]

/-- A fence check of the session has failed. -/
def FindsLost (session : Session) : Prop := ∃ lease, Step.fence lease false ∈ session.trace

namespace ExecutionRuntime

variable {rt : ExecutionRuntime} {world : World} {lease : Option WorkerLease}
  {Value Other : Type}

def Agrees (operation granted : Operation Value) : Prop :=
  ∀ session, operation session = granted session ∨
    ∃ err after, operation session = .error err after ∧ FindsLost after

theorem agrees_refl (operation : Operation Value) : Agrees operation operation :=
  fun _ => Or.inl rfl

theorem agrees_bind {first firstGranted : Operation Other}
    {next nextGranted : Other → Operation Value} (firsts : Agrees first firstGranted)
    (nexts : ∀ value, Agrees (next value) (nextGranted value)) :
    Agrees (first >>= next) (firstGranted >>= nextGranted) := by
  intro session
  rw [run_bind, run_bind]
  rcases firsts session with same | ⟨err, after, ends, lost⟩
  · rw [← same]
    cases first session with
    | ok value middle => exact nexts value middle
    | error err after => exact Or.inl rfl
  · rw [ends]
    exact Or.inr ⟨err, after, rfl, lost⟩

theorem agrees_then (first : Operation Other) {next nextGranted : Other → Operation Value}
    (nexts : ∀ value, Agrees (next value) (nextGranted value)) :
    Agrees (first >>= next) (first >>= nextGranted) :=
  agrees_bind (agrees_refl first) nexts

theorem agrees_ite {condition : Prop} [Decidable condition]
    {whenTrue whenFalse trueGranted falseGranted : Operation Value}
    (onTrue : Agrees whenTrue trueGranted) (onFalse : Agrees whenFalse falseGranted) :
    Agrees (if condition then whenTrue else whenFalse)
      (if condition then trueGranted else falseGranted) := by
  split_ifs
  · exact onTrue
  · exact onFalse

theorem assert_fence_agrees (lease : Option WorkerLease) :
    Agrees (rt.assertFence world lease)
      (rt.assertFence (world.granting lease) lease) := by
  unfold assertFence
  refine agrees_ite ?_ (agrees_refl _)
  cases lease with
  | none => exact agrees_refl _
  | some held =>
    intro session
    have granted := granting_current world held session.trace.length
    simp only [run_bind, run_get, emit, run_modify, LeaseTable.assertCurrent, granted,
      show (world.granting (some held)).databaseClock = world.databaseClock from rfl]
    cases cur : (world.leases session.trace.length).isCurrent
        (world.databaseClock session.trace.length) held with
    | true => exact Or.inl rfl
    | false => exact Or.inr ⟨_, _, rfl, held, by simp [Session.taking]⟩

theorem save_checkpoint_agrees (lease : Option WorkerLease) :
    Agrees (rt.saveCheckpoint world lease)
      (rt.saveCheckpoint (world.granting lease) lease) :=
  agrees_bind (assert_fence_agrees lease) fun _ => agrees_refl (rt.storeCheckpoint world)

theorem cache_terminal_result_agrees (key : String) (res : InvocationResult)
    (lease : Option WorkerLease) :
    Agrees (rt.cacheTerminalResult world key res lease)
      (rt.cacheTerminalResult (world.granting lease) key res lease) :=
  agrees_ite (agrees_bind (assert_fence_agrees lease) fun _ => agrees_refl _) (agrees_refl _)

theorem handle_cancellation_agrees (capId msg callId : String)
    (lease : Option WorkerLease) :
    Agrees (rt.handleCancellation world capId msg callId lease)
      (rt.handleCancellation (world.granting lease) capId msg callId
        lease) :=
  agrees_then (setStatus world .stopped) fun _ => agrees_then _ fun _ => agrees_then _ fun _ =>
    agrees_bind (save_checkpoint_agrees lease) fun _ => agrees_refl _

theorem handle_failure_agrees (capId callId : String) (err : PyError)
    (lease : Option WorkerLease) :
    Agrees (rt.handleFailure world capId callId err lease)
      (rt.handleFailure (world.granting lease) capId callId err lease) :=
  agrees_then (rt.applyRecovery world .tool) fun _ => agrees_then _ fun _ =>
    agrees_bind (save_checkpoint_agrees lease) fun _ => agrees_refl _

variable (call : Call) (entry : Entry)

theorem enter_agrees :
    Agrees (rt.enter world call)
      (rt.enter (world.granting call.workerLease) call) := by
  refine agrees_then _ fun session => agrees_ite (agrees_refl _) ?_
  exact agrees_bind (assert_fence_agrees call.workerLease) fun _ =>
    agrees_refl (setStatus world .normalized >>= fun _ => _)

theorem start_agrees :
    Agrees (rt.start world call entry)
      (rt.start (world.granting call.workerLease) call entry) :=
  agrees_then _ fun _ => agrees_then _ fun _ => agrees_then (setStatus world .authorized)
    fun _ => agrees_then _ fun _ => agrees_then (setStatus world .executing) fun _ =>
    agrees_then _ fun _ =>
    agrees_bind (save_checkpoint_agrees call.workerLease) fun _ => agrees_refl _

theorem recover_structured_agrees (res : InvocationResult) :
    Agrees (rt.recoverStructured world call entry res)
      (rt.recoverStructured (world.granting call.workerLease) call entry res) := by
  unfold recoverStructured
  split
  · exact agrees_refl _
  · exact agrees_then (rt.applyRecovery world _) fun _ => agrees_then _ fun _ =>
      agrees_bind (save_checkpoint_agrees call.workerLease) fun _ => agrees_refl _

theorem route_agrees (res : InvocationResult) :
    Agrees (rt.route world call entry res)
      (rt.route (world.granting call.workerLease) call entry res) :=
  agrees_bind (cache_terminal_result_agrees _ _ _) fun _ => agrees_then _ fun _ =>
    agrees_then (setStatus world .checkpointing) fun _ =>
    agrees_bind (save_checkpoint_agrees call.workerLease) fun _ => agrees_then _ fun _ =>
    agrees_refl (setStatus world .routed)

theorem settle_agrees (res : InvocationResult) :
    Agrees (rt.settle world call entry res)
      (rt.settle (world.granting call.workerLease) call entry res) :=
  agrees_bind (recover_structured_agrees call entry res) fun reported =>
    agrees_then (rt.observe world call entry reported) fun _ =>
    agrees_then (rt.checkOutput world entry reported) fun _ =>
    agrees_bind (route_agrees call entry reported) fun _ => agrees_refl _

theorem run_capability_agrees :
    Agrees (rt.runCapability world call entry)
      (rt.runCapability (world.granting call.workerLease) call entry) := by
  refine agrees_bind (start_agrees call entry) fun _ =>
    agrees_then (rt.perform world call entry) fun out => ?_
  cases out with
  | cancelled msg => exact handle_cancellation_agrees _ _ _ _
  | raised err => exact handle_failure_agrees _ _ _ _
  | returned res => exact settle_agrees call entry res

theorem proceed_agrees :
    Agrees (rt.proceed world call entry)
      (rt.proceed (world.granting call.workerLease) call entry) := by
  refine agrees_then (cancellationNow world) fun cancelled => ?_
  cases cancelled with
  | some msg => exact handle_cancellation_agrees _ _ _ _
  | none =>
    refine agrees_then (rt.consult world call entry) fun cached => ?_
    cases cached with
    | some res => exact agrees_refl _
    | none => exact run_capability_agrees call entry

theorem execute_agrees :
    Agrees (rt.execute world call)
      (rt.execute (world.granting call.workerLease) call) :=
  agrees_bind (enter_agrees call) fun entry => proceed_agrees call entry

/-- No fence check has failed meanwhile. -/
def StaysHeld (before after : Session) : Prop := FindsLost after → FindsLost before

theorem stays_held_of_passed {before after : Session} (steps : List Step)
    (grows : after.trace = before.trace ++ steps)
    (passed : ∀ lease, Step.fence lease false ∉ steps) : StaysHeld before after := by
  rintro ⟨lease, failed⟩
  rw [grows] at failed
  rcases List.mem_append.mp failed with early | late
  · exact ⟨lease, early⟩
  · exact absurd late (passed lease)

theorem granted_fence_holds (lease : Option WorkerLease) :
    Moves StaysHeld (rt.assertFence (world.granting lease) lease) := by
  have : Std.Refl StaysHeld := ⟨fun _ => id⟩
  refine moves_ite (fun _ => ?_) fun _ => moves_pure _
  cases lease with
  | none => exact moves_throw _
  | some held =>
    intro session
    have granted := granting_current world held session.trace.length
    simp only [ends_bind, ends_get, emit, ends_modify, LeaseTable.assertCurrent, granted,
      show (world.granting (some held)).databaseClock = world.databaseClock from rfl, if_true]
    exact stays_held_of_passed [.fence held true] rfl (by simp)

theorem granted_respected (lease : Option WorkerLease) :
    Respected rt (world.granting lease) lease StaysHeld := by
  have refl : Std.Refl StaysHeld := ⟨fun _ => id⟩
  have trans : IsTrans Session StaysHeld := ⟨fun _ _ _ first second => first ∘ second⟩
  refine ⟨refl, trans, fun _ _ _ => id, ?_, granted_fence_holds lease, ?_, ?_⟩
  · intro session step note
    refine stays_held_of_passed [step] rfl fun held mem => ?_
    rw [← List.mem_singleton.mp mem] at note
    cases note
  · refine moves_bind (granted_fence_holds lease) fun _ session => ?_
    refine (store_checkpoint_steps session).mono ?_ ?_
    · rintro _ after ⟨ctx, grows⟩
      exact stays_held_of_passed [.save ctx] grows (by simp)
    · intro _ after same
      exact stays_held_of_passed [] (by simpa using same) (by simp)
  · intro key res
    refine moves_ite (fun _ => moves_bind (granted_fence_holds lease) fun _ session => ?_)
      fun _ => moves_pure _
    exact stays_held_of_passed [.put key res] rfl (by simp)

end ExecutionRuntime

namespace Attempt

open ExecutionRuntime

/-- The attempt in the world in which its lease is always current. -/
def granted (attempt : Attempt) : Attempt :=
  { attempt with world := attempt.world.granting attempt.call.workerLease }

theorem granted_or_lost (attempt : Attempt) (store : IdempotencyStore) :
    attempt.outcome store = attempt.granted.outcome store ∧
        attempt.after store = attempt.granted.after store ∧ ¬FindsLost (attempt.after store) ∨
      (∃ err, attempt.outcome store = .error err) ∧ FindsLost (attempt.after store) := by
  unfold Attempt.outcome Attempt.after Command.outcome Command.stateAfter
  have agrees : Agrees (attempt.runtime.execute attempt.world attempt.call)
      (attempt.granted.runtime.execute attempt.granted.world attempt.granted.call) :=
    execute_agrees attempt.call
  have respected : Respected attempt.runtime attempt.granted.world attempt.call.workerLease
      StaysHeld := granted_respected attempt.call.workerLease
  rcases agrees (attempt.session store) with same | ⟨err, after, ends, lost⟩
  · have held := respected.execute.after (attempt.session store)
    refine Or.inl ⟨by rw [same]; rfl, by rw [same]; rfl, fun lost => ?_⟩
    rw [same] at lost
    obtain ⟨lease, failed⟩ := held lost
    cases failed
  · rw [ends]
    exact Or.inr ⟨⟨err, rfl⟩, lost⟩

/-- With fencing, a call without a lease does nothing. -/
theorem leased_of_step {attempt : Attempt} {store : IdempotencyStore} {step : Step}
    (mem : step ∈ attempt.callSteps store) (fenced : attempt.runtime.fencing = true) :
    attempt.call.workerLease ≠ none := by
  intro unleased
  have silent : attempt.callSteps store = [] := by
    unfold callSteps Attempt.after Command.stateAfter
    simp only [execute, enter, assertFence, fenced, unleased, run_bind, run_get, if_true]
    split_ifs <;> rfl
  rw [silent] at mem
  cases mem

theorem granted_fence (attempt : Attempt)
    (leased : attempt.runtime.fencing = true → attempt.call.workerLease ≠ none) :
    FenceHolds attempt.granted.runtime attempt.granted.world attempt.granted.call.workerLease := by
  intro fenced
  obtain ⟨held, supplied⟩ := Option.ne_none_iff_exists'.mp (leased fenced)
  refine ⟨held, supplied, fun moment => ?_⟩
  have cur := granting_current attempt.world held moment
  rw [← supplied] at cur
  exact cur

end Attempt

end Ois.Kernel
