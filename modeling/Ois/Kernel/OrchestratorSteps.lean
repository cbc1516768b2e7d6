import Ois.Kernel.Orchestrator
import Ois.Kernel.RuntimeSteps

/-!
# What every run of the orchestrator respects

The orchestrator changes its session through the runtime, which it gives no
lease, and through checkpoints of its own, which are not fenced. A relation
between sessions that both respect is respected by every run.
-/

namespace Ois.Kernel.PlanOrchestrator

open Ois.Library Ois.Infrastructure Command ExecutionRuntime PlanOrchestrator

def OnSessions (relation : Session → Session → Prop) (before after : Orchestration) : Prop :=
  relation before.session after.session

structure RunRespected (rt : ExecutionRuntime) (world : World)
    (relation : Session → Session → Prop) : Prop where
  calls : Respected rt world none relation
  stores : Moves relation (rt.storeCheckpoint world)

namespace RunRespected

variable {rt : ExecutionRuntime} {world : World}
  {relation : Session → Session → Prop} {Value Other : Type}
  (kept : RunRespected rt world relation)

include kept

theorem refl : Std.Refl (OnSessions relation) :=
  ⟨fun orch => kept.calls.refl.refl orch.session⟩

theorem trans : IsTrans Orchestration (OnSessions relation) :=
  ⟨fun _ _ _ first second => kept.calls.trans.trans _ _ _ first second⟩

theorem pure (value : Value) : Moves (OnSessions relation) (Pure.pure value : Run Value) :=
  have := kept.refl
  moves_pure value

theorem throw (raised : Raised) :
    Moves (OnSessions relation) (MonadExcept.throw raised : Run Value) :=
  have := kept.refl
  moves_throw raised

theorem get : Moves (OnSessions relation) (MonadState.get : Run Orchestration) :=
  have := kept.refl
  moves_get

theorem bind {first : Run Other} {next : Other → Run Value}
    (firstMoves : Moves (OnSessions relation) first)
    (nextMoves : ∀ value, Moves (OnSessions relation) (next value)) :
    Moves (OnSessions relation) (first >>= next) :=
  have := kept.trans
  moves_bind firstMoves nextMoves

omit kept in
theorem onSession {operation : Operation Value} (moves : Moves relation operation) :
    Moves (OnSessions relation) (onSession operation) :=
  moves_focus Raised.exception (fun _ _ => rfl) moves

theorem changePlan (update : ExecutionPlan → ExecutionPlan) :
    Moves (OnSessions relation) (changePlan update) :=
  fun orch => kept.calls.refl.refl orch.session

theorem persist : Moves (OnSessions relation) (persist rt world) :=
  kept.bind kept.get fun _ =>
    onSession (kept.calls.bind (kept.calls.change _ fun _ => rfl) fun _ => kept.stores)

variable (task : TaskNode) (fuel : Nat)

theorem dispatch : Moves (OnSessions relation) (dispatch rt world task) := by
  refine kept.bind kept.get fun orch => onSession ?_
  have unleased : Respected rt world
      (callFor orch.session.context.identity.executionId task).workerLease relation :=
    kept.calls
  exact kept.calls.bind (kept.calls.emit _ rfl) fun _ => unleased.execute

theorem retry (res : InvocationResult) :
    Moves (OnSessions relation) (retry rt world task fuel res) := by
  induction fuel generalizing res with
  | zero => exact moves_ite (fun _ => kept.throw _) fun _ => kept.pure _
  | succ fuel ih =>
    exact moves_ite (fun _ => kept.bind (kept.dispatch task) ih) fun _ => kept.pure _

theorem verdict (task : TaskNode) :
    Moves (OnSessions relation) (verdict rt world fuel task) :=
  kept.bind (kept.dispatch task) fun first => kept.retry task fuel first

theorem attempt (task : TaskNode) :
    Moves (OnSessions relation) (attempt rt world fuel task) := by
  refine kept.bind (kept.verdict fuel task) fun res => ?_
  refine moves_ite (fun _ => ?_) fun _ => ?_
  · exact kept.bind (kept.changePlan _) fun _ => kept.bind kept.persist fun _ => kept.pure _
  · exact kept.bind (kept.changePlan _) fun _ => kept.bind kept.persist fun _ => kept.pure _

theorem handleException (raised : Raised) :
    Moves (OnSessions relation) (handleException rt world task raised) := by
  cases raised with
  | outOfFuel => exact kept.throw _
  | exception err =>
    exact kept.bind (kept.changePlan _) fun _ => kept.bind kept.persist fun _ => kept.pure _

theorem startTurn :
    Moves (OnSessions relation) (startTurn rt world task) := by
  refine kept.bind (kept.changePlan _) fun _ => ?_
  exact kept.bind (onSession (kept.calls.change _ fun _ => rfl)) fun _ => kept.persist

theorem runTask (task : TaskNode) :
    Moves (OnSessions relation) (runTask rt world fuel task) := by
  have := kept.trans
  exact kept.bind (kept.startTurn task) fun _ =>
    moves_try_catch (kept.attempt fuel task) (kept.handleException task)

theorem runBatch (tasks : List TaskNode) :
    Moves (OnSessions relation) (runBatch rt world fuel tasks) := by
  induction tasks with
  | nil => exact kept.pure _
  | cons task rest ih =>
    exact kept.bind (kept.runTask fuel task) fun _ => kept.bind ih fun _ => kept.pure _

theorem loop (fuel turns : Nat) :
    Moves (OnSessions relation) (loop rt world fuel turns) := by
  induction turns with
  | zero => exact kept.throw _
  | succ turns ih =>
    refine kept.bind kept.get fun orch => ?_
    refine moves_ite (fun _ => onSession kept.calls.complete) fun _ => ?_
    refine kept.bind (kept.changePlan _) fun _ => moves_ite (fun _ => kept.throw _) fun _ => ?_
    exact kept.bind (kept.runBatch fuel _) fun _ =>
      moves_ite (fun _ => kept.pure _) fun _ => ih

/-- What calls and checkpoints respect, a run respects. -/
theorem execute : Moves (OnSessions relation) (execute rt world fuel) := by
  refine kept.bind kept.get fun orch => ?_
  split
  · exact kept.throw _
  · exact kept.bind kept.persist fun _ => kept.bind (kept.loop fuel fuel) fun _ =>
      kept.bind kept.get fun _ => kept.pure _

end RunRespected

theorem advances_run_respected (rt : ExecutionRuntime) (world : World) :
    RunRespected rt world (Advances rt) where
  calls := advances_respected
  stores := store_checkpoint_advances

end Ois.Kernel.PlanOrchestrator
