import Ois.Kernel.OrchestratorSteps
import Ois.Kernel.OrchestratorView
import Ois.Kernel.PlanMoves
import Ois.Kernel.Attempts

/-!
# Runs, crashes and resumptions

A launch is one run of the orchestrator by some worker, in a world of its own. A
worker may crash, and then only some first steps of its run took effect. What the
next worker finds are the stores as those steps left them.
-/

namespace Ois.Kernel

open Ois.Library Ois.Infrastructure Command ExecutionRuntime ExecutionPlan

structure Launch where
  world : World
  fuel : Nat
  crash : Option Nat := none

namespace Launch

variable (rt : ExecutionRuntime) (launch : Launch)

/-- The steps of the whole run of `execute`. -/
def runSteps (orch : Orchestration) : List Step :=
  ((PlanOrchestrator.execute rt launch.world launch.fuel).stateAfter
    orch).session.trace

/-- The steps of `execute` that took effect. -/
def executed (orch : Orchestration) : List Step :=
  match launch.crash with
  | none => launch.runSteps rt orch
  | some count => (launch.runSteps rt orch).take count

/-- The steps of `resume` that took effect. -/
def resumed (execId : Uuid) (durable : Durable) : List Step :=
  match PlanOrchestrator.restore rt launch.world execId durable with
  | .error _ => []
  | .ok orch => launch.executed rt orch

theorem executed_subset (orch : Orchestration) :
    launch.executed rt orch ⊆ launch.runSteps rt orch := by
  unfold executed
  split
  · exact List.Subset.refl _
  · exact List.take_subset _ _

end Launch

def durableAfter (rt : ExecutionRuntime) (execId : Uuid) :
    List Launch → Durable → Durable
  | [], durable => durable
  | launch :: rest, durable => durableAfter rt execId rest
      (durable.afterAll rt.sha256 (launch.resumed rt execId durable))

theorem dispatch_mem_iff {steps : List Step} {plan : ExecutionPlan} {taskId : String} :
    Step.dispatch plan taskId ∈ steps ↔ Mark.dispatched plan taskId ∈ trail steps := by
  refine mem_steps_iff rfl fun other marked => ?_
  cases other with
  | record event =>
    obtain ⟨_, _, same⟩ := record_mark marked
    simp at same
  | _ => simp_all [Step.mark?]

theorem saved_mem_trail {steps : List Step} {ctx : ExecutionContext}
    (mem : Step.save ctx ∈ steps) : Mark.saved ctx.standing ∈ trail steps :=
  mark_mem_trail.mpr ⟨_, mem, rfl⟩

def Checkpoint (sha256 : Json.Text → String) (execId : Uuid) (durable : Durable)
    (ctx : ExecutionContext) : Prop :=
  ∃ fresh now, durable.checkpoints.load sha256 fresh now execId = .ok ctx

theorem restored_identity (store : CheckpointStore) (ctx : ExecutionContext) :
    (store.restored ctx).identity = ctx.identity := by
  cases store <;> rfl

theorem restored_plan (store : CheckpointStore) {ctx : ExecutionContext}
    {plan : ExecutionPlan} (planned : ctx.plan = some plan.toDict)
    (validated : plan.validate = .ok ()) (drawn : Uuid) :
    ∃ body loaded, (store.restored ctx).plan = some body ∧
      ExecutionPlan.fromDict drawn body = .ok loaded ∧
      (loaded = plan ∨ loaded = plan.sorted) := by
  cases store with
  | inMemory entries =>
    exact ⟨plan.toDict, plan, planned, from_dict_to_dict drawn plan validated, Or.inl rfl⟩
  | _ =>
    refine ⟨Json.sortMembers plan.toDict, plan.sorted, ?_,
      from_dict_sort_members drawn plan validated, Or.inr rfl⟩
    simp [CheckpointStore.restored, ExecutionContext.sorted, planned]

def SavesOwn (execId : Uuid) (steps : List Step) : Prop :=
  ∀ ctx, Step.save ctx ∈ steps → ctx.identity.executionId = execId

theorem checkpoint_after {sha256 : Json.Text → String} {execId : Uuid}
    {durable : Durable} {step : Step} {found : ExecutionContext}
    (own : SavesOwn execId [step])
    (checkpoint : Checkpoint sha256 execId (durable.after sha256 step) found) :
    Checkpoint sha256 execId durable found ∨
      ∃ ctx, step = .save ctx ∧ found = durable.checkpoints.restored ctx := by
  cases step with
  | save ctx =>
    obtain rfl := own ctx (by simp)
    simp only [Durable.after] at checkpoint
    cases accepted : durable.checkpoints.write sha256 ctx with
    | error err =>
      rw [accepted] at checkpoint
      exact Or.inl checkpoint
    | ok written =>
      rw [accepted] at checkpoint
      obtain ⟨fresh, now, loads⟩ := checkpoint
      have same := CheckpointStore.load_write fresh now ctx _ written accepted
      exact Or.inr ⟨ctx, rfl, Except.ok.inj (loads.symm.trans same)⟩
  | _ => exact Or.inl checkpoint

theorem checkpoint_after_all {sha256 : Json.Text → String} {execId : Uuid}
    {found : ExecutionContext} (steps : List Step) (durable : Durable)
    (own : SavesOwn execId steps)
    (checkpoint : Checkpoint sha256 execId (durable.afterAll sha256 steps) found) :
    Checkpoint sha256 execId durable found ∨ ∃ ctx, Step.save ctx ∈ steps ∧
        ∃ store : CheckpointStore, found = store.restored ctx := by
  induction steps generalizing durable with
  | nil => exact Or.inl checkpoint
  | cons step rest ih =>
    rcases ih (durable.after sha256 step)
      (fun ctx mem => own ctx (by simp [mem])) checkpoint with
      before | ⟨ctx, mem, back⟩
    · rcases checkpoint_after (fun ctx mem => own ctx (by
        rw [List.mem_singleton] at mem
        simp [mem])) before with past | ⟨ctx, rfl, back⟩
      · exact Or.inl past
      · exact Or.inr ⟨ctx, by simp, _, back⟩
    · exact Or.inr ⟨ctx, by simp [mem], back⟩

def emptyStores : Durable := { checkpoints := .sqlite [], idempotency := .sqlite {} }

def publishRuntime : ExecutionRuntime :=
  .permissive [{ capabilityId := "publish", version := "1.0.0" }]

def startOf (plan : ExecutionPlan) : Orchestration :=
  { plan := plan, session := { context := .fresh ⟨1⟩ "default", durable := emptyStores } }

end Ois.Kernel
