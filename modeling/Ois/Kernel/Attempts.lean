import Ois.Kernel.RuntimeSteps
import Ois.Kernel.RuntimeConduct

/-!
# Calls one after another

An attempt is one call of `execute` by some worker, with a runtime, a world, a context and a
checkpoint store of its own; what attempts share is the store of results.
-/

namespace Ois.Kernel

open Ois.Library Ois.Infrastructure Command

structure Attempt where
  runtime : ExecutionRuntime
  world : World
  context : ExecutionContext
  checkpoints : CheckpointStore
  call : Call
  crash : Option Nat := none

namespace Attempt

variable (attempt : Attempt) (store : IdempotencyStore)

def session : Session :=
  { context := attempt.context
    durable := { checkpoints := attempt.checkpoints, idempotency := store } }

/-- How the call ends when the worker does not crash. -/
def outcome : Except PyError InvocationResult :=
  (attempt.runtime.execute attempt.world attempt.call).outcome (attempt.session store)

def after : Session :=
  (attempt.runtime.execute attempt.world attempt.call).stateAfter (attempt.session store)

def callSteps : List Step := (attempt.after store).trace

/-- The steps that took effect. -/
def steps : List Step :=
  match attempt.crash with
  | none => attempt.callSteps store
  | some count => (attempt.callSteps store).take count

def returned? : Option InvocationResult :=
  match attempt.crash, attempt.outcome store with
  | none, .ok res => some res
  | _, _ => none

def leaves : IdempotencyStore :=
  (Durable.afterAll attempt.runtime.sha256 (attempt.session store).durable
    (attempt.steps store)).idempotency

def invocationId : String :=
  ExecutionRuntime.logicalInvocationId (attempt.world.uuid4 0) attempt.call

def key : String := ExecutionRuntime.storageKey attempt.call attempt.invocationId

end Attempt

def storeAfter (attempts : List Attempt) (store : IdempotencyStore) : IdempotencyStore :=
  attempts.foldl (fun cur attempt => attempt.leaves cur) store

namespace Attempt

open ExecutionRuntime

theorem conduct (attempt : Attempt) (store : IdempotencyStore) :
    Conduct attempt.runtime attempt.world attempt.call (attempt.world.uuid4 0)
      (attempt.session store).view (attempt.outcome store) (attempt.after store).view :=
  conduct_of_execute attempt.runtime attempt.world attempt.call (attempt.session store)

theorem steps_of_returned {attempt : Attempt} {store : IdempotencyStore}
    {res : InvocationResult} (ret : attempt.returned? store = some res) :
    attempt.steps store = attempt.callSteps store ∧ attempt.outcome store = .ok res := by
  unfold returned? at ret
  unfold steps
  cases crashed : attempt.crash with
  | some count => simp [crashed] at ret
  | none =>
    cases ended : attempt.outcome store with
    | error err => simp [crashed, ended] at ret
    | ok value => simpa [crashed, ended] using ret

end Attempt

variable {steps : List Step}

theorem mark_mem_trail {mark : Mark} :
    mark ∈ trail steps ↔ ∃ step ∈ steps, step.mark? = some mark := by
  simp [trail]

theorem record_mark {event : EvidenceEvent} {mark : Mark}
    (marked : (Step.record event).mark? = some mark) :
    ∃ kind invocationId, mark = .event kind invocationId := by
  simp only [Step.mark?] at marked
  split_ifs at marked
  obtain ⟨invocationId, _, rfl⟩ := Option.map_eq_some_iff.mp marked
  exact ⟨_, _, rfl⟩

theorem mem_steps_iff {step : Step} {mark : Mark}
    (leaves : step.mark? = some mark) (only : ∀ other, other.mark? = some mark → other = step) :
    step ∈ steps ↔ mark ∈ trail steps := by
  rw [mark_mem_trail]
  constructor
  · intro mem
    exact ⟨step, mem, leaves⟩
  · rintro ⟨other, mem, marked⟩
    rw [← only other marked]
    exact mem

theorem invoke_mem_iff {version : String} {req : InvocationRequest}
    {reply : Reply} :
    Step.invoke version req reply ∈ steps ↔
      Mark.invoked version req reply ∈ trail steps := by
  refine mem_steps_iff rfl fun other marked => ?_
  cases other with
  | record event =>
    obtain ⟨_, _, same⟩ := record_mark marked
    simp at same
  | _ => simp_all [Step.mark?]

theorem put_mem_iff {key : String} {res : InvocationResult} :
    Step.put key res ∈ steps ↔ Mark.stored key res ∈ trail steps := by
  refine mem_steps_iff rfl fun other marked => ?_
  cases other with
  | record event =>
    obtain ⟨_, _, same⟩ := record_mark marked
    simp at same
  | _ => simp_all [Step.mark?]

def Step.records (kind : EventType) (invocationId : String) : Step → Bool
  | .record event => event.eventType == kind && event.invocationId? == some invocationId
  | _ => false

theorem records_iff_mark {kind : EventType} (marked : kind.isMarked = true)
    (invocationId : String) (step : Step) :
    step.records kind invocationId = true ↔
      step.mark? = some (.event kind invocationId) := by
  cases step with
  | record event =>
    simp only [Step.records, Step.mark?]
    by_cases same : event.eventType = kind
    · cases named : event.invocationId? <;> simp [same, marked]
    · cases named : event.invocationId? <;> by_cases other : event.eventType.isMarked <;>
        simp [same, other]
  | _ => simp [Step.records, Step.mark?]

theorem exists_records_iff {kind : EventType} (marked : kind.isMarked = true)
    (invocationId : String) (view : View) (steps : List Step)
    (trailed : view.trail = trail steps) :
    (∃ step ∈ steps, step.records kind invocationId) ↔
      .event kind invocationId ∈ view.story := by
  rw [ExecutionRuntime.mem_story view rfl, trailed, mark_mem_trail]
  simp only [records_iff_mark marked]

namespace Attempt

open ExecutionRuntime

theorem invoke_mem_story {attempt : Attempt} {store : IdempotencyStore} {version : String}
    {req : InvocationRequest} {reply : Reply} :
    Step.invoke version req reply ∈ attempt.callSteps store ↔
      Mark.invoked version req reply ∈ (attempt.after store).view.story := by
  rw [mem_story _ rfl]
  exact invoke_mem_iff

end Attempt

end Ois.Kernel
