import Ois.Kernel.Runtime

/-!
# What every operation of the runtime respects

An operation of the runtime changes its session in a few ways only: it changes the context without
changing whose it is, notes an event or an invocation, and writes a checkpoint or a result behind
a fence check.
-/

namespace Ois.Kernel

open Ois.Library Ois.Infrastructure Command

def Step.isNote : Step → Bool
  | .record _ | .invoke _ _ _ | .dispatch _ _ => true
  | _ => false

namespace ExecutionRuntime

theorem set_status_keeps {now : DateTime} {status : ExecutionStatus}
    {ctx moved : ExecutionContext} (accepted : ctx.setStatus now status = .ok moved) :
    moved.identity = ctx.identity := by
  unfold ExecutionContext.setStatus at accepted
  split_ifs at accepted
  rw [← Except.ok.inj accepted]
  rfl

theorem apply_keeps (policy : RecoveryPolicy) (now : DateTime) (ctx : ExecutionContext)
    (fail : FailureClass) :
    (policy.apply now ctx fail).1.identity = ctx.identity := by
  unfold RecoveryPolicy.apply
  dsimp only
  split
  · rfl
  · split
    · rename_i moved
      exact (set_status_keeps moved).trans rfl
    · rfl

structure Respected (rt : ExecutionRuntime) (world : World)
    (lease : Option WorkerLease) (relation : Session → Session → Prop) : Prop where
  refl : Std.Refl relation
  trans : IsTrans Session relation
  changes : ∀ (session : Session) (ctx : ExecutionContext),
    ctx.identity = session.context.identity →
      relation session { session with context := ctx }
  notes : ∀ (session : Session) (step : Step), step.isNote = true →
    relation session (session.taking rt.sha256 step)
  fences : Moves relation (rt.assertFence world lease)
  saves : Moves relation (rt.saveCheckpoint world lease)
  caches : ∀ key res, Moves relation (rt.cacheTerminalResult world key res lease)

namespace Respected

variable {rt : ExecutionRuntime} {world : World} {lease : Option WorkerLease}
  {relation : Session → Session → Prop} {Value Other : Type}

section rules

variable (kept : Respected rt world lease relation)

include kept

theorem pure (value : Value) : Moves relation (Pure.pure value : Operation Value) :=
  have := kept.refl
  moves_pure value

theorem throw (err : PyError) :
    Moves relation (MonadExcept.throw err : Operation Value) :=
  have := kept.refl
  moves_throw err

theorem get : Moves relation (MonadState.get : Operation Session) :=
  have := kept.refl
  moves_get

theorem bind {first : Operation Other} {next : Other → Operation Value}
    (firstMoves : Moves relation first) (nextMoves : ∀ value, Moves relation (next value)) :
    Moves relation (first >>= next) :=
  have := kept.trans
  moves_bind firstMoves nextMoves

theorem raiseOnError (value : Except PyError Value) :
    Moves relation (ExecutionRuntime.raiseOnError value) := by
  cases value with
  | ok accepted => exact kept.pure accepted
  | error err => exact kept.throw err

theorem change (update : ExecutionContext → ExecutionContext)
    (keeps : ∀ ctx, (update ctx).identity = ctx.identity) :
    Moves relation (ExecutionRuntime.change update) :=
  fun session => kept.changes session (update session.context) (keeps session.context)

theorem emit (step : Step) (note : step.isNote = true) :
    Moves relation (rt.emit step) :=
  fun session => kept.notes session step note

theorem record (kind : EventType) (data : Members) :
    Moves relation (rt.record kind data) :=
  kept.bind kept.get fun _ => kept.emit _ rfl

theorem setStatus (status : ExecutionStatus) :
    Moves relation (ExecutionRuntime.setStatus world status) := by
  intro session
  simp only [ExecutionRuntime.setStatus, ends_bind, ends_get]
  cases moved : session.context.setStatus (world.clock session.trace.length) status with
  | error err => exact kept.refl.refl session
  | ok ctx => exact kept.changes session ctx (set_status_keeps moved)

theorem applyRecovery (fail : FailureClass) :
    Moves relation (rt.applyRecovery world fail) := by
  intro session
  simp only [ExecutionRuntime.applyRecovery, ends_bind, ends_get, ExecutionRuntime.change,
    ends_modify]
  have := kept.trans
  have changed := kept.changes session _ (apply_keeps rt.recovery
    (world.clock session.trace.length) session.context fail)
  refine (kept.raiseOnError _ _).mono ?_ ?_
  · exact fun _ _ further => IsTrans.trans _ _ _ changed further
  · exact fun _ _ further => IsTrans.trans _ _ _ changed further

theorem handleCancellation (capId msg callId : String) :
    Moves relation (rt.handleCancellation world capId msg callId lease) :=
  kept.bind (kept.setStatus _) fun _ =>
    kept.bind (kept.change _ fun _ => rfl) fun _ =>
      kept.bind (kept.record _ _) fun _ => kept.bind kept.saves fun _ => kept.pure _

theorem handleFailure (capId callId : String) (err : PyError) :
    Moves relation (rt.handleFailure world capId callId err lease) :=
  kept.bind (kept.applyRecovery _) fun _ =>
    kept.bind (kept.record _ _) fun _ => kept.bind kept.saves fun _ => kept.pure _

theorem cancellationNow : Moves relation (ExecutionRuntime.cancellationNow world) :=
  kept.bind kept.get fun _ => kept.pure _

end rules

section calls

variable {call : Call} (kept : Respected rt world call.workerLease relation)

include kept

theorem enter : Moves relation (rt.enter world call) := by
  refine kept.bind kept.get fun session => moves_ite (fun _ => kept.throw _) fun _ => ?_
  refine kept.bind kept.fences fun _ => kept.bind (kept.setStatus _) fun _ => ?_
  exact kept.bind (kept.raiseOnError _) fun _ =>
    kept.bind (kept.setStatus _) fun _ => kept.pure _

variable (entry : Entry) (res : InvocationResult)

theorem checkAuthorized : Moves relation (rt.checkAuthorized world call entry) := by
  refine kept.bind kept.get fun session => ?_
  dsimp only
  split
  · exact kept.pure _
  · refine moves_ite (fun _ => ?_) fun _ => kept.throw _
    exact kept.bind (kept.record _ _) fun _ =>
      kept.bind (kept.record _ _) fun _ => kept.throw _

theorem consult : Moves relation (rt.consult world call entry) := by
  refine kept.bind kept.get fun session => kept.bind (kept.raiseOnError _) fun _ => ?_
  refine kept.bind (kept.checkAuthorized entry) fun _ => ?_
  split
  · exact kept.bind (kept.record _ _) fun _ => kept.pure _
  · exact kept.pure _

theorem start : Moves relation (rt.start world call entry) := by
  refine kept.bind (kept.record _ _) fun _ => kept.bind (kept.record _ _) fun _ => ?_
  refine kept.bind (kept.setStatus _) fun _ => kept.bind (kept.record _ _) fun _ => ?_
  refine kept.bind (kept.setStatus _) fun _ => kept.bind (kept.change _ fun _ => rfl) fun _ => ?_
  exact kept.bind kept.saves fun _ => kept.record _ _

theorem perform : Moves relation (rt.perform world call entry) := by
  refine kept.bind kept.cancellationNow fun cancelled => ?_
  split
  · exact kept.pure _
  · refine kept.bind kept.get fun session => kept.bind (kept.emit _ rfl) fun _ => ?_
    refine kept.bind (kept.change _ fun _ => rfl) fun _ => ?_
    split
    · split
      · exact kept.pure _
      · exact kept.pure _
    · exact kept.pure _

theorem recoverStructured : Moves relation (rt.recoverStructured world call entry res) := by
  unfold ExecutionRuntime.recoverStructured
  split
  · exact kept.pure _
  · exact kept.bind (kept.applyRecovery _) fun _ => kept.bind (kept.record _ _) fun _ =>
      kept.bind kept.saves fun _ => kept.pure _

theorem observe : Moves relation (rt.observe world call entry res) :=
  moves_ite (fun _ => kept.throw _) fun _ => kept.bind (kept.setStatus _) fun _ =>
    kept.bind (kept.change _ fun _ => rfl) fun _ => kept.record _ _

theorem checkOutput : Moves relation (rt.checkOutput world entry res) := by
  have rest : Moves relation (do
      ExecutionRuntime.change fun ctx => { ctx with
        validationResults := ctx.validationResults ++ [validationResult res] }
      ExecutionRuntime.setStatus world .updatingState
      if res.status = .succeeded then
        ExecutionRuntime.change fun ctx => { ctx with
          workingMemory := ctx.workingMemory.set ("result:" ++ res.invocationId)
            res.output }) := by
    refine kept.bind (kept.change _ fun _ => rfl) fun _ => kept.bind (kept.setStatus _) fun _ => ?_
    exact moves_ite (fun _ => kept.change _ fun _ => rfl) fun _ => kept.pure _
  refine kept.bind (kept.setStatus _) fun _ => ?_
  exact moves_ite (fun _ => kept.bind (kept.raiseOnError _) fun _ => rest) fun _ => rest

theorem route : Moves relation (rt.route world call entry res) := by
  refine kept.bind (kept.caches _ _) fun _ => kept.bind (kept.record _ _) fun _ => ?_
  refine kept.bind (kept.setStatus _) fun _ => kept.bind kept.saves fun _ => ?_
  exact kept.bind (kept.record _ _) fun _ => kept.setStatus _

theorem settle : Moves relation (rt.settle world call entry res) :=
  kept.bind (kept.recoverStructured entry res) fun reported =>
    kept.bind (kept.observe entry reported) fun _ =>
      kept.bind (kept.checkOutput entry reported) fun _ =>
        kept.bind (kept.route entry reported) fun _ => kept.pure _

theorem runCapability : Moves relation (rt.runCapability world call entry) := by
  refine kept.bind (kept.start entry) fun _ => kept.bind (kept.perform entry) fun out => ?_
  cases out with
  | cancelled msg => exact kept.handleCancellation _ _ _
  | raised err => exact kept.handleFailure _ _ _
  | returned res => exact kept.settle entry res

theorem proceed : Moves relation (rt.proceed world call entry) := by
  refine kept.bind kept.cancellationNow fun cancelled => ?_
  split
  · exact kept.handleCancellation _ _ _
  · refine kept.bind (kept.consult entry) fun cached => ?_
    split
    · exact kept.pure _
    · exact kept.runCapability entry

theorem execute : Moves relation (rt.execute world call) :=
  kept.bind kept.enter fun entry => kept.proceed entry

end calls

theorem complete (kept : Respected rt world lease relation) :
    Moves relation (rt.complete world lease) :=
  kept.bind kept.fences fun _ => kept.bind (kept.setStatus _) fun _ =>
    kept.bind kept.saves fun _ => kept.record _ _

end Respected

def Advances (rt : ExecutionRuntime) (before after : Session) : Prop :=
  after.context.identity = before.context.identity ∧ ∃ steps, after.trace = before.trace ++ steps ∧
      after.durable = Durable.afterAll rt.sha256 before.durable steps

variable {rt : ExecutionRuntime} {world : World} {lease : Option WorkerLease}

theorem advances_refl (rt : ExecutionRuntime) : Std.Refl (Advances rt) :=
  ⟨fun session => ⟨rfl, [], by simp, rfl⟩⟩

theorem advances_trans (rt : ExecutionRuntime) : IsTrans Session (Advances rt) := by
  constructor
  rintro first second third ⟨sameIdentity, steps, grows, made⟩
    ⟨stillSame, more, growsMore, madeMore⟩
  refine ⟨stillSame.trans sameIdentity, steps ++ more, ?_, ?_⟩
  · rw [growsMore, grows, List.append_assoc]
  · rw [madeMore, made, Durable.afterAll, Durable.afterAll, Durable.afterAll, List.foldl_append]

theorem advances_taking (session : Session) (step : Step) :
    Advances rt session (session.taking rt.sha256 step) :=
  ⟨rfl, [step], rfl, rfl⟩

theorem advances_emit (step : Step) : Moves (Advances rt) (rt.emit step) :=
  fun session => advances_taking session step

theorem assert_fence_advances : Moves (Advances rt) (rt.assertFence world lease) := by
  have := advances_refl rt
  have := advances_trans rt
  refine moves_ite (fun _ => ?_) fun _ => moves_pure _
  cases lease with
  | none => exact moves_throw _
  | some held =>
    refine moves_bind moves_get fun session => moves_bind (advances_emit _) fun _ => ?_
    cases (world.leases session.trace.length).assertCurrent
        (world.databaseClock session.trace.length) held with
    | ok cur => exact moves_pure _
    | error err => exact moves_throw _

theorem touched_identity (store : CheckpointStore) (now : DateTime)
    (ctx : ExecutionContext) :
    (store.touched now ctx).identity = ctx.identity := by
  cases store <;> rfl

theorem store_checkpoint_advances :
    Moves (Advances rt) (rt.storeCheckpoint world) := by
  intro session
  simp only [storeCheckpoint, ends_bind, ends_get, change, ends_modify]
  have changed := touched_identity session.durable.checkpoints
    (world.clock session.trace.length) session.context
  cases session.durable.checkpoints.write rt.sha256
      (session.durable.checkpoints.touched (world.clock session.trace.length) session.context) with
  | error err => exact ⟨changed, [], by simp, rfl⟩
  | ok store => exact ⟨changed, [_], rfl, rfl⟩

theorem advances_respected : Respected rt world lease (Advances rt) where
  refl := advances_refl rt
  trans := advances_trans rt
  changes session ctx same := ⟨same, [], by simp, rfl⟩
  notes session step _ := advances_taking session step
  fences := assert_fence_advances
  saves :=
    have := advances_trans rt
    moves_bind assert_fence_advances fun _ => store_checkpoint_advances
  caches key res := by
    have := advances_refl rt
    have := advances_trans rt
    exact moves_ite (fun _ => moves_bind assert_fence_advances fun _ => advances_emit _)
      fun _ => moves_pure _

end ExecutionRuntime

end Ois.Kernel
