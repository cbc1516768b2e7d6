import Ois.Kernel.Runtime

/-!
# What the runtime does, as far as recovery and replay go

The view of a session keeps the fields of the context that decide what may happen next, the stored
results, and the trail: the calls, invocations, checkpoints and stored results, and the events
that begin, end, replay or refuse an invocation.
-/

namespace Ois.Kernel

open Ois.Library Ois.Infrastructure RecoveryPolicy

structure Standing where
  identity : ExecutionIdentity
  status : ExecutionStatus
  plan : Option Members
  retryCount : Int
  recoveryAttempts : Int
  lastFailure : LastFailure
  deriving DecidableEq, Repr

def ExecutionContext.standing (ctx : ExecutionContext) : Standing :=
  { identity := ctx.identity, status := ctx.status, plan := ctx.plan
    retryCount := ctx.retryCount, recoveryAttempts := ctx.recoveryAttempts
    lastFailure := ctx.lastFailure }

inductive Mark where
  | event (kind : EventType) (callId : String)
  | invoked (version : String) (req : InvocationRequest) (reply : Reply)
  | stored (key : String) (res : InvocationResult)
  | saved (standing : Standing)
  | dispatched (plan : ExecutionPlan) (taskId : String)
  deriving DecidableEq, Repr

def EventType.isMarked : EventType → Bool
  | authorizationDenied | idempotencyHit | capabilityStarted | capabilityCompleted
  | cancelled | failure => true
  | _ => false

def EvidenceEvent.invocationId? (event : EvidenceEvent) : Option String :=
  (event.data.lookup "invocation_id").bind Json.asStr?

def Step.mark? : Step → Option Mark
  | .record event =>
    if event.eventType.isMarked then event.invocationId?.map (Mark.event event.eventType)
    else none
  | .invoke version req reply => some (.invoked version req reply)
  | .put key res => some (.stored key res)
  | .save ctx => some (.saved ctx.standing)
  | .dispatch plan taskId => some (.dispatched plan taskId)
  | .fence _ _ => none

def trail (steps : List Step) : List Mark := steps.filterMap Step.mark?

structure View where
  standing : Standing
  keepsText : Bool
  idempotency : IdempotencyStore
  trail : List Mark

def Session.view (session : Session) : View :=
  { standing := session.context.standing
    keepsText := session.durable.checkpoints.keepsText
    idempotency := session.durable.idempotency
    trail := Kernel.trail session.trace }

open Session

def Mark.isSaved : Mark → Bool
  | .saved _ => true
  | _ => false

def View.story (view : View) : List Mark := view.trail.filter fun mark => !mark.isSaved

def View.movedTo (status : ExecutionStatus) (view : View) : View :=
  { view with standing := { view.standing with status := status } }

def View.marked (mark : Mark) (view : View) : View :=
  { view with trail := view.trail ++ [mark] }

def View.saved (view : View) : View := view.marked (.saved view.standing)

/-- The view once `capability.completed` is recorded. -/
def View.completed (callId : String) (status : ExecutionStatus) (view : View) : View :=
  (view.movedTo status).marked (.event .capabilityCompleted callId)

def View.storing (key : String) (res : InvocationResult) (view : View) : View :=
  { view with
    idempotency := view.idempotency.put key res
    trail := view.trail ++ [.stored key res] }

def Standing.decision (policy : RecoveryPolicy) (fail : FailureClass)
    (standing : Standing) : RecoveryDecision :=
  policy.decision fail standing.retryCount standing.recoveryAttempts

def Standing.recovered (policy : RecoveryPolicy) (fail : FailureClass)
    (standing : Standing) : Standing :=
  let action := (standing.decision policy fail).action
  { standing with
    status := action.status?.getD standing.status
    retryCount := if action = .retry then standing.retryCount + 1 else standing.retryCount
    recoveryAttempts := if action = .recover ∨ action = .replan then
      standing.recoveryAttempts + 1 else standing.recoveryAttempts
    lastFailure := .failureClass fail }

def View.recovered (policy : RecoveryPolicy) (fail : FailureClass) (view : View) : View :=
  { view with standing := view.standing.recovered policy fail }

def View.Storable (view : View) : Prop :=
  view.keepsText = true → ∃ written, view.standing.lastFailure.dictValue = .ok written

def FenceHolds (rt : ExecutionRuntime) (world : World) (lease : Option WorkerLease) :
    Prop :=
  rt.fencing = true → ∃ held, lease = some held ∧
    ∀ moment, (world.leases moment).isCurrent (world.databaseClock moment) held = true

def Obstructed (rt : ExecutionRuntime) (world : World) (lease : Option WorkerLease)
    (view : View) : Prop :=
  ¬FenceHolds rt world lease ∨ ¬view.Storable

theorem token_uncancelled {token : CancellationToken} :
    token.raiseIfCancelled = none ↔ token.cancelled = false := by
  cases cancelled : token.cancelled <;> simp [CancellationToken.raiseIfCancelled, cancelled]

@[simp] theorem trail_append (first second : List Step) :
    trail (first ++ second) = trail first ++ trail second :=
  List.filterMap_append

namespace ExecutionRuntime

open Command

variable {rt : ExecutionRuntime} {world : World} {Value : Type}

abbrev Sees (operation : Operation Value) (ret : Value → View → Prop)
    (raised : PyError → View → Prop) (seen : View) : Prop :=
  Shows view operation ret raised seen

theorem after_keeps_text (durable : Durable) (step : Step) :
    (durable.after rt.sha256 step).checkpoints.keepsText = durable.checkpoints.keepsText := by
  cases step with
  | save ctx =>
    simp only [Durable.after]
    cases written : durable.checkpoints.write rt.sha256 ctx with
    | error err => rfl
    | ok store => exact (CheckpointStore.write_same_kind written).1
  | _ => rfl

theorem after_idempotency (durable : Durable) (step : Step)
    (quiet : ∀ key res, step ≠ .put key res) :
    (durable.after rt.sha256 step).idempotency = durable.idempotency := by
  cases step with
  | save ctx =>
    simp only [Durable.after]
    cases durable.checkpoints.write rt.sha256 ctx <;> rfl
  | put key res => exact absurd rfl (quiet key res)
  | _ => rfl

section prims

variable {ret : Unit → View → Prop} {raised : PyError → View → Prop} {seen : View}

theorem emit_sees (step : Step) (quiet : ∀ key res, step ≠ .put key res)
    (holds : ret () { seen with trail := seen.trail ++ step.mark?.toList }) :
    Sees (rt.emit step) ret raised seen := by
  rintro session rfl
  have look : (session.taking rt.sha256 step).view =
      { session.view with trail := session.view.trail ++ step.mark?.toList } := by
    have steps : [step].filterMap Step.mark? = step.mark?.toList := by
      cases marked : step.mark? <;> simp [marked]
    simp [view, taking, after_keeps_text, after_idempotency _ _ quiet, trail, steps]
  simp only [emit, ends_modify, look]
  exact holds

theorem put_sees (key : String) (res : InvocationResult)
    (holds : ret () (seen.storing key res)) :
    Sees (rt.emit (.put key res)) ret raised seen := by
  rintro session rfl
  simpa [emit, view, taking, View.storing, Durable.after, trail, Step.mark?] using holds

theorem change_sees (update : ExecutionContext → ExecutionContext)
    (keeps : ∀ ctx, (update ctx).standing = ctx.standing)
    (holds : ret () seen) : Sees (change update) ret raised seen := by
  rintro session rfl
  simpa [change, view, keeps] using holds

theorem set_status_sees (status : ExecutionStatus)
    (moves : seen.standing.status.isTerminal = false → ret () (seen.movedTo status))
    (sticks : seen.standing.status.isTerminal = true →
      raised ⟨.valueError, "Terminal execution status " ++ seen.standing.status.value ++
      " cannot transition to " ++ status.value ++ "."⟩ seen) :
    Sees (setStatus world status) ret raised seen := by
  rintro session rfl
  simp only [setStatus, ends_bind, ends_get, ExecutionContext.setStatus]
  cases terminal : session.context.status.isTerminal with
  | true =>
    simp only [raiseOnError, if_true, ends_throw]
    exact sticks terminal
  | false =>
    simp only [raiseOnError, Bool.false_eq_true, if_false, ends_pure, change, ends_modify]
    exact moves terminal

theorem set_status_moves (status : ExecutionStatus)
    (movable : seen.standing.status.isTerminal = false)
    (holds : ret () (seen.movedTo status)) :
    Sees (setStatus world status) ret raised seen :=
  set_status_sees status (fun _ => holds) (fun terminal => by simp [movable] at terminal)

theorem record_sees (kind : EventType) (data : Members) (callId : String)
    (marked : kind.isMarked = true)
    (named : data.lookup "invocation_id" = some (.str callId))
    (holds : ret () (seen.marked (.event kind callId))) :
    Sees (rt.record kind data) ret raised seen := by
  refine shows_get_bind fun session _ => emit_sees _ (by simp) ?_
  simpa [Step.mark?, EvidenceEvent.invocationId?, marked, named, Json.asStr?,
    View.marked] using holds

theorem record_quiet (kind : EventType) (data : Members)
    (unmarked : kind.isMarked = false) (holds : ret () seen) :
    Sees (rt.record kind data) ret raised seen := by
  refine shows_get_bind fun session _ => emit_sees _ (by simp) ?_
  simpa [Step.mark?, unmarked] using holds

theorem assert_fence_sees (lease : Option WorkerLease)
    (holds : (rt.fencing = true → lease ≠ none) → ret () seen)
    (lost : ¬FenceHolds rt world lease → ∀ err, raised err seen) :
    Sees (rt.assertFence world lease) ret raised seen := by
  unfold assertFence
  refine shows_ite ?_ fun unfenced => shows_pure (holds fun fenced => absurd fenced unfenced)
  intro fenced
  cases lease with
  | none =>
    refine shows_throw (lost ?_ _)
    intro keeps
    obtain ⟨held, supplied, _⟩ := keeps fenced
    simp at supplied
  | some lease =>
    refine shows_get_bind fun session _ => shows_bind (emit_sees _ (by simp) ?_)
    simp only [Step.mark?, Option.toList_none, List.append_nil, LeaseTable.assertCurrent]
    cases cur : (world.leases session.trace.length).isCurrent
        (world.databaseClock session.trace.length) lease with
    | true => exact shows_pure (holds (by simp))
    | false =>
      refine shows_throw (lost ?_ _)
      intro keeps
      obtain ⟨held, supplied, always⟩ := keeps fenced
      rw [Option.some.injEq] at supplied
      subst supplied
      have still := always session.trace.length
      simp [cur] at still

theorem store_checkpoint_sees (holds : seen.Storable → ret () seen.saved)
    (refused : ¬seen.Storable → ∀ err, raised err seen) :
    Sees (rt.storeCheckpoint world) ret raised seen := by
  refine shows_get_bind fun session looks => ?_
  have standing : (session.durable.checkpoints.touched (world.clock session.trace.length)
      session.context).standing = session.context.standing := by
    cases session.durable.checkpoints <;> rfl
  apply shows_bind
  intro other otherLooks
  simp only [change, ends_modify]
  have unchanged : view { other with
      context := session.durable.checkpoints.touched (world.clock session.trace.length)
        session.context } = seen := by
    have sameStanding := congrArg View.standing (looks.trans otherLooks.symm)
    rw [← otherLooks]
    simp only [view] at sameStanding ⊢
    rw [standing, sameStanding]
  rw [unchanged]
  apply shows_bind
  cases written : session.durable.checkpoints.write rt.sha256
      (session.durable.checkpoints.touched (world.clock session.trace.length) session.context) with
  | ok store =>
    refine shows_pure (emit_sees _ (by simp) ?_)
    have storable : seen.Storable := by
      subst looks
      intro text
      obtain ⟨value, accepted⟩ := CheckpointStore.dict_value_of_write written text
      have failureKept := congrArg Standing.lastFailure standing
      exact ⟨value, (congrArg LastFailure.dictValue failureKept).symm.trans accepted⟩
    have noted : (session.durable.checkpoints.touched (world.clock session.trace.length)
        session.context).standing = seen.standing := by
      rw [standing, ← looks]
      rfl
    simpa [Step.mark?, noted, View.saved, View.marked] using holds storable
  | error err =>
    refine shows_throw (refused ?_ _)
    intro storable
    subst looks
    have failureKept := congrArg Standing.lastFailure standing
    obtain ⟨store, accepted⟩ := CheckpointStore.write_accepted rt.sha256
      (session.durable.checkpoints.touched (world.clock session.trace.length)
        session.context) session.durable.checkpoints
      (fun text => by
        obtain ⟨value, accepted⟩ := storable text
        exact ⟨value, by rw [← accepted]; exact congrArg _ failureKept⟩)
    simp [accepted] at written

theorem save_checkpoint_sees (lease : Option WorkerLease) (holds : ret () seen.saved)
    (refused : Obstructed rt world lease seen → ∀ err, raised err seen) :
    Sees (rt.saveCheckpoint world lease) ret raised seen := by
  refine shows_bind (assert_fence_sees lease (fun _ => ?_) fun lost => refused (Or.inl lost))
  exact store_checkpoint_sees (fun _ => holds) fun stuck => refused (Or.inr stuck)

theorem cache_terminal_result_sees (key : String) (res : InvocationResult)
    (lease : Option WorkerLease)
    (stores : res.isTerminal = true → ret () (seen.storing key res))
    (skips : res.isTerminal = false → ret () seen)
    (lost : res.isTerminal = true → ¬FenceHolds rt world lease →
      ∀ err, raised err seen) :
    Sees (rt.cacheTerminalResult world key res lease) ret raised seen := by
  unfold cacheTerminalResult
  refine shows_ite (fun terminal => ?_) (fun kept => shows_pure (skips (by simpa using kept)))
  exact shows_bind (assert_fence_sees lease
    (fun _ => put_sees key res (stores terminal)) (lost terminal))

end prims

section operations

variable {raised : PyError → View → Prop} {seen : View}

def cancelledResult (capId msg callId : String) : InvocationResult :=
  { invocationId := callId, capabilityId := capId, status := .cancelled
    error := some (cancellationError msg) }

theorem handle_cancellation_sees (capId msg callId : String)
    (lease : Option WorkerLease) {ret : InvocationResult → View → Prop}
    (movable : seen.standing.status.isTerminal = false)
    (holds : ret (cancelledResult capId msg callId)
      ((seen.movedTo .stopped).marked (.event .cancelled callId)).saved)
    (refused : Obstructed rt world lease seen → ∀ err,
      raised err ((seen.movedTo .stopped).marked (.event .cancelled callId))) :
    Sees (rt.handleCancellation world capId msg callId lease)
      ret raised seen := by
  refine shows_bind (set_status_moves .stopped movable ?_)
  refine shows_bind (change_sees _ (fun _ => rfl) ?_)
  refine shows_bind (record_sees .cancelled _ callId rfl rfl ?_)
  exact shows_bind (save_checkpoint_sees lease (shows_pure holds) refused)

theorem apply_standing (policy : RecoveryPolicy) (now : DateTime)
    (ctx : ExecutionContext) (fail : FailureClass)
    (movable : ctx.status.isTerminal = false) :
    (policy.apply now ctx fail).1.standing = ctx.standing.recovered policy fail := by
  unfold apply
  cases moved : (policy.classify fail ctx).action.status? with
  | none =>
    have stays : (ctx.standing.decision policy fail).action.status? = none := moved
    simp only [Standing.recovered, stays, moved, Option.getD_none]
    rfl
  | some status =>
    have moves : (ctx.standing.decision policy fail).action.status? = some status :=
      moved
    have accepted : (recorded fail (policy.classify fail ctx)
        ctx).setStatus now status = .ok (ExecutionContext.touch now
          { recorded fail (policy.classify fail ctx) ctx with
            status := status }) := if_neg (by simpa [recorded] using movable)
    simp only [Standing.recovered, moves, moved, accepted, Option.getD_some]
    rfl

theorem apply_recovery_sees (fail : FailureClass) {ret : RecoveryDecision → View → Prop}
    (movable : seen.standing.status.isTerminal = false)
    (holds : ret (seen.standing.decision rt.recovery fail)
      (seen.recovered rt.recovery fail)) :
    Sees (rt.applyRecovery world fail) ret raised seen := by
  rintro session rfl
  have decided := rt.recovery.apply_decides (world.clock session.trace.length)
    session.context fail movable
  have standing := apply_standing rt.recovery (world.clock session.trace.length)
    session.context fail movable
  simp only [applyRecovery, ends_bind, ends_get, change, ends_modify, decided, raiseOnError,
    ends_pure]
  simp only [view, standing]
  exact holds

def failedResult (capId callId : String) (err : PyError) : InvocationResult :=
  { invocationId := callId, capabilityId := capId, status := .failed
    error := some [("type", .str err.kind.name), ("message", .str err.message),
      ("failure_class", .str "tool"), ("recovery_action", .str "fallback")] }

theorem storable_recovered (policy : RecoveryPolicy) (fail : FailureClass) (view : View) :
    (view.recovered policy fail).Storable :=
  fun _ => ⟨.str fail.value, rfl⟩

theorem handle_failure_sees (capId callId : String) (err : PyError)
    (lease : Option WorkerLease) {ret : InvocationResult → View → Prop}
    (movable : seen.standing.status.isTerminal = false)
    (holds : ret (failedResult capId callId err)
      ((seen.recovered rt.recovery .tool).marked (.event .failure callId)).saved)
    (refused : ¬FenceHolds rt world lease → ∀ err, raised err
      ((seen.recovered rt.recovery .tool).marked (.event .failure callId))) :
    Sees (rt.handleFailure world capId callId err lease)
      ret raised seen := by
  refine shows_bind (apply_recovery_sees .tool movable ?_)
  refine shows_bind (record_sees .failure _ callId rfl rfl ?_)
  refine shows_bind (save_checkpoint_sees lease (shows_pure holds) ?_)
  rintro (lost | stuck)
  · exact refused lost
  · exact absurd (storable_recovered rt.recovery .tool seen) stuck

/-- What the entry of a call settles, `fresh` being the identifier it may draw. -/
structure Entered (rt : ExecutionRuntime) (fresh : Uuid) (call : Call) (entry : Entry) :
    Prop where
  invocationId : entry.invocationId = logicalInvocationId fresh call
  key : entry.key = storageKey call entry.invocationId
  registered : rt.registry.get call.capabilityId call.version = .ok entry.contract
  leased : rt.fencing = true → call.workerLease ≠ none

variable (call : Call) (entry : Entry) {ret : Unit → View → Prop} (res : InvocationResult)

theorem enter_ends (session : Session) {ret : Entry → View → Prop}
    (holds : ∀ entry, Entered rt (world.uuid4 session.trace.length) call entry →
      session.context.status.isTerminal = false →
      ret entry (session.view.movedTo .planValidated))
    (terminal : session.context.status.isTerminal = true → ∀ err, raised err session.view)
    (lost : ¬FenceHolds rt world call.workerLease → ∀ err, raised err session.view)
    (unregistered : ∀ err, session.context.status.isTerminal = false →
      rt.registry.get call.capabilityId call.version = .error err →
      raised err (session.view.movedTo .normalized)) :
    Ends (rt.enter world call) (fun value after => ret value after.view)
      (fun err after => raised err after.view) session := by
  unfold enter
  rw [ends_bind, ends_get]
  apply Shows.ends
  refine shows_ite (fun ended => ?_) (fun _ => ?_)
  · refine shows_throw (terminal ?_ _)
    rcases ended with ended | ended <;> simp [ended, ExecutionStatus.isTerminal]
  · refine shows_bind (assert_fence_sees call.workerLease (fun leased => ?_) lost)
    refine shows_bind (set_status_sees .normalized (fun movable => ?_)
      fun stuck => terminal stuck _)
    apply shows_bind
    cases registered : rt.registry.get call.capabilityId call.version with
    | error err => exact shows_throw (unregistered err movable registered)
    | ok contract =>
      refine shows_pure (shows_bind (set_status_moves .planValidated rfl (shows_pure ?_)))
      exact holds _ ⟨rfl, rfl, registered, leased⟩ movable

theorem enter_view {call : Call} {session entered : Session} {entry : Entry}
    (enters : rt.enter world call session = .ok entry entered) :
    Entered rt (world.uuid4 session.trace.length) call entry ∧
      entered.view = session.view.movedTo .planValidated := by
  have entrance := @enter_ends rt world (fun _ _ => True) call session
    (fun entry view => Entered rt (world.uuid4 session.trace.length) call entry ∧
      view = session.view.movedTo .planValidated)
    (fun entry entered _ => ⟨entered, rfl⟩) (fun _ _ => trivial) (fun _ _ => trivial)
    (fun _ _ _ => trivial)
  simpa only [Ends, enters] using entrance

def Requests (call : Call) (entry : Entry) (seen : View) (req : InvocationRequest) :
    Prop :=
  ∃ ctx, ctx.standing = seen.standing ∧ req = requestOf call entry ctx

section authorizing

variable
    (failed : ∀ moment req err, Requests call entry seen req →
      world.authorize moment req entry.contract = .error err → raised err seen)
    (denied : ∀ moment req err, Requests call entry seen req →
      world.authorize moment req entry.contract = .error err →
      raised err (seen.marked (.event .authorizationDenied entry.invocationId)))

include failed denied

theorem check_authorized_sees (holds : ret () seen) :
    Sees (rt.checkAuthorized world call entry) ret raised seen := by
  refine shows_get_bind fun session looks => ?_
  have made : Requests call entry seen (requestOf call entry session.context) :=
    ⟨session.context, by subst looks; rfl, rfl⟩
  cases decided : world.authorize session.trace.length
      (requestOf call entry session.context) entry.contract with
  | ok allowed =>
    simp only [decided]
    exact shows_pure holds
  | error err =>
    simp only [decided]
    refine shows_ite (fun _ => ?_) (fun _ => shows_throw (failed _ _ _ made decided))
    refine shows_bind (record_quiet .inputValidated _ rfl ?_)
    refine shows_bind (record_sees .authorizationDenied _ entry.invocationId rfl rfl ?_)
    exact shows_throw (denied _ _ _ made decided)

theorem consult_sees {ret : Option InvocationResult → View → Prop}
    (hit : ∀ cached, seen.idempotency.get entry.key = some cached →
      ret (some cached) (seen.marked (.event .idempotencyHit entry.invocationId)))
    (miss : seen.idempotency.get entry.key = none → ret none seen)
    (invalid : ∀ req err, Requests call entry seen req →
      rt.validateInput req entry.contract = .error err → raised err seen) :
    Sees (rt.consult world call entry) ret raised seen := by
  refine shows_get_bind fun session looks => shows_bind ?_
  have made : Requests call entry seen (requestOf call entry session.context) :=
    ⟨session.context, by subst looks; rfl, rfl⟩
  have store : session.durable.idempotency = seen.idempotency := by subst looks; rfl
  cases valid : rt.validateInput (requestOf call entry session.context) entry.contract with
  | error err => exact shows_throw (invalid _ _ made valid)
  | ok accepted =>
    refine shows_pure (shows_bind (check_authorized_sees call entry failed denied ?_))
    rw [store]
    cases found : seen.idempotency.get entry.key with
    | none => exact shows_pure (miss found)
    | some cached =>
      refine shows_bind (record_sees .idempotencyHit _ entry.invocationId rfl rfl ?_)
      exact shows_pure (hit cached found)

end authorizing

theorem start_sees (movable : seen.standing.status.isTerminal = false) (holds : ret ()
      ((seen.movedTo .executing).saved.marked (.event .capabilityStarted entry.invocationId)))
    (refused : Obstructed rt world call.workerLease seen → ∀ err,
      raised err (seen.movedTo .executing)) :
    Sees (rt.start world call entry) ret raised seen := by
  refine shows_bind (record_quiet .received _ rfl ?_)
  refine shows_bind (record_quiet .inputValidated _ rfl ?_)
  refine shows_bind (set_status_moves .authorized movable ?_)
  refine shows_bind (record_quiet .authorized _ rfl ?_)
  refine shows_bind (set_status_moves .executing rfl ?_)
  refine shows_bind (change_sees _ (fun _ => rfl) ?_)
  refine shows_bind (save_checkpoint_sees call.workerLease ?_ refused)
  exact record_sees .capabilityStarted _ entry.invocationId rfl rfl holds

def Cancels (world : World) (msg : String) : Prop :=
  ∃ moment, (world.cancellation moment).raiseIfCancelled = some msg

theorem not_cancels {world : World}
    (live : ∀ moment, (world.cancellation moment).cancelled = false) (msg : String) :
    ¬Cancels world msg := by
  rintro ⟨moment, raised⟩
  simp [token_uncancelled.mpr (live moment)] at raised

def Answers (world : World) (call : Call) (entry : Entry) (seen : View)
    (req : InvocationRequest) (reply : Reply) : Prop :=
  Requests call entry seen req ∧ ∃ moment, reply = world.invoke moment call.version req

theorem cancellation_now_sees {ret : Option String → View → Prop} (none_ : ret none seen)
    (some_ : ∀ msg, Cancels world msg → ret (some msg) seen) :
    Sees (cancellationNow world) ret raised seen := by
  refine shows_get_bind fun session _ => ?_
  cases found : (world.cancellation session.trace.length).raiseIfCancelled with
  | none => exact shows_pure none_
  | some msg => exact shows_pure (some_ msg ⟨_, found⟩)

theorem perform_sees {ret : Outcome → View → Prop}
    (early : ∀ msg, Cancels world msg → ret (.cancelled msg) seen)
    (late : ∀ msg req reply res, Answers world call entry seen req reply →
      reply.outcome = .returned res → reply.token.raiseIfCancelled = some msg →
      ret (.cancelled msg) (seen.marked (.invoked call.version req reply)))
    (done : ∀ req reply res, Answers world call entry seen req reply →
      reply.outcome = .returned res → reply.token.raiseIfCancelled = none →
      ret (.returned res) (seen.marked (.invoked call.version req reply)))
    (ended : ∀ req reply, Answers world call entry seen req reply →
      (∀ res, reply.outcome ≠ .returned res) →
      ret reply.outcome (seen.marked (.invoked call.version req reply))) :
    Sees (rt.perform world call entry) ret raised seen := by
  refine shows_bind (cancellation_now_sees ?_ fun msg cancels =>
    shows_pure (early msg cancels))
  refine shows_get_bind fun session looks => ?_
  have answers : Answers world call entry seen (requestOf call entry session.context)
      (world.invoke session.trace.length call.version (requestOf call entry session.context)) :=
    ⟨⟨session.context, by subst looks; rfl, rfl⟩, _, rfl⟩
  refine shows_bind (emit_sees _ (by simp) ?_)
  refine shows_bind (change_sees _ (fun _ => rfl) ?_)
  generalize world.invoke session.trace.length call.version
    (requestOf call entry session.context) = reply at answers ⊢
  have interrupted := ended _ reply answers
  cases out : reply.outcome with
  | returned res =>
    cases token : reply.token.raiseIfCancelled with
    | none => exact shows_pure (done _ reply res answers out token)
    | some msg => exact shows_pure (late msg _ reply res answers out token)
  | cancelled | raised =>
    rw [out] at interrupted
    exact shows_pure (interrupted (by simp))

def reported (policy : RecoveryPolicy) (seen : View) (res : InvocationResult) :
    InvocationResult :=
  match structuredFailure? res with
  | none => res
  | some (err, fail) => { res with
      error := some (err.set "recovery_action"
        (.str (seen.standing.decision policy fail).action.value)) }

def afterRecovery (policy : RecoveryPolicy) (seen : View) (res : InvocationResult) :
    View :=
  match structuredFailure? res with
  | none => seen
  | some (_, fail) => (seen.recovered policy fail).saved

theorem recover_structured_sees {ret : InvocationResult → View → Prop}
    (movable : seen.standing.status.isTerminal = false)
    (holds : ret (reported rt.recovery seen res)
      (afterRecovery rt.recovery seen res))
    (lost : ∀ names fail, structuredFailure? res = some (names, fail) →
      ¬FenceHolds rt world call.workerLease →
      ∀ err, raised err (seen.recovered rt.recovery fail)) :
    Sees (rt.recoverStructured world call entry res) ret raised seen := by
  unfold recoverStructured
  unfold reported afterRecovery at holds
  cases structured : structuredFailure? res with
  | none =>
    simp only [structured] at holds
    exact shows_pure holds
  | some failed =>
    obtain ⟨err, fail⟩ := failed
    simp only [structured] at holds
    refine shows_bind (apply_recovery_sees fail movable ?_)
    refine shows_bind (record_quiet .recoveryDecision _ rfl ?_)
    refine shows_bind (save_checkpoint_sees call.workerLease (shows_pure holds) ?_)
    rintro (unfenced | stuck)
    · exact lost err fail structured unfenced
    · exact absurd (storable_recovered rt.recovery fail seen) stuck

theorem observe_sees (holds : res.invocationId = entry.invocationId →
      seen.standing.status.isTerminal = false → ret ()
      ((seen.movedTo .observing).marked (.event .capabilityCompleted entry.invocationId)))
    (mismatched : res.invocationId ≠ entry.invocationId → raised wrongInvocationId seen)
    (stuck : res.invocationId = entry.invocationId → seen.standing.status.isTerminal = true →
      ∀ err, err.kind = .valueError → raised err seen) :
    Sees (rt.observe world call entry res) ret raised seen := by
  unfold observe
  refine shows_ite (fun differs => shows_throw (mismatched differs)) (fun same => ?_)
  rw [ne_eq, not_not] at same
  refine shows_bind (set_status_sees .observing (fun movable => ?_)
    fun terminal => stuck same terminal _ rfl)
  refine shows_bind (change_sees _ (fun _ => rfl) ?_)
  refine record_sees .capabilityCompleted _ entry.invocationId rfl ?_ (holds same movable)
  rw [same]
  rfl

theorem check_output_sees (movable : seen.standing.status.isTerminal = false)
    (holds : ret () (seen.movedTo .updatingState))
    (invalid : ∀ err, res.status = .succeeded →
      rt.validateOutput res entry.contract = .error err →
      raised err (seen.movedTo .validating)) :
    Sees (rt.checkOutput world entry res) ret raised seen := by
  unfold checkOutput
  refine shows_bind (set_status_moves .validating movable ?_)
  have rest : Sees (do
      change fun ctx => { ctx with
        validationResults := ctx.validationResults ++ [validationResult res] }
      setStatus world .updatingState
      if res.status = .succeeded then
        change fun ctx => { ctx with
          workingMemory := ctx.workingMemory.set ("result:" ++ res.invocationId)
            res.output }) ret raised (seen.movedTo .validating) := by
    refine shows_bind (change_sees _ (fun _ => rfl) ?_)
    refine shows_bind (set_status_moves .updatingState rfl ?_)
    exact shows_ite (fun _ => change_sees _ (fun _ => rfl) holds) (fun _ => shows_pure holds)
  refine shows_ite (fun succeeded => shows_bind ?_) (fun _ => rest)
  cases valid : rt.validateOutput res entry.contract with
  | error err => exact shows_throw (invalid err succeeded valid)
  | ok accepted => exact shows_pure rest

def keeping (key : String) (res : InvocationResult) (seen : View) : View :=
  if res.isTerminal then seen.storing key res else seen

theorem keeping_standing (key : String) (res : InvocationResult) (seen : View) :
    (keeping key res seen).standing = seen.standing ∧
      (keeping key res seen).keepsText = seen.keepsText := by
  unfold keeping
  split_ifs <;> exact ⟨rfl, rfl⟩

theorem route_sees (movable : seen.standing.status.isTerminal = false) (holds : ret ()
      (((keeping entry.key res seen).movedTo .checkpointing).saved.movedTo .routed))
    (lost : res.isTerminal = true → ¬FenceHolds rt world call.workerLease →
      ∀ err, raised err seen)
    (refused : Obstructed rt world call.workerLease seen → ∀ err,
      raised err ((keeping entry.key res seen).movedTo .checkpointing)) :
    Sees (rt.route world call entry res) ret raised seen := by
  have stays := keeping_standing entry.key res seen
  have rest : Sees (do
      rt.record .idempotencyRecorded (statusData call entry.invocationId res.status)
      setStatus world .checkpointing
      rt.saveCheckpoint world call.workerLease
      rt.record .checkpointed (invocationData call res.invocationId)
      setStatus world .routed) ret raised (keeping entry.key res seen) := by
    refine shows_bind (record_quiet .idempotencyRecorded _ rfl ?_)
    refine shows_bind (set_status_moves .checkpointing (by rw [stays.1]; exact movable) ?_)
    refine shows_bind (save_checkpoint_sees call.workerLease ?_ ?_)
    · refine shows_bind (record_quiet .checkpointed _ rfl ?_)
      exact set_status_moves .routed rfl holds
    · intro obstructed
      refine refused (obstructed.imp_right fun stuck storable => stuck ?_)
      intro text
      simp only [View.movedTo] at text ⊢
      rw [stays.2] at text
      rw [stays.1]
      exact storable text
  unfold keeping at rest
  refine shows_bind (cache_terminal_result_sees entry.key res call.workerLease ?_ ?_ lost)
  · intro terminal
    simpa [terminal] using rest
  · intro skipped
    simpa [skipped] using rest

end operations

end ExecutionRuntime

end Ois.Kernel
