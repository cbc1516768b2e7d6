import Ois.Kernel.SiblingIndependence

/-!
# The last call of a turn

In its turn a task is called once and then as long as the result asks for a retry.
-/

namespace Ois.Kernel

open Ois.Library Ois.Infrastructure Command ExecutionRuntime ExecutionPlan Mark

/-- The calls ended with a SUCCEEDED result. -/
def succeeded : Except Raised InvocationResult → Bool
  | .ok res => res.status == .succeeded
  | .error _ => false

def errorOf : Except Raised InvocationResult → Option Members
  | .ok res => res.error
  | .error (.exception err) =>
    some [("type", .str err.kind.name), ("message", .str err.message)]
  | .error .outOfFuel => none

def ExecutionPlan.finished (plan : ExecutionPlan) (taskId : String) :
    Except Raised InvocationResult → ExecutionPlan
  | .ok res =>
    if res.status = .succeeded then plan.succeed taskId res.output
    else plan.fail taskId res.error
  | .error raised => plan.fail taskId (errorOf (.error raised))

def failureClassIn (err : Option Members) : FailureClass :=
  match (err.getD []).lookup "failure_class" with
  | some value => failureClassOf value
  | none => .unknown

def failureOf : Except Raised InvocationResult → FailureClass
  | .ok res => failureClassIn res.error
  | .error _ => .unknown

theorem failure_class_error_of (out : Except Raised InvocationResult) :
    failureClassIn (errorOf out) = failureOf out := by
  cases out with
  | ok res => rfl
  | error raised => cases raised <;> rfl

structure View.Quiet (policy : RecoveryPolicy) (view : View) : Prop where
  storable : view.Storable
  movable : view.standing.status.isTerminal = false
  silent : view.story.any (halts policy) = false

structure View.Called (rt : ExecutionRuntime) (out : Except Raised InvocationResult)
    (view : View) : Prop where
  storable : view.Storable
  halted : view.standing.status.isTerminal = view.story.any (halts rt.recovery)
  unknown : view.standing.status.isTerminal = true →
    succeeded out = false ∧ failureOf out = .unknown
  unfenced : succeeded out = true → rt.fencing = false

theorem View.Called.quiet {rt : ExecutionRuntime} {view : View}
    {out : Except Raised InvocationResult} (called : view.Called rt out)
    (movable : view.standing.status.isTerminal = false) : view.Quiet rt.recovery :=
  ⟨called.storable, movable, called.halted.symm.trans movable⟩

theorem View.Called.persisted {rt : ExecutionRuntime} {view : View}
    {out : Except Raised InvocationResult} (called : view.Called rt out)
    (plan : ExecutionPlan) : (view.planned plan).saved.Called rt out := by
  refine ⟨called.storable, ?_, called.unknown, called.unfenced⟩
  rw [PlanOrchestrator.story_persisted]
  exact called.halted

theorem View.Quiet.persisted {policy : RecoveryPolicy} {view : View} (quiet : view.Quiet policy)
    (plan : ExecutionPlan) : (view.planned plan).saved.Quiet policy := by
  refine ⟨quiet.storable, quiet.movable, ?_⟩
  rw [PlanOrchestrator.story_persisted]
  exact quiet.silent

namespace PlanOrchestrator

variable {rt : ExecutionRuntime} {world : World} {task : TaskNode} {plan : ExecutionPlan}

theorem unfenced_of_returned {execId fresh : Uuid} {seen after : View}
    {res : InvocationResult}
    (conduct : Conduct rt world (callFor execId task) fresh seen (.ok res) after) :
    rt.fencing = false := by
  have leased : ∀ entry, Entered rt fresh (callFor execId task) entry →
      rt.fencing = false := by
    intro entry entered
    by_contra fenced
    exact entered.leased (by simpa using fenced) rfl
  cases conduct with
  | cancelled _ _ entry msg entered movable cancels concludes
  | replayed cached entry entered movable hit
  | ran _ _ entry entered movable miss runs => exact leased entry entered

theorem conduct_halted {execId fresh : Uuid} {seen after : View}
    {out : Except PyError InvocationResult} (quiet : seen.Quiet rt.recovery)
    (conduct : Conduct rt world (callFor execId task) fresh seen out after) :
    after.standing.status.isTerminal = after.story.any (halts rt.recovery) := by
  cases fenced : rt.fencing with
  | true =>
    rcases conduct_closed (Or.inl fenced) conduct with rfl | ⟨movable, rfl⟩
    · exact quiet.movable.trans quiet.silent.symm
    · exact quiet.silent.symm
  | false =>
    obtain ⟨marks, halting⟩ := conduct_halting (by simp [FenceHolds, fenced]) quiet.storable conduct
    rw [halting.ended, halting.told, List.any_append, quiet.movable, quiet.silent]

theorem unknown_cancellation (capId msg invocationId : String) :
    failureClassIn (cancelledResult capId msg invocationId).error = .unknown := by
  rfl

theorem called_of_conduct {execId fresh : Uuid} {seen after : View}
    {out : Except PyError InvocationResult} (quiet : seen.Quiet rt.recovery)
    (conduct : Conduct rt world (callFor execId task) fresh seen out after) :
    after.Called rt (out.mapError .exception) := by
  refine ⟨(conduct_keeps conduct).storable quiet.storable, conduct_halted quiet conduct, ?_, ?_⟩
  · intro ended
    cases out with
    | error err => exact ⟨rfl, rfl⟩
    | ok res =>
      rcases conduct_returns_open conduct with open_ | ⟨msg, invocationId, rfl⟩
      · exact absurd (ended.symm.trans open_) (by simp)
      · exact ⟨rfl, unknown_cancellation task.capabilityId msg invocationId⟩
  · intro succeeds
    cases out with
    | error err => exact absurd succeeds (by simp [succeeded, Except.mapError])
    | ok res => exact unfenced_of_returned conduct

theorem quiet_of_retry {execId fresh : Uuid} {seen after : View}
    {res : InvocationResult} (quiet : seen.Quiet rt.recovery)
    (conduct : Conduct rt world (callFor execId task) fresh seen (.ok res) after)
    (asks : shouldRetry res = true) : after.Quiet rt.recovery := by
  apply (called_of_conduct quiet conduct).quiet
  rcases conduct_returns_open conduct with open_ | ⟨msg, invocationId, rfl⟩
  · exact open_
  · simp [shouldRetry, cancelledResult, cancellationError, List.lookup_cons] at asks

theorem quiet_dispatched (plan : ExecutionPlan) {view : View}
    (quiet : view.Quiet rt.recovery) (taskId : String) :
    (view.marked (.dispatched plan taskId)).Quiet rt.recovery := by
  refine ⟨quiet.storable, quiet.movable, ?_⟩
  rw [story_dispatched, List.any_append, quiet.silent]
  rfl

theorem dispatch_called {view : View} (quiet : view.Quiet rt.recovery) :
    Shown (dispatch rt world task)
      (fun res after => after.plan = plan ∧ after.view.Called rt (.ok res) ∧
      (shouldRetry res = true → after.view.Quiet rt.recovery))
      (fun raised after => raised ≠ .outOfFuel ∧ after.plan = plan ∧
      after.view.Called rt (.error raised)) ⟨plan, view⟩ := by
  have ready := quiet_dispatched plan quiet task.taskId
  refine dispatch_shown task ?_ ?_
  · intro fresh res after conduct
    exact ⟨rfl, called_of_conduct ready conduct, quiet_of_retry ready conduct⟩
  · intro fresh err after conduct
    exact ⟨by simp, rfl, called_of_conduct ready conduct⟩

theorem retry_called (left : Nat) (res : InvocationResult) {view : View}
    (called : view.Called rt (.ok res))
    (again : shouldRetry res = true → view.Quiet rt.recovery) :
    Shown (retry rt world task left res)
      (fun last after => after.plan = plan ∧ after.view.Called rt (.ok last))
      (fun raised after => after.plan = plan ∧
      (raised = .outOfFuel ∨ after.view.Called rt (.error raised))) ⟨plan, view⟩ := by
  induction left generalizing res view with
  | zero =>
    exact shows_ite (fun _ => shows_throw ⟨rfl, Or.inl rfl⟩) fun _ => shows_pure ⟨rfl, called⟩
  | succ left ih =>
    refine shows_ite (fun asks => shows_bind ?_) fun _ => shows_pure ⟨rfl, called⟩
    refine (dispatch_called (again asks)).mono ?_ ?_
    · rintro next ⟨_, after⟩ ⟨rfl, calledNext, more⟩
      exact ih next calledNext more
    · rintro raised ⟨_, after⟩ ⟨_, same, calledNext⟩
      exact ⟨same, Or.inr calledNext⟩

theorem verdict_called (fuel : Nat) {view : View} (quiet : view.Quiet rt.recovery) :
    Shown (verdict rt world fuel task)
      (fun last after => after.plan = plan ∧ after.view.Called rt (.ok last))
      (fun raised after => after.plan = plan ∧
      (raised = .outOfFuel ∨ after.view.Called rt (.error raised))) ⟨plan, view⟩ := by
  refine shows_bind ((dispatch_called quiet).mono ?_ ?_)
  · rintro first ⟨_, after⟩ ⟨rfl, called, again⟩
    exact retry_called fuel first called again
  · rintro raised ⟨_, after⟩ ⟨_, same, called⟩
    exact ⟨same, Or.inr called⟩

theorem finish_called {out : Except Raised InvocationResult} {view : View}
    (called : view.Called rt out) (failed : Bool)
    (update : ExecutionPlan → ExecutionPlan) :
    Shown (do
      changePlan update
      persist rt world
      return failed)
      (fun value after => value = failed ∧ after.plan = update plan ∧
      after.view.Called rt out) (fun _ _ => False) ⟨plan, view⟩ := by
  refine shows_bind (change_plan_shown update ?_)
  refine shows_bind (persist_shown (fun _ => shows_pure ⟨rfl, rfl, ?_⟩)
    fun stuck => absurd called.storable stuck)
  exact called.persisted (update plan)

theorem run_task_called (fuel : Nat) {state : Orchestration}
    (quiet : state.session.view.Quiet rt.recovery) :
    Ends (runTask rt world fuel task)
      (fun failed after => let out := ownResult rt world fuel task state
      out ≠ .error .outOfFuel ∧ failed = !succeeded out ∧
      after.plan = (state.plan.setStatus task.taskId .running).finished task.taskId out ∧
      after.session.view.Called rt out)
      (fun raised _ => raised = .outOfFuel) state := by
  have starts : Shown (startTurn rt world task)
      (fun _ after => after = ⟨state.plan.setStatus task.taskId .running,
        (state.session.view.planned (state.plan.setStatus task.taskId .running)).saved⟩)
      (fun _ _ => False) state.look := start_turn_shown task quiet.storable rfl
  rw [runTask, ends_bind]
  refine ((ends_exactly _ state).and (starts state rfl)).mono ?_ fun _ _ none_ => none_.2.elim
  rintro _ after ⟨⟨_, rfl⟩, looks⟩
  have judged := @verdict_called rt world task
    (state.plan.setStatus task.taskId .running) fuel _
    (quiet.persisted (state.plan.setStatus task.taskId .running))
  rw [ends_try_catch, attempt, ends_bind]
  refine ((ends_exactly _ _).and (judged _ looks)).mono ?_ ?_
  · rintro res last ⟨⟨ret, _⟩, samePlan, called⟩
    have own : ownResult rt world fuel task state = .ok res := ret
    have samePlan : last.plan = state.plan.setStatus task.taskId .running := samePlan
    rw [own]
    by_cases succeeds : res.status = .succeeded
    · rw [if_neg (not_not.mpr succeeds)]
      refine ((finish_called called false _) last rfl).mono ?_ fun _ _ none_ => none_.elim
      rintro value after ⟨rfl, planned, calledAfter⟩
      refine ⟨by simp, by simp [succeeded, succeeds], ?_, calledAfter⟩
      simp only [finished, if_pos succeeds, ← samePlan]
      exact planned
    · rw [if_pos succeeds]
      refine ((finish_called called true _) last rfl).mono ?_ fun _ _ none_ => none_.elim
      rintro value after ⟨rfl, planned, calledAfter⟩
      refine ⟨by simp, by simp [succeeded, succeeds], ?_, calledAfter⟩
      simp only [finished, if_neg succeeds, ← samePlan]
      exact planned
  · rintro raised last ⟨⟨thrown, _⟩, samePlan, ended⟩
    have own : ownResult rt world fuel task state = .error raised := thrown
    have samePlan : last.plan = state.plan.setStatus task.taskId .running := samePlan
    rw [own]
    cases raised with
    | outOfFuel => exact rfl
    | exception err =>
      have called := ended.resolve_left (by simp)
      refine ((finish_called called true _) last rfl).mono ?_ fun _ _ none_ => none_.elim
      rintro value after ⟨rfl, planned, calledAfter⟩
      refine ⟨by simp, rfl, ?_, calledAfter⟩
      rw [finished, ← samePlan]
      exact planned

section single

def NeverRetried (world : World) (capId version : String) : Prop :=
  ∀ moment req res, req.capabilityId = capId →
    (world.invoke moment version req).outcome = .returned res →
      shouldRetry res = false ∧ structuredFailure? res = none

theorem answered_of_conduct {call : Call} {fresh : Uuid} {seen after : View}
    {res : InvocationResult}
    (missing : seen.idempotency.get (storageKey call (logicalInvocationId fresh call)) = none)
    (conduct : Conduct rt world call fresh seen (.ok res) after) :
    shouldRetry res = false ∧ res.status ≠ .succeeded ∨
      ∃ req reply made, Invokes world call seen after req reply ∧
      req.invocationId = logicalInvocationId fresh call ∧
      reply.outcome = .returned made ∧ res.status = made.status ∧
      (structuredFailure? made = none → res = made) := by
  have refused : ∀ msg invocationId, shouldRetry (cancelledResult call.capabilityId msg
      invocationId) = false ∧ InvocationStatus.cancelled ≠ .succeeded :=
    fun _ _ => ⟨rfl, by simp⟩
  cases conduct with
  | cancelled _ _ entry msg entered movable cancels concludes =>
    rw [concludes_ok concludes]
    exact Or.inl (refused msg entry.invocationId)
  | replayed cached entry entered movable hit =>
    rw [entered_storage_key entered, missing] at hit
    simp at hit
  | ran _ _ entry entered movable miss runs =>
    cases runs with
    | cancelled msg cancels concludes
    | interrupted msg req reply answers interrupts concludes =>
      rw [concludes_ok concludes]
      exact Or.inl (refused msg entry.invocationId)
    | failed err req reply answers raises concludes =>
      rw [concludes_ok concludes]
      exact Or.inl ⟨rfl, by simp [failedResult]⟩
    | returned made req reply answers returns live settles =>
      have invokes : Invokes world call seen after req reply :=
        ⟨⟨entry, answers⟩, told_of_settles settles⟩
      cases settles with
      | routed same open_ =>
        refine Or.inr ⟨req, reply, made, invokes, ?_, returns, by simp, fun plain => ?_⟩
        · obtain ⟨⟨ctx, _, rfl⟩, _⟩ := answers
          exact entered.invocationId
        · rw [reported, plain]

theorem retry_refused {call : Call} {fresh : Uuid} {seen after : View} {res : InvocationResult}
    (never : NeverRetried world call.capabilityId call.version)
    (missing : seen.idempotency.get (storageKey call (logicalInvocationId fresh call)) = none)
    (conduct : Conduct rt world call fresh seen (.ok res) after) :
    shouldRetry res = false := by
  rcases answered_of_conduct missing conduct with ⟨refused, _⟩ | ⟨req, reply, made, invokes, _,
    returns, _, same⟩
  · exact refused
  · obtain ⟨moment, rfl⟩ := invokes.reply_eq
    obtain ⟨single, plain⟩ := never moment req made invokes.input.1 returns
    rwa [same plain]

variable (world : World) (execId : Uuid) (spec : TaskSpec)

structure Untried (view : View) : Prop where
  identity : view.standing.identity.executionId = execId
  silent : view.trail.countP (invokes (invocationId execId spec.taskId)) = 0
  missing : view.idempotency.get (invocationId execId spec.taskId) = none

def Earned (view : View) : Prop :=
  ∃ moment req made, invoked spec.capabilityVersion req
      (world.invoke moment spec.capabilityVersion req) ∈ view.trail ∧
    req.invocationId = invocationId execId spec.taskId ∧
    req.capabilityId = spec.capabilityId ∧ Json.sortMembers req.input = spec.input ∧
    (world.invoke moment spec.capabilityVersion req).outcome = .returned made ∧
    made.status = .succeeded

structure Tried (failed : Bool) (view : View) : Prop where
  identity : view.standing.identity.executionId = execId
  once : view.trail.countP (invokes (invocationId execId spec.taskId)) ≤ 1
  earned : failed = false → Earned world execId spec view

inductive Fate (origin plan : ExecutionPlan) (view : View) : Prop where
  | untried (waits : plan.status? spec.taskId = origin.status? spec.taskId ∨
        plan.status? spec.taskId = some .ready)
      (undispatched : ∀ cur, dispatched cur spec.taskId ∉ view.trail)
      (untried : Untried execId spec view)
  | tried (failed : Bool)
      (ended : plan.status? spec.taskId = some (if failed then .failed else .succeeded))
      (tried : Tried world execId spec failed view)

structure Unconcerned (seen after : View) : Prop where
  identity : after.standing.identity = seen.standing.identity
  silent : after.trail.countP (invokes (invocationId execId spec.taskId)) ≤
    seen.trail.countP (invokes (invocationId execId spec.taskId))
  stored : after.idempotency.get (invocationId execId spec.taskId) =
    seen.idempotency.get (invocationId execId spec.taskId)
  grows : ∀ mark ∈ seen.trail, mark ∈ after.trail
  undispatched : ∀ cur, dispatched cur spec.taskId ∈ after.trail →
    dispatched cur spec.taskId ∈ seen.trail

variable {world execId spec} {origin plan : ExecutionPlan} {seen after view : View}

theorem Untried.later (untried : Untried execId spec seen)
    (unconcerned : Unconcerned execId spec seen after) : Untried execId spec after :=
  ⟨by rw [unconcerned.identity, untried.identity],
    Nat.le_zero.mp (unconcerned.silent.trans untried.silent.le),
    by rw [unconcerned.stored, untried.missing]⟩

theorem Untried.dispatched (untried : Untried execId spec seen) (plan : ExecutionPlan)
    (taskId : String) : Untried execId spec (seen.marked (.dispatched plan taskId)) :=
  ⟨untried.identity, by simpa [View.marked, invokes] using untried.silent, untried.missing⟩

theorem Earned.later (earned : Earned world execId spec seen)
    (grows : ∀ mark ∈ seen.trail, mark ∈ after.trail) : Earned world execId spec after := by
  obtain ⟨moment, req, made, told, answered⟩ := earned
  exact ⟨moment, req, made, grows _ told, answered⟩

theorem Tried.later {failed : Bool} (tried : Tried world execId spec failed seen)
    (unconcerned : Unconcerned execId spec seen after) :
    Tried world execId spec failed after :=
  ⟨by rw [unconcerned.identity, tried.identity], unconcerned.silent.trans tried.once,
    fun succeeded => (tried.earned succeeded).later unconcerned.grows⟩

theorem Fate.identity (fate : Fate world execId spec origin plan seen) :
    seen.standing.identity.executionId = execId := by
  cases fate with
  | untried waits undispatched untried => exact untried.identity
  | tried failed ended tried => exact tried.identity

theorem Fate.later (fate : Fate world execId spec origin plan seen)
    (unconcerned : Unconcerned execId spec seen after) :
    Fate world execId spec origin plan after := by
  cases fate with
  | untried waits undispatched untried =>
    exact .untried waits (fun cur told => undispatched cur
      (unconcerned.undispatched cur told)) (untried.later unconcerned)
  | tried failed ended tried => exact .tried failed ended (tried.later unconcerned)

theorem Fate.replan {next : ExecutionPlan} (fate : Fate world execId spec origin plan seen)
    (same : next.status? spec.taskId = plan.status? spec.taskId) :
    Fate world execId spec origin next seen := by
  cases fate with
  | untried waits undispatched untried => exact .untried (by rwa [same]) undispatched untried
  | tried failed ended tried => exact .tried failed (same.trans ended) tried

theorem unconcerned_moved (view : View) (status : ExecutionStatus) :
    Unconcerned execId spec view (view.movedTo status) :=
  ⟨rfl, le_rfl, rfl, fun _ => id, fun _ => id⟩

theorem unconcerned_planned (view : View) (plan : ExecutionPlan) :
    Unconcerned execId spec view (view.planned plan) :=
  ⟨rfl, le_rfl, rfl, fun _ => id, fun _ => id⟩

theorem unconcerned_saved (view : View) : Unconcerned execId spec view view.saved :=
  ⟨rfl, by simp [View.saved, View.marked, invokes], rfl,
    fun mark inside => by simp [View.saved, View.marked, inside],
    fun cur told => by simpa [View.saved, View.marked] using told⟩

theorem unconcerned_persisted (view : View) (plan : ExecutionPlan) :
    Unconcerned execId spec view (view.planned plan).saved :=
  have saved := @unconcerned_saved execId spec (view.planned plan)
  ⟨rfl, saved.silent, rfl, saved.grows, saved.undispatched⟩

theorem unconcerned_dispatched (view : View) (plan : ExecutionPlan) {taskId : String}
    (other : taskId ≠ spec.taskId) :
    Unconcerned execId spec view (view.marked (.dispatched plan taskId)) :=
  ⟨rfl, by simp [View.marked, invokes], rfl, fun mark inside => by simp [View.marked, inside],
    fun cur told => by simpa [View.marked, other.symm] using told⟩

theorem invocation_id_injective {first second : String}
    (same : invocationId execId first = invocationId execId second) :
    first = second := by
  simpa [invocationId] using same

theorem logical_call_for (fresh execId : Uuid) (node : TaskNode) :
    logicalInvocationId fresh (callFor execId node) =
      invocationId execId node.taskId := by
  simp [logicalInvocationId, callFor, orDefault, invocation_id_nonempty]

theorem storage_call_for (fresh execId : Uuid) (node : TaskNode) :
    storageKey (callFor execId node) (logicalInvocationId fresh (callFor execId node)) =
      invocationId execId node.taskId := by
  rw [logical_call_for]
  rfl

variable {node : TaskNode} {fresh : Uuid} {out : Except PyError InvocationResult}

theorem unconcerned_of_conduct (other : node.taskId ≠ spec.taskId)
    (conduct : Conduct rt world (callFor execId node) fresh seen out after) :
    Unconcerned execId spec seen after := by
  have apart : invocationId execId node.taskId ≠ invocationId execId spec.taskId :=
    fun same => other (invocation_id_injective same)
  have keeps := conduct_keeps conduct
  obtain ⟨marks, grown, within⟩ := keeps.trail
  refine ⟨keeps.identity, ?_, ?_, ?_, ?_⟩
  · simpa [logical_call_for, apart] using
      conduct_invokes (invocationId execId spec.taskId) conduct
  · rcases conduct_stores conduct with same | ⟨_, _, made, _, _, terminal, _, put⟩
    · rw [same]
    · rw [put, IdempotencyStore.get_put _ _ _ _ terminal, storage_call_for, if_neg apart.symm,
        Option.or_none]
  · intro mark inside
    rw [grown]
    exact List.mem_append_left _ inside
  · intro cur told
    rw [grown] at told
    exact (List.mem_append.mp told).resolve_right fun later => within _ later

theorem tried_of_conduct (same : node.spec = spec) (untried : Untried execId spec seen)
    (conduct : Conduct rt world (callFor execId node) fresh seen out after) :
    Tried world execId spec (unsucceeded out) after := by
  subst same
  have missing := untried.missing
  have counted := conduct_invokes (invocationId execId node.taskId) conduct
  have silent : seen.trail.countP (invokes (invocationId execId node.taskId)) = 0 :=
    untried.silent
  rw [logical_call_for, if_pos rfl, silent] at counted
  refine ⟨by rw [(conduct_keeps conduct).identity, untried.identity], counted, fun succeeded => ?_⟩
  cases out with
  | error err => simp [unsucceeded] at succeeded
  | ok res =>
    have succeeded : res.status = .succeeded := by simpa [unsucceeded] using succeeded
    rcases answered_of_conduct (by rw [storage_call_for]; exact missing) conduct with
      ⟨_, other⟩ | ⟨req, reply, made, invokes, named, returns, status, _⟩
    · exact absurd succeeded other
    · obtain ⟨moment, rfl⟩ := invokes.reply_eq
      obtain ⟨capability, input, _⟩ := invokes.input
      have told := invokes.told
      rw [mem_story _ rfl] at told
      refine ⟨moment, req, made, told, ?_, capability, by rw [input]; rfl, returns,
        status.symm.trans succeeded⟩
      rw [named, logical_call_for]
      rfl

theorem waits_marked (plan : ExecutionPlan) {taskId : String} {status : Option TaskStatus}
    (waits : plan.status? taskId = status ∨ plan.status? taskId = some .ready) :
    plan.markReady.status? taskId = status ∨ plan.markReady.status? taskId = some .ready := by
  cases found : plan.task? taskId with
  | none =>
    have same : plan.markReady.status? taskId = plan.status? taskId := by
      rw [markReady, status_modify, status?, found]
      rfl
    rwa [same]
  | some held =>
    cases ready : plan.isReady held with
    | true => exact Or.inr (by simp [markReady, status_modify, found, ready])
    | false =>
      have same : plan.markReady.status? taskId = plan.status? taskId := by
        rw [markReady, status_modify, status?, found]
        simp [ready]
      rwa [same]

section rules

variable {fuel : Nat}

theorem other_rules {node : TaskNode} (other : node.taskId ≠ spec.taskId) :
    TaskInvariant rt world fuel origin (Fate world execId spec origin) node
      (fun _ => Fate world execId spec origin)
      (fun _ => Fate world execId spec origin) True where
  starts plan view turn fate := by
    refine (fate.replan ?_).later (unconcerned_persisted view _)
    rw [status_set_status, if_neg other.symm]
  retries left plan view fresh res after turn storable fate conduct asks := by
    rw [fate.identity] at conduct
    have stays := (fate.later (unconcerned_dispatched view plan other)).later
      (unconcerned_of_conduct other conduct)
    exact ⟨stays, fun _ => trivial, fun _ _ => stays⟩
  decides left plan view fresh out after turn storable fate conduct settled := by
    rw [fate.identity] at conduct
    exact (fate.later (unconcerned_dispatched view plan other)).later
      (unconcerned_of_conduct other conduct)
  finishes plan view failed after turn moves fate := by
    refine (fate.replan ?_).later (unconcerned_persisted view _)
    rw [moves.statuses, if_neg other.symm]

theorem own_rules {node : TaskNode} (same : node.spec = spec)
    (never : NeverRetried world spec.capabilityId spec.capabilityVersion) :
    TaskInvariant rt world fuel origin (Fate world execId spec origin) node
      (fun _ _ => Untried execId spec)
      (fun failed _ => Tried world execId spec failed) True where
  starts plan view turn fate := by
    cases fate with
    | untried waits undispatched untried => exact untried.later (unconcerned_persisted view _)
    | tried failed ended tried =>
      have ready := turn.status
      rw [show node.taskId = spec.taskId from congrArg TaskSpec.taskId same, ended] at ready
      cases failed <;> simp at ready
  retries left plan view fresh res after turn storable untried conduct asks := by
    have ready := untried.dispatched plan node.taskId
    rw [untried.identity] at conduct
    have refused := retry_refused (by subst same; exact never)
      (by rw [storage_call_for]; subst same; exact ready.missing) conduct
    simp [asks] at refused
  decides left plan view fresh out after turn storable untried conduct settled := by
    rw [untried.identity] at conduct
    exact tried_of_conduct same (untried.dispatched plan node.taskId) conduct
  finishes plan view failed after turn moves tried := by
    refine .tried failed ?_ (tried.later (unconcerned_persisted view _))
    rw [← show node.taskId = spec.taskId from congrArg TaskSpec.taskId same, moves.statuses,
      if_pos rfl, turn.status]
    rfl

theorem execute_fate (never : NeverRetried world spec.capabilityId spec.capabilityVersion)
    (held : origin.spec? spec.taskId = some spec) (untried : Untried execId spec view)
    (undispatched : ∀ cur, dispatched cur spec.taskId ∉ view.trail) :
    Shown (PlanOrchestrator.execute rt world fuel)
      (fun _ after => Fate world execId spec origin after.plan after.view ∧
      Rested origin after.plan)
      (fun raised after => Fate world execId spec origin after.plan after.view ∧
      (raised ≠ .outOfFuel → Rested origin after.plan)) ⟨origin, view⟩ := by
  have keeps : KeepsTurns rt world fuel origin (Fate world execId spec origin) True := by
    intro plan view node turn storable fate
    by_cases own : node.taskId = spec.taskId
    · have same : node.spec = spec := by
        have asked := turn.spec
        rw [turn.evolves.shape, own, held] at asked
        exact (Option.some.inj asked).symm
      exact (own_rules same never).runTask turn storable fate
    · exact (other_rules own).runTask turn storable fate
  have waiting : Fate world execId spec origin origin view :=
    .untried (Or.inl rfl) undispatched untried
  cases validated : origin.validate with
  | error err =>
    refine shows_get_bind fun orch looks => ?_
    obtain ⟨rfl, _⟩ := RunView.mk.inj looks
    simp only [validated]
    exact shows_throw ⟨waiting, fun _ _ ready => ready⟩
  | ok accepted =>
    refine (keeps.execute ?_ ?_ validated ?_
      (waiting.later (unconcerned_persisted view origin))).mono
        (fun _ _ ended => ended) fun _ _ ended => ⟨ended.1, ended.2.2⟩
    · intro plan view evolves fate
      cases fate with
      | untried waits undispatched untried =>
        exact .untried (waits_marked plan waits) undispatched untried
      | tried failed ended tried =>
        exact .tried failed
          (status_mark_ready_of_ne_pending plan _ ended (by cases failed <;> simp)) tried
    · intro plan view unfenced fate movable
      have moved := fate.later (unconcerned_moved view .completed)
      exact ⟨moved, moved.later (unconcerned_saved _)⟩
    · exact waiting.later (unconcerned_planned view origin)

end rules

end single

end PlanOrchestrator

end Ois.Kernel
