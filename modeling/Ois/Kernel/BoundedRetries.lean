import Ois.Kernel.CallResults
import Ois.Kernel.Launches

/-!
# Retries are bounded when they are budgeted

The retry loop asks only whether the error of a result says `retry`. A failure with a failure
class says so when the recovery policy decided it, and then the retry counter has grown.
-/

namespace Ois.Kernel

open Ois.Library Ois.Infrastructure Command ExecutionRuntime ExecutionPlan

open PlanOrchestrator in
/-- No capability asks for a retry that the recovery policy has not decided. -/
def NoFreeRetry (world : World) : Prop :=
  ∀ moment version req res,
    (world.invoke moment version req).outcome = .returned res →
      structuredFailure? res = none → shouldRetry res = false

open PlanOrchestrator in
/-- No result that is stored for a task of this execution asks for a retry. -/
def NoRetryStored (execId : Uuid) (store : IdempotencyStore) : Prop :=
  ∀ taskId res, store.get (invocationId execId taskId) = some res →
    shouldRetry res = false

def Step.isDispatch : Step → Bool
  | .dispatch _ _ => true
  | _ => false

def Mark.isDispatched : Mark → Bool
  | .dispatched _ _ => true
  | _ => false

open Mark

theorem count_dispatches (steps : List Step) :
    steps.countP Step.isDispatch = (trail steps).countP isDispatched := by
  rw [trail, List.countP_filterMap]
  congr 1
  funext step
  cases step with
  | record event =>
    simp only [Step.mark?, Step.isDispatch]
    split_ifs
    · cases event.invocationId? <;> rfl
    · rfl
  | _ => rfl

namespace PlanOrchestrator

theorem should_retry_sorted (res : InvocationResult) :
    shouldRetry res.sorted = shouldRetry res := by
  cases names : res.error with
  | none => simp [shouldRetry, InvocationResult.sorted, names]
  | some err =>
    cases found : err.lookup "recovery_action" with
    | none => simp [shouldRetry, InvocationResult.sorted, names, found]
    | some value =>
      have same : (Json.sortKeys value == .str "retry") = (value == .str "retry") := by
        cases value <;> simp [Json.sortKeys]
      simp [shouldRetry, InvocationResult.sorted, names, found, same]

theorem should_retry_kept (store : IdempotencyStore) (res : InvocationResult) :
    shouldRetry (store.kept res) = shouldRetry res := by
  cases store with
  | inMemory entries => rfl
  | sqlite table => exact should_retry_sorted res

section budget

variable {rt : ExecutionRuntime} {world : World} {execId : Uuid}

def Spends (policy : RecoveryPolicy) (before after : Int) : Prop :=
  after = before ∨ after = before + 1 ∧ before < policy.maxRetries

variable {policy : RecoveryPolicy} {before after : Int} {res : InvocationResult}
  {outcome : Except PyError InvocationResult}

theorem Spends.grows (spends : Spends policy before after) : before ≤ after := by
  rcases spends with same | ⟨spent, _⟩ <;> omega

theorem Spends.within (spends : Spends policy before after) (limited : before ≤ policy.maxRetries) :
    after ≤ policy.maxRetries := by
  rcases spends with same | ⟨spent, left⟩ <;> omega

theorem Spends.left (spends : Spends policy before after) (spent : after = before + 1) :
    before < policy.maxRetries := by
  rcases spends with same | ⟨_, left⟩ <;> omega

theorem spends_recovered (policy : RecoveryPolicy) (fail : FailureClass)
    (standing : Standing) :
    Spends policy standing.retryCount (standing.recovered policy fail).retryCount := by
  unfold Standing.recovered
  dsimp only
  split_ifs with retried
  · exact Or.inr ⟨rfl, ((policy.decision_retry_iff fail _ _).mp retried).2⟩
  · exact Or.inl rfl

theorem after_recovery_spends (policy : RecoveryPolicy) (seen : View)
    (res : InvocationResult) :
    Spends policy seen.standing.retryCount
      (afterRecovery policy seen res).standing.retryCount := by
  unfold afterRecovery
  split
  · exact Or.inl rfl
  · exact spends_recovered policy _ seen.standing

theorem retry_reported {seen : View} (asks : shouldRetry (reported policy seen res) = true) :
    structuredFailure? res = none ∧ shouldRetry res = true ∨
      (afterRecovery policy seen res).standing.retryCount = seen.standing.retryCount + 1 := by
  unfold reported at asks
  unfold afterRecovery
  cases structured : structuredFailure? res with
  | none =>
    simp only [structured] at asks
    exact Or.inl ⟨rfl, asks⟩
  | some failed =>
    obtain ⟨err, fail⟩ := failed
    simp only [structured] at asks
    have retried : (seen.standing.decision policy fail).action = .retry := by
      cases action : (seen.standing.decision policy fail).action <;>
        simp [shouldRetry, action, RecoveryAction.value] at asks ⊢
    apply Or.inr
    simp [View.saved, View.marked, View.recovered, Standing.recovered, retried]

theorem no_retry_of_terminal {moment : Nat} {version : String} {req : InvocationRequest}
    (budgeted : NoFreeRetry world)
    (returns : (world.invoke moment version req).outcome = .returned res)
    (terminal : res.isTerminal = true) : shouldRetry res = false := by
  apply budgeted moment version req res returns
  cases structured : structuredFailure? res with
  | none => rfl
  | some failed =>
    exact absurd (structured_failure_failed structured) (not_failed_of_terminal terminal)

theorem no_retry_stored_put {store : IdempotencyStore} {key : String}
    (stored : NoRetryStored execId store) (terminal : res.isTerminal = true)
    (plain : shouldRetry res = false) : NoRetryStored execId (store.put key res) := by
  intro taskId found get
  rw [store.get_put key _ res terminal, Option.or_eq_some_iff] at get
  rcases get with old | ⟨_, new⟩
  · exact stored taskId found old
  · split_ifs at new
    rw [← Option.some.inj new, should_retry_kept, plain]

theorem no_retry_stored_keeping {view : View} {key : String}
    (stored : NoRetryStored execId view.idempotency)
    (plain : res.isTerminal = true → shouldRetry res = false) :
    NoRetryStored execId (keeping key res view).idempotency := by
  unfold keeping
  split_ifs with terminal
  · exact no_retry_stored_put stored terminal (plain terminal)
  · exact stored

theorem keeping_retry_count (key : String) (res : InvocationResult) (view : View) :
    (keeping key res view).standing.retryCount = view.standing.retryCount :=
  congrArg Standing.retryCount (keeping_standing key res view).1

structure Budgets (policy : RecoveryPolicy) (execId : Uuid) (seen after : View)
    (outcome : Except PyError InvocationResult) : Prop where
  spends : Spends policy seen.standing.retryCount after.standing.retryCount
  stored : NoRetryStored execId after.idempotency
  retried : ∀ res, outcome = .ok res → shouldRetry res = true →
    after.standing.retryCount = seen.standing.retryCount + 1

theorem concludes_budgets {inTheWay : Prop} {seen last after : View}
    (concludes : Concludes res inTheWay last outcome after)
    (spends : Spends policy seen.standing.retryCount last.standing.retryCount)
    (stored : NoRetryStored execId last.idempotency) (plain : shouldRetry res = false) :
    Budgets policy execId seen after outcome := by
  rcases concludes with ⟨rfl, rfl⟩ | ⟨_, ⟨err, rfl⟩, rfl⟩
  · refine ⟨spends, stored, ?_⟩
    rintro _ ⟨rfl⟩ asks
    simp [plain] at asks
  · exact ⟨spends, stored, by simp⟩

theorem settles_budgets {call : Call} {entry : Entry} {seen after : View} {moment : Nat}
    {version : String} {req : InvocationRequest} (budgeted : NoFreeRetry world)
    (returns : (world.invoke moment version req).outcome = .returned res)
    (stored : NoRetryStored execId seen.idempotency)
    (settles : Settles rt world call entry seen res outcome after) :
    Budgets rt.recovery execId seen after outcome := by
  have decided := after_recovery_spends rt.recovery seen res
  have storedAfter : NoRetryStored execId
      (afterRecovery rt.recovery seen res).idempotency := by
    rw [after_recovery_idempotency]
    exact stored
  have kept := no_retry_of_terminal budgeted returns
  cases settles with
  | undecided err names fail structured lost =>
    exact ⟨spends_recovered _ fail seen.standing, stored, by simp⟩
  | mismatched | stuck => exact ⟨decided, storedAfter, by simp⟩
  | invalid | unstored => exact ⟨Or.inl rfl, stored, by simp⟩
  | unrouted err same movable obstructed =>
    refine ⟨?_, no_retry_stored_keeping storedAfter kept, by simp⟩
    rw [keeping_retry_count]
    exact decided
  | routed same movable =>
    have unchanged : ((keeping entry.key res ((afterRecovery rt.recovery seen
        res).completed entry.invocationId .checkpointing)).saved.movedTo
          .routed).standing.retryCount =
        (afterRecovery rt.recovery seen res).standing.retryCount :=
      keeping_retry_count entry.key res _
    refine ⟨by rw [unchanged]; exact decided, no_retry_stored_keeping storedAfter kept, ?_⟩
    rintro _ ⟨rfl⟩ asks
    rcases retry_reported asks with ⟨plain, itself⟩ | spent
    · simp [budgeted moment version req res returns plain] at itself
    · rw [unchanged, spent]

theorem conduct_budgets {task : TaskNode} {fresh : Uuid} {seen after : View}
    (budgeted : NoFreeRetry world) (stored : NoRetryStored execId seen.idempotency)
    (conduct : Conduct rt world (callFor execId task) fresh seen outcome after) :
    Budgets rt.recovery execId seen after outcome := by
  cases conduct with
  | terminal | unfenced | unregistered => exact ⟨Or.inl rfl, stored, by simp⟩
  | cancelled _ _ entry msg entered movable cancels concludes =>
    exact concludes_budgets concludes (Or.inl rfl) stored rfl
  | invalid err entry req entered movable made rejected =>
    exact ⟨Or.inl rfl, stored, by simp⟩
  | unauthorized err entry req moment _ entered movable made rejected leaves =>
    rcases leaves with rfl | rfl
    · exact ⟨Or.inl rfl, stored, by simp⟩
    · exact ⟨Or.inl rfl, stored, by simp⟩
  | replayed cached entry entered movable hit =>
    refine ⟨Or.inl rfl, stored, ?_⟩
    rintro _ ⟨rfl⟩ asks
    rw [(entered_call_for entered).2] at hit
    simp [stored task.taskId _ hit] at asks
  | unstarted err entry entered movable miss obstructed =>
    exact ⟨Or.inl rfl, stored, by simp⟩
  | ran _ _ entry entered movable miss runs =>
    cases runs with
    | cancelled msg cancels concludes
    | interrupted msg req reply answers interrupts concludes =>
      exact concludes_budgets concludes (Or.inl rfl) stored rfl
    | failed err req reply answers raises concludes =>
      exact concludes_budgets concludes (spends_recovered _ .tool seen.standing) stored rfl
    | returned res req reply answers returns notOvertaken settles =>
      obtain ⟨_, moment, rfl⟩ := answers
      have budgets := settles_budgets budgeted returns (by exact stored) settles
      exact ⟨budgets.spends, budgets.stored, budgets.retried⟩

end budget

section runs

variable {rt : ExecutionRuntime} {world : World} {execId : Uuid}
  {origin plan : ExecutionPlan} {view : View}

def unstarted (plan : ExecutionPlan) : Nat :=
  plan.count fun status => status == .pending || status == .ready

/-- The calls made so far, with `more` yet to be made, are paid for by the tasks that
have had their turn and by the retries that were spent. -/
structure WithinBudget (policy : RecoveryPolicy) (execId : Uuid)
    (origin : ExecutionPlan) (more : Nat) (plan : ExecutionPlan) (view : View) : Prop where
  identity : view.standing.identity.executionId = execId
  stored : NoRetryStored execId view.idempotency
  nonnegative : 0 ≤ view.standing.retryCount
  limited : view.standing.retryCount ≤ policy.maxRetries
  paid : (view.trail.countP isDispatched + more + unstarted plan : Int) ≤
    origin.tasks.length + view.standing.retryCount

theorem dispatched_of_keeps {seen after : View} (keeps : Keeps seen after) :
    after.trail.countP isDispatched = seen.trail.countP isDispatched := by
  obtain ⟨marks, grows, within⟩ := keeps.trail
  rw [grows, List.countP_append, Nat.add_eq_left, List.countP_eq_zero]
  intro mark mem
  have inside := within mark mem
  cases mark with
  | dispatched other taskId => exact absurd inside id
  | _ => simp [isDispatched]

theorem WithinBudget.persisted {policy : RecoveryPolicy} {more : Nat}
    (within : WithinBudget policy execId origin more plan view) (next : ExecutionPlan)
    (fewer : Nat) (same : fewer + unstarted next = more + unstarted plan) :
    WithinBudget policy execId origin fewer next (view.planned next).saved := by
  refine ⟨within.identity, within.stored, within.nonnegative, within.limited, ?_⟩
  have unmarked : (view.planned next).saved.trail.countP isDispatched =
      view.trail.countP isDispatched := by
    simp [View.saved, View.marked, View.planned, isDispatched]
  have paid := within.paid
  have rearranged : (fewer + unstarted next : Int) = more + unstarted plan := by
    exact_mod_cast same
  rw [unmarked]
  change (_ : Int) ≤ origin.tasks.length + view.standing.retryCount
  omega

theorem unstarted_starts {taskId : String} (ready : plan.status? taskId = some .ready) :
    unstarted (plan.setStatus taskId .running) + 1 = unstarted plan := by
  have counted := count_moves (set_status_moves_task plan taskId .running) ready
    fun status => status == .pending || status == .ready
  exact counted

theorem unstarted_finishes {taskId : String} {next : TaskStatus} {after : ExecutionPlan}
    (moves : MovesTask taskId next plan after) (running : plan.status? taskId = some .running)
    (final : next = .succeeded ∨ next = .failed) : unstarted after = unstarted plan := by
  have counted := count_moves moves running fun status => status == .pending || status == .ready
  rcases final with rfl | rfl
  · exact counted
  · exact counted

theorem within_budget_invariant (rt : ExecutionRuntime) (world : World)
    (origin : ExecutionPlan) (execId : Uuid) (fuel : Nat) (budgeted : NoFreeRetry world)
    (enough : rt.recovery.maxRetries ≤ fuel) :
    RunInvariant rt world fuel origin (WithinBudget rt.recovery execId origin 0)
      (fun left plan _ view => WithinBudget rt.recovery execId origin 1 plan view ∧
        rt.recovery.maxRetries - view.standing.retryCount ≤ left) False where
  marks plan view _ within := by
    have same : unstarted plan.markReady = unstarted plan := count_mark_ready rfl plan
    refine ⟨within.identity, within.stored, within.nonnegative, within.limited, ?_⟩
    rw [same]
    exact within.paid
  starts plan view task turn within := by
    have one := unstarted_starts turn.status
    refine ⟨within.persisted _ 1 (by omega), ?_⟩
    have nonnegative := within.nonnegative
    change (_ - view.standing.retryCount : Int) ≤ fuel
    omega
  dispatches left plan view task fresh outcome after turn _ allowed conduct := by
    obtain ⟨within, remaining⟩ := allowed
    have ident := within.identity
    rw [ident] at conduct
    have keeps := conduct_keeps conduct
    have budgets := conduct_budgets budgeted (by exact within.stored) conduct
    have counted : after.trail.countP isDispatched = view.trail.countP isDispatched + 1 := by
      rw [dispatched_of_keeps keeps]
      simp [View.marked, isDispatched]
    have spends : Spends rt.recovery view.standing.retryCount
      after.standing.retryCount := budgets.spends
    have grows := spends.grows
    have nonnegative := within.nonnegative
    have paid := within.paid
    have kept : after.standing.identity.executionId = execId := by
      rw [keeps.identity]
      exact ident
    -- what is paid for depends on how many calls are yet to be made
    have still : ∀ more : Nat, (more : Int) + view.standing.retryCount ≤ after.standing.retryCount →
          WithinBudget rt.recovery execId origin more plan after := by
      intro more spent
      refine ⟨kept, budgets.stored, by omega, spends.within within.limited, ?_⟩
      rw [counted]
      push_cast
      omega
    refine ⟨still 0 (by omega), ?_⟩
    intro res ret asks
    have spent : after.standing.retryCount = view.standing.retryCount + 1 :=
      budgets.retried res ret asks
    have before := spends.left spent
    exact ⟨fun none_ => by omega, fun fewer more => ⟨still 1 (by omega), by omega⟩⟩
  finishes plan view task next after turn final moves within := by
    apply within.persisted after 0
    rw [unstarted_finishes moves turn.status final]
  completes plan view _ within _ := by
    have moved : WithinBudget rt.recovery execId origin 0 plan
        (view.movedTo .completed) :=
      ⟨within.identity, within.stored, within.nonnegative, within.limited, within.paid⟩
    refine ⟨moved, moved.identity, moved.stored, moved.nonnegative, moved.limited, ?_⟩
    simpa [View.saved, View.marked, isDispatched] using moved.paid

end runs

end PlanOrchestrator

/-- Unless a capability or a stored result asks for retries that the recovery policy
has not decided, a run on enough fuel ends, and the runtime is called at most once for
every task and once for every retry in the budget. -/
theorem retries_bounded (rt : ExecutionRuntime) (world : World) (plan : ExecutionPlan)
    (ctx : ExecutionContext) (durable : Durable) (fuel : Nat)
    (validated : plan.validate = .ok ()) (unspent : ctx.retryCount = 0)
    (budgeted : NoFreeRetry world)
    (stored : NoRetryStored ctx.identity.executionId durable.idempotency)
    (enough : plan.tasks.length + rt.recovery.maxRetries < fuel) :
    let run := PlanOrchestrator.execute rt world fuel
    let start : Orchestration := {
      plan := plan, session := { context := ctx, durable := durable } }
    run.outcome start ≠ .error .outOfFuel ∧
      (run.stateAfter start).session.trace.countP Step.isDispatch ≤
        plan.tasks.length + rt.recovery.maxRetries := by
  intro run start
  have rules := PlanOrchestrator.within_budget_invariant rt world plan
    ctx.identity.executionId fuel budgeted (by omega)
  have base : PlanOrchestrator.WithinBudget rt.recovery ctx.identity.executionId plan
      0 plan (start.session.view.planned plan) := by
    have few := count_le_length (fun status => status == .pending || status == .ready) plan
    have counter : start.session.view.standing.retryCount = 0 := unspent
    have silent : start.session.view.trail = [] := rfl
    refine ⟨rfl, stored, ?_, ?_, ?_⟩
    · change 0 ≤ start.session.view.standing.retryCount
      omega
    · change start.session.view.standing.retryCount ≤ _
      omega
    · change (_ : Int) ≤ plan.tasks.length + start.session.view.standing.retryCount
      simp only [View.planned, silent, List.countP_nil, counter, PlanOrchestrator.unstarted]
      omega
  have ends := rules.execute validated base (base.persisted plan 0 rfl) start rfl
  have last := Ends.outcome (fun outcome (after : Orchestration) =>
    PlanOrchestrator.WithinBudget rt.recovery ctx.identity.executionId plan 0
      after.plan after.session.view ∧
    (outcome = .error .outOfFuel → False ∨ fuel ≤ plan.tasks.length))
    (ends.mono (fun _ _ within => ⟨within, by simp⟩) fun raised _ kept =>
      ⟨kept.1, fun out => kept.2 (Except.error.inj out)⟩)
  constructor
  · intro out
    rcases last.2 out with none_ | few
    · exact none_
    · omega
  · have paid := last.1.paid
    have limited := last.1.limited
    rw [count_dispatches]
    have same : (run.stateAfter start).session.view.trail =
      trail (run.stateAfter start).session.trace := rfl
    rw [same] at paid
    omega

def oneTask : ExecutionPlan :=
  { planId := "p"
    tasks := [{ taskId := "a", capabilityId := "publish", capabilityVersion := "1.0.0" }] }

def answering (status : InvocationStatus) (err : Members) : World :=
  .ending fun req => .returned {
    invocationId := req.invocationId, capabilityId := req.capabilityId
    status := status, error := some err }

/-- A transient failure that is retried as often as the policy allows. -/
theorem transient_retries_bounded :
    let run := PlanOrchestrator.execute (.permissive [{ capabilityId := "publish"
                                                        version := "1.0.0" }])
      (answering .failed [("failure_class", .str "transient")]) 10
    let start : Orchestration := {
      plan := oneTask
      session := { context := .fresh ⟨1⟩ "default"
                   durable := { checkpoints := .sqlite [], idempotency := .sqlite {} } } }
    run.outcome start ≠ .error .outOfFuel ∧
      (run.stateAfter start).session.trace.countP Step.isDispatch ≤ 1 + 2 := by
  refine retries_bounded _ _ oneTask _ _ 10 (by decide +kernel) rfl ?_ ?_ (by decide)
  · intro moment version req res returns plain
    rw [← Outcome.returned.inj returns] at plain ⊢
    simp [structuredFailure?] at plain
  · intro taskId res found
    simp [IdempotencyStore.get] at found

/-- A result that is TIMED_OUT and says `retry` is retried as long as there is fuel. -/
theorem free_retries_unbounded :
    let run := PlanOrchestrator.execute (.permissive [{ capabilityId := "publish"
                                                        version := "1.0.0" }])
      (answering .timedOut [("recovery_action", .str "retry")]) 6
    let start : Orchestration := {
      plan := oneTask
      session := { context := .fresh ⟨1⟩ "default"
                   durable := { checkpoints := .sqlite [], idempotency := .sqlite {} } } }
    oneTask.validate = .ok () ∧ run.outcome start = .error .outOfFuel ∧
      1 + 2 < (run.stateAfter start).session.trace.countP Step.isDispatch := by
  refine ⟨by decide +kernel, ?_, by decide +kernel⟩
  decide +kernel

end Ois.Kernel
