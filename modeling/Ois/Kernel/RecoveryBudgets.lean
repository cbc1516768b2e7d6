import Ois.Library.Histories
import Ois.Kernel.Recovery

/-!
# The two budgets of recovery over whole runs

`RecoveryPolicy.apply` is called on one context until its status is terminal. The retry counter is
raised only below its limit. The recovery counter is shared: a `replan` takes an attempt too, and
does so without a look at the limit.
-/

namespace Ois.Kernel

open Ois.Library Machine

/-- `updated_at` and the failure of one call. -/
structure FailureReport where
  now : DateTime
  failure : FailureClass
  deriving DecidableEq, Repr

/-- A context from which nothing has been spent. -/
def ExecutionContext.unspent (ctx : ExecutionContext) : ExecutionContext :=
  { ctx with retryCount := 0, recoveryAttempts := 0 }

open ExecutionContext

namespace RecoveryPolicy

section apply

variable (policy : RecoveryPolicy) (now : DateTime) (ctx : ExecutionContext)
  (fail : FailureClass)

structure Leaves (decision : RecoveryDecision) (before after : ExecutionContext) : Prop where
  retries : after.retryCount =
    if decision.action = .retry then before.retryCount + 1 else before.retryCount
  attempts : after.recoveryAttempts =
    if decision.action = .recover ∨ decision.action = .replan then before.recoveryAttempts + 1
    else before.recoveryAttempts
  terminal : after.status.isTerminal = decision.action.endsExecution

theorem apply_eq (live : ctx.status.isTerminal = false) :
    (policy.apply now ctx fail).1 =
      match (policy.classify fail ctx).action.status? with
      | none => recorded fail (policy.classify fail ctx) ctx
      | some status => touch now
          { recorded fail (policy.classify fail ctx) ctx with status := status } := by
  have movable : (recorded fail (policy.classify fail ctx) ctx).status.isTerminal =
      false := live
  unfold apply
  cases action : (policy.classify fail ctx).action.status? with
  | none => simp only [action]
  | some status =>
    have moves := action
    simp only [moves, setStatus, movable, Bool.false_eq_true, if_false]

theorem apply_leaves (live : ctx.status.isTerminal = false) :
    Leaves (policy.classify fail ctx) ctx (policy.apply now ctx fail).1 := by
  rw [apply_eq policy now ctx fail live]
  cases action : (policy.classify fail ctx).action <;>
    constructor <;>
      simp only [recorded, RecoveryAction.status?, RecoveryAction.endsExecution, touch, action]
  all_goals first | rfl | exact live

end apply

abbrev Handled := FailureClass × RecoveryDecision

/-- One call of `apply`. A context in a terminal status is left alone. -/
def recoveries (policy : RecoveryPolicy) :
    Machine FailureReport ExecutionContext (Option Handled) :=
  fun report ctx =>
    if ctx.status.isTerminal then (ctx, none)
    else match policy.apply report.now ctx report.failure with
      | (after, .ok decision) => (after, some (report.failure, decision))
      | (after, .error _) => (after, none)

/-- What was handled over a run, in order. -/
def handled (policy : RecoveryPolicy) (reports : List FailureReport)
    (ctx : ExecutionContext) : List Handled :=
  (policy.recoveries.answers reports ctx).filterMap id

def failures (fail : FailureClass) (log : List Handled) : Nat :=
  log.countP fun entry => entry.1 = fail

def decisions (action : RecoveryAction) (log : List Handled) : Nat :=
  log.countP fun entry => entry.2.action = action

/-- The retry budget after a run that handled this and left this context. -/
structure RetriesKept (policy : RecoveryPolicy) (log : List Handled)
    (ctx : ExecutionContext) : Prop where
  bound : ctx.retryCount ≤ policy.maxRetries
  exactly : decisions .retry log = min (failures .transient log) policy.maxRetries

/-- The recovery budget, of which every PLAN failure takes one attempt. -/
structure RecoveriesShared (policy : RecoveryPolicy) (log : List Handled)
    (ctx : ExecutionContext) : Prop where
  bound : ctx.recoveryAttempts ≤ policy.maxRecoveryAttempts
  exactly : decisions .recover log =
    min (failures .state log) (policy.maxRecoveryAttempts - failures .plan log)

structure BudgetsKept (policy : RecoveryPolicy) (log : List Handled)
    (ctx : ExecutionContext) : Prop where
  retries : RetriesKept policy log ctx
  recoveryBound : ctx.recoveryAttempts ≤ policy.maxRecoveryAttempts
  recoveries : decisions .recover log = min (failures .state log) policy.maxRecoveryAttempts

/-- The budgets are kept after the call. -/
def KeepsBudgets (policy : RecoveryPolicy) (ctx : ExecutionContext)
    (before : List FailureReport) (report : FailureReport) : Prop :=
  BudgetsKept policy (policy.handled (before ++ [report]) ctx)
    (policy.recoveries.run (before ++ [report]) ctx)

/-- A PLAN failure finds recovery attempts left. -/
def ReplanLeft (policy : RecoveryPolicy) (ctx : ExecutionContext)
    (before : List FailureReport) (report : FailureReport) : Prop :=
  (policy.recoveries.run before ctx).status.isTerminal = false → report.failure = .plan →
    (policy.recoveries.run before ctx).recoveryAttempts < policy.maxRecoveryAttempts

/-- How the counters of a context add up the decisions. While the context is live,
nothing within a budget has been refused. -/
structure Accounted (log : List Handled) (ctx : ExecutionContext) : Prop where
  retryCount : ctx.retryCount = decisions .retry log
  recoveryAttempts : ctx.recoveryAttempts = decisions .recover log + failures .plan log
  retries : ctx.status.isTerminal = false → decisions .retry log = failures .transient log
  recoveries : ctx.status.isTerminal = false → decisions .recover log = failures .state log

theorem recoveries_terminal (policy : RecoveryPolicy) (report : FailureReport)
    (ctx : ExecutionContext) (ended : ctx.status.isTerminal = true) :
    policy.recoveries report ctx = (ctx, none) := by
  unfold recoveries
  rw [if_pos ended]

theorem recoveries_live (policy : RecoveryPolicy) (report : FailureReport)
    (ctx : ExecutionContext) (live : ctx.status.isTerminal = false) :
    policy.recoveries report ctx = ((policy.apply report.now ctx report.failure).1,
      some (report.failure, policy.classify report.failure ctx)) := by
  have decides := policy.apply_decides report.now ctx report.failure live
  unfold recoveries
  rw [if_neg (by simp [live])]
  cases applied : policy.apply report.now ctx report.failure with
  | mk after out =>
    rw [applied] at decides
    simp only at decides
    rw [decides]

theorem handled_concat (policy : RecoveryPolicy) (before : List FailureReport)
    (report : FailureReport) (ctx : ExecutionContext) :
    policy.handled (before ++ [report]) ctx = policy.handled before ctx ++
      (policy.recoveries.answer report (policy.recoveries.run before ctx)).toList :=
  filter_map_answers_concat policy.recoveries id before report ctx

theorem failures_concat (fail : FailureClass) (log : List Handled) (entry : Handled) :
    failures fail (log ++ [entry]) =
      failures fail log + if entry.1 = fail then 1 else 0 := by
  simp [failures, List.countP_append, List.countP_cons]

theorem decisions_concat (action : RecoveryAction) (log : List Handled) (entry : Handled) :
    decisions action (log ++ [entry]) =
      decisions action log + if entry.2.action = action then 1 else 0 := by
  simp [decisions, List.countP_append, List.countP_cons]

theorem accounted_unspent (ctx : ExecutionContext) : Accounted [] ctx.unspent := by
  constructor <;> intros <;> rfl

section classify

variable (policy : RecoveryPolicy) (fail : FailureClass) (ctx : ExecutionContext)

theorem classify_retry_iff : (policy.classify fail ctx).action = .retry ↔
    fail = .transient ∧ ctx.retryCount < policy.maxRetries :=
  policy.decision_retry_iff fail _ _

theorem classify_recover_iff : (policy.classify fail ctx).action = .recover ↔
    fail = .state ∧ ctx.recoveryAttempts < policy.maxRecoveryAttempts := by
  cases fail with
  | transient => simp only [classify, decision]; split_ifs <;> simp
  | state => simp [classify, decision]
  | _ => simp [classify, decision]

theorem classify_replan_iff : (policy.classify fail ctx).action = .replan ↔
    fail = .plan := by
  cases fail with
  | transient | state => simp only [classify, decision]; split_ifs <;> simp
  | _ => simp [classify, decision]

theorem budget_of_live (live : (policy.classify fail ctx).action.endsExecution = false) :
    (fail = .transient → ctx.retryCount < policy.maxRetries) ∧
      (fail = .state → ctx.recoveryAttempts < policy.maxRecoveryAttempts) := by
  constructor <;> intro same <;> by_contra spent <;> subst same <;>
    simp [classify, decision, spent, RecoveryAction.endsExecution] at live

end classify

section live

variable {policy : RecoveryPolicy} {log : List Handled} {ctx after : ExecutionContext}
  {fail : FailureClass}

theorem accounted_live (accounted : Accounted log ctx)
    (live : ctx.status.isTerminal = false)
    (leaves : Leaves (policy.classify fail ctx) ctx after) :
    Accounted (log ++ [(fail, policy.classify fail ctx)]) after := by
  have retryCount := accounted.retryCount
  have recoveryAttempts := accounted.recoveryAttempts
  have retries := accounted.retries live
  have recoveries := accounted.recoveries live
  have replans := classify_replan_iff policy fail ctx
  have retryIff := classify_retry_iff policy fail ctx
  have recoverIff := classify_recover_iff policy fail ctx
  have budget := budget_of_live policy fail ctx
  have ended := leaves.terminal
  constructor
  · rw [leaves.retries, decisions_concat]
    grind
  · rw [leaves.attempts, decisions_concat, failures_concat]
    grind
  · rw [decisions_concat, failures_concat]
    grind
  · rw [decisions_concat, failures_concat]
    grind

theorem retries_kept_live (accounted : Accounted log ctx)
    (kept : RetriesKept policy log ctx) (live : ctx.status.isTerminal = false)
    (leaves : Leaves (policy.classify fail ctx) ctx after) :
    RetriesKept policy (log ++ [(fail, policy.classify fail ctx)]) after := by
  have retryCount := accounted.retryCount
  have retries := accounted.retries live
  have retryIff := classify_retry_iff policy fail ctx
  have bound := kept.bound
  constructor
  · rw [leaves.retries]
    grind
  · rw [decisions_concat, failures_concat]
    grind

theorem recoveries_shared_live (accounted : Accounted log ctx)
    (kept : RecoveriesShared policy log ctx) (live : ctx.status.isTerminal = false)
    (leaves : Leaves (policy.classify fail ctx) ctx after)
    (left : fail = .plan → ctx.recoveryAttempts < policy.maxRecoveryAttempts) :
    RecoveriesShared policy (log ++ [(fail, policy.classify fail ctx)]) after := by
  have recoveryAttempts := accounted.recoveryAttempts
  have recoveries := accounted.recoveries live
  have replans := classify_replan_iff policy fail ctx
  have recoverIff := classify_recover_iff policy fail ctx
  have bound := kept.bound
  constructor
  · rw [leaves.attempts]
    grind
  · rw [decisions_concat, failures_concat, failures_concat]
    grind

end live

theorem budgets_kept_nil (policy : RecoveryPolicy) (ctx : ExecutionContext) :
    BudgetsKept policy (policy.handled [] ctx.unspent)
      (policy.recoveries.run [] ctx.unspent) := by
  refine ⟨⟨?_, ?_⟩, ?_, ?_⟩ <;> simp [handled, answers, run, decisions, failures, unspent]

theorem handled_next (policy : RecoveryPolicy) (ctx : ExecutionContext)
    (before : List FailureReport) (report : FailureReport) :
    ((policy.recoveries.run before ctx).status.isTerminal = true ∧
      policy.handled (before ++ [report]) ctx = policy.handled before ctx ∧
      policy.recoveries.run (before ++ [report]) ctx = policy.recoveries.run before ctx) ∨
    ((policy.recoveries.run before ctx).status.isTerminal = false ∧
      policy.handled (before ++ [report]) ctx = policy.handled before ctx ++
        [(report.failure, policy.classify report.failure (policy.recoveries.run before ctx))] ∧
      policy.recoveries.run (before ++ [report]) ctx =
        (policy.apply report.now (policy.recoveries.run before ctx) report.failure).1) := by
  rw [handled_concat, run_concat, next, answer]
  cases live : (policy.recoveries.run before ctx).status.isTerminal with
  | true =>
    rw [recoveries_terminal policy report _ live]
    exact .inl ⟨rfl, List.append_nil _, rfl⟩
  | false =>
    rw [recoveries_live policy report _ live]
    exact .inr ⟨rfl, rfl, rfl⟩

theorem accounted_next {policy : RecoveryPolicy} {ctx : ExecutionContext}
    {before : List FailureReport} (report : FailureReport)
    (accounted : Accounted (policy.handled before ctx)
      (policy.recoveries.run before ctx)) :
    Accounted (policy.handled (before ++ [report]) ctx)
      (policy.recoveries.run (before ++ [report]) ctx) := by
  cases handled_next policy ctx before report with
  | inl ended =>
    rw [ended.2.1, ended.2.2]
    exact accounted
  | inr live =>
    rw [live.2.1, live.2.2]
    exact accounted_live accounted live.1 (apply_leaves policy _ _ _ live.1)

theorem accounted_run (policy : RecoveryPolicy) (ctx : ExecutionContext)
    (reports : List FailureReport) :
    Accounted (policy.handled reports ctx.unspent)
      (policy.recoveries.run reports ctx.unspent) := by
  induction reports using List.reverseRecOn with
  | nil => exact accounted_unspent ctx
  | append_singleton before report ih => exact accounted_next report ih

/-- In every run on one context the retry budget is kept whatever else fails, and the
recovery budget is kept, less the PLAN failures, while those find attempts left. -/
theorem recoveries_shared (policy : RecoveryPolicy) (ctx : ExecutionContext)
    (reports : List FailureReport) :
    RetriesKept policy (policy.handled reports ctx.unspent)
        (policy.recoveries.run reports ctx.unspent) ∧
      (Historically (ReplanLeft policy ctx.unspent) reports →
        RecoveriesShared policy (policy.handled reports ctx.unspent)
          (policy.recoveries.run reports ctx.unspent)) := by
  induction reports using List.reverseRecOn with
  | nil =>
    have start := budgets_kept_nil policy ctx
    refine ⟨start.retries, fun _ => ⟨start.recoveryBound, ?_⟩⟩
    simp [handled, answers, decisions, failures]
  | append_singleton before report ih =>
    have accounted := accounted_run policy ctx before
    cases handled_next policy ctx.unspent before report with
    | inl ended =>
      rw [ended.2.1, ended.2.2]
      exact ⟨ih.1, fun left => ih.2 (historically_concat.mp left).1⟩
    | inr live =>
      have leaves := apply_leaves policy report.now _ report.failure live.1
      rw [live.2.1, live.2.2]
      constructor
      · exact retries_kept_live accounted ih.1 live.1 leaves
      · intro left
        have both := historically_concat.mp left
        exact recoveries_shared_live accounted (ih.2 both.1) live.1 leaves (both.2 live.1)

/-- A context with nothing spent. -/
def freshContext : ExecutionContext where
  identity := { executionId := ⟨0⟩ }
  objective := "objective"
  createdAt := DateTime.epoch
  updatedAt := DateTime.epoch

/-- Of one recovery attempt a second PLAN failure takes a second one, and a STATE
failure after a PLAN failure gets none. -/
theorem replans_spend_recoveries :
    let policy : RecoveryPolicy := { maxRecoveryAttempts := 1 }
    let plan : FailureReport := ⟨DateTime.epoch, .plan⟩
    let state : FailureReport := ⟨DateTime.epoch, .state⟩
    (policy.recoveries.run [plan, plan] freshContext).recoveryAttempts = 2 ∧
      decisions .recover (policy.handled [plan, state] freshContext) = 0 ∧
      ¬Historically (KeepsBudgets policy freshContext.unspent) [plan, plan] ∧
      ¬Historically (KeepsBudgets policy freshContext.unspent) [plan, state] := by
  intro policy plan state
  have overspent :
      (policy.recoveries.run [plan, plan] freshContext.unspent).recoveryAttempts = 2 := by
    decide +kernel
  have starved : decisions .recover (policy.handled [plan, state] freshContext.unspent) = 0 ∧
      failures .state (policy.handled [plan, state] freshContext.unspent) = 1 := by
    decide +kernel
  refine ⟨overspent, starved.1, ?_, ?_⟩
  · intro kept
    have bound := (kept [plan] plan [] rfl).recoveryBound
    rw [List.singleton_append, overspent] at bound
    exact absurd bound (by decide)
  · intro kept
    have recoveries := (kept [plan] state [] rfl).recoveries
    rw [List.singleton_append, starved.1, starved.2] at recoveries
    exact absurd recoveries (by decide)

end RecoveryPolicy

end Ois.Kernel
