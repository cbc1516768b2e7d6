import Ois.Kernel.LeaseChecks

/-!
# How started invocations are accounted for

A structured failure is reported with the decided recovery action, unless the call is cancelled or
loses its lease. Every started invocation leaves exactly one outcome in the evidence. Both fail
where the decision ends the execution, and the second also where the result carries a foreign
identifier: then the status walk of the success path raises before the outcome is recorded.
-/

namespace Ois.Kernel

open Ois.Library Ois.Infrastructure Command ExecutionRuntime

namespace Attempt

variable (attempt : Attempt) (store : IdempotencyStore)

def decision (fail : FailureClass) : RecoveryDecision :=
  attempt.runtime.recovery.classify fail attempt.context

/-- The capability was invoked, returned this result and was not cancelled. -/
def Returns (req : InvocationRequest) (res : InvocationResult) : Prop :=
  ∃ version reply, Step.invoke version req reply ∈ attempt.callSteps store ∧
    reply.outcome = .returned res ∧ reply.token.cancelled = false

/-- The capability was invoked and returned this result; `token` is the cancellation token at that
moment. -/
def Answered (req : InvocationRequest) (res : InvocationResult)
    (token : CancellationToken) : Prop :=
  ∃ version reply, Step.invoke version req reply ∈ attempt.callSteps store ∧
    reply.outcome = .returned res ∧ reply.token = token

/-- Every fence check of the call finds its lease current. -/
def KeepsLease : Prop := ∀ lease, Step.fence lease false ∉ attempt.callSteps store

variable {attempt store}

theorem settles_of_returns {req : InvocationRequest} {res : InvocationResult}
    (returns : attempt.Returns store req res) :
    ∃ entry seen reply, req.invocationId = entry.invocationId ∧
      seen.standing.status.isTerminal = false ∧
      (∀ fail, seen.standing.decision attempt.runtime.recovery fail =
      attempt.decision fail) ∧
      seen.story = [.event .capabilityStarted entry.invocationId,
      .invoked attempt.call.version req reply] ∧
      Settles attempt.runtime attempt.world attempt.call entry seen res
      (attempt.outcome store) (attempt.after store).view := by
  obtain ⟨version, reply, invoked, ret, live⟩ := returns
  rw [invoke_mem_story] at invoked
  have blank : (attempt.session store).view.story = [] := rfl
  obtain ⟨entry, entered, miss, runs⟩ := runs_of_invoked (attempt.conduct store) blank invoked
  obtain ⟨rfl, answers, settles⟩ := settles_of_runs runs (by simp [blank]) invoked ret
    (token_uncancelled.mpr live)
  obtain ⟨⟨ctx, _, rfl⟩, _⟩ := answers
  refine ⟨entry, _, reply, rfl, rfl, fun fail => rfl, ?_, settles⟩
  simp [blank]

/-- The failure is reported: a FAILED result with the decided action comes back,
and a decision that ends the execution has moved the context. -/
def ReportsFailure (attempt : Attempt) (store : IdempotencyStore) (fail : FailureClass) :
    Prop :=
  ∃ reported, attempt.outcome store = .ok reported ∧ reported.status = .failed ∧
    (reported.error.bind fun err => err.lookup "recovery_action") =
      some (.str (attempt.decision fail).action.value) ∧
    ((attempt.decision fail).action.endsExecution = true →
      (attempt.decision fail).action.status? = some (attempt.after store).context.status)

theorem cancelled_of_answered {req : InvocationRequest} {res told : InvocationResult}
    {token : CancellationToken} (answered : attempt.Answered store req res token)
    (cancelled : token.cancelled = true) (ret : attempt.outcome store = .ok told) :
    told.status = .cancelled := by
  obtain ⟨version, reply, invoked, returns, rfl⟩ := answered
  rw [invoke_mem_story] at invoked
  have blank : (attempt.session store).view.story = [] := rfl
  obtain ⟨entry, entered, miss, runs⟩ := runs_of_invoked (attempt.conduct store) blank invoked
  have told_of : ∀ {msg inTheWay last},
      Concludes (cancelledResult attempt.call.capabilityId msg entry.invocationId) inTheWay last
        (attempt.outcome store) (attempt.after store).view → told.status = .cancelled := by
    rintro msg inTheWay last (⟨same, _⟩ | ⟨_, ⟨err, raised⟩, _⟩)
    · rw [ret] at same
      rw [Except.ok.inj same]
      rfl
    · rw [ret] at raised
      cases raised
  cases runs with
  | cancelled msg cancels concludes => exact told_of concludes
  | interrupted msg other another answers interrupts concludes => exact told_of concludes
  | failed err other another answers raises concludes =>
    obtain ⟨_, _, rfl⟩ : version = attempt.call.version ∧ req = other ∧ reply = another := by
      simpa [concludes_story concludes, blank] using invoked
    rw [returns] at raises
    cases raises
  | returned other asked another answers returns_ live settles =>
    obtain ⟨_, _, rfl⟩ : version = attempt.call.version ∧ req = asked ∧ reply = another := by
      rcases settles_story settles with story | story | ⟨_, story⟩ <;>
        simpa [story, blank] using invoked
    rw [token_uncancelled.mp live] at cancelled
    cases cancelled

theorem reports_failure_iff {req : InvocationRequest} {res : InvocationResult}
    {names : Members} {value : Json}
    (fence : FenceHolds attempt.runtime attempt.world attempt.call.workerLease)
    (returns : attempt.Returns store req res)
    (same : res.invocationId = req.invocationId) (failed : res.status = .failed)
    (carries : res.error = some names)
    (named : names.lookup "failure_class" = some value) :
    attempt.ReportsFailure store (failureClassOf value) ↔
      (attempt.decision (failureClassOf value)).action.endsExecution = false := by
  have structured : structuredFailure? res = some (names, failureClassOf value) := by
    simp [structuredFailure?, failed, carries, named]
  obtain ⟨entry, seen, reply, requested, movable, decides, _, settles⟩ :=
    Attempt.settles_of_returns returns
  have ends := after_recovery_is_terminal attempt.runtime.recovery seen res movable
  simp only [structured, Option.some.injEq, Prod.mk.injEq, decides] at ends
  have sameEntry : res.invocationId = entry.invocationId := same.trans requested
  unfold Attempt.ReportsFailure
  generalize attempt.outcome store = out at settles ⊢
  generalize (attempt.after store).view = after at settles
  cases settles with
  | undecided err _ _ _ lost => exact absurd fence lost
  | mismatched differs => exact absurd sameEntry differs
  | stuck err _ terminal stateMachine =>
    obtain ⟨_, _, ⟨_, rfl⟩, ended⟩ := ends.mp terminal
    simp [ended]
  | invalid err _ succeeded rejected => simp [failed] at succeeded
  | unstored err _ kept lost => exact absurd fence lost
  | unrouted err _ open_ obstructed =>
    rcases obstructed with lost | stuck
    · exact absurd fence lost
    · refine absurd ?_ stuck
      simp only [afterRecovery, structured]
      exact storable_recovered attempt.runtime.recovery (failureClassOf value) seen
  | routed _ open_ =>
    have unended : (attempt.decision (failureClassOf value)).action.endsExecution = false := by
      by_contra ended
      rw [Bool.not_eq_false] at ended
      have terminal := ends.mpr ⟨names, failureClassOf value, ⟨rfl, rfl⟩, ended⟩
      simp [open_] at terminal
    refine ⟨fun _ => unended, fun _ => ⟨_, rfl, by simp [failed], ?_, by simp [unended]⟩⟩
    simp [reported, structured, decides]

end Attempt

/-- A structured failure is reported exactly when the call is not cancelled before the capability is
done, keeps its lease at every fence check, and the decision on the failure does not end the
execution. -/
theorem structured_failure_reported_iff (attempt : Attempt) (store : IdempotencyStore)
    (req : InvocationRequest) (res : InvocationResult) (token : CancellationToken)
    (names : Members) (value : Json)
    (answered : attempt.Answered store req res token)
    (same : res.invocationId = req.invocationId) (failed : res.status = .failed)
    (carries : res.error = some names)
    (named : names.lookup "failure_class" = some value) :
    attempt.ReportsFailure store (failureClassOf value) ↔
      token.cancelled = false ∧ attempt.KeepsLease store ∧
        (attempt.decision (failureClassOf value)).action.endsExecution = false := by
  rcases attempt.granted_or_lost store with ⟨sameOutcome, sameAfter, held⟩ | ⟨raised, lost⟩
  · have keeps : attempt.KeepsLease store := fun lease failed => held ⟨lease, failed⟩
    cases cancelled : token.cancelled with
    | true =>
      refine iff_of_false ?_ (by simp)
      rintro ⟨told, ret, status, _⟩
      rw [Attempt.cancelled_of_answered answered cancelled ret] at status
      cases status
    | false =>
      obtain ⟨version, reply, invoked, returns, rfl⟩ := answered
      have fence := attempt.granted_fence (Attempt.leased_of_step invoked)
      have granted : attempt.granted.Returns store req res := by
        refine ⟨version, reply, ?_, returns, cancelled⟩
        rw [Attempt.callSteps, sameAfter] at invoked
        exact invoked
      have reports := Attempt.reports_failure_iff fence granted same failed carries named
      unfold Attempt.ReportsFailure at reports ⊢
      rw [sameOutcome, sameAfter]
      exact reports.trans ⟨fun unended => ⟨rfl, keeps, unended⟩, fun all => all.2.2⟩
  · refine iff_of_false ?_ ?_
    · rintro ⟨told, ret, _⟩
      obtain ⟨err, ends⟩ := raised
      rw [ends] at ret
      cases ret
    · rintro ⟨_, keeps, _⟩
      obtain ⟨lease, failed⟩ := lost
      exact keeps lease failed

def failingAttempt (fail : FailureClass) : Attempt :=
  { runtime := .permissive [{ capabilityId := "publish", version := "1.0.0" }]
    world := .ending fun req => .returned {
      invocationId := req.invocationId, capabilityId := req.capabilityId
      status := .failed, error := some [("failure_class", .str fail.value)] }
    context := .fresh ⟨1⟩ "default"
    checkpoints := .sqlite []
    call := { capabilityId := "publish", version := "1.0.0", inputData := []
              invocationId := some "publish-1" } }

/-- The request that the capability gets in `failingAttempt`. -/
def failingRequest : InvocationRequest :=
  { invocationId := "publish-1", capabilityId := "publish", input := []
    execution := { ExecutionContext.fresh ⟨1⟩ "default" with
      status := .executing, currentNode := some "publish" }
    timeoutSeconds := some 0x403E000000000000 }

def returnedFailure (fail : FailureClass) : InvocationResult :=
  { invocationId := "publish-1", capabilityId := "publish", status := .failed
    error := some [("failure_class", .str fail.value)] }

theorem failing_attempt_answered (fail : FailureClass) :
    (failingAttempt fail).Answered (.sqlite {}) failingRequest (returnedFailure fail) {} := by
  refine ⟨"1.0.0", { outcome := .returned (returnedFailure fail) }, ?_, rfl, rfl⟩
  cases fail <;> decide +kernel

theorem failing_attempt_returns (fail : FailureClass) :
    (failingAttempt fail).Returns (.sqlite {}) failingRequest (returnedFailure fail) := by
  obtain ⟨version, reply, invoked, ret, token⟩ := failing_attempt_answered fail
  exact ⟨version, reply, invoked, ret, by rw [token]⟩

theorem tool_failure_unfenced :
    ((failingAttempt .tool).callSteps (.sqlite {})).all (fun step => !step.isFence) = true := by
  decide +kernel

theorem tool_failure_reported :
    (failingAttempt .tool).ReportsFailure (.sqlite {}) .tool :=
  (structured_failure_reported_iff (failingAttempt .tool) (.sqlite {}) failingRequest
    (returnedFailure .tool) {} [("failure_class", .str "tool")] (.str "tool")
    (failing_attempt_answered .tool) rfl rfl rfl rfl).mpr ⟨rfl, fun _ failed =>
      absurd (List.all_eq_true.mp tool_failure_unfenced _ failed) (by simp [Step.isFence]), rfl⟩

/-- A PERMISSION failure escalates, and the status walk then raises. -/
theorem permission_failure_raises :
    (failingAttempt .permission).Returns (.sqlite {}) failingRequest (returnedFailure .permission) ∧
      (failingAttempt .permission).outcome (.sqlite {}) = .error ⟨.valueError,
      "Terminal execution status escalated cannot transition to observing."⟩ ∧
      ¬(failingAttempt .permission).ReportsFailure (.sqlite {}) .permission := by
  have raises : (failingAttempt .permission).outcome (.sqlite {}) = .error ⟨.valueError,
      "Terminal execution status escalated cannot transition to observing."⟩ := by
    decide +kernel
  refine ⟨failing_attempt_returns .permission, raises, ?_⟩
  rintro ⟨reported, ret, _⟩
  rw [raises] at ret
  simp at ret

def EventType.isOutcome : EventType → Bool
  | capabilityCompleted | failure | cancelled => true
  | _ => false

def Step.recordsOutcome (callId : String) : Step → Bool
  | .record event => event.eventType.isOutcome && event.invocationId? == some callId
  | _ => false

/-- Every started invocation has exactly one outcome, and a call that was answered
from the store or refused by policy has none. -/
structure Accounted (steps : List Step) : Prop where
  started : ∀ callId, (∃ step ∈ steps, step.records .capabilityStarted callId) →
    steps.countP (Step.recordsOutcome callId) = 1
  replayed : ∀ asked, (∃ step ∈ steps, step.records .idempotencyHit asked) →
    ∀ callId, steps.countP (Step.recordsOutcome callId) = 0
  refused : ∀ asked, (∃ step ∈ steps, step.records .authorizationDenied asked) →
    ∀ callId, steps.countP (Step.recordsOutcome callId) = 0

def Mark.isOutcome (callId : String) : Mark → Bool
  | .event kind named => kind.isOutcome && named == callId
  | _ => false

open Mark

theorem is_marked_of_is_outcome {kind : EventType} (out : kind.isOutcome = true) :
    kind.isMarked = true := by
  cases kind <;> simp [EventType.isOutcome, EventType.isMarked] at out ⊢

theorem mark_any_outcome (callId : String) (step : Step) :
    (step.mark?.map (isOutcome callId)).getD false = step.recordsOutcome callId := by
  cases step with
  | record event =>
    cases out : event.eventType.isOutcome with
    | true =>
      have marked := is_marked_of_is_outcome out
      cases named : event.invocationId? <;>
        simp [Step.mark?, Step.recordsOutcome, marked, named, out, isOutcome]
    | false =>
      simp only [Step.mark?, Step.recordsOutcome, out, Bool.false_and]
      split_ifs
      · cases event.invocationId? <;> simp [isOutcome, out]
      · rfl
  | _ => rfl

theorem count_outcomes (callId : String) (view : View) (steps : List Step)
    (trailed : view.trail = trail steps) :
    steps.countP (Step.recordsOutcome callId) =
      view.story.countP (isOutcome callId) := by
  have onTrail : steps.countP (Step.recordsOutcome callId) =
      view.trail.countP (isOutcome callId) := by
    simp only [trailed, trail, List.countP_filterMap, mark_any_outcome]
  rw [onTrail, View.story, List.countP_filter]
  congr 1
  funext mark
  cases mark <;> simp [isOutcome, isSaved]

/-- `Accounted` in terms of the story. -/
structure StoryAccounted (story : List Mark) : Prop where
  started : ∀ callId, .event .capabilityStarted callId ∈ story →
    story.countP (isOutcome callId) = 1
  replayed : ∀ asked, .event .idempotencyHit asked ∈ story →
    ∀ callId, story.countP (isOutcome callId) = 0
  refused : ∀ asked, .event .authorizationDenied asked ∈ story →
    ∀ callId, story.countP (isOutcome callId) = 0

theorem accounted_iff (view : View) (steps : List Step) (trailed : view.trail = trail steps) :
    Accounted steps ↔ StoryAccounted view.story := by
  have counts := fun callId => count_outcomes callId view steps trailed
  have records := fun (kind : EventType) (marked : kind.isMarked = true)
    callId => exists_records_iff marked callId view steps trailed
  constructor
  · intro accounted
    constructor
    · intro callId started
      rw [← counts]
      exact accounted.started callId ((records _ rfl callId).mpr started)
    · intro asked replayed callId
      rw [← counts]
      exact accounted.replayed asked ((records _ rfl asked).mpr replayed) callId
    · intro asked refused callId
      rw [← counts]
      exact accounted.refused asked ((records _ rfl asked).mpr refused) callId
  · intro accounted
    constructor
    · intro callId started
      rw [counts]
      exact accounted.started callId ((records _ rfl callId).mp started)
    · intro asked replayed callId
      rw [counts]
      exact accounted.replayed asked ((records _ rfl asked).mp replayed) callId
    · intro asked refused callId
      rw [counts]
      exact accounted.refused asked ((records _ rfl asked).mp refused) callId

namespace Attempt

/-- What a capability must return for its invocation to be accounted for: its own
identifier, and no failure on which the execution ends. -/
def Accountable (attempt : Attempt) (req : InvocationRequest)
    (res : InvocationResult) : Prop :=
  res.invocationId = req.invocationId ∧
    ∀ names fail, structuredFailure? res = some (names, fail) →
      (attempt.decision fail).action.endsExecution = false

variable {attempt : Attempt} {store : IdempotencyStore}

theorem accounted_of_no_return
    (unreturned : ∀ req res, ¬attempt.Returns store req res) :
    StoryAccounted (attempt.after store).view.story := by
  have invokes : ∀ version req reply res,
      .invoked version req reply ∈ (attempt.after store).view.story →
      reply.outcome = .returned res → reply.token.cancelled = true := by
    intro version req reply res invoked ret
    by_contra live
    rw [Bool.not_eq_true] at live
    exact unreturned req res
      ⟨version, reply, invoke_mem_story.mpr invoked, ret, live⟩
  have conduct := attempt.conduct store
  have blank : (attempt.session store).view.story = [] := rfl
  generalize attempt.outcome store = out at conduct
  generalize (attempt.after store).view = after at conduct invokes ⊢
  cases conduct with
  | terminal | unfenced | unregistered => constructor <;> simp [blank]
  | cancelled _ _ entry msg entered movable cancels concludes =>
    rw [concludes_story concludes]
    constructor <;> simp [blank]
  | invalid err entry req entered movable made rejected =>
    constructor <;> simp [blank]
  | unauthorized err entry req moment _ entered movable made rejected leaves =>
    rcases leaves with rfl | rfl <;> constructor <;>
      simp [blank, isOutcome, EventType.isOutcome]
  | replayed cached entry entered movable hit =>
    constructor <;> simp [blank, isOutcome, EventType.isOutcome]
  | unstarted err entry entered movable miss obstructed => constructor <;> simp [blank]
  | ran _ _ entry entered movable miss runs =>
    cases runs with
    | cancelled msg cancels concludes
    | interrupted msg req reply answers interrupts concludes
    | failed err req reply answers raises concludes =>
      rw [concludes_story concludes]
      constructor <;> simp [blank, isOutcome, EventType.isOutcome]
    | returned res req reply answers ret live settles =>
      have cancelled := invokes attempt.call.version req reply res (by
        rcases settles_story settles with told | told | ⟨_, told⟩ <;> simp [told]) ret
      rw [token_uncancelled.mp live] at cancelled
      simp at cancelled

theorem returns_unique {req other : InvocationRequest}
    {res another : InvocationResult} (returns : attempt.Returns store req res)
    (also : attempt.Returns store other another) : other = req ∧ another = res := by
  obtain ⟨version, reply, invoked, ret, live⟩ := returns
  obtain ⟨otherVersion, otherReply, otherInvoked, otherReturned, _⟩ := also
  rw [invoke_mem_story] at invoked otherInvoked
  have blank : (attempt.session store).view.story = [] := rfl
  obtain ⟨entry, entered, miss, runs⟩ := runs_of_invoked (attempt.conduct store) blank invoked
  obtain ⟨rfl, answers, settles⟩ := settles_of_runs runs (by simp [blank]) invoked ret
    (token_uncancelled.mpr live)
  have same : otherVersion = attempt.call.version ∧ other = req ∧ otherReply = reply := by
    rcases settles_story settles with told | told | ⟨_, told⟩ <;>
      simpa [told, blank] using otherInvoked
  obtain ⟨_, rfl, rfl⟩ := same
  rw [ret, Outcome.returned.injEq] at otherReturned
  exact ⟨rfl, otherReturned.symm⟩

theorem accounted_of_return {req : InvocationRequest} {res : InvocationResult}
    (fence : FenceHolds attempt.runtime attempt.world attempt.call.workerLease)
    (returns : attempt.Returns store req res) :
    StoryAccounted (attempt.after store).view.story ↔ attempt.Accountable req res := by
  obtain ⟨entry, seen, reply, requested, movable, decides, told, settles⟩ :=
    settles_of_returns returns
  have ends := after_recovery_is_terminal attempt.runtime.recovery seen res movable
  simp only [decides] at ends
  have counted : ∀ kept : Bool, StoryAccounted ((seen.story ++
      [.event .capabilityCompleted entry.invocationId]) ++
        if kept then [.stored entry.key res] else []) := by
    intro kept
    cases kept <;> constructor <;> simp [told, isOutcome, EventType.isOutcome]
  have uncounted : ¬StoryAccounted seen.story := by
    intro accounted
    have once := accounted.started entry.invocationId (by simp [told])
    simp [told, isOutcome, EventType.isOutcome] at once
  have plain : res.status ≠ .failed → ∀ names fail,
      structuredFailure? res = some (names, fail) →
        (attempt.decision fail).action.endsExecution = false := by
    intro notFailed names fail structured
    exact absurd (structured_failure_failed structured) notFailed
  have unended :
      (afterRecovery attempt.runtime.recovery seen res).standing.status.isTerminal = false →
        ∀ names fail, structuredFailure? res = some (names, fail) →
          (attempt.decision fail).action.endsExecution = false := by
    intro open_ names fail structured
    by_contra ended
    have terminal := ends.mpr ⟨names, fail, structured, by simpa using ended⟩
    simp [open_] at terminal
  unfold Accountable
  rw [requested]
  generalize attempt.outcome store = out at settles
  generalize (attempt.after store).view = after at settles ⊢
  cases settles with
  | undecided err _ _ _ lost => exact absurd fence lost
  | mismatched differs => simp [uncounted, differs]
  | stuck err same terminal stateMachine =>
    obtain ⟨names, fail, structured, ended⟩ := ends.mp terminal
    rw [story_after_recovery]
    refine iff_of_false uncounted fun accountable => ?_
    simp [accountable.2 names fail structured] at ended
  | invalid err same succeeded rejected =>
    rw [story_completed]
    exact iff_of_true (by simpa using counted false) ⟨same, plain (by simp [succeeded])⟩
  | unstored err same kept lost => exact absurd fence lost
  | unrouted err same open_ obstructed =>
    simp only [story_keeping, story_completed, story_after_recovery]
    exact iff_of_true (counted _) ⟨same, unended open_⟩
  | routed same open_ =>
    simp only [story_moved, story_saved, story_keeping, story_completed, story_after_recovery]
    exact iff_of_true (counted _) ⟨same, unended open_⟩

end Attempt

/-- In a sequence of calls, a call is accounted for exactly when whatever result
its capability returned is accountable. -/
theorem call_accounted_iff (past : List Attempt) (store : IdempotencyStore) (attempt : Attempt)
    (fence : FenceHolds attempt.runtime attempt.world attempt.call.workerLease) :
    Accounted (attempt.callSteps (storeAfter past store)) ↔
      ∀ req res, attempt.Returns (storeAfter past store) req res →
      attempt.Accountable req res := by
  rw [accounted_iff (attempt.after (storeAfter past store)).view
    (attempt.callSteps (storeAfter past store)) rfl]
  by_cases ret : ∃ req res, attempt.Returns (storeAfter past store) req res
  · obtain ⟨req, res, returns⟩ := ret
    rw [Attempt.accounted_of_return fence returns]
    constructor
    · intro accountable other another also
      obtain ⟨rfl, rfl⟩ := Attempt.returns_unique returns also
      exact accountable
    · intro accountable
      exact accountable req res returns
  · push Not at ret
    apply iff_of_true (Attempt.accounted_of_no_return ret)
    intro req res returns
    exact absurd returns (ret req res)

theorem tool_failure_accounted :
    Accounted ((failingAttempt .tool).callSteps (storeAfter [] (.sqlite {}))) := by
  refine (call_accounted_iff [] (.sqlite {}) (failingAttempt .tool)
    (by simp [FenceHolds, failingAttempt, permissive])).mpr ?_
  intro req res returns
  obtain ⟨rfl, rfl⟩ := Attempt.returns_unique (failing_attempt_returns .tool) returns
  refine ⟨rfl, ?_⟩
  intro names fail structured
  have named : (names, fail) = ([("failure_class", .str "tool")], .tool) :=
    Option.some.inj (structured.symm.trans (by decide))
  rw [(Prod.mk.inj named).2]
  rfl

/-- An escalated failure leaves a started invocation without an outcome. -/
theorem permission_failure_unaccounted :
    ¬Accounted ((failingAttempt .permission).callSteps (storeAfter [] (.sqlite {}))) := by
  intro accounted
  have once := accounted.started "publish-1" (by decide +kernel)
  revert once
  decide +kernel

end Ois.Kernel
