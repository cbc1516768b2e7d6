import Ois.Kernel.RuntimeView

/-!
# Everything a call of the runtime can do

`Conduct` lists the ways in which `execute` can end, each with the view it leaves and the reason
for it; `Runs` does so for a capability that was started and `Settles` for a result that was
returned.
-/

namespace Ois.Kernel

open Ois.Library Ois.Infrastructure Command

namespace ExecutionRuntime

def Concludes (res : InvocationResult) (inTheWay : Prop) (last : View)
    (out : Except PyError InvocationResult) (after : View) : Prop :=
  out = .ok res ∧ after = last.saved ∨
    inTheWay ∧ (∃ err, out = .error err) ∧ after = last

def startedView (entry : Entry) (seen : View) : View :=
  (seen.movedTo .executing).saved.marked (.event .capabilityStarted entry.invocationId)

section

variable (rt : ExecutionRuntime) (world : World) (call : Call)

/-- How `settle` ends. `seen` is the view when the capability has returned. -/
inductive Settles (entry : Entry) (seen : View) (res : InvocationResult) :
    Except PyError InvocationResult → View → Prop where
  | undecided (err : PyError) (names : Members) (fail : FailureClass)
      (structured : structuredFailure? res = some (names, fail))
      (lost : ¬FenceHolds rt world call.workerLease) :
      Settles entry seen res (.error err) (seen.recovered rt.recovery fail)
  | mismatched (differs : res.invocationId ≠ entry.invocationId) :
      Settles entry seen res (.error wrongInvocationId)
        (afterRecovery rt.recovery seen res)
  | stuck (err : PyError) (same : res.invocationId = entry.invocationId)
      (terminal : (afterRecovery rt.recovery seen res).standing.status.isTerminal = true)
      (stateMachine : err.kind = .valueError) :
      Settles entry seen res (.error err) (afterRecovery rt.recovery seen res)
  | invalid (err : PyError) (same : res.invocationId = entry.invocationId)
      (succeeded : res.status = .succeeded)
      (rejected : rt.validateOutput res entry.contract = .error err) :
      Settles entry seen res (.error err) (seen.completed entry.invocationId .validating)
  | unstored (err : PyError) (same : res.invocationId = entry.invocationId)
      (kept : res.isTerminal = true) (lost : ¬FenceHolds rt world call.workerLease) :
      Settles entry seen res (.error err) (seen.completed entry.invocationId .updatingState)
  | unrouted (err : PyError) (same : res.invocationId = entry.invocationId)
      (movable : (afterRecovery rt.recovery seen res).standing.status.isTerminal = false)
      (obstructed : Obstructed rt world call.workerLease
        (afterRecovery rt.recovery seen res)) :
      Settles entry seen res (.error err) (keeping entry.key res
        ((afterRecovery rt.recovery seen res).completed entry.invocationId .checkpointing))
  | routed (same : res.invocationId = entry.invocationId)
      (movable :
        (afterRecovery rt.recovery seen res).standing.status.isTerminal = false) :
      Settles entry seen res (.ok (reported rt.recovery seen res))
        ((keeping entry.key res ((afterRecovery rt.recovery seen res).completed
          entry.invocationId .checkpointing)).saved.movedTo .routed)

/-- How a started capability ends. `seen` is the view when it has started. -/
inductive Runs (entry : Entry) (seen : View) :
    Except PyError InvocationResult → View → Prop where
  | cancelled (out : Except PyError InvocationResult) (after : View) (msg : String)
      (cancels : Cancels world msg)
      (concludes : Concludes (cancelledResult call.capabilityId msg entry.invocationId)
        (Obstructed rt world call.workerLease seen)
        ((seen.movedTo .stopped).marked (.event .cancelled entry.invocationId))
        out after) :
      Runs entry seen out after
  | interrupted (out : Except PyError InvocationResult) (after : View)
      (msg : String) (req : InvocationRequest) (reply : Reply)
      (answers : Answers world call entry seen req reply)
      (interrupts : reply.outcome = .cancelled msg ∨
        (∃ res, reply.outcome = .returned res) ∧ reply.token.raiseIfCancelled = some msg)
      (concludes : Concludes (cancelledResult call.capabilityId msg entry.invocationId)
        (Obstructed rt world call.workerLease seen)
        (((seen.marked (.invoked call.version req reply)).movedTo .stopped).marked
          (.event .cancelled entry.invocationId)) out after) :
      Runs entry seen out after
  | failed (out : Except PyError InvocationResult) (after : View) (err : PyError)
      (req : InvocationRequest) (reply : Reply)
      (answers : Answers world call entry seen req reply)
      (raises : reply.outcome = .raised err)
      (concludes : Concludes (failedResult call.capabilityId entry.invocationId err)
        (¬FenceHolds rt world call.workerLease)
        (((seen.marked (.invoked call.version req reply)).recovered
          rt.recovery .tool).marked (.event .failure entry.invocationId))
        out after) :
      Runs entry seen out after
  | returned (out : Except PyError InvocationResult) (after : View)
      (res : InvocationResult) (req : InvocationRequest) (reply : Reply)
      (answers : Answers world call entry seen req reply)
      (returns : reply.outcome = .returned res)
      (live : reply.token.raiseIfCancelled = none)
      (settles : Settles rt world call entry
        (seen.marked (.invoked call.version req reply)) res out after) :
      Runs entry seen out after

/-- How `execute` ends. `seen` is the view when it is called and `fresh` the
identifier it draws when it is given none. -/
inductive Conduct (fresh : Uuid) (seen : View) : Except PyError InvocationResult → View → Prop where
  | terminal (err : PyError) (ended : seen.standing.status.isTerminal = true) :
      Conduct fresh seen (.error err) seen
  | unfenced (err : PyError) (lost : ¬FenceHolds rt world call.workerLease) :
      Conduct fresh seen (.error err) seen
  | unregistered (err : PyError) (movable : seen.standing.status.isTerminal = false)
      (missing : rt.registry.get call.capabilityId call.version = .error err) :
      Conduct fresh seen (.error err) (seen.movedTo .normalized)
  | cancelled (out : Except PyError InvocationResult) (after : View) (entry : Entry)
      (msg : String) (entered : Entered rt fresh call entry)
      (movable : seen.standing.status.isTerminal = false)
      (cancels : Cancels world msg)
      (concludes : Concludes (cancelledResult call.capabilityId msg entry.invocationId)
        (Obstructed rt world call.workerLease seen)
        ((seen.movedTo .stopped).marked (.event .cancelled entry.invocationId))
        out after) :
      Conduct fresh seen out after
  | invalid (err : PyError) (entry : Entry) (req : InvocationRequest)
      (entered : Entered rt fresh call entry)
      (movable : seen.standing.status.isTerminal = false)
      (made : Requests call entry (seen.movedTo .planValidated) req)
      (rejected : rt.validateInput req entry.contract = .error err) :
      Conduct fresh seen (.error err) (seen.movedTo .planValidated)
  | unauthorized (err : PyError) (entry : Entry) (req : InvocationRequest)
      (moment : Nat) (after : View) (entered : Entered rt fresh call entry)
      (movable : seen.standing.status.isTerminal = false)
      (made : Requests call entry (seen.movedTo .planValidated) req)
      (rejected : world.authorize moment req entry.contract = .error err)
      (leaves : after = seen.movedTo .planValidated ∨ after = (seen.movedTo .planValidated).marked
          (.event .authorizationDenied entry.invocationId)) :
      Conduct fresh seen (.error err) after
  | replayed (cached : InvocationResult) (entry : Entry)
      (entered : Entered rt fresh call entry)
      (movable : seen.standing.status.isTerminal = false)
      (hit : seen.idempotency.get entry.key = some cached) :
      Conduct fresh seen (.ok cached) ((seen.movedTo .planValidated).marked
        (.event .idempotencyHit entry.invocationId))
  | unstarted (err : PyError) (entry : Entry) (entered : Entered rt fresh call entry)
      (movable : seen.standing.status.isTerminal = false)
      (miss : seen.idempotency.get entry.key = none)
      (obstructed : Obstructed rt world call.workerLease seen) :
      Conduct fresh seen (.error err) (seen.movedTo .executing)
  | ran (out : Except PyError InvocationResult) (after : View) (entry : Entry)
      (entered : Entered rt fresh call entry)
      (movable : seen.standing.status.isTerminal = false)
      (miss : seen.idempotency.get entry.key = none)
      (runs : Runs rt world call entry (startedView entry seen) out after) :
      Conduct fresh seen out after

end

variable {rt : ExecutionRuntime} {world : World} {call : Call}

variable (policy : RecoveryPolicy) (seen : View) (res : InvocationResult)

@[simp] theorem reported_invocation_id :
    (reported policy seen res).invocationId = res.invocationId := by
  unfold reported
  split <;> rfl

@[simp] theorem reported_status : (reported policy seen res).status = res.status := by
  unfold reported
  split <;> rfl

theorem structured_failure_failed {res : InvocationResult}
    {failed : Members × FailureClass} (structured : structuredFailure? res = some failed) :
    res.status = .failed := by
  unfold structuredFailure? at structured
  split_ifs at structured with isFailed
  exact isFailed

theorem unreported (notFailed : res.status ≠ .failed) :
    reported policy seen res = res ∧ afterRecovery policy seen res = seen := by
  cases structured : structuredFailure? res with
  | none => simp [reported, afterRecovery, structured]
  | some failed => exact absurd (structured_failure_failed structured) notFailed

theorem not_failed_of_terminal {res : InvocationResult}
    (terminal : res.isTerminal = true) : res.status ≠ .failed := by
  intro failed
  simp [InvocationResult.isTerminal, failed] at terminal

theorem keeping_reported (seen other : View) (key : String) (res : InvocationResult) :
    keeping key (reported policy seen res) other = keeping key res other := by
  unfold keeping
  have sameTerminal : (reported policy seen res).isTerminal = res.isTerminal := by
    simp [InvocationResult.isTerminal]
  rw [sameTerminal]
  split_ifs with terminal
  · rw [(unreported policy seen res (not_failed_of_terminal terminal)).1]
  · rfl

theorem keeping_moved (status : ExecutionStatus) (key : String) (res : InvocationResult)
    (seen : View) :
    (keeping key res seen).movedTo status = keeping key res (seen.movedTo status) := by
  unfold keeping
  split_ifs <;> rfl

theorem settle_settles (entry : Entry) (seen : View) (res : InvocationResult)
    (movable : seen.standing.status.isTerminal = false) :
    Sees (rt.settle world call entry res)
      (fun value => Settles rt world call entry seen res (.ok value))
      (fun err => Settles rt world call entry seen res (.error err)) seen := by
  refine shows_bind (recover_structured_sees call entry res movable ?_
    fun names fail structured lost err => .undecided err names fail structured lost)
  refine shows_bind (observe_sees call entry _ ?_ ?_ ?_)
  · intro same open_
    rw [reported_invocation_id] at same
    refine shows_bind (check_output_sees entry _ rfl ?_ ?_)
    · refine shows_bind (route_sees call entry _ rfl (shows_pure ?_) ?_ ?_)
      · rw [keeping_reported, keeping_moved]
        exact .routed same open_
      · intro kept lost err
        have terminal : res.isTerminal = true := by
          simpa [InvocationResult.isTerminal] using kept
        have plain := unreported rt.recovery seen res (not_failed_of_terminal terminal)
        rw [plain.2]
        exact .unstored err same terminal lost
      · intro obstructed err
        rw [keeping_reported, keeping_moved]
        exact .unrouted err same open_ obstructed
    · intro err succeeded rejected
      rw [reported_status] at succeeded
      have plain := unreported rt.recovery seen res (by simp [succeeded])
      rw [plain.1] at rejected
      rw [plain.2]
      exact .invalid err same succeeded rejected
  · intro differs
    rw [reported_invocation_id] at differs
    exact .mismatched differs
  · intro same terminal err stateMachine
    rw [reported_invocation_id] at same
    exact .stuck err same terminal stateMachine

theorem run_capability_runs (entry : Entry) (seen : View)
    (movable : seen.standing.status.isTerminal = false) :
    Sees (rt.runCapability world call entry)
      (fun value => Runs rt world call entry (startedView entry seen) (.ok value))
      (fun err after =>
      Runs rt world call entry (startedView entry seen) (.error err) after ∨
      Obstructed rt world call.workerLease seen ∧ after = seen.movedTo .executing)
      seen := by
  refine shows_bind (start_sees call entry movable ?_ fun obstructed err =>
    Or.inr ⟨obstructed, rfl⟩)
  refine shows_bind (perform_sees call entry ?_ ?_ ?_ ?_)
  · intro msg cancels
    refine handle_cancellation_sees _ _ _ _ rfl ?_ ?_
    · exact .cancelled _ _ msg cancels (Or.inl ⟨rfl, rfl⟩)
    · intro obstructed err
      exact Or.inl (.cancelled _ _ msg cancels (Or.inr ⟨obstructed, ⟨err, rfl⟩, rfl⟩))
  · intro msg req reply res answers returns cancels
    have interrupts : reply.outcome = .cancelled msg ∨
        (∃ res, reply.outcome = .returned res) ∧
          reply.token.raiseIfCancelled = some msg :=
      Or.inr ⟨⟨res, returns⟩, cancels⟩
    refine handle_cancellation_sees _ _ _ _ rfl ?_ ?_
    · exact .interrupted _ _ msg req reply answers interrupts (Or.inl ⟨rfl, rfl⟩)
    · intro obstructed err
      exact Or.inl (.interrupted _ _ msg req reply answers interrupts
        (Or.inr ⟨obstructed, ⟨err, rfl⟩, rfl⟩))
  · intro req reply res answers returns live
    refine (settle_settles entry _ res rfl).mono ?_ ?_
    · intro value after settles
      exact .returned _ after res req reply answers returns live settles
    · intro err after settles
      exact Or.inl (.returned _ after res req reply answers returns live settles)
  · intro req reply answers unreturned
    cases ends : reply.outcome with
    | cancelled msg =>
      refine handle_cancellation_sees _ _ _ _ rfl ?_ ?_
      · exact .interrupted _ _ msg req reply answers (Or.inl ends) (Or.inl ⟨rfl, rfl⟩)
      · intro obstructed err
        exact Or.inl (.interrupted _ _ msg req reply answers (Or.inl ends)
          (Or.inr ⟨obstructed, ⟨err, rfl⟩, rfl⟩))
    | raised err =>
      refine handle_failure_sees _ _ _ _ rfl ?_ ?_
      · exact .failed _ _ err req reply answers ends (Or.inl ⟨rfl, rfl⟩)
      · intro lost other
        exact Or.inl (.failed _ _ err req reply answers ends
          (Or.inr ⟨lost, ⟨other, rfl⟩, rfl⟩))
    | returned res => exact absurd ends (unreturned res)

theorem proceed_conduct (fresh : Uuid) (seen : View) (entry : Entry)
    (entered : Entered rt fresh call entry)
    (movable : seen.standing.status.isTerminal = false) :
    Sees (rt.proceed world call entry)
      (fun value => Conduct rt world call fresh seen (.ok value))
      (fun err => Conduct rt world call fresh seen (.error err))
      (seen.movedTo .planValidated) := by
  refine shows_bind (cancellation_now_sees ?_ fun msg cancels => ?_)
  · refine shows_bind (consult_sees call entry ?_ ?_ ?_ ?_ ?_)
    · intro moment req err made rejected
      exact .unauthorized err entry req moment _ entered movable made rejected (Or.inl rfl)
    · intro moment req err made rejected
      exact .unauthorized err entry req moment _ entered movable made rejected (Or.inr rfl)
    · intro cached hit
      exact shows_pure (.replayed cached entry entered movable hit)
    · intro miss
      refine (run_capability_runs entry _ rfl).mono ?_ ?_
      · intro value after runs
        exact .ran _ after entry entered movable miss runs
      · rintro err after (runs | ⟨obstructed, rfl⟩)
        · exact .ran _ after entry entered movable miss runs
        · exact .unstarted err entry entered movable miss obstructed
    · intro req err made rejected
      exact .invalid err entry req entered movable made rejected
  · refine handle_cancellation_sees _ _ _ _ rfl ?_ ?_
    · exact .cancelled _ _ entry msg entered movable cancels (Or.inl ⟨rfl, rfl⟩)
    · intro obstructed err
      exact .cancelled _ _ entry msg entered movable cancels
        (Or.inr ⟨obstructed, ⟨err, rfl⟩, rfl⟩)

theorem execute_conduct (session : Session) :
    Ends (rt.execute world call)
      (fun value after => Conduct rt world call (world.uuid4 session.trace.length)
      session.view (.ok value) after.view)
      (fun err after => Conduct rt world call (world.uuid4 session.trace.length)
      session.view (.error err) after.view) session := by
  rw [execute, ends_bind]
  refine (enter_ends call session (fun entry entered movable =>
    proceed_conduct _ session.view entry entered movable) ?_ ?_ ?_).mono
    (fun entry after sees => sees after rfl) (fun _ _ conduct => conduct)
  · exact fun ended err => .terminal err ended
  · exact fun lost err => .unfenced err lost
  · exact fun err movable missing => .unregistered err movable missing

theorem conduct_of_execute (rt : ExecutionRuntime) (world : World) (call : Call)
    (session : Session) :
    Conduct rt world call (world.uuid4 session.trace.length) session.view
      ((rt.execute world call).outcome session)
      ((rt.execute world call).stateAfter session).view :=
  Ends.outcome (fun out (after : Session) => Conduct rt world call
    (world.uuid4 session.trace.length) session.view out after.view)
    (execute_conduct session)

theorem execute_sees (call : Call) (seen : View) :
    Sees (rt.execute world call)
      (fun value after => ∃ fresh, Conduct rt world call fresh seen (.ok value) after)
      (fun err after => ∃ fresh, Conduct rt world call fresh seen (.error err) after)
      seen := by
  rintro session rfl
  exact (execute_conduct session).mono (fun _ _ conduct => ⟨_, conduct⟩)
    (fun _ _ conduct => ⟨_, conduct⟩)

theorem complete_sees (lease : Option WorkerLease) {seen : View} {ret : Unit → View → Prop}
    {raised : PyError → View → Prop}
    (done : (rt.fencing = true → lease ≠ none) →
      seen.standing.status.isTerminal = false → ret () (seen.movedTo .completed).saved)
    (lost : ¬FenceHolds rt world lease → ∀ err, raised err seen)
    (stuck : seen.standing.status.isTerminal = true → ∀ err, raised err seen)
    (refused : (rt.fencing = true → lease ≠ none) →
      seen.standing.status.isTerminal = false → Obstructed rt world lease seen →
      ∀ err, raised err (seen.movedTo .completed)) :
    Sees (rt.complete world lease) ret raised seen := by
  refine shows_bind (assert_fence_sees lease (fun leased => ?_) lost)
  refine shows_bind (set_status_sees .completed (fun movable => ?_) fun ended => stuck ended _)
  refine shows_bind (save_checkpoint_sees lease ?_ fun obstructed =>
    refused leased movable obstructed)
  exact record_quiet .completed _ rfl (done leased movable)

section lookup

variable {entry : Entry} {session : Session} {allowed : Bool}
  (live : (world.cancellation session.trace.length).cancelled = false)
  (valid : rt.validateInput (requestOf call entry session.context) entry.contract = .ok ())
  (authorised : world.authorize session.trace.length
    (requestOf call entry session.context) entry.contract = .ok allowed)

include live valid authorised

theorem proceed_hit {cached : InvocationResult}
    (hit : session.durable.idempotency.get entry.key = some cached) :
    (rt.proceed world call entry).outcome session = .ok cached := by
  have open_ := token_uncancelled.mpr live
  simp [outcome, proceed, cancellationNow, consult, checkAuthorized, raiseOnError,
    record, emit, run_bind, run_map, run_get, run_pure,
    run_modify, open_, valid, authorised, hit]

theorem proceed_miss (miss : session.durable.idempotency.get entry.key = none) :
    rt.proceed world call entry session = rt.runCapability world call entry session := by
  have open_ := token_uncancelled.mpr live
  simp [proceed, cancellationNow, consult, checkAuthorized, raiseOnError, run_bind,
    run_map, run_get, run_pure, open_, valid, authorised, miss]

end lookup

section story

variable (view : View)

@[simp] theorem story_moved (status : ExecutionStatus) :
    (view.movedTo status).story = view.story := rfl

@[simp] theorem story_recovered (policy : RecoveryPolicy) (fail : FailureClass) :
    (view.recovered policy fail).story = view.story := rfl

@[simp] theorem story_saved : view.saved.story = view.story := by
  simp [View.story, View.saved, View.marked, Mark.isSaved]

@[simp] theorem story_event (kind : EventType) (callId : String) :
    (view.marked (.event kind callId)).story =
      view.story ++ [.event kind callId] := by
  simp [View.story, View.marked, Mark.isSaved]

@[simp] theorem story_invoked (version : String) (req : InvocationRequest)
    (reply : Reply) :
    (view.marked (.invoked version req reply)).story =
      view.story ++ [.invoked version req reply] := by
  simp [View.story, View.marked, Mark.isSaved]

@[simp] theorem story_keeping (key : String) (res : InvocationResult) :
    (keeping key res view).story =
      view.story ++ if res.isTerminal then [.stored key res] else [] := by
  unfold keeping
  split_ifs <;> simp [View.story, View.storing, Mark.isSaved]

@[simp] theorem story_completed (callId : String) (status : ExecutionStatus) :
    (view.completed callId status).story =
      view.story ++ [.event .capabilityCompleted callId] := by
  simp [View.completed]

@[simp] theorem story_started (entry : Entry) :
    (startedView entry view).story =
      view.story ++ [.event .capabilityStarted entry.invocationId] := by
  simp [startedView]

@[simp] theorem story_after_recovery (policy : RecoveryPolicy) (res : InvocationResult) :
    (afterRecovery policy view res).story = view.story := by
  unfold afterRecovery
  split <;> simp

variable {res : InvocationResult} {out : Except PyError InvocationResult} {seen after : View}

theorem concludes_story {inTheWay : Prop} {last after : View}
    (concludes : Concludes res inTheWay last out after) : after.story = last.story := by
  rcases concludes with ⟨_, rfl⟩ | ⟨_, _, rfl⟩
  · exact story_saved last
  · rfl

theorem runs_of_invoked {fresh : Uuid} {version : String} {req : InvocationRequest}
    {reply : Reply} (conduct : Conduct rt world call fresh seen out after)
    (blank : seen.story = []) (invoked : Mark.invoked version req reply ∈ after.story) :
    ∃ entry, Entered rt fresh call entry ∧ seen.idempotency.get entry.key = none ∧
      Runs rt world call entry (startedView entry seen) out after := by
  cases conduct with
  | terminal | unfenced | unregistered => simp [blank] at invoked
  | cancelled _ _ entry msg entered movable cancels concludes =>
    simp [concludes_story concludes, blank] at invoked
  | invalid err entry req entered movable made rejected => simp [blank] at invoked
  | unauthorized err entry req moment _ entered movable made rejected leaves =>
    rcases leaves with rfl | rfl <;> simp [blank] at invoked
  | replayed | unstarted => simp [blank] at invoked
  | ran _ _ entry entered movable miss runs => exact ⟨entry, entered, miss, runs⟩

variable {entry : Entry}

theorem settles_story
    (settles : Settles rt world call entry seen res out after) :
    after.story = seen.story ∨
    after.story = seen.story ++ [.event .capabilityCompleted entry.invocationId] ∨
    res.isTerminal = true ∧ after.story = seen.story ++
      [.event .capabilityCompleted entry.invocationId, .stored entry.key res] := by
  cases settles with
  | undecided err names fail structured lost => exact Or.inl rfl
  | mismatched | stuck => exact Or.inl (by simp)
  | invalid | unstored => exact Or.inr (Or.inl (by simp))
  | unrouted err same movable obstructed =>
    cases kept : res.isTerminal <;> simp [kept]
  | routed same movable => cases kept : res.isTerminal <;> simp [kept]

theorem runs_story (runs : Runs rt world call entry seen out after)
    (live : ∀ msg, ¬Cancels world msg) :
    ∃ req reply rest, Answers world call entry seen req reply ∧
      after.story = seen.story ++ .invoked call.version req reply :: rest := by
  cases runs with
  | cancelled msg cancels concludes => exact absurd cancels (live msg)
  | interrupted msg req reply answers interrupts concludes
  | failed err req reply answers raises concludes =>
    exact ⟨req, reply, _, answers, by simp [concludes_story concludes]; rfl⟩
  | returned res req reply answers ret notOvertaken settles =>
    refine ⟨req, reply, ?_⟩
    rcases settles_story settles with told | told | ⟨_, told⟩
    · exact ⟨[], answers, by simp [told]⟩
    · exact ⟨_, answers, by simp [told]; rfl⟩
    · exact ⟨_, answers, by simp [told]; rfl⟩

theorem settles_of_runs {version : String} {req : InvocationRequest}
    {reply : Reply} (runs : Runs rt world call entry seen out after)
    (fresh : Mark.invoked version req reply ∉ seen.story)
    (invoked : Mark.invoked version req reply ∈ after.story)
    (returns : reply.outcome = .returned res)
    (live : reply.token.raiseIfCancelled = none) :
    version = call.version ∧ Answers world call entry seen req reply ∧
      Settles rt world call entry (seen.marked (.invoked version req reply)) res
      out after := by
  cases runs with
  | cancelled msg cancels concludes =>
    simp [concludes_story concludes, fresh] at invoked
  | interrupted msg otherRequest otherReply answers interrupts concludes =>
    simp only [concludes_story concludes, story_event, story_moved, story_invoked,
      List.mem_append, fresh, List.mem_singleton, Mark.invoked.injEq, reduceCtorEq,
      false_or, or_false] at invoked
    obtain ⟨rfl, rfl, rfl⟩ := invoked
    rcases interrupts with cancelled | ⟨_, overtaken⟩
    · simp [returns] at cancelled
    · simp [live] at overtaken
  | failed err otherRequest otherReply answers raises concludes =>
    simp only [concludes_story concludes, story_event, story_recovered, story_invoked,
      List.mem_append, fresh, List.mem_singleton, Mark.invoked.injEq, reduceCtorEq,
      false_or, or_false] at invoked
    obtain ⟨rfl, rfl, rfl⟩ := invoked
    simp [returns] at raises
  | returned otherResult otherRequest otherReply answers ret notOvertaken settles =>
    have same : Mark.invoked version req reply =
        Mark.invoked call.version otherRequest otherReply := by
      rcases settles_story settles with told | told | ⟨_, told⟩ <;>
        simpa [told, fresh] using invoked
    simp only [Mark.invoked.injEq] at same
    obtain ⟨rfl, rfl, rfl⟩ := same
    rw [returns, Outcome.returned.injEq] at ret
    subst ret
    exact ⟨rfl, answers, settles⟩

theorem mem_story {mark : Mark} (unsaved : mark.isSaved = false) :
    mark ∈ view.story ↔ mark ∈ view.trail := by
  simp [View.story, unsaved]

end story

def Within (plan : Option Members) (ident : ExecutionIdentity) : Mark → Prop
  | .saved standing => standing.plan = plan ∧ standing.identity = ident
  | .dispatched _ _ => False
  | _ => True

/-- What a call leaves alone: whose context it is, its plan and the kind of its
store. A checkpoint that could be written still can. -/
structure Keeps (seen after : View) : Prop where
  identity : after.standing.identity = seen.standing.identity
  plan : after.standing.plan = seen.standing.plan
  keepsText : after.keepsText = seen.keepsText
  storable : seen.Storable → after.Storable
  trail : ∃ marks, after.trail = seen.trail ++ marks ∧
    ∀ mark ∈ marks, Within seen.standing.plan seen.standing.identity mark

namespace Keeps

variable {seen after : View}

theorem refl (view : View) : Keeps view view := ⟨rfl, rfl, rfl, id, [], by simp⟩

theorem trans {later : View} (first : Keeps seen after) (second : Keeps after later) :
    Keeps seen later := by
  obtain ⟨marks, grows, within⟩ := first.trail
  obtain ⟨more, growsMore, withinMore⟩ := second.trail
  refine ⟨second.identity.trans first.identity, second.plan.trans first.plan,
    second.keepsText.trans first.keepsText, second.storable ∘ first.storable,
    marks ++ more, by rw [growsMore, grows, List.append_assoc], ?_⟩
  intro mark mem
  rcases List.mem_append.mp mem with early | late
  · exact within mark early
  · have inside := withinMore mark late
    rwa [first.plan, first.identity] at inside

section

variable (kept : Keeps seen after)

include kept

theorem moved (status : ExecutionStatus) :
    Keeps seen (after.movedTo status) :=
  kept.trans ⟨rfl, rfl, rfl, id, [], by simp [View.movedTo]⟩

theorem marked (mark : Mark)
    (within : Within after.standing.plan after.standing.identity mark) :
    Keeps seen (after.marked mark) :=
  kept.trans ⟨rfl, rfl, rfl, id, [mark], rfl, by simpa using within⟩

theorem event (kind : EventType) (callId : String) :
    Keeps seen (after.marked (.event kind callId)) := kept.marked _ trivial

theorem invoked (version : String) (req : InvocationRequest)
    (reply : Reply) : Keeps seen (after.marked (.invoked version req reply)) :=
  kept.marked _ trivial

theorem saved : Keeps seen after.saved :=
  kept.marked _ ⟨rfl, rfl⟩

theorem completed (callId : String)
    (status : ExecutionStatus) : Keeps seen (after.completed callId status) :=
  (kept.moved status).event _ _

theorem recovered (policy : RecoveryPolicy)
    (fail : FailureClass) : Keeps seen (after.recovered policy fail) :=
  kept.trans ⟨rfl, rfl, rfl, fun _ => storable_recovered policy fail after, [],
    by simp [View.recovered]⟩

theorem keeping (key : String) (res : InvocationResult) :
    Keeps seen (ExecutionRuntime.keeping key res after) := by
  apply kept.trans
  unfold ExecutionRuntime.keeping
  split_ifs
  · exact ⟨rfl, rfl, rfl, id, [.stored key res], rfl, by simp [Within]⟩
  · exact refl after

theorem afterRecovery (policy : RecoveryPolicy)
    (res : InvocationResult) :
    Keeps seen (ExecutionRuntime.afterRecovery policy after res) := by
  unfold ExecutionRuntime.afterRecovery
  split
  · exact kept
  · exact (kept.recovered policy _).saved

theorem concludes {res : InvocationResult} {inTheWay : Prop}
    {out : Except PyError InvocationResult} {last : View}
    (ends : Concludes res inTheWay after out last) : Keeps seen last := by
  rcases ends with ⟨_, rfl⟩ | ⟨_, _, rfl⟩
  · exact kept.saved
  · exact kept

end

end Keeps

variable {out : Except PyError InvocationResult}

theorem settles_keeps {entry : Entry} {seen after : View} {res : InvocationResult}
    (settles : Settles rt world call entry seen res out after) : Keeps seen after := by
  have start := Keeps.refl seen
  have decided := start.afterRecovery rt.recovery res
  cases settles with
  | undecided err names fail structured lost => exact start.recovered _ _
  | mismatched | stuck => exact decided
  | invalid | unstored => exact start.completed _ _
  | unrouted err same movable obstructed => exact (decided.completed _ _).keeping _ _
  | routed same movable => exact (((decided.completed _ _).keeping _ _).saved).moved _

theorem runs_keeps {entry : Entry} {seen after : View}
    (runs : Runs rt world call entry seen out after) : Keeps seen after := by
  have start := Keeps.refl seen
  cases runs with
  | cancelled msg cancels concludes => exact ((start.moved _).event _ _).concludes concludes
  | interrupted msg req reply answers interrupts concludes =>
    exact (((start.invoked _ _ _).moved _).event _ _).concludes concludes
  | failed err req reply answers raises concludes =>
    exact (((start.invoked _ _ _).recovered _ _).event _ _).concludes concludes
  | returned res req reply answers ret notOvertaken settles =>
    exact (start.invoked _ _ _).trans (settles_keeps settles)

theorem conduct_keeps {fresh : Uuid} {seen after : View}
    (conduct : Conduct rt world call fresh seen out after) : Keeps seen after := by
  have start := Keeps.refl seen
  cases conduct with
  | terminal | unfenced => exact start
  | unregistered err movable missing => exact start.moved _
  | cancelled _ _ entry msg entered movable cancels concludes =>
    exact ((start.moved _).event _ _).concludes concludes
  | invalid err entry req entered movable made rejected => exact start.moved _
  | unauthorized err entry req moment _ entered movable made rejected leaves =>
    rcases leaves with rfl | rfl
    · exact start.moved _
    · exact (start.moved _).event _ _
  | replayed cached entry entered movable hit => exact (start.moved _).event _ _
  | unstarted err entry entered movable miss obstructed => exact start.moved _
  | ran _ _ entry entered movable miss runs =>
    exact (((start.moved _).saved).event _ _).trans (runs_keeps runs)

end ExecutionRuntime

open ExecutionRuntime

theorem recovered_is_terminal (policy : RecoveryPolicy) (fail : FailureClass)
    (standing : Standing) (movable : standing.status.isTerminal = false) :
    (standing.recovered policy fail).status.isTerminal =
      (standing.decision policy fail).action.endsExecution := by
  unfold Standing.recovered
  cases (standing.decision policy fail).action with
  | correct => exact movable
  | fallback => exact movable
  | _ => rfl

theorem after_recovery_is_terminal (policy : RecoveryPolicy) (seen : View)
    (res : InvocationResult) (movable : seen.standing.status.isTerminal = false) :
    (afterRecovery policy seen res).standing.status.isTerminal = true ↔
      ∃ names fail, structuredFailure? res = some (names, fail) ∧
      (seen.standing.decision policy fail).action.endsExecution = true := by
  unfold afterRecovery
  cases structured : structuredFailure? res with
  | none => simp [movable]
  | some failed =>
    obtain ⟨names, fail⟩ := failed
    have ends := recovered_is_terminal policy fail seen.standing movable
    simp [View.saved, View.marked, View.recovered, ends]

end Ois.Kernel
