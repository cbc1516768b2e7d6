import Ois.Kernel.RuntimeConduct

/-!
# Where the result of a call comes from

A call that returns was answered from the store, was cancelled, or reports what its capability
did; and the only result that a call stores is one that its capability returned.
-/

namespace Ois.Kernel

open Ois.Library Ois.Infrastructure

def Mark.invokes (callId : String) : Mark → Bool
  | .invoked _ req _ => req.invocationId == callId
  | _ => false

open Mark

namespace ExecutionRuntime

variable {rt : ExecutionRuntime} {world : World} {call : Call} {fresh : Uuid}
  {seen after : View}

structure Invokes (world : World) (call : Call) (seen after : View)
    (req : InvocationRequest) (reply : Reply) : Prop where
  answers : ∃ entry, Answers world call entry (startedView entry seen) req reply
  told : invoked call.version req reply ∈ after.story

variable {req : InvocationRequest} {reply : Reply} {res : InvocationResult}
  {out : Except PyError InvocationResult}

theorem Invokes.input (invokes : Invokes world call seen after req reply) :
    req.capabilityId = call.capabilityId ∧ req.input = call.inputData ∧
      req.execution.identity = seen.standing.identity := by
  obtain ⟨entry, ⟨ctx, standing, rfl⟩, _⟩ := invokes.answers
  exact ⟨rfl, rfl, congrArg Standing.identity standing⟩

theorem Invokes.reply_eq (invokes : Invokes world call seen after req reply) :
    ∃ moment, reply = world.invoke moment call.version req := by
  obtain ⟨entry, _, answered⟩ := invokes.answers
  exact answered

/-- The call was stopped by a cancellation, before its capability ran or after. -/
def Stopped (world : World) (call : Call) (seen after : View) : Prop :=
  (∃ msg, Cancels world msg) ∨
    ∃ req reply msg, Invokes world call seen after req reply ∧
      (reply.outcome = .cancelled msg ∨ reply.token.raiseIfCancelled = some msg)

inductive Source (rt : ExecutionRuntime) (world : World) (call : Call) (fresh : Uuid)
    (seen after : View) (res : InvocationResult) : Prop where
  | store (hit : seen.idempotency.get (storageKey call (logicalInvocationId fresh call)) =
      some res)
  | cancellation (stopped : Stopped world call seen after) (status : res.status = .cancelled)
  | failure (req : InvocationRequest) (reply : Reply) (err : PyError)
      (invokes : Invokes world call seen after req reply)
      (raises : reply.outcome = .raised err) (status : res.status = .failed)
  | capability (req : InvocationRequest) (reply : Reply) (made : InvocationResult)
      (invokes : Invokes world call seen after req reply)
      (returns : reply.outcome = .returned made)
      (sameId : made.invocationId = req.invocationId)
      (movable : ∀ names fail, structuredFailure? made = some (names, fail) →
        (seen.standing.decision rt.recovery fail).action.endsExecution = false)
      (status : res.status = made.status)
      (same : res.status = .succeeded → res = made)

theorem concludes_idempotency {inTheWay : Prop} {last : View}
    (concludes : Concludes res inTheWay last out after) :
    after.idempotency = last.idempotency := by
  rcases concludes with ⟨_, rfl⟩ | ⟨_, _, rfl⟩
  · rfl
  · rfl

theorem concludes_ok {res ret : InvocationResult} {inTheWay : Prop} {last : View}
    (concludes : Concludes res inTheWay last (.ok ret) after) : ret = res := by
  rcases concludes with ⟨same, _⟩ | ⟨_, ⟨err, raised⟩, _⟩
  · exact Except.ok.inj same
  · simp at raised

theorem after_recovery_idempotency (policy : RecoveryPolicy) (res : InvocationResult) :
    (afterRecovery policy seen res).idempotency = seen.idempotency := by
  unfold afterRecovery
  split
  · rfl
  · rfl

theorem keeping_idempotency (key : String) (res : InvocationResult) :
    (keeping key res seen).idempotency =
      if res.isTerminal then seen.idempotency.put key res else seen.idempotency := by
  unfold keeping
  split_ifs
  · rfl
  · rfl

variable {entry : Entry}

theorem entered_storage_key (entered : Entered rt fresh call entry) :
    entry.key = storageKey call (logicalInvocationId fresh call) := by
  rw [entered.key, entered.invocationId]

theorem settles_idempotency
    (settles : Settles rt world call entry seen res out after) :
    after.idempotency = seen.idempotency ∨
      res.isTerminal = true ∧ after.idempotency = seen.idempotency.put entry.key res := by
  have stored : (keeping entry.key res ((afterRecovery rt.recovery seen res).completed
      entry.invocationId .checkpointing)).idempotency = seen.idempotency ∨
      res.isTerminal = true ∧ (keeping entry.key res ((afterRecovery rt.recovery seen
        res).completed entry.invocationId .checkpointing)).idempotency =
          seen.idempotency.put entry.key res := by
    have before : ((afterRecovery rt.recovery seen res).completed entry.invocationId
        .checkpointing).idempotency = seen.idempotency :=
      after_recovery_idempotency rt.recovery res
    rw [keeping_idempotency, before]
    by_cases kept : res.isTerminal = true
    · exact Or.inr ⟨kept, if_pos kept⟩
    · exact Or.inl (if_neg kept)
  cases settles with
  | undecided err names fail structured lost => exact Or.inl rfl
  | mismatched | stuck => exact Or.inl (after_recovery_idempotency _ _)
  | invalid | unstored => exact Or.inl rfl
  | unrouted | routed => exact stored

theorem told_of_settles {version : String}
    (settles : Settles rt world call entry (seen.marked (.invoked version req reply))
      res out after) : invoked version req reply ∈ after.story := by
  rcases settles_story settles with told | told | ⟨_, told⟩
  · simp [told]
  · simp [told]
  · simp [told]

theorem conduct_stores (conduct : Conduct rt world call fresh seen out after) :
    after.idempotency = seen.idempotency ∨
      ∃ req reply made, Invokes world call seen after req reply ∧
      reply.outcome = .returned made ∧ made.isTerminal = true ∧
      seen.idempotency.get (storageKey call (logicalInvocationId fresh call)) = none ∧
      after.idempotency =
      seen.idempotency.put (storageKey call (logicalInvocationId fresh call)) made := by
  cases conduct with
  | terminal | unfenced | unregistered => exact Or.inl rfl
  | cancelled _ _ entry msg entered movable cancels concludes =>
    exact Or.inl ((concludes_idempotency concludes).trans rfl)
  | invalid err entry req entered movable made rejected => exact Or.inl rfl
  | unauthorized err entry req moment _ entered movable made rejected leaves =>
    rcases leaves with rfl | rfl
    · exact Or.inl rfl
    · exact Or.inl rfl
  | replayed | unstarted => exact Or.inl rfl
  | ran _ _ entry entered movable miss runs =>
    cases runs with
    | cancelled msg cancels concludes
    | interrupted msg req reply answers interrupts concludes
    | failed err req reply answers raises concludes =>
      exact Or.inl ((concludes_idempotency concludes).trans rfl)
    | returned made req reply answers returns live settles =>
      rcases settles_idempotency settles with kept | ⟨terminal, put⟩
      · exact Or.inl kept
      · rw [entered_storage_key entered] at miss put
        exact Or.inr ⟨req, reply, made, ⟨⟨entry, answers⟩, told_of_settles settles⟩,
          returns, terminal, miss, put⟩

theorem invokes_of_told {version : String}
    (conduct : Conduct rt world call fresh seen out after) (blank : seen.story = [])
    (told : invoked version req reply ∈ after.story) :
    Invokes world call seen after req reply := by
  obtain ⟨entry, entered, miss, runs⟩ := runs_of_invoked conduct blank told
  have own : version = call.version ∧
      Answers world call entry (startedView entry seen) req reply := by
    cases runs with
    | cancelled msg cancels concludes => simp [concludes_story concludes, blank] at told
    | interrupted msg _ _ answers interrupts concludes
    | failed err _ _ answers raises concludes =>
      simp [concludes_story concludes, blank] at told
      obtain ⟨rfl, rfl, rfl⟩ := told
      exact ⟨rfl, answers⟩
    | returned res _ _ answers returns live settles =>
      rcases settles_story settles with story | story | ⟨_, story⟩ <;>
      · simp [story, blank] at told
        obtain ⟨rfl, rfl, rfl⟩ := told
        exact ⟨rfl, answers⟩
  obtain ⟨rfl, answers⟩ := own
  exact ⟨⟨entry, answers⟩, told⟩

theorem conduct_source (conduct : Conduct rt world call fresh seen (.ok res) after) :
    Source rt world call fresh seen after res := by
  cases conduct with
  | cancelled _ _ entry msg entered movable cancels concludes =>
    apply Source.cancellation (Or.inl ⟨msg, cancels⟩)
    rw [concludes_ok concludes]
    rfl
  | replayed cached entry entered movable hit =>
    rw [entered_storage_key entered] at hit
    exact Source.store hit
  | ran _ _ entry entered movable miss runs =>
    cases runs with
    | cancelled msg cancels concludes =>
      apply Source.cancellation (Or.inl ⟨msg, cancels⟩)
      rw [concludes_ok concludes]
      rfl
    | interrupted msg req reply answers interrupts concludes =>
      have told : invoked call.version req reply ∈ after.story := by
        simp [concludes_story concludes]
      apply Source.cancellation
      · refine Or.inr ⟨req, reply, msg, ⟨⟨entry, answers⟩, told⟩, ?_⟩
        exact interrupts.imp_right fun overtaken => overtaken.2
      · rw [concludes_ok concludes]
        rfl
    | failed err req reply answers raises concludes =>
      have told : invoked call.version req reply ∈ after.story := by
        simp [concludes_story concludes]
      apply Source.failure req reply err ⟨⟨entry, answers⟩, told⟩ raises
      rw [concludes_ok concludes]
      rfl
    | returned made req reply answers returns live settles =>
      have told := told_of_settles settles
      cases settles with
      | routed same open_ =>
        have asked : req.invocationId = entry.invocationId := by
          obtain ⟨⟨ctx, _, rfl⟩, _⟩ := answers
          rfl
        refine Source.capability req reply made ⟨⟨entry, answers⟩, told⟩ returns
          (same.trans asked.symm) ?_ (by simp) ?_
        · intro names fail structured
          by_contra ends
          rw [Bool.not_eq_false] at ends
          have terminal := (after_recovery_is_terminal rt.recovery
            ((startedView entry seen).marked (.invoked call.version req reply)) made
            rfl).mpr ⟨names, fail, structured, ends⟩
          rw [open_] at terminal
          simp at terminal
        · intro succeeded
          rw [reported_status] at succeeded
          exact (unreported _ _ made (by simp [succeeded])).1

theorem count_invokes_story (callId : String) (view : View) :
    view.story.countP (invokes callId) = view.trail.countP (invokes callId) := by
  rw [View.story, List.countP_filter]
  refine List.countP_congr fun mark _ => ?_
  cases mark <;> simp [invokes, isSaved]

theorem settles_invokes (callId : String)
    (settles : Settles rt world call entry seen res out after) :
    after.story.countP (invokes callId) = seen.story.countP (invokes callId) := by
  rcases settles_story settles with told | told | ⟨_, told⟩ <;> simp [told, invokes]

theorem conduct_invokes (callId : String)
    (conduct : Conduct rt world call fresh seen out after) :
    after.trail.countP (invokes callId) ≤ seen.trail.countP (invokes callId) +
      if logicalInvocationId fresh call = callId then 1 else 0 := by
  rw [← count_invokes_story, ← count_invokes_story]
  have named : ∀ {entry : Entry} {middle : View} {req : InvocationRequest} {reply : Reply},
      Entered rt fresh call entry → Answers world call entry middle req reply →
        req.invocationId = logicalInvocationId fresh call := by
    rintro entry middle req reply entered ⟨⟨ctx, _, rfl⟩, _⟩
    exact entered.invocationId
  cases conduct with
  | terminal | unfenced | unregistered => exact Nat.le_add_right _ _
  | cancelled _ _ entry msg entered movable cancels concludes =>
    simp [concludes_story concludes, invokes]
  | invalid err entry req entered movable made rejected => exact Nat.le_add_right _ _
  | unauthorized err entry req moment _ entered movable made rejected leaves =>
    rcases leaves with rfl | rfl <;> simp [invokes]
  | replayed cached entry entered movable hit => simp [invokes]
  | unstarted err entry entered movable miss obstructed => simp
  | ran _ _ entry entered movable miss runs =>
    cases runs with
    | cancelled msg cancels concludes => simp [concludes_story concludes, invokes]
    | interrupted msg req reply answers interrupts concludes
    | failed err req reply answers raises concludes =>
      simp [concludes_story concludes, List.countP_cons, invokes, named entered answers]
    | returned made req reply answers returns live settles =>
      rw [settles_invokes callId settles]
      simp [List.countP_cons, invokes, named entered answers]

end ExecutionRuntime

end Ois.Kernel
