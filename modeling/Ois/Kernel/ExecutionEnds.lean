import Ois.Kernel.CallResults

/-!
# Calls that end the execution

A context that is COMPLETED, STOPPED or ESCALATED cannot move again.
-/

namespace Ois.Kernel

open Ois.Library Ois.Infrastructure Command ExecutionRuntime

def InvocationResult.endsExecution (policy : RecoveryPolicy) (exec : ExecutionContext)
    (res : InvocationResult) : Bool :=
  match structuredFailure? res with
  | none => false
  | some (_, fail) => (policy.classify fail exec).action.endsExecution

def Reply.endsExecution (policy : RecoveryPolicy) (exec : ExecutionContext)
    (reply : Reply) : Bool :=
  match reply.outcome with
  | .returned res => reply.token.cancelled || res.endsExecution policy exec
  | .cancelled _ => true
  | .raised _ => false

def Step.endsExecution (policy : RecoveryPolicy) : Step → Bool
  | .invoke _ req reply => reply.endsExecution policy req.execution
  | _ => false

def Mark.endsExecution (policy : RecoveryPolicy) : Mark → Bool
  | .invoked _ req reply => reply.endsExecution policy req.execution
  | _ => false

def Mark.halts (policy : RecoveryPolicy) : Mark → Bool
  | .event kind _ => kind == .cancelled
  | mark => mark.endsExecution policy

def Step.halts (policy : RecoveryPolicy) : Step → Bool
  | .record event => event.eventType == .cancelled && event.invocationId?.isSome
  | step => step.endsExecution policy

theorem halts_mark (policy : RecoveryPolicy) (step : Step) :
    step.halts policy = (step.mark?.map (Mark.halts policy)).getD false := by
  cases step with
  | record event =>
    simp only [Step.halts, Step.mark?]
    cases event.eventType <;> cases event.invocationId? <;>
      simp [EventType.isMarked, Mark.halts]
  | _ => rfl

theorem any_trail {onStep : Step → Bool} {onMark : Mark → Bool}
    (same : ∀ step, onStep step = (step.mark?.map onMark).getD false)
    (unsaved : ∀ standing, onMark (.saved standing) = false) (steps : List Step) :
    ((trail steps).filter fun mark => !mark.isSaved).any onMark = steps.any onStep := by
  have quiet : ∀ mark, (!mark.isSaved && onMark mark) = onMark mark := by
    intro mark
    cases mark <;> simp [Mark.isSaved, unsaved]
  rw [List.any_filter, trail, List.any_filterMap]
  congr 1
  funext step
  rw [same]
  cases step.mark? <;> simp [quiet]

theorem halts_story (policy : RecoveryPolicy) (session : Session) :
    session.view.story.any (Mark.halts policy) = session.trace.any (Step.halts policy) :=
  any_trail (halts_mark policy) (fun _ => rfl) session.trace

structure Halting (policy : RecoveryPolicy) (world : World) (seen after : View)
    (marks : List Mark) : Prop where
  told : after.story = seen.story ++ marks
  ended : after.standing.status.isTerminal =
    (seen.standing.status.isTerminal || marks.any (Mark.halts policy))
  uncancelled : (∀ msg, ¬Cancels world msg) →
    marks.any (Mark.halts policy) = marks.any (Mark.endsExecution policy)

namespace ExecutionRuntime

variable {rt : ExecutionRuntime} {world : World} {call : Call}

theorem after_recovery_ends (policy : RecoveryPolicy) (seen : View)
    (res : InvocationResult) (exec : ExecutionContext)
    (same : exec.standing = seen.standing)
    (movable : seen.standing.status.isTerminal = false) :
    (afterRecovery policy seen res).standing.status.isTerminal =
      res.endsExecution policy exec := by
  have decides : ∀ fail, seen.standing.decision policy fail =
      policy.classify fail exec := by
    intro fail
    rw [← same]
    rfl
  unfold afterRecovery InvocationResult.endsExecution
  cases structured : structuredFailure? res with
  | none => exact movable
  | some failed =>
    obtain ⟨names, fail⟩ := failed
    simp only [View.saved, View.marked, View.recovered, ← decides]
    exact recovered_is_terminal policy fail seen.standing movable

variable {seen after : View} {res : InvocationResult} {out : Except PyError InvocationResult}
  {policy : RecoveryPolicy}

theorem settles_ends {entry : Entry} {exec : ExecutionContext}
    (fence : FenceHolds rt world call.workerLease)
    (same : exec.standing = seen.standing)
    (movable : seen.standing.status.isTerminal = false)
    (settles : Settles rt world call entry seen res out after) :
    after.standing.status.isTerminal = res.endsExecution rt.recovery exec := by
  have decided := after_recovery_ends rt.recovery seen res exec same movable
  have plain : res.status ≠ .failed →
      false = res.endsExecution rt.recovery exec := by
    intro notFailed
    rw [← decided, (unreported rt.recovery seen res notFailed).2, movable]
  cases settles with
  | undecided err names fail structured lost => exact absurd fence lost
  | mismatched | stuck => exact decided
  | invalid err same succeeded rejected => exact plain (by simp [succeeded])
  | unstored err same kept lost => exact absurd fence lost
  | unrouted err same open_ obstructed =>
    rw [(keeping_standing _ _ _).1, ← decided, open_]
    rfl
  | routed same open_ => exact open_.symm.trans decided

theorem halting_quiet {marks : List Mark} (told : after.story = seen.story ++ marks)
    (same : after.standing.status.isTerminal = seen.standing.status.isTerminal)
    (quiet : marks.any (Mark.halts policy) = false)
    (alsoQuiet : marks.any (Mark.endsExecution policy) = false) :
    Halting policy world seen after marks :=
  ⟨told, by rw [same, quiet, Bool.or_false], fun _ => quiet.trans alsoQuiet.symm⟩

theorem concludes_halting {inTheWay : Prop} {seen last after : View} {marks : List Mark}
    (concludes : Concludes res inTheWay last out after)
    (told : last.story = seen.story ++ marks) (stopped : last.standing.status.isTerminal = true)
    (halts : marks.any (Mark.halts policy) = true)
    (live : (∀ msg, ¬Cancels world msg) →
      marks.any (Mark.endsExecution policy) = true) : Halting policy world seen after marks := by
  refine ⟨(concludes_story concludes).trans told, ?_, fun never => ?_⟩
  · rw [halts, Bool.or_true]
    rcases concludes with ⟨_, rfl⟩ | ⟨_, _, rfl⟩
    · exact stopped
    · exact stopped
  · rw [halts, live never]

theorem interrupted_ends {exec : ExecutionContext} {reply : Reply} {msg : String}
    (interrupts : reply.outcome = .cancelled msg ∨
      (∃ res, reply.outcome = .returned res) ∧
      reply.token.raiseIfCancelled = some msg) :
    reply.endsExecution policy exec = true := by
  rcases interrupts with cancelled | ⟨⟨res, ret⟩, overtaken⟩
  · simp [Reply.endsExecution, cancelled]
  · have token : reply.token.cancelled = true := by
      by_contra open_
      rw [Bool.not_eq_true, ← token_uncancelled, overtaken] at open_
      simp at open_
    simp [Reply.endsExecution, ret, token]

theorem runs_halting {entry : Entry} (fence : FenceHolds rt world call.workerLease)
    (movable : seen.standing.status.isTerminal = false)
    (runs : Runs rt world call entry seen out after) :
    ∃ marks, Halting rt.recovery world seen after marks := by
  cases runs with
  | cancelled msg cancels concludes =>
    refine ⟨_, concludes_halting concludes (by simp; rfl) rfl rfl fun never => ?_⟩
    exact absurd cancels (never msg)
  | interrupted msg req reply answers interrupts concludes =>
    refine ⟨[.invoked call.version req reply, .event .cancelled entry.invocationId],
      concludes_halting concludes (by simp) rfl ?_ fun _ => ?_⟩
    · simp [Mark.halts]
    · simp [Mark.endsExecution, interrupted_ends interrupts]
  | failed err req reply answers raises concludes =>
    have open_ : reply.endsExecution rt.recovery req.execution = false := by
      simp [Reply.endsExecution, raises]
    refine ⟨[.invoked call.version req reply, .event .failure entry.invocationId],
      halting_quiet (by simp [concludes_story concludes]) ?_ ?_ ?_⟩
    · have recovers := recovered_is_terminal rt.recovery .tool seen.standing movable
      rw [movable]
      rcases concludes with ⟨_, rfl⟩ | ⟨_, _, rfl⟩
      · exact recovers
      · exact recovers
    · simp [Mark.halts, Mark.endsExecution, open_]
    · simp [Mark.endsExecution, open_]
  | returned res req reply answers ret notOvertaken settles =>
    obtain ⟨⟨ctx, same, rfl⟩, _⟩ := answers
    have ends := settles_ends fence (by exact same) (by exact movable) settles
    have token := token_uncancelled.mp notOvertaken
    have told : ∃ rest, after.story = (seen.marked (.invoked call.version
        (requestOf call entry ctx) reply)).story ++ rest ∧
          rest.any (Mark.halts rt.recovery) = false ∧
          rest.any (Mark.endsExecution rt.recovery) = false := by
      rcases settles_story settles with told | told | ⟨_, told⟩
      · exact ⟨[], by simp [told], rfl, rfl⟩
      · exact ⟨_, told, rfl, rfl⟩
      · exact ⟨_, told, rfl, rfl⟩
    obtain ⟨rest, told, quiet, alsoQuiet⟩ := told
    have decides : reply.endsExecution rt.recovery ctx =
        res.endsExecution rt.recovery ctx := by
      simp [Reply.endsExecution, ret, token]
    refine ⟨.invoked call.version (requestOf call entry ctx) reply :: rest,
      by simp [told], ?_, fun _ => ?_⟩
    · simp [ends, quiet, movable, Mark.halts, Mark.endsExecution, requestOf, decides]
    · simp [quiet, alsoQuiet, Mark.halts, Mark.endsExecution]

theorem conduct_halting {fresh : Uuid} (fence : FenceHolds rt world call.workerLease)
    (storable : seen.Storable) (conduct : Conduct rt world call fresh seen out after) :
    ∃ marks, Halting rt.recovery world seen after marks := by
  have open_ : ¬Obstructed rt world call.workerLease seen := by
    rintro (lost | stuck)
    · exact lost fence
    · exact stuck storable
  cases conduct with
  | terminal err ended => exact ⟨[], halting_quiet (by simp) rfl rfl rfl⟩
  | unfenced err lost => exact absurd fence lost
  | unregistered err movable missing =>
    exact ⟨[], halting_quiet (by simp) movable.symm rfl rfl⟩
  | cancelled _ _ entry msg entered movable cancels concludes =>
    refine ⟨_, concludes_halting concludes (by simp; rfl) rfl rfl fun never => ?_⟩
    exact absurd cancels (never msg)
  | invalid err entry req entered movable made rejected =>
    exact ⟨[], halting_quiet (by simp) movable.symm rfl rfl⟩
  | unauthorized err entry req moment _ entered movable made rejected leaves =>
    rcases leaves with rfl | rfl
    · exact ⟨[], halting_quiet (by simp) movable.symm rfl rfl⟩
    · exact ⟨_, halting_quiet (by simp; rfl) movable.symm rfl rfl⟩
  | replayed cached entry entered movable hit =>
    exact ⟨_, halting_quiet (by simp; rfl) movable.symm rfl rfl⟩
  | unstarted err entry entered movable miss obstructed => exact absurd obstructed open_
  | ran _ _ entry entered movable miss runs =>
    obtain ⟨marks, told, ended, live⟩ := runs_halting fence rfl runs
    refine ⟨.event .capabilityStarted entry.invocationId :: marks, by simp [told], ?_, ?_⟩
    · rw [ended, movable]
      rfl
    · intro never
      rw [List.any_cons, List.any_cons, live never]
      rfl

theorem conduct_returns_open {fresh : Uuid}
    (conduct : Conduct rt world call fresh seen (.ok res) after) :
    after.standing.status.isTerminal = false ∨ ∃ msg callId,
      res = cancelledResult call.capabilityId msg callId := by
  cases conduct with
  | cancelled _ _ entry msg entered movable cancels concludes =>
    exact Or.inr ⟨msg, _, concludes_ok concludes⟩
  | replayed cached entry entered movable hit => exact Or.inl rfl
  | ran _ _ entry entered movable miss runs =>
    cases runs with
    | cancelled msg cancels concludes => exact Or.inr ⟨msg, _, concludes_ok concludes⟩
    | interrupted msg req reply answers interrupts concludes =>
      exact Or.inr ⟨msg, _, concludes_ok concludes⟩
    | failed err req reply answers raises concludes =>
      left
      rcases concludes with ⟨_, rfl⟩ | ⟨_, _, rfl⟩
      · rfl
      · rfl
    | returned made req reply answers ret notOvertaken settles =>
      cases settles with
      | routed same open_ => exact Or.inl rfl

end ExecutionRuntime

end Ois.Kernel
