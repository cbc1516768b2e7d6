import Ois.Autonomy.OperationsCalls

/-!
# The actions that the operations run

An action may call the operations itself. It is run for events that trigger its workflow and that
the policy allows or a human approved, and is attempted within the limits of the loop. As long as
no action calls the operations so that it is started again for the event that it is still run for,
it returns at most once for a workflow and an event.
-/

namespace Ois.Autonomy

open Ois.Library Ois.Kernel Ois.Sources Command

section calls

variable (env : Surroundings) (loop : AutonomousLoop)

/-- An action goes on after a call that raises, or ends there and makes no more calls. -/
def makeCalls (serve : OperationsCall → OperationsCommand OperationsAnswer) :
    List OperationsCall → OperationsCommand Unit
  | [] => return ()
  | call :: rest => do
    try discard (serve call) catch _ => pure ()
    makeCalls serve rest

/-- The n-th action makes the n-th calls before it comes to its outcome, unless `depth` actions
are run within one another already. -/
def reentrant (makes : Nat → List OperationsCall) : Nat → List (String × String) → Actions
  | 0, within => actionWithin env within
  | depth + 1, within => fun n flow event granted => do
    let index := (← get).acts.length
    let out ← actionWithin env within n flow event granted
    let inner := reentrant makes depth ((flow.workflowId, event.eventId) :: within)
    makeCalls (commandOf env loop inner) (makes index)
    return out

/-- `AutonomousOperations` whose actions call it. -/
def reentrantOperations (makes : Nat → List OperationsCall) (depth : Nat) :
    Machine OperationsCall Operations (Except PyError OperationsAnswer) :=
  fun call ops =>
    let command := commandOf env loop (reentrant env loop makes depth []) call
    (command.stateAfter ops, command.outcome ops)

theorem quiet_operations (depth : Nat) :
    reentrantOperations env loop (fun _ => []) depth = autonomousOperations env loop := by
  cases depth <;> rfl

end calls

def Act.key (act : Act) : String × String := (act.workflow.workflowId, act.event.eventId)

/-- The action is started for an event while it is still run for that event. -/
def Act.Reenters (act : Act) : Prop := act.key ∈ act.within

instance (act : Act) : Decidable act.Reenters := inferInstanceAs (Decidable (_ ∈ _))

/-- How many actions returned for a workflow and an event. -/
def returnsOf (key : String × String) (acts : List Act) : Nat :=
  acts.countP fun act => act.key = key ∧ act.outcome.Returned

theorem returns_of_append (key : String × String) (acts later : List Act) :
    returnsOf key (acts ++ later) = returnsOf key acts + returnsOf key later :=
  List.countP_append ..

theorem returns_of_cons (key : String × String) (act : Act) (acts : List Act) :
    returnsOf key (act :: acts) =
      returnsOf key acts + if act.key = key ∧ act.outcome.Returned then 1 else 0 := by
  simp [returnsOf, List.countP_cons]

namespace Operations

def Named (ops : Operations) : Prop :=
  ∀ entry ∈ ops.workflows, entry.1 = entry.2.workflowId

/-- The pair of a workflow and an event is marked once its run is done. -/
def marked (key : String × String) (done : Bool) (ops : Operations) : Operations :=
  if done then { ops with processed := key :: ops.processed } else ops

def traces (ops : Operations) :=
  (ops.acts, ops.loops, ops.approvals, ops.processed, ops.workflows)

end Operations

open Operations

section growth

variable (env : Surroundings) (loop : AutonomousLoop)

/-- The event triggers the workflow, and the policy allows it, or asks for an approval that was
granted. -/
structure Permitted (flow : SourceWorkflow) (event : EventEnvelope) (ops : Operations) :
    Prop where
  fires : flow.fires event = true
  judged : ∃ evaluation, loop.policy.judge env.reprFloat event = .ok evaluation ∧
    (evaluation.outcome = .allow ∨
      evaluation.outcome = .approvalRequired ∧ ops.Approved flow event)

/-- The acts that are new after a part of a call, which is made while the actions of `within` are
not over. A loop that runs already may add as many as `allowed`, and a new one as many as it makes
attempts. When no act re-enters, and the part is `fresh`, a pair is marked exactly when an action
returns for it. -/
structure Grows (within : List (String × String)) (allowed : Nat → Nat) (fresh : Prop)
    (before after : Operations) (new : List Act) : Prop where
  acts : after.acts = before.acts ++ new
  loops : before.loops ≤ after.loops
  named : after.Named
  approved : ∀ askId approval, before.approvals.lookup askId = some approval →
    approval.decision = .approved → after.approvals.lookup askId = some approval
  permitted : ∀ act ∈ new, Permitted env loop act.workflow act.event after
  inside : ∀ act ∈ new, within ⊆ act.within
  bounded : ∀ n, new.countP (·.loop = n) ≤
    if n ≤ before.loops then allowed n
    else if n ≤ after.loops then loop.most loop.maxIterations 1 else 0
  once : fresh → (∀ act ∈ new, ¬act.Reenters) → ∀ key,
    returnsOf key new + (if key ∈ before.processed then 1 else 0) =
      if key ∈ after.processed then 1 else 0

/-- What a call adds while the actions of `within` are not over. -/
def Extends (within : List (String × String)) (before after : Operations) : Prop :=
  before.Named → ∃ new, Grows env loop within (fun _ => 0) True before after new

variable {env loop} {within : List (String × String)} {allowed : Nat → Nat} {fresh : Prop}
  {before between after : Operations} {new later : List Act}

theorem Permitted.mono {flow : SourceWorkflow} {event : EventEnvelope}
    (permitted : Permitted env loop flow event before)
    (grown : ∀ askId approval, before.approvals.lookup askId = some approval →
      approval.decision = .approved → after.approvals.lookup askId = some approval) :
    Permitted env loop flow event after := by
  apply Permitted.mk permitted.fires
  obtain ⟨evaluation, judged, allowed⟩ := permitted.judged
  refine ⟨evaluation, judged, allowed.imp_right ?_⟩
  rintro ⟨asks, askId, approval, found, decided, about⟩
  exact ⟨asks, askId, approval, grown askId approval found decided, decided, about⟩

namespace Grows

theorem refl (named : before.Named) : Grows env loop within allowed fresh before before [] :=
  { acts := (List.append_nil _).symm, loops := Nat.le_refl _, named := named
    approved := fun _ _ found _ => found, permitted := by simp, inside := by simp
    bounded := by simp, once := by simp [returnsOf] }

theorem shown {other : Operations}
    (grows : Grows env loop within allowed fresh before after new)
    (same : other.traces = after.traces) :
    Grows env loop within allowed fresh before other new := by
  obtain ⟨acts, loops, named, approved, permitted, inside, bounded, once⟩ := grows
  simp only [traces, Prod.mk.injEq] at same
  obtain ⟨sameActs, sameLoops, sameApprovals, sameProcessed, sameWorkflows⟩ := same
  constructor
  · exact sameActs.trans acts
  · exact sameLoops ▸ loops
  · rw [Named, sameWorkflows]
    exact named
  · exact sameApprovals ▸ approved
  · intro act mem
    exact (permitted act mem).mono fun _ _ found _ => sameApprovals ▸ found
  · exact inside
  · exact sameLoops ▸ bounded
  · exact sameProcessed ▸ once

theorem mono {wider : Nat → Nat}
    (grows : Grows env loop within allowed fresh before after new)
    (more : ∀ n ≤ before.loops, allowed n ≤ wider n) :
    Grows env loop within wider fresh before after new := by
  refine { grows with bounded := fun n => Nat.le_trans (grows.bounded n) ?_ }
  split_ifs with old
  · exact more n old
  · exact Nat.le_refl _
  · exact Nat.le_refl _

theorem trans {other total : Nat → Nat} {next : Prop}
    (first : Grows env loop within allowed fresh before between new)
    (second : Grows env loop within other next between after later)
    (apart : ∀ n, before.loops < n → other n = 0)
    (sum : ∀ n ≤ before.loops, allowed n + other n ≤ total n)
    (follows : fresh → (∀ act ∈ new, ¬act.Reenters) → next) :
    Grows env loop within total fresh before after (new ++ later) := by
  constructor
  · rw [second.acts, first.acts, List.append_assoc]
  · exact Nat.le_trans first.loops second.loops
  · exact second.named
  · intro askId approval found granted
    exact second.approved _ _ (first.approved _ _ found granted) granted
  · intro act mem
    rcases List.mem_append.mp mem with past | now
    · exact (first.permitted act past).mono second.approved
    · exact second.permitted act now
  · intro act mem
    rcases List.mem_append.mp mem with past | now
    · exact first.inside act past
    · exact second.inside act now
  · intro n
    have one := first.bounded n
    have two := second.bounded n
    have alone := apart n
    have both := sum n
    have grown := first.loops
    have further := second.loops
    rw [List.countP_append]
    split_ifs at one two ⊢ <;> omega
  · intro isFresh clean key
    have quiet : ∀ act ∈ new, ¬act.Reenters := fun act past =>
      clean act (List.mem_append_left _ past)
    have one := first.once isFresh quiet key
    have two := second.once (follows isFresh quiet)
      (fun act now => clean act (List.mem_append_right _ now)) key
    rw [returns_of_append]
    omega

/-- A pair whose action is not over is not marked meanwhile. -/
theorem unmarked (grows : Grows env loop within allowed True before after new)
    (clean : ∀ act ∈ new, ¬act.Reenters) {key : String × String} (running : key ∈ within) :
    returnsOf key new = 0 ∧
      (key ∈ after.processed ↔ key ∈ before.processed) := by
  have none : returnsOf key new = 0 := by
    rw [returnsOf, List.countP_eq_zero]
    intro act mem ret
    have own : act.key = key := (of_decide_eq_true ret).1
    apply clean act mem
    rw [Act.Reenters, own]
    exact grows.inside act mem running
  apply And.intro none
  have same := grows.once trivial clean key
  rw [none, Nat.zero_add] at same
  by_cases held : key ∈ before.processed
  · simpa [held] using same.symm
  · simpa [held] using same.symm

end Grows

instance : Std.Refl (Extends env loop within) := ⟨fun _ named => ⟨[], .refl named⟩⟩

instance : IsTrans Operations (Extends env loop within) := by
  constructor
  intro before between after first second named
  obtain ⟨new, grown⟩ := first named
  obtain ⟨later, further⟩ := second grown.named
  exact ⟨_, grown.trans further (fun _ _ => rfl) (fun _ _ => Nat.le_refl _) fun _ _ => trivial⟩

theorem extends_of_quiet (acts : after.acts = before.acts) (loops : after.loops = before.loops)
    (processed : after.processed = before.processed) (named : before.Named → after.Named)
    (approved : ∀ askId approval, before.approvals.lookup askId = some approval →
      approval.decision = .approved → after.approvals.lookup askId = some approval) :
    Extends env loop within before after := by
  intro sound
  exact ⟨[], { acts := acts.trans (List.append_nil _).symm, loops := loops.ge, named := named sound
               approved := approved, permitted := by simp, inside := by simp
               bounded := by simp, once := by simp [returnsOf, processed] }⟩

theorem extends_of_same (same : after.traces = before.traces) :
    Extends env loop within before after :=
  fun named => ⟨[], (Grows.refl named).shown same⟩

section actions

variable {flow : SourceWorkflow} {event : EventEnvelope} {act : Actions}

/-- In the loop `number` an action may be run `limit` times. -/
def only (n limit : Nat) : Nat → Nat := fun other => if other = n then limit else 0

/-- An action that is started while those of `within` are not over adds itself, once, and what its
calls add. When it does not return, its pair is not marked. -/
def Serves (env : Surroundings) (loop : AutonomousLoop) (within : List (String × String))
    (act : Actions) : Prop :=
  ∀ n flow event granted before, before.Named → n ≤ before.loops →
    Permitted env loop flow event before →
    Command.Ends (act n flow event granted)
      (fun out after => ∃ new, Grows env loop within (only n 1)
        ((flow.workflowId, event.eventId) ∉ before.processed) before
        (after.marked (flow.workflowId, event.eventId) out.Returned) new ∧
        (¬out.Returned → (flow.workflowId, event.eventId) ∉ before.processed →
          (∀ act ∈ new, ¬act.Reenters) →
            (flow.workflowId, event.eventId) ∉ after.processed))
      (fun _ _ => False) before

theorem serves_of_started (act : Act) (running : act.loop ≤ before.loops)
    (inside : act.within = within)
    (permitted : Permitted env loop act.workflow act.event before)
    (grown : Grows env loop (act.key :: within) (fun _ => 0) True
      { before with acts := before.acts ++ [act] } after new) :
    Grows env loop within (only act.loop 1) (act.key ∉ before.processed) before
        (after.marked act.key act.outcome.Returned) (act :: new) ∧
      (¬act.outcome.Returned → act.key ∉ before.processed →
        (∀ other ∈ act :: new, ¬other.Reenters) → act.key ∉ after.processed) := by
  have alone (clean : ∀ other ∈ act :: new, ¬other.Reenters) :=
    grown.unmarked (fun other mem => clean other (List.mem_cons_of_mem _ mem))
      List.mem_cons_self
  have traces : after.marked act.key act.outcome.Returned =
      { after with processed := if act.outcome.Returned then act.key :: after.processed
          else after.processed } := by
    unfold marked
    split_ifs with ret <;> simp_all
  rw [traces]
  refine ⟨?_, fun _ unheld clean => ?_⟩
  · constructor
    · exact grown.acts.trans (by simp)
    · exact grown.loops
    · exact grown.named
    · exact grown.approved
    · intro other mem
      rcases List.mem_cons.mp mem with rfl | later
      · exact permitted.mono grown.approved
      · exact (grown.permitted other later).mono fun _ _ found _ => found
    · intro other mem
      rcases List.mem_cons.mp mem with rfl | later
      · exact inside ▸ List.Subset.refl _
      · exact fun key held => grown.inside other later (List.mem_cons_of_mem _ held)
    · intro n
      have rest := grown.bounded n
      rw [List.countP_cons, only]
      simp only [decide_eq_true_eq] at rest ⊢
      split_ifs at rest ⊢ <;> omega
    · intro unheld clean key
      have rest := grown.once trivial
        (fun other mem => clean other (List.mem_cons_of_mem _ mem)) key
      have own := alone clean
      rw [returns_of_cons]
      by_cases same : act.key = key
      · subst same
        by_cases ret : act.outcome.Returned
        · simp [own.1, unheld, ret]
        · simp [own.1, unheld, ret, own.2]
      · by_cases ret : act.outcome.Returned
        · simpa [same, Ne.symm same, ret] using rest
        · simpa [same, ret] using rest
  · rw [(alone clean).2]
    exact unheld

theorem action_serves : Serves env loop within (actionWithin env within) := by
  intro n flow event granted before named running permitted
  have started := serves_of_started
    ⟨flow, event, granted, n, env.outcome before.acts.length, within⟩ running rfl
    permitted (.refl named)
  exact ⟨_, started⟩

theorem attempts_grow (serves : Serves env loop within act) {n : Nat} (granted : Bool)
    (remaining attempt : Nat) (before : Operations) (named : before.Named)
    (running : n ≤ before.loops)
    (permitted : Permitted env loop flow event before) (positive : 1 ≤ attempt)
    (short : attempt ≤ loop.recovery.maxRetries + 1) :
    Command.Ends (attempts env loop act n flow event granted remaining attempt)
      (fun decision after => ∃ new,
        Grows env loop within (only n (loop.most remaining attempt))
          ((flow.workflowId, event.eventId) ∉ before.processed) before
          (after.marked (flow.workflowId, event.eventId) (decision.state = .idle)) new)
      (fun _ after => ∃ new,
        Grows env loop within (only n (loop.most remaining attempt))
          ((flow.workflowId, event.eventId) ∉ before.processed) before after new) before := by
  induction remaining generalizing attempt before with
  | zero =>
    unfold attempts
    rw [ends_pure]
    exact ⟨[], .refl named⟩
  | succ remaining ih =>
    unfold attempts
    have room : 1 ≤ loop.most (remaining + 1) attempt := by
      unfold AutonomousLoop.most
      omega
    have first : ∀ other ≤ before.loops, only n 1 other ≤
        only n (loop.most (remaining + 1) attempt) other := by
      intro other _
      unfold only
      split_ifs <;> omega
    rw [ends_bind]
    apply (serves n flow event granted before named running permitted).mono
    · rintro out after ⟨new, grown, quiet⟩
      cases out with
      | returned res =>
        simp only [WorkflowRun.success, uuid4, ends_bind, ends_modify_get, ends_pure]
        exact ⟨new, (grown.mono first).shown rfl⟩
      | raised typeName msg =>
        obtain ⟨record, decided, retries⟩ := loop.recovery.decide_transient positive
        rw [decided]
        simp only [ends_bind, ends_of_ok]
        by_cases again : record.action = .retry
        · rw [if_pos again]
          have allowed := retries.mp again
          have rest {final : Operations} {later : List Act}
              (further : Grows env loop within (only n (loop.most remaining (attempt + 1)))
                ((flow.workflowId, event.eventId) ∉ after.processed) after final later) :
              Grows env loop within (only n (loop.most (remaining + 1) attempt))
                ((flow.workflowId, event.eventId) ∉ before.processed) before final
                  (new ++ later) := by
            apply grown.trans further
            · intro other newer
              exact if_neg (by omega)
            · intro other _
              unfold only AutonomousLoop.most
              split_ifs <;> omega
            · exact quiet (by simp [ActionOutcome.Returned])
          have next := ih (attempt + 1) after grown.named (Nat.le_trans running grown.loops)
            (permitted.mono grown.approved) (by omega) (by omega)
          apply next.mono
          · rintro decision final ⟨later, further⟩
            exact ⟨_, rest further⟩
          · rintro err final ⟨later, further⟩
            exact ⟨_, rest further⟩
        · rw [if_neg again]
          simp only [WorkflowRun.failure, uuid4, ends_bind, ends_modify_get, ends_pure]
          exact ⟨new, (grown.mono first).shown rfl⟩
      | interrupted err =>
        rw [ends_throw]
        exact ⟨new, grown.mono first⟩
    · exact fun _ _ impossible => impossible.elim

theorem Grows.looped
    (unheld : (flow.workflowId, event.eventId) ∉ before.processed)
    (grown : Grows env loop within (only (before.loops + 1) (loop.most loop.maxIterations 1))
      ((flow.workflowId, event.eventId) ∉ before.processed)
      { before with loops := before.loops + 1 } after new) :
    Grows env loop within (fun _ => 0) True before after new := by
  have further : before.loops + 1 ≤ after.loops := grown.loops
  refine { grown with loops := by omega, bounded := fun n => ?_, once := fun _ => ?_ }
  · have bound := grown.bounded n
    simp only [only] at bound
    split_ifs at bound ⊢ <;> omega
  · exact grown.once unheld

theorem request_extends (workflowId reason : String) (before : Operations) :
    Command.Ends (requestApproval env workflowId event reason)
      (fun _ => Extends env loop within before)
      (fun _ => Extends env loop within before) before := by
  unfold requestApproval
  simp only [utcNow, uuid4, ends_bind, ends_modify_get, ends_get]
  unfold InMemoryApprovalStore.create
  cases taken : before.approvals.lookup (ApprovalGate.request (env.uuid before.drawn)
      workflowId event reason (env.clock before.read)).approvalId with
  | some other =>
    rw [ends_of_error]
    exact extends_of_same rfl
  | none =>
    simp only [ends_of_ok, ends_bind, ends_modify, ends_pure]
    refine extends_of_quiet rfl rfl rfl id ?_
    intro askId approval found _
    rw [Dict.lookup_append, found, Option.some_or]

theorem run_workflow_extends (serves : Serves env loop within act) (workflowId : String)
    (event : EventEnvelope) (granted : Bool) (before : Operations) (named : before.Named)
    (approved : granted = true → ∀ flow, before.workflows.lookup workflowId = some flow →
      before.Approved flow event) :
    Command.Ends (runWorkflow env loop act workflowId event granted)
      (fun _ => Extends env loop within before)
      (fun _ => Extends env loop within before) before := by
  unfold runWorkflow
  rw [ends_bind, ends_get]
  by_cases held : (workflowId, event.eventId) ∈ before.processed
  · rw [if_pos held, ends_pure]
    exact extends_of_same rfl
  rw [if_neg held]
  cases found : before.workflows.lookup workflowId with
  | none =>
    simp only [ends_throw]
    exact extends_of_same rfl
  | some flow =>
    obtain rfl : workflowId = flow.workflowId := named _ (Dict.mem_of_lookup found)
    simp only []
    unfold AutonomousLoop.run
    by_cases fires : flow.fires event = false
    · rw [if_pos fires]
      simp only [ends_bind, ends_pure]
      exact extends_of_same rfl
    rw [if_neg fires]
    cases judged : loop.policy.judge env.reprFloat event with
    | error err =>
      simp only [ends_bind, ends_of_error]
      exact extends_of_same rfl
    | ok evaluation =>
      have acting (allowed : evaluation.outcome = .allow ∨
          evaluation.outcome = .approvalRequired ∧ granted = true) :
          Command.Ends (do
            let decision ← (do
              modify fun ops => { ops with loops := ops.loops + 1 }
              attempts env loop act (← get).loops flow event granted loop.maxIterations 1)
            if decision.state = .idle then
              modify fun ops => { ops with
                processed := (flow.workflowId, event.eventId) :: ops.processed }
            return decision)
            (fun _ => Extends env loop within before)
            (fun _ => Extends env loop within before) before := by
        have permitted : Permitted env loop flow event before :=
          ⟨by simpa using fires, evaluation, judged,
            allowed.imp_right fun asked => ⟨asked.1, approved asked.2 flow found⟩⟩
        simp only [ends_bind, ends_modify, ends_get]
        apply (attempts_grow serves granted loop.maxIterations 1
          { before with loops := before.loops + 1 } named (Nat.le_refl _)
          (permitted.mono fun _ _ found _ => found) (Nat.le_refl 1) (Nat.succ_pos _)).mono
        · rintro decision after ⟨new, grown⟩
          by_cases idle : decision.state = .idle
          · rw [if_pos idle]
            simp only [marked, idle, decide_true, if_true] at grown
            exact fun _ => ⟨new, grown.looped held⟩
          · rw [if_neg idle]
            simp only [marked, idle, decide_false, Bool.false_eq_true, if_false] at grown
            exact fun _ => ⟨new, grown.looped held⟩
        · rintro err after ⟨new, grown⟩
          exact fun _ => ⟨new, grown.looped held⟩
      cases out : evaluation.outcome with
      | deny =>
        simp only [out, ends_bind, ends_of_ok, if_pos, ends_pure]
        exact extends_of_same rfl
      | allow => simpa [out] using acting (Or.inl out)
      | approvalRequired =>
        cases granted with
        | true => simpa [out] using acting (Or.inr ⟨out, rfl⟩)
        | false =>
          simp only [out, reduceCtorEq, if_false, and_self, if_true, ends_bind, ends_of_ok]
          exact request_extends flow.workflowId evaluation.reason before

theorem workflow_extends (serves : Serves env loop within act) (workflowId : String)
    (event : EventEnvelope) :
    Command.Moves (Extends env loop within) (runWorkflow env loop act workflowId event false) := by
  intro before
  by_cases named : before.Named
  · exact run_workflow_extends serves workflowId event false before named (by simp)
  · exact ends_of_all (fun _ _ other => absurd other named) fun _ _ other => absurd other named

theorem handle_extends (serves : Serves env loop within act) (event : EventEnvelope)
    (routes : List EventRoute) :
    Command.Moves (Extends env loop within) (handle env loop act event routes) := by
  induction routes with
  | nil => exact moves_pure _
  | cons route rest ih =>
    apply moves_ite
    · intro _
      apply moves_bind (workflow_extends serves _ _)
      exact fun _ => moves_bind ih fun _ => moves_pure _
    · exact fun _ => ih

theorem route_extends (serves : Serves env loop within act) (event : EventEnvelope) :
    Command.Moves (Extends env loop within) (routeEvent env loop act event) := by
  apply moves_bind moves_get
  intro ops
  apply moves_bind (handle_extends serves event _)
  exact fun _ => moves_bind moves_get fun _ => moves_pure _

theorem modify_extends (change : Operations → Operations)
    (same : ∀ ops, (change ops).traces = ops.traces) :
    Command.Moves (Extends env loop within) (modify change : OperationsCommand Unit) :=
  fun ops => extends_of_same (same ops)

theorem now_extends : Command.Moves (Extends env loop within) (utcNow env) :=
  fun _ => extends_of_same rfl

theorem drain_extends (serves : Serves env loop within act) (limit : Int) :
    Command.Moves (Extends env loop within) (drainOutbox env loop act limit) := by
  have each (events : List OutboxEvent) :
      Command.Moves (Extends env loop within) (drainEach env loop act events) := by
    induction events with
    | nil => exact moves_pure _
    | cons event rest ih =>
      apply moves_bind (route_extends serves _)
      intro receipt
      have published : Command.Moves (Extends env loop within) (markPublished env event.eventId) :=
        moves_bind now_extends fun _ => modify_extends _ fun _ => rfl
      have tail := moves_bind ih fun receipts => moves_pure (receipt :: receipts)
      exact moves_ite (fun _ => moves_bind published fun _ => tail) fun _ => tail
  apply moves_bind moves_get
  intro ops
  cases ops.outbox with
  | none => exact moves_throw _
  | some outbox => exact each _

theorem register_extends (flow : SourceWorkflow) :
    Command.Moves (Extends env loop within) (registerWorkflow flow) := by
  have added : Command.Moves (Extends env loop within) (modify fun ops =>
      { ops with workflows := ops.workflows ++ [(flow.workflowId, flow)] } :
        OperationsCommand Unit) := by
    intro ops
    refine extends_of_quiet rfl rfl rfl ?_ fun _ _ found _ => found
    intro named entry mem
    rcases List.mem_append.mp mem with held | new
    · exact named entry held
    · rw [List.mem_singleton.mp new]
  have routed : Command.Moves (Extends env loop within) (registerRoute flow.route) := by
    apply moves_ite
    · exact fun _ => moves_bind (moves_throw _) fun _ => moves_bind moves_get fun _ =>
        moves_ite (fun _ => moves_throw _) fun _ => modify_extends _ fun _ => rfl
    · exact fun _ => moves_bind moves_get fun _ =>
        moves_ite (fun _ => moves_throw _) fun _ => modify_extends _ fun _ => rfl
  apply moves_bind moves_get
  intro ops
  apply moves_ite
  · exact fun _ => moves_throw _
  · exact fun _ => moves_bind added fun _ => routed

theorem granted_kept {approvals : InMemoryApprovalStore} {askId other : String}
    {cur approval : ApprovalRequest} (pending : approvals.lookup askId = some cur)
    (waits : cur.decision = .pending) (decided : ApprovalRequest)
    (found : approvals.lookup other = some approval) (granted : approval.decision = .approved) :
    (Dict.set askId decided approvals).lookup other = some approval := by
  have apart : other ≠ askId := by
    intro same
    rw [same, pending, Option.some.injEq] at found
    rw [← found, waits] at granted
    cases granted
  rw [Dict.lookup_set, if_neg apart, found]

theorem deciding_extends {askId actor : String} {decision : ApprovalDecision} {now : Int}
    {approvals : InMemoryApprovalStore} {res : Except PyError ApprovalRequest}
    (decided : before.approvals.Decided askId decision actor now (approvals, res)) :
    Extends env loop within before (before.deciding approvals) := by
  refine extends_of_quiet rfl rfl rfl id ?_
  intro other approval found granted
  cases decided with
  | refused => exact found
  | expired cur err pending waits | done cur decidedAt pending waits =>
    exact granted_kept pending waits _ found granted

/-- The approval that is granted here is what permits the run. -/
theorem approve_extends (serves : Serves env loop within act) (askId actor : String) :
    Command.Moves (Extends env loop within) (approveAndResume env loop act askId actor) := by
  intro before
  unfold approveAndResume
  rw [ends_bind]
  apply (decide_decided env askId .approved actor before).mono
  · rintro approval after ⟨cur, decidedAt, found, waits, timely, rfl, rfl⟩
    generalize granted : InMemoryApprovalStore.decided .approved actor decidedAt cur = approval
    have decided : Extends env loop within before
        (before.deciding (before.approvals.set askId approval)) :=
      granted ▸ deciding_extends (.done cur decidedAt found waits timely)
    simp only [ends_bind, ends_get]
    cases known : (before.deciding (before.approvals.set askId approval)).workflows.lookup
        approval.workflowId with
    | none =>
      rw [ends_throw]
      exact decided
    | some flow =>
      have resumed (event : EventEnvelope) (read : Nat)
          (about : approval.event = some event ∨
            approval.event = none ∧ event.eventId = approval.eventId) :
          Ends (runWorkflow env loop act flow.workflowId event true)
            (fun _ => Extends env loop within before)
            (fun _ => Extends env loop within before)
            { before.deciding (before.approvals.set askId approval) with read := read } := by
        by_cases named : before.Named
        · have own : approval.workflowId = flow.workflowId :=
            named _ (Dict.mem_of_lookup known)
          have there : Extends env loop within before
              { before.deciding (before.approvals.set askId approval) with read := read } :=
            IsTrans.trans _ _ _ decided (extends_of_same rfl)
          refine Ends.mono (run_workflow_extends serves _ event true _ named ?_)
            (fun _ _ => IsTrans.trans _ _ _ there) fun _ _ => IsTrans.trans _ _ _ there
          intro _ other found
          rw [← own] at found
          obtain rfl : flow = other := Option.some.inj (known.symm.trans found)
          exact ⟨askId, approval, Dict.lookup_set_same _ _ _, by rw [← granted]; rfl, own,
            about⟩
        · exact ends_of_all (fun _ _ other => absurd other named)
            fun _ _ other => absurd other named
      cases about : approval.event with
      | some event => exact resumed event _ (Or.inl about)
      | none =>
        simp only [utcNow, ends_bind, ends_modify_get]
        exact resumed _ _ (Or.inr ⟨about, rfl⟩)
  · rintro err after ⟨approvals, res, rfl, decided⟩
    exact deciding_extends decided

theorem reject_extends (askId actor : String) :
    Command.Moves (Extends env loop within) (reject env askId actor) := by
  intro before
  unfold reject
  rw [ends_bind]
  apply (decide_decided env askId .rejected actor before).mono
  · rintro approval after ⟨cur, decidedAt, found, waits, timely, rfl, rfl⟩
    exact deciding_extends (.done cur decidedAt found waits timely)
  · rintro err after ⟨approvals, res, rfl, decided⟩
    exact deciding_extends decided

theorem append_extends (event : OutboxEvent) :
    Command.Moves (Extends env loop within) (appendEvent event) := by
  apply moves_bind moves_get
  intro ops
  cases ops.outbox with
  | none => exact moves_pure _
  | some outbox => exact moves_bind (modify_extends _ fun _ => rfl) fun _ => moves_pure _

theorem command_extends (serves : Serves env loop within act) (call : OperationsCall) :
    Command.Moves (Extends env loop within) (commandOf env loop act call) := by
  cases call with
  | registerWorkflow flow => exact moves_bind (register_extends flow) fun _ => moves_pure _
  | route event => exact moves_bind (route_extends serves event) fun _ => moves_pure _
  | drainOutbox limit => exact moves_bind (drain_extends serves limit) fun _ => moves_pure _
  | approveAndResume askId actor =>
    exact moves_bind (approve_extends serves askId actor) fun _ => moves_pure _
  | reject askId actor => exact moves_bind (reject_extends _ _) fun _ => moves_pure _
  | append event => exact moves_bind (append_extends event) fun _ => moves_pure _

theorem calls_extend {serve : OperationsCall → OperationsCommand OperationsAnswer}
    (extend : ∀ call, Command.Moves (Extends env loop within) (serve call))
    (calls : List OperationsCall) (before : Operations) :
    Ends (makeCalls serve calls) (fun _ => Extends env loop within before)
      (fun _ _ => False) before := by
  induction calls generalizing before with
  | nil => exact Std.Refl.refl (r := Extends env loop within) before
  | cons call rest ih =>
    have further (between : Operations) (moved : Extends env loop within before between) :
        Ends (makeCalls serve rest) (fun _ => Extends env loop within before)
          (fun _ _ => False) between :=
      (ih between).mono (fun _ _ next => IsTrans.trans _ _ _ moved next) fun _ _ never => never
    have made : Command.Moves (Extends env loop within) (discard (serve call)) :=
      moves_bind (extend call) fun _ => moves_pure ()
    unfold makeCalls
    rw [ends_bind, ends_try_catch]
    exact (made before).mono (fun _ => further) fun _ => further

/-- Actions that call the operations, nested `depth` deep. -/
theorem reentrant_serves (makes : Nat → List OperationsCall) (depth : Nat)
    (within : List (String × String)) :
    Serves env loop within (reentrant env loop makes depth within) := by
  induction depth generalizing within with
  | zero => exact action_serves
  | succ depth ih =>
    intro n flow event granted before named running permitted
    have nested := calls_extend
      (command_extends (ih ((flow.workflowId, event.eventId) :: within)))
      (makes before.acts.length)
    unfold reentrant
    simp only [actionWithin, ends_bind, ends_get, ends_modify_get]
    apply (nested _).mono
    · rintro _ after extended
      obtain ⟨new, grown⟩ := extended named
      have started := serves_of_started
        ⟨flow, event, granted, n, env.outcome before.acts.length, within⟩ running rfl
        permitted grown
      exact ⟨_, started⟩
    · exact fun _ _ never => never

variable (env loop) in
theorem calls_grow (makes : Nat → List OperationsCall) (depth : Nat) (calls : List OperationsCall)
    (ops : Operations) :
    Extends env loop [] ops ((reentrantOperations env loop makes depth).run calls ops) := by
  have step (call : OperationsCall) (between : Operations)
      (grown : Extends env loop [] ops between) : Extends env loop [] ops
        ((reentrantOperations env loop makes depth).next call between) :=
    IsTrans.trans _ _ _ grown
      ((command_extends (reentrant_serves makes depth []) call).after between)
  exact Machine.run_invariant step calls (Std.Refl.refl (r := Extends env loop []) ops)

end actions

end growth

/-- What holds of the actions of every run, whatever they call and however deep. An action
is run only for an event that triggers its workflow and that the policy allows or a human
approved, and is attempted within the limits of the loop. It returns at most once for a workflow
and an event, as long as no action is started again for the event that it is still run for. -/
theorem actions_run_once (env : Surroundings) (loop : AutonomousLoop)
    (makes : Nat → List OperationsCall) (depth : Nat) (outbox : Option Outbox)
    (approvals : InMemoryApprovalStore) (calls : List OperationsCall) :
    let after := (reentrantOperations env loop makes depth).run calls (.start outbox approvals)
    ((∀ act ∈ after.acts, ¬act.Reenters) → ∀ key, returnsOf key after.acts ≤ 1) ∧
      (∀ act ∈ after.acts, Permitted env loop act.workflow act.event after) ∧
        ∀ n, (after.acts.filter (·.loop = n)).length ≤
          min loop.maxIterations (loop.recovery.maxRetries + 1) := by
  intro after
  obtain ⟨new, grown⟩ := calls_grow env loop makes depth calls (.start outbox approvals)
    (by simp [Named, start])
  have acts : after.acts = new := grown.acts
  rw [acts]
  refine ⟨fun clean key => ?_, grown.permitted, fun n => ?_⟩
  · have same := grown.once trivial clean key
    split_ifs at same <;> omega
  · rw [← List.countP_eq_length_filter]
    apply Nat.le_trans (grown.bounded n)
    split_ifs
    · exact Nat.zero_le _
    · simp [AutonomousLoop.most]
    · exact Nat.zero_le _

/-- The first action routes an event. -/
def routesFirst (event : String) : Nat → List OperationsCall
  | 0 => [.route (.fromOutbox (creation event "tenant"))]
  | _ => []

def routedWhile (event : String) : Operations :=
  (reentrantOperations (.steady (.returned .null)) lenientLoop (routesFirst event) 1).run
    [.registerWorkflow (creationFlow "flow" "tenant"),
      .route (.fromOutbox (creation "event" "tenant"))] (.start none)

/-- The action routes another event, for which the workflow acts while it acts for the first. -/
theorem chained_actions_once :
    (routedWhile "other").acts.map Act.key = [("flow", "event"), ("flow", "other")] ∧
      ∀ key, returnsOf key (routedWhile "other").acts ≤ 1 :=
  ⟨by decide +kernel, (actions_run_once (.steady (.returned .null)) lenientLoop
    (routesFirst "other") 1 none [] _).1 (by decide +kernel)⟩

/-- The action routes the event that it is run for. -/
theorem rerouted_action_returns_twice :
    returnsOf ("flow", "event") (routedWhile "event").acts = 2 := by
  decide +kernel

/-- An action that fails is attempted three times, and again in the next drain. -/
example :
    let after := (autonomousOperations (.steady (.raised "Error" "down")) lenientLoop).run
      [.registerWorkflow (creationFlow "flow" "tenant"), .append (creation "event" "tenant"),
        .drainOutbox 100, .drainOutbox 100] (.start (some {}))
    after.acts.map (·.loop) = [1, 1, 1, 2, 2, 2] := by
  decide +kernel

end Ois.Autonomy
