import Ois.Autonomy.OperationsCalls

/-!
# Approvals of one workflow for one event

The gate makes a request without looking for another one. So each drain asks again for an
event that waits for its approval, and a human can reject one request and approve another.
-/

namespace Ois.Autonomy

open Ois.Library Ois.Kernel Ois.Sources EventEnvelope

def ApprovalRequest.Of (workflowId eventId : String) (decision : ApprovalDecision)
    (req : ApprovalRequest) : Prop :=
  req.workflowId = workflowId ∧ req.eventId = eventId ∧ req.decision = decision

instance (workflowId eventId : String) (decision : ApprovalDecision)
    (req : ApprovalRequest) : Decidable (req.Of workflowId eventId decision) :=
  inferInstanceAs (Decidable (_ ∧ _ ∧ _))

abbrev Running := SourceWorkflow × EventEnvelope

namespace Operations

def requests (workflowId eventId : String) (decision : ApprovalDecision)
    (ops : Operations) : List (String × ApprovalRequest) :=
  ops.approvals.filter fun entry => entry.2.Of workflowId eventId decision

def actsOf (workflowId eventId : String) (ops : Operations) : List Act :=
  ops.acts.filter fun act => act.Of workflowId eventId

/-- Some approval of the workflow for the event was rejected. -/
def Rejected (workflowId eventId : String) (ops : Operations) : Prop :=
  ops.requests workflowId eventId .rejected ≠ []

instance (workflowId eventId : String) (ops : Operations) :
    Decidable (ops.Rejected workflowId eventId) :=
  inferInstanceAs (Decidable (ops.requests workflowId eventId .rejected ≠ []))

def Single (ops : Operations) : Prop :=
  ∀ workflowId eventId, (ops.requests workflowId eventId .pending).length ≤ 1

def runnings (events : List EventEnvelope) (ops : Operations) : List Running :=
  events.flatMap fun event => (ops.takers event).map fun flow => (flow, event)

end Operations

open Operations

section discipline

variable (env : Surroundings) (loop : AutonomousLoop)

def reached (runnings : List Running) (ops : Operations) : List Running :=
  runnings.takeWhile fun running =>
    fate env loop running.1 running.2 false ops ≠ .raises

/-- An event that needs an approval has no request that is pending, and one that needs none
was not rejected. -/
def Permits (ops : Operations) (running : Running) : Prop :=
  (fate env loop running.1 running.2 false ops = .asks →
    ops.requests running.1.workflowId running.2.eventId .pending = []) ∧
  (fate env loop running.1 running.2 false ops = .acts →
    ops.requests running.1.workflowId running.2.eventId .rejected = [])

instance (ops : Operations) (running : Running) :
    Decidable (Permits env loop ops running) :=
  inferInstanceAs (Decidable ((_ → _) ∧ (_ → _)))

def resumes (askId : String) (ops : Operations) : Option Running :=
  match ops.approvals.lookup askId with
  | none => none
  | some cur =>
    if cur.decision = .pending ∧ cur.Timely (env.clock ops.read).instant then
      (ops.workflows.lookup cur.workflowId).map fun flow =>
        (flow, cur.event.getD
          (cur.rebuilt flow (env.clock (ops.read + 2))))
    else none

/-- The call asks for no approval that is asked for already, and runs no action that was
rejected. -/
def Careful (call : OperationsCall) (ops : Operations) : Prop :=
  match call with
  | .route event => ∀ running ∈ reached env loop (ops.runnings [event]) ops,
      Permits env loop ops running
  | .drainOutbox limit => ∀ outbox ∈ ops.outbox, ∀ running ∈ reached env loop
        (ops.runnings ((outbox.pending limit).map .fromOutbox)) ops,
        Permits env loop ops running
  | .approveAndResume askId _ => ∀ running ∈ resumes env askId ops,
      fate env loop running.1 running.2 true ops = .acts →
        ops.requests running.1.workflowId running.2.eventId .rejected = []
  | _ => True

instance : ∀ (call : OperationsCall) (ops : Operations),
    Decidable (Careful env loop call ops)
  | .route _, _ => inferInstanceAs (Decidable (∀ running ∈ _, _))
  | .drainOutbox _, ops =>
    inferInstanceAs (Decidable (∀ outbox ∈ ops.outbox, ∀ running ∈ _, _))
  | .approveAndResume _ _, _ =>
    inferInstanceAs (Decidable (∀ running ∈ resumes _ _ _, _ → _))
  | .registerWorkflow _, _ => .isTrue trivial
  | .reject _ _, _ => .isTrue trivial
  | .append _, _ => .isTrue trivial

def Allows (runnings : List Running) (ops : Operations) : Prop :=
  ∀ running ∈ reached env loop runnings ops,
    Permits env loop ops running

/-- In every state at most one request is pending for each workflow and event, and an action
that was rejected for an event is not run for it any more. -/
def Disciplined (calls : List OperationsCall) (ops : Operations) : Prop :=
  ∀ before after, calls = before ++ after → let machine := autonomousOperations env loop
    (machine.run before ops).Single ∧
      ∀ workflowId eventId, (machine.run before ops).Rejected workflowId eventId →
        (machine.run calls ops).actsOf workflowId eventId =
          (machine.run before ops).actsOf workflowId eventId

variable {env loop}

structure Follows (before after : Operations) : Prop where
  single : after.Single
  quiet : ∀ workflowId eventId, before.Rejected workflowId eventId →
    after.Rejected workflowId eventId ∧
      after.actsOf workflowId eventId = before.actsOf workflowId eventId

theorem Follows.refl {ops : Operations} (single : ops.Single) :
    Follows ops ops :=
  ⟨single, fun _ _ rejected => ⟨rejected, rfl⟩⟩

theorem Follows.trans {first second third : Operations} (left : Follows first second)
    (right : Follows second third) : Follows first third := by
  constructor
  · exact right.single
  · intro workflowId eventId rejected
    obtain ⟨still, same⟩ := left.quiet workflowId eventId rejected
    obtain ⟨last, again⟩ := right.quiet workflowId eventId still
    exact ⟨last, again.trans same⟩

theorem Follows.of_same {before after : Operations} (single : before.Single)
    (approvals : after.approvals = before.approvals) (acts : after.acts = before.acts) :
    Follows before after := by
  constructor
  · intro workflowId eventId
    rw [requests, approvals]
    exact single workflowId eventId
  · intro workflowId eventId rejected
    rw [Operations.Rejected, requests, approvals, actsOf, acts]
    exact ⟨rejected, rfl⟩

theorem Follows.of_core {before after : Operations} (single : before.Single)
    (same : after.core = before.core) : Follows before after :=
  .of_same single (congrArg (·.2.1) same) (congrArg (·.2.2.1) same)

theorem fate_of_core {ops other : Operations} {running : Running} {granted : Bool}
    (same : other.core = ops.core) :
    fate env loop running.1 running.2 granted other =
      fate env loop running.1 running.2 granted ops := by
  have processed : other.processed = ops.processed := congrArg (·.1) same
  apply fate_of_same
  rw [processed]

theorem granted_never_asks {ops : Operations} {flow : SourceWorkflow}
    {event : EventEnvelope} :
    fate env loop flow event true ops ≠ .asks := by
  unfold fate
  by_cases passes : (flow.workflowId, event.eventId) ∈ ops.processed ∨
      flow.fires event = false
  · simp [passes]
  · rw [if_neg passes]
    cases loop.policy.judge env.reprFloat event with
    | error err => simp
    | ok evaluation => cases out : evaluation.outcome <;> simp [out]

theorem permits_of_core {ops other : Operations} {running : Running}
    (same : other.core = ops.core) :
    Permits env loop other running ↔ Permits env loop ops running := by
  have approvals : other.approvals = ops.approvals := congrArg (·.2.1) same
  unfold Permits
  rw [fate_of_core same, requests, requests, approvals]
  rfl

section runs

variable {flow : SourceWorkflow} {event : EventEnvelope} {granted : Bool}
  {ops after : Operations} {res : Except PyError LoopDecision}

theorem requests_asking (reason workflowId eventId : String) (decision : ApprovalDecision) :
    (ops.asking
        (ops.newRequest env flow event reason)).requests workflowId eventId
        decision =
      ops.requests workflowId eventId decision ++
        if flow.workflowId = workflowId ∧ event.eventId = eventId ∧ .pending = decision then
          [(env.uuid ops.drawn,
            ops.newRequest env flow event reason)] else [] := by
  change (ops.approvals ++ [_]).filter _ = _
  rw [List.filter_append]
  apply congrArg (ops.requests workflowId eventId decision ++ ·)
  rw [List.filter_singleton, Bool.cond_decide]
  rfl

theorem acts_of_acted {n limit drawn : Nat} {completes : Bool} {acts : List Act}
    (burst : Burst flow event granted n limit completes acts)
    {workflowId eventId : String}
    (unlike : (workflowId, eventId) ≠ (flow.workflowId, event.eventId)) :
    (ops.acted acts drawn).actsOf workflowId eventId =
      ops.actsOf workflowId eventId := by
  change (ops.acts ++ acts).filter _ = _
  have none : acts.filter (fun act => act.Of workflowId eventId) = [] := by
    rw [List.filter_eq_nil_iff]
    intro act mem
    have same := burst.same act mem
    simp only [decide_eq_true_eq, Act.Of, same.1, same.2.1]
    intro named
    exact unlike (by rw [named.1, named.2])
  rw [List.filter_append, none, List.append_nil]
  rfl

theorem Follows.acted {n limit drawn : Nat} {completes : Bool} {acts : List Act}
    (single : ops.Single)
    (burst : Burst flow event granted n limit completes acts)
    (unrejected : ops.requests flow.workflowId event.eventId .rejected = [])
    (processed : List (String × String)) :
    Follows ops { ops.acted acts drawn with processed := processed } := by
  constructor
  · exact single
  · intro workflowId eventId rejected
    apply And.intro rejected
    change (ops.acted acts drawn).actsOf workflowId eventId = _
    apply acts_of_acted burst
    intro same
    rw [(Prod.mk.inj same).1, (Prod.mk.inj same).2] at rejected
    exact rejected unrejected

theorem Ran.follows (single : ops.Single)
    (asking : fate env loop flow event granted ops = .asks →
      ops.requests flow.workflowId event.eventId .pending = [])
    (acting : fate env loop flow event granted ops = .acts →
      ops.requests flow.workflowId event.eventId .rejected = [])
    (ran : Ran env loop flow event granted ops res after) :
    Follows ops after := by
  cases ran with
  | passed | failed => exact .refl single
  | asked decision reason asks fresh waits =>
    constructor
    · intro workflowId eventId
      rw [requests_asking]
      by_cases own : flow.workflowId = workflowId ∧ event.eventId = eventId
      · rw [← own.1, ← own.2, asking asks]
        simp
      · rw [if_neg (fun same => own ⟨same.1, same.2.1⟩), List.append_nil]
        exact single workflowId eventId
    · intro workflowId eventId rejected
      rw [Operations.Rejected, requests_asking, if_neg (by simp), List.append_nil]
      exact ⟨rejected, rfl⟩
  | clashed err asks taken => exact .of_same single rfl rfl
  | completed decision acts drawn runs idle grown burst =>
    exact .acted single burst (acting runs) _
  | gaveUp decision acts drawn runs recovers grown burst
  | interrupted err acts drawn runs cause grown burst =>
    exact .acted single burst (acting runs) ops.processed

theorem Ran.requests_of_other {workflowId eventId : String} (decision : ApprovalDecision)
    (ran : Ran env loop flow event granted ops res after)
    (unlike : (workflowId, eventId) ≠ (flow.workflowId, event.eventId)) :
    after.requests workflowId eventId decision =
      ops.requests workflowId eventId decision := by
  cases ran with
  | passed | failed | clashed | completed | gaveUp | interrupted => rfl
  | asked _ reason asks fresh waits =>
    rw [requests_asking, if_neg, List.append_nil]
    intro same
    exact unlike (by rw [same.1, same.2.1])

theorem Ran.permits_of_other {running : Running}
    (ran : Ran env loop flow event granted ops res after)
    (unlike : (running.1.workflowId, running.2.eventId) ≠ (flow.workflowId, event.eventId)) :
    fate env loop running.1 running.2 false after =
        fate env loop running.1 running.2 false ops ∧
      (Permits env loop after running ↔ Permits env loop ops running) := by
  have same : fate env loop running.1 running.2 false after =
      fate env loop running.1 running.2 false ops := ran.fate_of_other unlike
  apply And.intro same
  unfold Permits
  rw [same, ran.requests_of_other _ unlike, ran.requests_of_other _ unlike]

end runs

section allowed

variable {ops other : Operations} {first : Running} {rest past : List Running}

theorem allows_cons
    (goesOn : fate env loop first.1 first.2 false ops ≠ .raises) :
    Allows env loop (first :: rest) ops ↔
      Permits env loop ops first ∧ Allows env loop rest ops := by
  unfold Allows reached
  rw [List.takeWhile_cons_of_pos (by simpa using goesOn), List.forall_mem_cons]

theorem allows_first (allowed : Allows env loop (first :: rest) ops)
    (goesOn : fate env loop first.1 first.2 false ops ≠ .raises) :
    Permits env loop ops first :=
  ((allows_cons goesOn).mp allowed).1

theorem allows_append (goesOn : ∀ running ∈ past,
      fate env loop running.1 running.2 false ops ≠ .raises) :
    Allows env loop (past ++ rest) ops ↔
      Allows env loop past ops ∧ Allows env loop rest ops := by
  induction past with
  | nil => simp [Allows, reached]
  | cons running others ih =>
    have here := goesOn running List.mem_cons_self
    rw [List.cons_append, allows_cons here, allows_cons here,
      ih fun later mem => goesOn later (List.mem_cons_of_mem _ mem), and_assoc]

theorem allows_left (allowed : Allows env loop (past ++ rest) ops) :
    Allows env loop past ops := by
  intro running mem
  apply allowed
  rw [reached, List.takeWhile_append]
  split_ifs
  · exact List.mem_append_left _ ((List.takeWhile_prefix _).subset mem)
  · exact mem

theorem allows_of_same
    (fates : ∀ running ∈ rest, fate env loop running.1 running.2 false other =
      fate env loop running.1 running.2 false ops)
    (permits : ∀ running ∈ rest, (Permits env loop other running ↔
      Permits env loop ops running))
    (allowed : Allows env loop rest ops) :
    Allows env loop rest other := by
  induction rest with
  | nil => simp [Allows, reached]
  | cons running others ih =>
    have same := fates running List.mem_cons_self
    by_cases goesOn : fate env loop running.1 running.2 false ops = .raises
    · intro later mem
      have stops : fate env loop running.1 running.2 false other = .raises := by
        rw [same, goesOn]
      rw [reached, List.takeWhile_cons_of_neg (by simp [stops])] at mem
      simp at mem
    · have still : fate env loop running.1 running.2 false other ≠ .raises := by
        rw [same]
        exact goesOn
      rw [allows_cons goesOn] at allowed
      rw [allows_cons still]
      apply And.intro ((permits running List.mem_cons_self).mpr allowed.1)
      exact ih (fun later mem => fates later (List.mem_cons_of_mem _ mem))
        (fun later mem => permits later (List.mem_cons_of_mem _ mem)) allowed.2

end allowed

section chains

variable {event : EventEnvelope} {ops after : Operations}

variable {workflows : List SourceWorkflow} {res : Except PyError (List LoopDecision)}

theorem Served.follows (served : Served env loop event workflows ops res after)
    (single : ops.Single) (distinct : (workflows.map (·.workflowId)).Nodup)
    (allowed : Allows env loop (workflows.map fun flow => (flow, event))
      ops) : Follows ops after := by
  induction served with
  | nil => exact .refl single
  | @failed flow ops after err rest ran =>
    by_cases goesOn : fate env loop flow event false ops = .raises
    · apply ran.follows single
      · intro asks
        simp [goesOn] at asks
      · intro acts
        simp [goesOn] at acts
    · have permits := allows_first allowed goesOn
      exact ran.follows single permits.1 permits.2
  | @cons flow rest ops between after decision decisions ran served ih
  | @later flow rest ops between after decision err ran served ih =>
    rw [List.map_cons, List.nodup_cons] at distinct
    rw [List.map_cons, allows_cons ran.not_raises] at allowed
    have first := ran.follows single allowed.1.1 allowed.1.2
    have unlike : ∀ running ∈ rest.map (fun flow => (flow, event)),
        (running.1.workflowId, running.2.eventId) ≠ (flow.workflowId, event.eventId) := by
      intro running mem same
      obtain ⟨later, present, rfl⟩ := List.mem_map.mp mem
      exact distinct.1 ((Prod.mk.inj same).1 ▸ List.mem_map_of_mem present)
    apply first.trans
    apply ih first.single distinct.2
    exact allows_of_same (fun running mem => (ran.permits_of_other (unlike running mem)).1)
      (fun running mem => (ran.permits_of_other (unlike running mem)).2) allowed.2

theorem Served.permits_of_other
    (served : Served env loop event workflows ops res after)
    {running : Running} (unlike : running.2.eventId ≠ event.eventId) :
    fate env loop running.1 running.2 false after =
        fate env loop running.1 running.2 false ops ∧
      (Permits env loop after running ↔ Permits env loop ops running) := by
  apply served.keeps fun reached =>
    fate env loop running.1 running.2 false reached =
        fate env loop running.1 running.2 false ops ∧
      (Permits env loop reached running ↔ Permits env loop ops running)
  · intro flow mem before res later same ran
    have others : (running.1.workflowId, running.2.eventId) ≠
        (flow.workflowId, event.eventId) := fun equal => unlike (Prod.mk.inj equal).2
    have next := ran.permits_of_other others
    exact ⟨next.1.trans same.1, next.2.trans same.2⟩
  · exact ⟨rfl, Iff.rfl⟩

theorem Served.follows_settled {event : OutboxEvent} {rest : List OutboxEvent}
    {between : Operations} {decisions : List LoopDecision}
    (served : Served env loop (fromOutbox event)
      (ops.takers (fromOutbox event)) ops (.ok decisions) between)
    (wired : ops.Wired) (single : ops.Single)
    (distinct : event.eventId ∉ rest.map (·.eventId))
    (allowed : Allows env loop
      (ops.runnings ((event :: rest).map fromOutbox)) ops) :
    Follows ops (between.settled env event.eventId decisions) ∧
      Allows env loop ((between.settled env event.eventId decisions).runnings
        (rest.map fromOutbox)) (between.settled env event.eventId decisions) := by
  have settled := (between.settled_same env event.eventId decisions).2.2.2
  rw [List.map_cons, runnings, List.flatMap_cons, allows_append] at allowed
  · have first := served.follows single (wired.takers_distinct _) allowed.1
    apply And.intro (first.trans (.of_core first.single settled))
    have same : (between.settled env event.eventId decisions).runnings
        (rest.map fromOutbox) = ops.runnings (rest.map fromOutbox) := by
      unfold runnings
      apply congrArg List.flatten
      apply List.map_congr_left
      intro later _
      rw [settled_takers, served.takers]
    have others : ∀ running ∈ ops.runnings (rest.map fromOutbox),
        running.2.eventId ≠ event.eventId := by
      intro running mem equal
      obtain ⟨envelope, listed, inside⟩ := List.mem_flatMap.mp mem
      obtain ⟨later, present, rfl⟩ := List.mem_map.mp listed
      obtain ⟨flow, _, rfl⟩ := List.mem_map.mp inside
      exact distinct (List.mem_map.mpr ⟨later, present, equal⟩)
    rw [same]
    apply allows_of_same _ _ allowed.2
    · intro running mem
      exact (fate_of_core settled).trans (served.permits_of_other (others running mem)).1
    · intro running mem
      exact (permits_of_core settled).trans (served.permits_of_other (others running mem)).2
  · intro running mem
    obtain ⟨flow, taker, rfl⟩ := List.mem_map.mp mem
    exact served.goes_on (wired.takers_distinct _) flow taker

theorem Drained.follows {events : List OutboxEvent}
    {res : Except PyError (List OperationReceipt)}
    (drained : Drained env loop events ops res after)
    (wired : ops.Wired) (single : ops.Single)
    (distinct : (events.map (·.eventId)).Nodup)
    (allowed : Allows env loop
      (ops.runnings (events.map fromOutbox)) ops) :
    Follows ops after := by
  induction drained with
  | nil => exact .refl single
  | failed rest served =>
    rw [List.map_cons, runnings, List.flatMap_cons] at allowed
    exact served.follows single (wired.takers_distinct _) (allows_left allowed)
  | cons named served drained ih | later served drained ih =>
    rw [List.map_cons, List.nodup_cons] at distinct
    obtain ⟨first, further⟩ := served.follows_settled wired single distinct.1 allowed
    exact first.trans (ih (served.wired_settled wired _ _) first.single distinct.2 further)

end chains

section calls

variable {call : OperationsCall} {ops after : Operations}

theorem Follows.replaced {askId : String} {cur next : ApprovalRequest}
    (single : ops.Single) (found : ops.approvals.lookup askId = some cur)
    (waits : cur.decision = .pending) (final : next.decision ≠ .pending) :
    Follows ops (ops.deciding (ops.approvals.set askId next)) := by
  constructor
  · intro workflowId eventId
    apply Nat.le_trans _ (single workflowId eventId)
    apply List.Sublist.length_le
    apply Dict.filter_set_sublist
    simp [ApprovalRequest.Of, final]
  · intro workflowId eventId rejected
    obtain ⟨entry, mem⟩ := List.exists_mem_of_ne_nil _ rejected
    obtain ⟨held, named⟩ := List.mem_filter.mp mem
    have unlike : entry ≠ (askId, cur) := by
      rintro rfl
      simp [ApprovalRequest.Of, waits] at named
    apply And.intro _ rfl
    apply List.ne_nil_of_mem
    exact List.mem_filter.mpr ⟨Dict.mem_set_of_mem found held unlike, named⟩

theorem requests_decided {askId actor : String} {decision : ApprovalDecision} {now : Int}
    {approvals : InMemoryApprovalStore} {res : Except PyError ApprovalRequest}
    (single : ops.Single) (final : decision ≠ .pending)
    (decided : ops.approvals.Decided askId decision actor now (approvals, res)) :
    Follows ops (ops.deciding approvals) := by
  cases decided with
  | refused => exact .of_same single rfl rfl
  | expired cur err found waits => exact .replaced single found waits (by simp)
  | done cur decidedAt found waits timely => exact .replaced single found waits final

theorem Called.follows (called : Called env loop ops call after)
    (wired : ops.Wired) (single : ops.Single)
    (careful : Careful env loop call ops) : Follows ops after := by
  cases called with
  | refused | unconfigured => exact .refl single
  | unrouted | registered | appended => exact .of_same single rfl rfl
  | routed event res _ served =>
    apply served.follows single (wired.takers_distinct _)
    have allowed : Allows env loop (ops.runnings [event]) ops := careful
    rw [runnings, List.flatMap_singleton] at allowed
    exact allowed
  | drained limit outbox res _ configured drained =>
    exact drained.follows wired single (outbox.pending_distinct limit) (careful outbox configured)
  | unapproved askId actor approvals decided | rejected askId actor approvals decided =>
    obtain ⟨res, decided⟩ := decided
    exact requests_decided single (by decide) decided
  | resumed askId actor decidedAt cur flow event res clocks _ found waits known
      named timely about ran =>
      have next : resumes env askId ops = some (flow, event) := by
        simp [resumes, found, waits, timely, known, about]
      have decided : Follows ops (ops.deciding (ops.approvals.set askId
          (InMemoryApprovalStore.decided .approved actor decidedAt cur))) :=
        .replaced single found waits (by simp [InMemoryApprovalStore.decided])
      have moved : Follows ops { ops.deciding (ops.approvals.set askId
          (InMemoryApprovalStore.decided .approved actor decidedAt cur)) with
            read := clocks } := decided.trans (.of_same decided.single rfl rfl)
      apply moved.trans
      apply ran.follows moved.single
      · intro asks
        exact absurd asks granted_never_asks
      · intro acts
        have none := careful (flow, event) next acts
        apply List.eq_nil_of_sublist_nil
        rw [← none]
        apply Dict.filter_set_sublist
        simp [ApprovalRequest.Of, InMemoryApprovalStore.decided]

theorem run_follows (calls : List OperationsCall) (wired : ops.Wired)
    (single : ops.Single)
    (careful : (autonomousOperations env loop).Throughout
      (Careful env loop) calls ops) :
    Follows ops ((autonomousOperations env loop).run calls ops) := by
  induction calls generalizing ops with
  | nil => exact .refl single
  | cons call rest ih =>
    have called := machine_called env loop call wired
    have first := called.follows wired single careful.1
    exact first.trans (ih (called.wired wired) first.single careful.2)

end calls

end discipline

/-- In every run whose calls are all careful, at most one request is pending for each workflow
and event, and no action that was rejected for an event is run for it. -/
theorem careful_calls_disciplined (env : Surroundings) (loop : AutonomousLoop)
    (outbox : Option Outbox) (calls : List OperationsCall)
    (careful : (autonomousOperations env loop).Throughout
      (Careful env loop) calls (.start outbox)) :
    Disciplined env loop calls (.start outbox) := by
  intro before after split machine
  rw [split, Machine.throughout_append] at careful
  have wired := wired_start outbox []
  have single : (start outbox).Single := by
    intro workflowId eventId
    simp [requests, start]
  have first := run_follows before wired single careful.1
  apply And.intro first.single
  intro workflowId eventId rejected
  have second := run_follows after (run_wired env loop before wired) first.single careful.2
  rw [split, Machine.run_append]
  exact (second.quiet workflowId eventId rejected).2

def approvalCalls : List OperationsCall :=
  [.registerWorkflow (creationFlow "flow" "tenant"),
    .append (creation "event" "tenant" [("requires_approval", .bool true)])]

theorem single_drain_disciplined :
    Disciplined (.steady (.returned .null)) lenientLoop
      (approvalCalls ++ [.drainOutbox 100, .approveAndResume (drawnId 0) "human",
        .drainOutbox 100]) (.start (some {})) :=
  careful_calls_disciplined (.steady (.returned .null)) lenientLoop (some {}) _ (by decide +kernel)

/-- A second drain asks again, and the action is run although one request was rejected. -/
theorem second_drain_undisciplined :
    ¬Disciplined (.steady (.returned .null)) lenientLoop
      (approvalCalls ++ [.drainOutbox 100, .drainOutbox 100]) (.start (some {})) ∧
      let after := (autonomousOperations (.steady (.returned .null)) lenientLoop).run
        (approvalCalls ++ [.drainOutbox 100, .drainOutbox 100, .reject (drawnId 0) "human",
          .approveAndResume (drawnId 1) "human"]) (.start (some {}))
      after.Rejected "flow" "event" ∧ after.actsOf "flow" "event" ≠ [] := by
  constructor
  · intro disciplined
    have single := (disciplined _ [] (List.append_nil _).symm).1 "flow" "event"
    revert single
    decide +kernel
  · decide +kernel

end Ois.Autonomy
