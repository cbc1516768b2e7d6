import Ois.Autonomy.OperationsSteps

/-!
# What the calls of the operations do

The router runs the workflows that it has routes of, one after another, and stops at the first
that raises. A drain does so for one pending event after another, and publishes an event once its
decisions are idle. Each way in which a call can end is one case, and what runs of workflows,
publications, decisions, registrations and new events keep holds after every call.
-/

namespace Ois.Autonomy

open Ois.Library Ois.Kernel Ois.Sources EventEnvelope Command SourceWorkflow InMemoryApprovalStore

namespace Operations

def registered (ops : Operations) : List SourceWorkflow :=
  ops.routes.filterMap fun entry => ops.workflows.lookup entry.1

def takers (event : EventEnvelope) (ops : Operations) : List SourceWorkflow :=
  ops.registered.filter (·.trigger.accepts event)

theorem takers_of_fires {event : EventEnvelope} {ops : Operations}
    {flow : SourceWorkflow} (registered : flow ∈ ops.registered)
    (fires : flow.fires event = true) : flow ∈ ops.takers event :=
  List.mem_filter.mpr ⟨registered, accepts_of_fires fires⟩

structure Wired (ops : Operations) : Prop where
  named : ∀ entry ∈ ops.workflows, entry.1 = entry.2.workflowId
  routed : ∀ entry ∈ ops.routes, ∃ flow,
    ops.workflows.lookup entry.1 = some flow ∧ entry.2 = flow.route
  distinct : (Dict.keys ops.routes).Nodup

theorem wired_start (outbox : Option Outbox) (approvals : InMemoryApprovalStore) :
    (start outbox approvals).Wired := by
  constructor
  · simp [start]
  · simp [start]
  · simp [start, Dict.keys]

variable {ops other : Operations}

theorem Wired.of_same (wired : ops.Wired)
    (workflows : other.workflows = ops.workflows)
    (routes : other.routes = ops.routes) : other.Wired := by
  constructor
  · rw [workflows]
    exact wired.named
  · rw [workflows, routes]
    exact wired.routed
  · rw [routes]
    exact wired.distinct

theorem registered_of_same (workflows : other.workflows = ops.workflows)
    (routes : other.routes = ops.routes) : other.registered = ops.registered := by
  rw [registered, registered, workflows, routes]

theorem takers_of_same (event : EventEnvelope) (workflows : other.workflows = ops.workflows)
    (routes : other.routes = ops.routes) :
    other.takers event = ops.takers event := by
  rw [takers, takers, registered_of_same workflows routes]

theorem Wired.found (wired : ops.Wired) {flow : SourceWorkflow}
    (registered : flow ∈ ops.registered) :
    ops.workflows.lookup flow.workflowId = some flow := by
  obtain ⟨entry, _, reads⟩ := List.mem_filterMap.mp registered
  have same := wired.named _ (Dict.mem_of_lookup reads)
  rw [← same]
  exact reads

theorem Wired.routes_eq (wired : ops.Wired) :
    ops.routes.map Prod.snd = ops.registered.map route := by
  have each := wired.routed
  unfold registered
  generalize ops.routes = routes at each ⊢
  induction routes with
  | nil => rfl
  | cons entry rest ih =>
    obtain ⟨flow, reads, route⟩ := each entry List.mem_cons_self
    simp only [List.map_cons, List.filterMap_cons, reads, route]
    rw [ih fun later mem => each later (List.mem_cons_of_mem _ mem)]

theorem Wired.registered_distinct (wired : ops.Wired) :
    (ops.registered.map (·.workflowId)).Nodup := by
  have keys : ops.registered.map (·.workflowId) = Dict.keys ops.routes := by
    have each := wired.routed
    unfold registered
    generalize ops.routes = routes at each ⊢
    induction routes with
    | nil => rfl
    | cons entry rest ih =>
      obtain ⟨flow, reads, _⟩ := each entry List.mem_cons_self
      have same := wired.named _ (Dict.mem_of_lookup reads)
      simp only [List.filterMap_cons, reads, List.map_cons, Dict.keys]
      rw [ih fun later mem => each later (List.mem_cons_of_mem _ mem), same]
      rfl
  rw [keys]
  exact wired.distinct

theorem Wired.takers_distinct (wired : ops.Wired) (event : EventEnvelope) :
    ((ops.takers event).map (·.workflowId)).Nodup :=
  wired.registered_distinct.sublist (List.filter_sublist.map _)

end Operations

open Operations

section runs

variable (env : Surroundings) (loop : AutonomousLoop)

inductive Served (event : EventEnvelope) : List SourceWorkflow → Operations →
    Except PyError (List LoopDecision) → Operations → Prop where
  | nil (ops : Operations) : Served event [] ops (.ok []) ops
  | cons {flow : SourceWorkflow} {rest : List SourceWorkflow}
      {ops between after : Operations} {decision : LoopDecision}
      {decisions : List LoopDecision}
      (ran : Ran env loop flow event false ops (.ok decision) between)
      (served : Served event rest between (.ok decisions) after) :
      Served event (flow :: rest) ops (.ok (decision :: decisions)) after
  | failed {flow : SourceWorkflow} {ops after : Operations} {err : PyError}
      (rest : List SourceWorkflow)
      (ran : Ran env loop flow event false ops (.error err) after) :
      Served event (flow :: rest) ops (.error err) after
  | later {flow : SourceWorkflow} {rest : List SourceWorkflow}
      {ops between after : Operations} {decision : LoopDecision} {err : PyError}
      (ran : Ran env loop flow event false ops (.ok decision) between)
      (served : Served event rest between (.error err) after) :
      Served event (flow :: rest) ops (.error err) after

theorem route_accepts (event : EventEnvelope) (flow : SourceWorkflow) :
    flow.route.accepts event = flow.trigger.accepts event := by
  unfold EventRoute.accepts WorkflowTrigger.accepts route
  rw [BEq.comm]

theorem handle_served (event : EventEnvelope) (workflows : List SourceWorkflow)
    (ops : Operations)
    (found : ∀ flow ∈ workflows,
      ops.workflows.lookup flow.workflowId = some flow) :
    Command.Ends (handle env loop (action env) event (workflows.map route))
      (fun decisions => Served env loop event
      (workflows.filter (·.trigger.accepts event)) ops (.ok decisions))
      (fun err => Served env loop event
      (workflows.filter (·.trigger.accepts event)) ops (.error err)) ops := by
  induction workflows generalizing ops with
  | nil =>
    simp only [List.map_nil, handle, ends_pure]
    exact .nil ops
  | cons flow rest ih =>
    have first := found flow List.mem_cons_self
    have others : ∀ later ∈ rest, ops.workflows.lookup later.workflowId = some later :=
      fun later mem => found later (List.mem_cons_of_mem _ mem)
    simp only [List.map_cons, handle, route_accepts]
    by_cases accepts : flow.trigger.accepts event = true
    · simp only [accepts, if_true, List.filter_cons, ends_bind]
      apply (run_workflow_runs env loop first event false).mono
      · intro decision between ran
        have after := ih between (by rw [ran.workflows]; exact others)
        rw [ends_bind]
        apply after.mono
        · intro decisions after served
          exact .cons ran served
        · intro err after served
          exact .later ran served
      · intro err after ran
        exact .failed _ ran
    · simp only [accepts, if_false, List.filter_cons, Bool.false_eq_true]
      exact ih ops others

theorem route_served (event : EventEnvelope) {ops : Operations}
    (wired : ops.Wired) :
    Command.Ends (routeEvent env loop (action env) event)
      (fun receipt => Served env loop event (ops.takers event) ops
      (.ok receipt.decisions))
      (fun err => Served env loop event (ops.takers event) ops
      (.error err)) ops := by
  unfold routeEvent
  simp only [ends_bind, ends_get]
  rw [wired.routes_eq]
  apply (handle_served env loop event ops.registered ops
    fun flow => wired.found).mono
  · intro decisions after served
    exact served
  · intro err after served
    exact served

namespace Served

variable {env loop} {event : EventEnvelope} {workflows : List SourceWorkflow}
  {ops after : Operations} {res : Except PyError (List LoopDecision)}

theorem same (served : Served env loop event workflows ops res after) :
    after.workflows = ops.workflows ∧ after.routes = ops.routes ∧
      after.outbox = ops.outbox := by
  induction served with
  | nil => exact ⟨rfl, rfl, rfl⟩
  | failed rest ran => exact ⟨ran.workflows, ran.routes, ran.outbox⟩
  | cons ran served ih | later ran served ih =>
    rw [ih.1, ih.2.1, ih.2.2]
    exact ⟨ran.workflows, ran.routes, ran.outbox⟩

theorem keeps (holds : Operations → Prop)
    (each : ∀ flow ∈ workflows, ∀ before res later, holds before →
      Ran env loop flow event false before res later → holds later)
    (served : Served env loop event workflows ops res after)
    (base : holds ops) : holds after := by
  induction served with
  | nil => exact base
  | failed rest ran => exact each _ List.mem_cons_self _ _ _ base ran
  | cons ran served ih | later ran served ih =>
    apply ih
    · intro flow mem
      exact each flow (List.mem_cons_of_mem _ mem)
    · exact each _ List.mem_cons_self _ _ _ base ran

theorem processed_of_other {key : String × String}
    (served : Served env loop event workflows ops res after)
    (unlike : ∀ flow ∈ workflows, key ≠ (flow.workflowId, event.eventId)) :
    key ∈ after.processed ↔ key ∈ ops.processed := by
  apply served.keeps fun reached => key ∈ reached.processed ↔ key ∈ ops.processed
  · intro flow mem before res later same ran
    rw [ran.mem_processed key, or_iff_left (fun here => unlike flow mem here.1)]
    exact same
  · rfl

theorem settles {decisions : List LoopDecision}
    (served : Served env loop event workflows ops (.ok decisions) after)
    (distinct : (workflows.map (·.workflowId)).Nodup) :
    (decisions = [] ↔ workflows = []) ∧
      ((∀ decision ∈ decisions, decision.state = .idle) ↔ ∀ flow ∈ workflows,
      (flow.workflowId, event.eventId) ∈ after.processed) := by
  generalize out : Except.ok decisions = res at served
  induction served generalizing decisions with
  | nil =>
    cases out
    simp
  | failed | later => cases out
  | @cons flow rest ops between after decision others ran served ih =>
    cases out
    rw [List.map_cons, List.nodup_cons] at distinct
    have last := ih distinct.2 rfl
    have first : decision.state = .idle ↔
        (flow.workflowId, event.eventId) ∈ after.processed := by
      rw [ran.idle_iff, served.processed_of_other]
      intro later mem same
      exact distinct.1 ((Prod.mk.inj same).1 ▸ List.mem_map_of_mem mem)
    constructor
    · simp
    · rw [List.forall_mem_cons, List.forall_mem_cons, first, last.2]

theorem goes_on {decisions : List LoopDecision}
    (served : Served env loop event workflows ops (.ok decisions) after)
    (distinct : (workflows.map (·.workflowId)).Nodup) : ∀ flow ∈ workflows,
      fate env loop flow event false ops ≠ .raises := by
  generalize out : Except.ok decisions = res at served
  induction served generalizing decisions with
  | nil => simp
  | failed | later => cases out
  | cons ran served ih =>
    rw [List.map_cons, List.nodup_cons] at distinct
    rw [List.forall_mem_cons]
    apply And.intro ran.not_raises
    intro flow mem
    rw [← ran.fate_of_other]
    · exact ih distinct.2 rfl flow mem
    · intro same
      exact distinct.1 ((Prod.mk.inj same).1 ▸ List.mem_map_of_mem mem)

end Served

def Operations.core (ops : Operations) :
    List (String × String) × InMemoryApprovalStore × List Act × Nat × Nat :=
  (ops.processed, ops.approvals, ops.acts, ops.loops, ops.drawn)

def Operations.settled (eventId : String) (decisions : List LoopDecision)
    (ops : Operations) : Operations :=
  if decisions ≠ [] ∧ ∀ decision ∈ decisions, decision.state = .idle then
    { ops with
      outbox := ops.outbox.map (·.markPublished eventId (env.clock ops.read))
      read := ops.read + 1 }
  else ops

inductive Drained : List OutboxEvent → Operations →
    Except PyError (List OperationReceipt) → Operations → Prop where
  | nil (ops : Operations) : Drained [] ops (.ok []) ops
  | cons {event : OutboxEvent} {rest : List OutboxEvent}
      {ops between after : Operations} {receipt : OperationReceipt}
      {receipts : List OperationReceipt} (named : receipt.eventId = event.eventId)
      (served : Served env loop (fromOutbox event)
        (ops.takers (fromOutbox event)) ops
        (.ok receipt.decisions) between)
      (drained : Drained rest
        (between.settled env event.eventId receipt.decisions) (.ok receipts) after) :
      Drained (event :: rest) ops (.ok (receipt :: receipts)) after
  | failed {event : OutboxEvent} {ops after : Operations} {err : PyError}
      (rest : List OutboxEvent)
      (served : Served env loop (fromOutbox event)
        (ops.takers (fromOutbox event)) ops (.error err) after) :
      Drained (event :: rest) ops (.error err) after
  | later {event : OutboxEvent} {rest : List OutboxEvent}
      {ops between after : Operations} {decisions : List LoopDecision} {err : PyError}
      (served : Served env loop (fromOutbox event)
        (ops.takers (fromOutbox event)) ops
        (.ok decisions) between)
      (drained : Drained rest
        (between.settled env event.eventId decisions) (.error err) after) :
      Drained (event :: rest) ops (.error err) after

theorem Operations.settled_same (eventId : String) (decisions : List LoopDecision)
    (ops : Operations) :
    let after := ops.settled env eventId decisions
    after.workflows = ops.workflows ∧ after.routes = ops.routes ∧
      after.processed = ops.processed ∧ after.core = ops.core := by
  unfold settled core
  split_ifs <;> simp

theorem Operations.settled_takers (eventId : String) (decisions : List LoopDecision)
    (event : EventEnvelope) (ops : Operations) :
    (ops.settled env eventId decisions).takers event = ops.takers event := by
  have same := ops.settled_same env eventId decisions
  exact takers_of_same event same.1 same.2.1

variable {env loop} in
theorem Served.wired_settled {event : EventEnvelope} {workflows : List SourceWorkflow}
    {ops after : Operations} {res : Except PyError (List LoopDecision)}
    (served : Served env loop event workflows ops res after)
    (wired : ops.Wired) (eventId : String) (decisions : List LoopDecision) :
    (after.settled env eventId decisions).Wired := by
  have same := after.settled_same env eventId decisions
  exact wired.of_same (same.1.trans served.same.1) (same.2.1.trans served.same.2.1)

theorem Served.takers {event other : EventEnvelope} {workflows : List SourceWorkflow}
    {ops after : Operations} {res : Except PyError (List LoopDecision)}
    (served : Served env loop event workflows ops res after) :
    after.takers other = ops.takers other :=
  takers_of_same other served.same.1 served.same.2.1

theorem route_named (event : EventEnvelope) (ops : Operations) :
    Command.Ends (routeEvent env loop (action env) event)
      (fun receipt _ => receipt.eventId = event.eventId) (fun _ _ => True) ops := by
  unfold routeEvent
  simp only [ends_bind, ends_get]
  apply ends_of_all
  · intro decisions after
    rfl
  · intro err after
    trivial

theorem drain_each_drained (events : List OutboxEvent) (ops : Operations)
    (wired : ops.Wired) :
    Command.Ends (drainEach env loop (action env) events)
      (fun receipts => Drained env loop events ops (.ok receipts))
      (fun err => Drained env loop events ops (.error err)) ops := by
  induction events generalizing ops with
  | nil =>
    simp only [drainEach, ends_pure]
    exact .nil ops
  | cons event rest ih =>
    simp only [drainEach, ends_bind]
    have routed := (route_served env loop (fromOutbox event) wired).and
      (route_named env loop (fromOutbox event) ops)
    apply routed.mono
    · intro receipt between both
      obtain ⟨served, named⟩ := both
      have next : Command.Ends (drainEach env loop (action env) rest)
          (fun receipts => Drained env loop (event :: rest) ops
            (.ok (receipt :: receipts)))
          (fun err => Drained env loop (event :: rest) ops (.error err))
          (between.settled env event.eventId receipt.decisions) := by
        apply (ih _ (served.wired_settled wired _ _)).mono
        · intro receipts after drained
          exact .cons named served drained
        · intro err after drained
          exact .later served drained
      unfold settled at next
      by_cases settles : receipt.Settled
      · have both : receipt.decisions ≠ [] ∧
            ∀ decision ∈ receipt.decisions, decision.state = .idle := settles
        rw [if_pos both] at next
        simp only [settles, if_true, markPublished, utcNow, ends_bind, ends_modify_get, ends_modify]
        exact next
      · have neither : ¬(receipt.decisions ≠ [] ∧
            ∀ decision ∈ receipt.decisions, decision.state = .idle) := settles
        rw [if_neg neither] at next
        simp only [settles, if_false, ends_bind]
        exact next
    · intro err after both
      obtain ⟨served, _⟩ := both
      exact .failed rest served

theorem drain_drained {limit : Int} {outbox : Outbox} {ops : Operations}
    (wired : ops.Wired) (configured : ops.outbox = some outbox) :
    Command.Ends (drainOutbox env loop (action env) limit)
      (fun receipts => Drained env loop (outbox.pending limit) ops (.ok receipts))
      (fun err => Drained env loop (outbox.pending limit) ops (.error err))
      ops := by
  unfold drainOutbox
  rw [ends_bind, ends_get, configured]
  exact drain_each_drained env loop (outbox.pending limit) ops wired

namespace Drained

variable {env loop} {events : List OutboxEvent} {ops after : Operations}
  {res : Except PyError (List OperationReceipt)}

theorem same (drained : Drained env loop events ops res after) :
    after.workflows = ops.workflows ∧ after.routes = ops.routes := by
  induction drained with
  | nil => exact ⟨rfl, rfl⟩
  | failed rest served => exact ⟨served.same.1, served.same.2.1⟩
  | @cons event rest ops between after receipt receipts named served drained ih
  | @later event rest ops between after receipt err served drained ih =>
    have settled := between.settled_same env event.eventId
    rw [ih.1, ih.2, (settled _).1, (settled _).2.1]
    exact ⟨served.same.1, served.same.2.1⟩

theorem receipts {receipts : List OperationReceipt}
    (drained : Drained env loop events ops (.ok receipts) after) :
    receipts.map (·.eventId) = events.map (·.eventId) := by
  generalize out : Except.ok receipts = res at drained
  induction drained generalizing receipts with
  | nil =>
    cases out
    rfl
  | failed | later => cases out
  | cons named served drained ih =>
    cases out
    rw [List.map_cons, List.map_cons, named, ih rfl]

theorem keeps (holds : Operations → Prop) (each : ∀ event ∈ events,
      ∀ flow ∈ ops.takers (fromOutbox event),
      ∀ before res later, holds before →
      Ran env loop flow (fromOutbox event) false before res
      later → holds later)
    (settles : ∀ event ∈ events, ∀ before decisions, holds before →
      holds (before.settled env event.eventId decisions))
    (drained : Drained env loop events ops res after)
    (base : holds ops) : holds after := by
  induction drained with
  | nil => exact base
  | failed rest served => exact served.keeps holds (each _ List.mem_cons_self) base
  | @cons event rest ops between after receipt receipts named served drained ih
  | @later event rest ops between after receipt err served drained ih =>
    apply ih
    · intro other mem flow taker
      rw [settled_takers, served.takers] at taker
      exact each other (List.mem_cons_of_mem _ mem) flow taker
    · intro other mem
      exact settles other (List.mem_cons_of_mem _ mem)
    · apply settles event List.mem_cons_self
      exact served.keeps holds (each event List.mem_cons_self) base

end Drained

end runs

namespace Operations

def deciding (approvals : InMemoryApprovalStore) (ops : Operations) : Operations :=
  { ops with approvals := approvals, read := ops.read + 2 }

def withWorkflow (flow : SourceWorkflow) (ops : Operations) : Operations :=
  { ops with workflows := ops.workflows ++ [(flow.workflowId, flow)] }

def withRoute (flow : SourceWorkflow) (ops : Operations) : Operations :=
  { ops.withWorkflow flow with
    routes := ops.routes ++ [(flow.workflowId, flow.route)] }

def appending (event : OutboxEvent) (ops : Operations) : Operations :=
  { ops with outbox := ops.outbox.map fun outbox => (outbox.append event).1 }

theorem appending_of_none {ops : Operations} (event : OutboxEvent)
    (none : ops.outbox = none) : ops.appending event = ops := by
  unfold appending
  rw [none, Option.map_none, ← none]

def Approved (flow : SourceWorkflow) (event : EventEnvelope) (ops : Operations) :
    Prop :=
  ∃ askId approval, ops.approvals.lookup askId = some approval ∧
    approval.decision = .approved ∧ approval.workflowId = flow.workflowId ∧
      (approval.event = some event ∨ approval.event = none ∧ event.eventId = approval.eventId)

variable {ops : Operations} {flow : SourceWorkflow}

theorem Wired.with_workflow (wired : ops.Wired) (flow : SourceWorkflow) :
    (ops.withWorkflow flow).Wired := by
  constructor
  · intro entry mem
    rcases List.mem_append.mp mem with held | new
    · exact wired.named entry held
    · rw [List.mem_singleton.mp new]
  · intro entry mem
    obtain ⟨other, found, route⟩ := wired.routed entry mem
    apply Exists.intro other
    apply And.intro _ route
    rw [withWorkflow, Dict.lookup_append, found, Option.some_or]
  · exact wired.distinct

theorem Wired.with_route (wired : ops.Wired)
    (new : ops.workflows.lookup flow.workflowId = none)
    (free : ops.routes.lookup flow.workflowId = none) :
    (ops.withRoute flow).Wired := by
  have filed := wired.with_workflow flow
  constructor
  · exact filed.named
  · intro entry mem
    rcases List.mem_append.mp mem with held | new'
    · exact filed.routed entry held
    · rw [List.mem_singleton.mp new']
      apply Exists.intro flow
      apply And.intro _ rfl
      change (ops.workflows ++ [(flow.workflowId, flow)]).lookup _ = _
      rw [Dict.lookup_append_fresh new, if_pos rfl]
  · exact Dict.nodup_keys_append_fresh wired.distinct free

end Operations

section calls

variable (env : Surroundings) (loop : AutonomousLoop)

inductive Called (ops : Operations) : OperationsCall → Operations → Prop where
  | refused (flow : SourceWorkflow) : Called ops (.registerWorkflow flow) ops
  | unrouted (flow : SourceWorkflow)
      (new : ops.workflows.lookup flow.workflowId = none) :
      Called ops (.registerWorkflow flow) (ops.withWorkflow flow)
  | registered (flow : SourceWorkflow)
      (new : ops.workflows.lookup flow.workflowId = none)
      (free : ops.routes.lookup flow.workflowId = none) :
      Called ops (.registerWorkflow flow) (ops.withRoute flow)
  | routed (event : EventEnvelope) (res : Except PyError (List LoopDecision))
      (after : Operations)
      (served : Served env loop event (ops.takers event) ops res after) :
      Called ops (.route event) after
  | unconfigured (limit : Int) (none : ops.outbox = none) :
      Called ops (.drainOutbox limit) ops
  | drained (limit : Int) (outbox : Outbox) (res : Except PyError (List OperationReceipt))
      (after : Operations) (configured : ops.outbox = some outbox)
      (drained : Drained env loop (outbox.pending limit) ops res after) :
      Called ops (.drainOutbox limit) after
  | unapproved (askId actor : String) (approvals : InMemoryApprovalStore)
      (decided : ∃ res, ops.approvals.Decided askId .approved actor
        (env.clock ops.read).instant (approvals, res)) :
      Called ops (.approveAndResume askId actor) (ops.deciding approvals)
  | resumed (askId actor : String) (decidedAt : Int) (cur : ApprovalRequest)
      (flow : SourceWorkflow) (event : EventEnvelope)
      (res : Except PyError LoopDecision) (clocks : Nat) (after : Operations)
      (found : ops.approvals.lookup askId = some cur)
      (waits : cur.decision = .pending)
      (known : ops.workflows.lookup cur.workflowId = some flow)
      (named : flow.workflowId = cur.workflowId)
      (timely : cur.Timely (env.clock ops.read).instant)
      (about : event = cur.event.getD
        (cur.rebuilt flow (env.clock (ops.read + 2))))
      (ran : Ran env loop flow event true
        { ops.deciding (ops.approvals.set askId
            (decided .approved actor decidedAt cur)) with
          read := clocks } res after) :
      Called ops (.approveAndResume askId actor) after
  | rejected (askId actor : String) (approvals : InMemoryApprovalStore)
      (decided : ∃ res, ops.approvals.Decided askId .rejected actor
        (env.clock ops.read).instant (approvals, res)) :
      Called ops (.reject askId actor) (ops.deciding approvals)
  | appended (event : OutboxEvent) : Called ops (.append event) (ops.appending event)

theorem register_called (flow : SourceWorkflow) (ops : Operations) :
    Command.Ends (registerWorkflow flow)
      (fun _ => Called env loop ops (.registerWorkflow flow))
      (fun _ => Called env loop ops (.registerWorkflow flow))
      ops := by
  unfold registerWorkflow
  simp only [ends_bind, ends_get]
  cases known : ops.workflows.lookup flow.workflowId with
  | some other =>
    simp only [Option.isSome_some, if_true, ends_throw, ends_bind]
    exact .refused flow
  | none =>
    simp only [Option.isSome_none, Bool.false_eq_true, if_false, ends_bind, ends_modify]
    unfold registerRoute
    by_cases empty : flow.route.routeId = "" ∨ flow.route.eventType = ""
    · rw [if_pos empty, ends_bind, ends_throw]
      exact .unrouted flow known
    rw [if_neg empty]
    simp only [ends_bind, ends_get]
    cases taken : ops.routes.lookup flow.workflowId with
    | some route =>
      have there : (ops.routes.lookup flow.route.routeId).isSome = true := by
        change (ops.routes.lookup flow.workflowId).isSome = true
        rw [taken]
        rfl
      simp only [there, if_true, ends_throw, ends_bind]
      exact .unrouted flow known
    | none =>
      have free : (ops.routes.lookup flow.route.routeId).isSome = false := by
        change (ops.routes.lookup flow.workflowId).isSome = false
        rw [taken]
        rfl
      simp only [free, Bool.false_eq_true, if_false, ends_modify]
      exact .registered flow known taken

theorem decide_decided (askId : String) (decision : ApprovalDecision) (actor : String)
    (ops : Operations) :
    Command.Ends (decideApproval env askId decision actor)
      (fun approval after => ∃ cur decidedAt,
      ops.approvals.lookup askId = some cur ∧ cur.decision = .pending ∧
      cur.Timely (env.clock ops.read).instant ∧
      approval = decided decision actor decidedAt cur ∧
      after = ops.deciding (ops.approvals.set askId approval))
      (fun _ after => ∃ approvals res, after = ops.deciding approvals ∧
      ops.approvals.Decided askId decision actor
      (env.clock ops.read).instant (approvals, res))
      ops := by
  unfold decideApproval
  simp only [utcNow, ends_bind, ends_modify_get, ends_get]
  have decided := ops.approvals.decide_decided askId decision actor
    (env.clock ops.read).instant (env.clock (ops.read + 1)).instant
  generalize out : ops.approvals.decide askId decision actor
    (env.clock ops.read).instant
    (env.clock (ops.read + 1)).instant = pair at decided ⊢
  cases decided with
  | refused err =>
    simp only [ends_modify, ends_of_error]
    exact ⟨_, _, rfl, .refused err⟩
  | expired cur err found waits =>
    simp only [ends_modify, ends_of_error]
    exact ⟨_, _, rfl, .expired cur err found waits⟩
  | done cur decidedAt found waits timely =>
    simp only [ends_modify, ends_of_ok]
    exact ⟨cur, decidedAt, found, waits, timely, rfl, rfl⟩

theorem approve_called (askId actor : String) {ops : Operations}
    (wired : ops.Wired) :
    Command.Ends (approveAndResume env loop (action env) askId actor)
      (fun _ => Called env loop ops (.approveAndResume askId actor))
      (fun _ => Called env loop ops (.approveAndResume askId actor))
      ops := by
  unfold approveAndResume
  rw [ends_bind]
  apply (decide_decided env askId .approved actor ops).mono
  · rintro approval after ⟨cur, decidedAt, found, waits, timely, rfl, rfl⟩
    simp only [ends_bind, ends_get]
    have same : (decided .approved actor decidedAt cur).workflowId = cur.workflowId := rfl
    have registered (approvals : InMemoryApprovalStore) :
        (ops.deciding approvals).workflows = ops.workflows := rfl
    rw [same, registered]
    cases known : ops.workflows.lookup cur.workflowId with
    | none =>
      rw [ends_throw]
      exact .unapproved _ _ _ ⟨_, .done cur decidedAt found waits timely⟩
    | some flow =>
      have named : flow.workflowId = cur.workflowId :=
        (wired.named _ (Dict.mem_of_lookup known)).symm
      have foundIn (reached : Operations) (same : reached.workflows = ops.workflows) :
          reached.workflows.lookup flow.workflowId = some flow := by
        rw [same, named]
        exact known
      generalize decided : decided .approved actor decidedAt cur = approval
      have event : approval.event = cur.event := by
        rw [← decided]
        rfl
      cases about : approval.event with
      | some about =>
        apply (run_workflow_runs env loop (foundIn (ops.deciding _) rfl) _
          true).mono
        · intro decision after ran
          subst decided
          exact .resumed _ _ decidedAt cur flow _ _ (ops.read + 2) after found
            waits known named timely (by rw [← event, about, Option.getD_some]) ran
        · intro err after ran
          subst decided
          exact .resumed _ _ decidedAt cur flow _ _ (ops.read + 2) after found
            waits known named timely (by rw [← event, about, Option.getD_some]) ran
      | none =>
        simp only [utcNow, ends_bind, ends_modify_get]
        apply (run_workflow_runs env loop
          (foundIn { ops.deciding _ with read := ops.read + 2 + 1 } rfl) _
          true).mono
        · intro decision after ran
          subst decided
          exact .resumed _ _ decidedAt cur flow _ _ (ops.read + 3) after found
            waits known named timely (by rw [← event, about]; rfl) ran
        · intro err after ran
          subst decided
          exact .resumed _ _ decidedAt cur flow _ _ (ops.read + 3) after found
            waits known named timely (by rw [← event, about]; rfl) ran
  · rintro err after ⟨approvals, res, rfl, decided⟩
    exact .unapproved _ _ _ ⟨res, decided⟩

theorem reject_called (askId actor : String) (ops : Operations) :
    Command.Ends (reject env askId actor)
      (fun _ => Called env loop ops (.reject askId actor))
      (fun _ => Called env loop ops (.reject askId actor)) ops := by
  unfold reject
  rw [ends_bind]
  apply (decide_decided env askId .rejected actor ops).mono
  · rintro approval after ⟨cur, decidedAt, found, waits, timely, rfl, rfl⟩
    exact .rejected _ _ _ ⟨_, .done cur decidedAt found waits timely⟩
  · rintro err after ⟨approvals, res, rfl, decided⟩
    exact .rejected _ _ _ ⟨res, decided⟩

theorem append_called (event : OutboxEvent) (ops : Operations) :
    Command.Ends (appendEvent event) (fun _ => Called env loop ops (.append event))
      (fun _ => Called env loop ops (.append event)) ops := by
  unfold appendEvent
  rw [ends_bind, ends_get]
  cases configured : ops.outbox with
  | none =>
    rw [ends_pure]
    have called : Called env loop ops (.append event)
      (ops.appending event) := .appended event
    rw [Operations.appending_of_none event configured] at called
    exact called
  | some outbox =>
    have called : Called env loop ops (.append event)
      (ops.appending event) := .appended event
    rw [Operations.appending, configured] at called
    simp only [ends_bind, ends_modify, ends_pure]
    exact called

theorem machine_called (call : OperationsCall) {ops : Operations}
    (wired : ops.Wired) :
    Called env loop ops call
      ((autonomousOperations env loop).next call ops) := by
  have law : Command.Ends (commandOf env loop (action env) call)
      (fun _ => Called env loop ops call)
      (fun _ => Called env loop ops call) ops := by
    cases call with
    | registerWorkflow flow =>
      simp only [commandOf, ends_bind]
      exact register_called env loop flow ops
    | route event =>
      simp only [commandOf, ends_bind]
      apply (route_served env loop event wired).mono
      · intro receipt after served
        exact .routed event _ after served
      · intro err after served
        exact .routed event _ after served
    | drainOutbox limit =>
      simp only [commandOf, ends_bind]
      cases configured : ops.outbox with
      | none =>
        unfold drainOutbox
        rw [ends_bind, ends_get, configured, ends_throw]
        exact .unconfigured limit configured
      | some outbox =>
        apply (drain_drained env loop wired configured).mono
        · intro receipts after drained
          exact .drained limit outbox _ after configured drained
        · intro err after drained
          exact .drained limit outbox _ after configured drained
    | approveAndResume askId actor =>
      simp only [commandOf, ends_bind]
      exact approve_called env loop askId actor wired
    | reject askId actor =>
      simp only [commandOf, ends_bind]
      exact reject_called env loop askId actor ops
    | append event =>
      simp only [commandOf, ends_bind]
      exact append_called env loop event ops
  exact law.outcome fun _ => Called env loop ops call

theorem drain_answers (limit : Int) {outbox : Outbox} {ops : Operations}
    (wired : ops.Wired) (configured : ops.outbox = some outbox) :
    ∃ res, (autonomousOperations env loop).answer (.drainOutbox limit) ops =
      res.map .receipts ∧
      Drained env loop (outbox.pending limit) ops res
      ((autonomousOperations env loop).next (.drainOutbox limit) ops) := by
  have ends : Command.Ends (commandOf env loop (action env) (.drainOutbox limit))
      (fun answer after => ∃ res, .ok answer = res.map OperationsAnswer.receipts ∧
        Drained env loop (outbox.pending limit) ops res after)
      (fun err after => ∃ res, .error err = res.map OperationsAnswer.receipts ∧
        Drained env loop (outbox.pending limit) ops res after)
      ops := by
    simp only [commandOf, ends_bind]
    apply (drain_drained env loop wired configured).mono
    · intro receipts after drained
      exact ⟨.ok receipts, rfl, drained⟩
    · intro err after drained
      exact ⟨.error err, rfl, drained⟩
  exact ends.outcome fun answer after => ∃ res, answer = res.map OperationsAnswer.receipts ∧
      Drained env loop (outbox.pending limit) ops res after

variable {env loop}

theorem Called.wired {call : OperationsCall} {ops after : Operations}
    (called : Called env loop ops call after) (wired : ops.Wired) :
    after.Wired := by
  cases called with
  | refused flow => exact wired
  | unrouted flow new => exact wired.with_workflow flow
  | registered flow new free => exact wired.with_route new free
  | routed event res after served => exact wired.of_same served.same.1 served.same.2.1
  | unconfigured limit none => exact wired
  | drained limit outbox res after configured drained =>
    exact wired.of_same drained.same.1 drained.same.2
  | unapproved askId actor approvals decided => exact wired.of_same rfl rfl
  | resumed askId actor decidedAt cur flow event res clocks after found waits
      known named timely about ran => exact wired.of_same ran.workflows ran.routes
  | rejected | appended => exact wired.of_same rfl rfl

variable (env loop) in
/-- What holds of the core of a state, and is kept by decisions and by runs of workflows. -/
structure Kept (holds : Operations → Prop) : Prop where
  alike : ∀ before after, after.core = before.core → holds before → holds after
  decided : ∀ before askId decision actor now approvals res, holds before →
    before.approvals.Decided askId decision actor now (approvals, res) →
      holds { before with approvals := approvals }
  ran : ∀ before flow event granted res after, holds before →
    (granted = true → before.Approved flow event) →
      Ran env loop flow event granted before res after → holds after

theorem Called.keeps {holds : Operations → Prop} {call : OperationsCall}
    {ops after : Operations} (kept : Kept env loop holds)
    (called : Called env loop ops call after) (base : holds ops) :
    holds after := by
  have ungranted : ∀ flow event before, false = true →
      Operations.Approved flow event before := by simp
  cases called with
  | refused flow => exact base
  | unrouted | registered => exact kept.alike ops _ rfl base
  | routed event res _ served =>
    apply served.keeps holds _ base
    intro flow mem before res later holding ran
    exact kept.ran _ _ _ _ _ _ holding (ungranted flow event before) ran
  | unconfigured limit none => exact base
  | drained limit outbox res _ configured drained =>
    apply drained.keeps holds _ _ base
    · intro event mem flow taker before res later holding ran
      exact kept.ran _ _ _ _ _ _ holding (ungranted flow _ before) ran
    · intro event mem before decisions holding
      exact kept.alike _ _ (before.settled_same env event.eventId decisions).2.2.2 holding
  | unapproved askId actor approvals decided | rejected askId actor approvals decided =>
    obtain ⟨res, decided⟩ := decided
    exact kept.alike { ops with approvals := approvals } _ rfl
      (kept.decided _ _ _ _ _ _ _ base decided)
  | resumed askId actor decidedAt cur flow event res clocks _ found waits known
      named timely about ran =>
      apply kept.ran _ _ _ _ _ _ _ _ ran
      · have granted : ops.approvals.Decided askId .approved actor _ _ :=
          .done cur decidedAt found waits timely
        have decided := kept.decided _ _ _ _ _ _ _ base granted
        exact kept.alike { ops with approvals := _ } _ rfl decided
      · intro _
        apply Exists.intro askId
        apply Exists.intro
        apply And.intro (Dict.lookup_set_same _ _ _)
        apply And.intro rfl
        apply And.intro named.symm
        change cur.event = some event ∨ cur.event = none ∧ _
        cases kept : cur.event with
        | some own =>
          rw [about, kept]
          exact Or.inl rfl
        | none =>
          rw [about, kept]
          exact Or.inr ⟨rfl, rfl⟩
  | appended event => exact kept.alike ops _ rfl base

variable (env loop) in
theorem run_wired (calls : List OperationsCall) {ops : Operations}
    (wired : ops.Wired) :
    ((autonomousOperations env loop).run calls ops).Wired := by
  have keeps : ∀ call state, Operations.Wired state →
      Operations.Wired ((autonomousOperations env loop).next call state) :=
    fun call state wired => (machine_called env loop call wired).wired wired
  exact Machine.run_invariant keeps calls wired

theorem run_kept {holds : Operations → Prop} (kept : Kept env loop holds)
    (calls : List OperationsCall) {ops : Operations} (wired : ops.Wired)
    (base : holds ops) :
    holds ((autonomousOperations env loop).run calls ops) := by
  have keeps : ∀ call state, Operations.Wired state ∧ holds state →
      Operations.Wired ((autonomousOperations env loop).next call state) ∧
        holds ((autonomousOperations env loop).next call state) := by
    intro call state both
    obtain ⟨wired, holding⟩ := both
    have called := machine_called env loop call wired
    exact ⟨called.wired wired, called.keeps kept holding⟩
  exact (Machine.run_invariant keeps calls ⟨wired, base⟩).2

end calls

end Ois.Autonomy
