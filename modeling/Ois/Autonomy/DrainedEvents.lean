import Ois.Autonomy.OperationsCalls

/-!
# Events leave the outbox once their workflows are done

A drain routes an event to every workflow of its type and source, of whatever tenant, and
publishes it once all of their decisions are idle. A workflow that the event does not
trigger is never idle about it.
-/

namespace Ois.Autonomy

open Ois.Library Ois.Kernel Ois.Sources EventEnvelope

namespace Operations

/-- The event waits in the outbox. -/
def Pending (eventId : String) (ops : Operations) : Prop :=
  ∃ outbox, ops.outbox = some outbox ∧ outbox.Pending eventId

def Published (eventId : String) (ops : Operations) : Prop :=
  ∃ outbox, ops.outbox = some outbox ∧ outbox.Published eventId

instance (eventId : String) (ops : Operations) :
    Decidable (ops.Published eventId) :=
  match configured : ops.outbox with
  | none => .isFalse (by simp [Published, configured])
  | some outbox => decidable_of_iff (outbox.Published eventId) (by simp [Published, configured])

/-- Every registered workflow that the event triggers has completed for it. -/
def Finished (event : EventEnvelope) (ops : Operations) : Prop :=
  ∀ flow ∈ ops.registered, flow.fires event = true →
    (flow.workflowId, event.eventId) ∈ ops.processed

/-- There are workflows of the type and source of the event, and each of them is triggered by
it or has completed for it. -/
def Covered (event : EventEnvelope) (ops : Operations) : Prop :=
  ops.takers event ≠ [] ∧ ∀ flow ∈ ops.takers event, flow.fires event = true ∨
      (flow.workflowId, event.eventId) ∈ ops.processed

instance (event : EventEnvelope) (ops : Operations) :
    Decidable (ops.Finished event) :=
  inferInstanceAs (Decidable (∀ flow ∈ ops.registered, _ → _))

instance (event : EventEnvelope) (ops : Operations) :
    Decidable (ops.Covered event) :=
  inferInstanceAs (Decidable (_ ∧ ∀ flow ∈ ops.takers event, _ ∨ _))

theorem not_pending_of_published {eventId : String} {ops : Operations}
    (published : ops.Published eventId) : ¬ops.Pending eventId := by
  obtain ⟨outbox, configured, done⟩ := published
  rintro ⟨other, same, waits⟩
  rw [configured, Option.some.injEq] at same
  rw [← same] at waits
  exact Outbox.not_pending_of_published done waits

end Operations

open Operations

section publications

variable {env : Surroundings} {loop : AutonomousLoop} {eventId other : String}
  {ops : Operations} {decisions : List LoopDecision}

theorem published_settled (published : ops.Published eventId) :
    (ops.settled env other decisions).Published eventId := by
  obtain ⟨outbox, configured, done⟩ := published
  unfold settled
  split_ifs with settles
  · rw [Operations.Published, configured]
    exact ⟨_, rfl, Outbox.published_mark_of_published _ done⟩
  · exact ⟨outbox, configured, done⟩

theorem published_of_settled
    (published : (ops.settled env other decisions).Published eventId) :
    ops.Published eventId ∨ eventId = other ∧ decisions ≠ [] ∧
      ∀ decision ∈ decisions, decision.state = .idle := by
  unfold settled at published
  split_ifs at published with settles
  · obtain ⟨outbox, configured, done⟩ := published
    obtain ⟨before, held, rfl⟩ := Option.map_eq_some_iff.mp configured
    rcases Outbox.published_mark done with same | past
    · exact Or.inr ⟨same, settles⟩
    · exact Or.inl ⟨before, held, past⟩
  · exact Or.inl published

theorem published_settled_self (waits : ops.Pending eventId) (some : decisions ≠ [])
    (idle : ∀ decision ∈ decisions, decision.state = .idle) :
    (ops.settled env eventId decisions).Published eventId := by
  obtain ⟨outbox, configured, pending⟩ := waits
  rw [settled, if_pos ⟨some, idle⟩, Operations.Published, configured]
  exact ⟨_, rfl, Outbox.published_of_mark _ pending⟩

theorem pending_settled (waits : ops.Pending eventId) (unlike : eventId ≠ other) :
    (ops.settled env other decisions).Pending eventId := by
  obtain ⟨outbox, configured, pending⟩ := waits
  unfold settled
  split_ifs with settles
  · rw [Operations.Pending, configured]
    exact ⟨_, rfl, Outbox.pending_mark_of_other _ pending unlike⟩
  · exact ⟨outbox, configured, pending⟩

end publications

namespace Drained

variable {env : Surroundings} {loop : AutonomousLoop} {events : List OutboxEvent}
  {ops after : Operations} {res : Except PyError (List OperationReceipt)}

theorem processed_of_other {key : String × String}
    (drained : Drained env loop events ops res after)
    (unlike : ∀ event ∈ events, key.2 ≠ event.eventId) :
    key ∈ after.processed ↔ key ∈ ops.processed := by
  apply drained.keeps fun reached => key ∈ reached.processed ↔ key ∈ ops.processed
  · intro event mem flow taker before res later same ran
    rw [ran.mem_processed key, or_iff_left (fun here => unlike event mem
      (congrArg Prod.snd here.1))]
    exact same
  · intro event mem before decisions same
    rw [(before.settled_same env event.eventId decisions).2.2.1]
    exact same
  · rfl

theorem processed_grows {key : String × String}
    (drained : Drained env loop events ops res after)
    (held : key ∈ ops.processed) : key ∈ after.processed := by
  apply drained.keeps fun reached => key ∈ reached.processed
  · intro event mem flow taker before res later held ran
    exact (ran.mem_processed key).mpr (Or.inl held)
  · intro event mem before decisions held
    rw [(before.settled_same env event.eventId decisions).2.2.1]
    exact held
  · exact held

theorem published_kept {eventId : String}
    (drained : Drained env loop events ops res after)
    (published : ops.Published eventId) : after.Published eventId := by
  apply drained.keeps fun reached => reached.Published eventId
  · intro event mem flow taker before res later published ran
    rw [Operations.Published, ran.outbox]
    exact published
  · intro event mem before decisions published
    exact published_settled published
  · exact published

theorem fires_of_new {event : OutboxEvent} {flow : SourceWorkflow}
    (drained : Drained env loop events ops res after)
    (wired : ops.Wired) (distinct : (events.map (·.eventId)).Nodup)
    (mem : event ∈ events)
    (taker : flow ∈ ops.takers (fromOutbox event))
    (done : (flow.workflowId, event.eventId) ∈ after.processed) :
    (flow.workflowId, event.eventId) ∈ ops.processed ∨
      flow.fires (fromOutbox event) = true := by
  revert done
  apply drained.keeps fun reached =>
    (flow.workflowId, event.eventId) ∈ reached.processed →
      (flow.workflowId, event.eventId) ∈ ops.processed ∨
        flow.fires (fromOutbox event) = true
  · intro other present rival among before res later known ran done
    rcases (ran.mem_processed _).mp done with held | ⟨same, new⟩
    · exact known held
    · have sameEvent : event = other :=
        List.inj_on_of_nodup_map distinct mem present (Prod.mk.inj same).2
      rw [← sameEvent] at among ran
      have sameWorkflow : flow = rival :=
        List.inj_on_of_nodup_map (wired.takers_distinct _) taker among (Prod.mk.inj same).1
      rw [← sameWorkflow] at ran
      exact (ran.fires_of_new done).elim known Or.inr
  · intro other present before decisions known
    rw [(before.settled_same env other.eventId decisions).2.2.1]
    exact known
  · exact Or.inl

end Drained

section steps

variable {env : Surroundings} {loop : AutonomousLoop} {event : OutboxEvent}
  {ops between : Operations} {decisions : List LoopDecision}

theorem done_of_settled {eventId : String} (served : Served env loop (fromOutbox event)
      (ops.takers (fromOutbox event)) ops (.ok decisions) between)
    (wired : ops.Wired)
    (published : (between.settled env event.eventId decisions).Published eventId) :
    ops.Published eventId ∨ event.eventId = eventId ∧
      ops.takers (fromOutbox event) ≠ [] ∧
      ∀ flow ∈ ops.takers (fromOutbox event),
      (flow.workflowId, eventId) ∈
      (between.settled env event.eventId decisions).processed := by
  have settles := served.settles (wired.takers_distinct _)
  rcases published_of_settled published with past | ⟨same, some, idle⟩
  · rw [Operations.Published, served.same.2.2] at past
    exact Or.inl past
  · rw [(between.settled_same env event.eventId decisions).2.2.1, same]
    exact Or.inr ⟨rfl, fun none => some (settles.1.mpr none), settles.2.mp idle⟩

theorem settled_publishes (served : Served env loop (fromOutbox event)
      (ops.takers (fromOutbox event)) ops (.ok decisions) between)
    (wired : ops.Wired) (waits : ops.Pending event.eventId)
    (some : ops.takers (fromOutbox event) ≠ [])
    (done : ∀ flow ∈ ops.takers (fromOutbox event),
      (flow.workflowId, event.eventId) ∈ between.processed) :
    (between.settled env event.eventId decisions).Published event.eventId := by
  have settles := served.settles (wired.takers_distinct _)
  have waiting : between.Pending event.eventId := by
    rw [Operations.Pending, served.same.2.2]
    exact waits
  exact published_settled_self waiting (fun none => some (settles.1.mp none)) (settles.2.mpr done)

end steps

namespace Drained

variable {env : Surroundings} {loop : AutonomousLoop} {events : List OutboxEvent}
  {ops after : Operations} {res : Except PyError (List OperationReceipt)}

theorem done_of_published {eventId : String}
    (drained : Drained env loop events ops res after)
    (wired : ops.Wired) (published : after.Published eventId) :
    ops.Published eventId ∨ ∃ event ∈ events, event.eventId = eventId ∧
      ops.takers (fromOutbox event) ≠ [] ∧
      ∀ flow ∈ ops.takers (fromOutbox event),
      (flow.workflowId, eventId) ∈ after.processed := by
  induction drained with
  | nil => exact Or.inl published
  | failed rest served =>
    rw [Operations.Published, served.same.2.2] at published
    exact Or.inl published
  | @cons event rest ops between after receipt receipts named served drained ih
  | @later event rest ops between after receipt err served drained ih =>
    rcases ih (served.wired_settled wired _ _) published with
      settled | ⟨other, mem, named, some, done⟩
    · rcases done_of_settled served wired settled with past | ⟨same, some, done⟩
      · exact Or.inl past
      · exact Or.inr ⟨event, List.mem_cons_self, same, some, fun flow taker =>
          drained.processed_grows (done flow taker)⟩
    · rw [settled_takers, served.takers] at some done
      exact Or.inr ⟨other, List.mem_cons_of_mem _ mem, named, some, done⟩

theorem publishes {receipts : List OperationReceipt}
    (drained : Drained env loop events ops (.ok receipts) after)
    (wired : ops.Wired) (distinct : (events.map (·.eventId)).Nodup)
    {event : OutboxEvent} (mem : event ∈ events) (waits : ops.Pending event.eventId)
    (some : ops.takers (fromOutbox event) ≠ [])
    (done : ∀ flow ∈ ops.takers (fromOutbox event),
      (flow.workflowId, event.eventId) ∈ after.processed) :
    after.Published event.eventId := by
  generalize out : Except.ok receipts = res at drained
  induction drained generalizing receipts with
  | nil => simp at mem
  | failed | later => cases out
  | @cons first rest ops between after receipt receipts named served drained ih =>
    cases out
    have still := served.wired_settled wired first.eventId receipt.decisions
    rw [List.map_cons, List.nodup_cons] at distinct
    rcases List.mem_cons.mp mem with here | there
    · rw [here] at waits some done ⊢
      apply drained.published_kept
      apply settled_publishes served wired waits some
      intro flow taker
      have last := done flow taker
      rw [drained.processed_of_other] at last
      · rw [(between.settled_same env first.eventId _).2.2.1] at last
        exact last
      · intro later present same
        apply distinct.1
        exact List.mem_map.mpr ⟨later, present, same.symm⟩
    · have unlike : event.eventId ≠ first.eventId := by
        intro same
        exact distinct.1 (same ▸ List.mem_map_of_mem there)
      have waiting : between.Pending event.eventId := by
        rw [Operations.Pending, served.same.2.2]
        exact waits
      have takers : (between.settled env first.eventId receipt.decisions).takers
          (fromOutbox event) = ops.takers (fromOutbox event) := by
        rw [settled_takers, served.takers]
      rw [← takers] at some done
      exact ih still distinct.2 there (pending_settled waiting unlike) some done rfl

end Drained

section calls

variable {env : Surroundings} {loop : AutonomousLoop} {call : OperationsCall}
  {ops after : Operations}

theorem Called.published {eventId : String}
    (called : Called env loop ops call after)
    (published : ops.Published eventId) : after.Published eventId := by
  cases called with
  | refused | unrouted | registered | unconfigured | unapproved | rejected => exact published
  | routed event res _ served =>
    rw [Operations.Published, served.same.2.2]
    exact published
  | drained limit outbox res _ configured drained => exact drained.published_kept published
  | resumed askId actor decidedAt cur flow event res clocks _ found waits known
      named timely about ran =>
      rw [Operations.Published, ran.outbox]
      exact published
  | appended event =>
    obtain ⟨outbox, configured, done⟩ := published
    rw [Operations.Published, appending, configured]
    exact ⟨_, rfl, (Outbox.published_append event).mpr done⟩

theorem Called.finished {outbox : Outbox} {row : OutboxRow}
    (called : Called env loop ops call after) (wired : ops.Wired)
    (configured : ops.outbox = some outbox) (mem : row ∈ outbox.rows)
    (waits : row.publishedAt = none) (published : after.Published row.event.eventId) :
    after.Finished (fromOutbox row.event) := by
  have unpublished : ¬ops.Published row.event.eventId := by
    intro done
    exact not_pending_of_published done ⟨outbox, configured, row, mem, rfl, waits⟩
  cases called with
  | refused | unrouted | registered | unconfigured | unapproved | rejected =>
    exact absurd published unpublished
  | routed event res _ served =>
    rw [Operations.Published, served.same.2.2] at published
    exact absurd published unpublished
  | resumed askId actor decidedAt cur flow event res clocks _ found waits known
      named timely about ran =>
      rw [Operations.Published, ran.outbox] at published
      exact absurd published unpublished
  | appended event =>
    obtain ⟨table, appended, done⟩ := published
    rw [appending, configured] at appended
    cases appended
    exact absurd ⟨outbox, configured, (Outbox.published_append event).mp done⟩ unpublished
  | drained limit table res _ held drained =>
    rw [configured, Option.some.injEq] at held
    subst held
    rcases drained.done_of_published wired published with
      past | ⟨event, present, same, _, done⟩
    · exact absurd past unpublished
    · obtain ⟨other, listed, eventIs⟩ := List.mem_map.mp present
      have equal : other = row := List.inj_on_of_nodup_map outbox.distinct
        (Outbox.mem_waiting.mp (Outbox.mem_limited listed)).1 mem
        ((congrArg OutboxEvent.eventId eventIs).trans same)
      rw [← eventIs, equal] at done
      intro flow registered fires
      rw [registered_of_same drained.same.1 drained.same.2] at registered
      exact done flow (takers_of_fires registered fires)

variable (env loop)

/-- An event that is drained and whose workflows are then all done is published for good
exactly when workflows of its type and source are registered, and each of them is triggered by
it or had completed for it. No call publishes an event that a workflow is not done with. -/
theorem drained_iff_covered (outbox : Outbox) (approvals : InMemoryApprovalStore)
    (calls : List OperationsCall) :
    let machine := autonomousOperations env loop
    let before := machine.run calls (.start (some outbox) approvals)
    ∀ table, before.outbox = some table →
      (∀ limit answer, machine.answer (.drainOutbox limit) before = .ok answer →
      let after := machine.next (.drainOutbox limit) before
      ∀ event ∈ table.pending limit, after.Finished (.fromOutbox event) →
      ((after.Published event.eventId ∧
      ∀ later, ¬(machine.run later after).Pending event.eventId) ↔
      before.Covered (.fromOutbox event))) ∧
      ∀ call, ∀ row ∈ table.rows, row.publishedAt = none →
      (machine.next call before).Published row.event.eventId →
      (machine.next call before).Finished (.fromOutbox row.event) := by
  intro machine before table configured
  have wired : before.Wired :=
    run_wired env loop calls (wired_start (some outbox) approvals)
  constructor
  · intro limit answer ret after event mem finished
    obtain ⟨res, answers, drained⟩ :=
      drain_answers env loop limit wired configured
    have some : ∃ receipts, res = .ok receipts := by
      cases res with
      | ok receipts => exact ⟨receipts, rfl⟩
      | error err =>
        rw [ret] at answers
        cases answers
    obtain ⟨receipts, rfl⟩ := some
    have distinct := table.pending_distinct limit
    have waits : before.Pending event.eventId :=
      ⟨table, configured, Outbox.pending_of_mem mem⟩
    constructor
    · rintro ⟨published, _⟩
      rcases drained.done_of_published wired published with
        past | ⟨other, present, same, some, done⟩
      · exact absurd waits (not_pending_of_published past)
      · have equal : other = event :=
          List.inj_on_of_nodup_map distinct present mem same
        rw [equal] at some done
        apply And.intro some
        intro flow taker
        exact (drained.fires_of_new wired distinct mem taker (done flow taker)).symm
    · intro covered
      have published : after.Published event.eventId := by
        apply drained.publishes wired distinct mem waits covered.1
        intro flow taker
        rcases covered.2 flow taker with fires | held
        · apply finished flow _ fires
          rw [registered_of_same drained.same.1 drained.same.2]
          exact (List.mem_filter.mp taker).1
        · exact drained.processed_grows held
      apply And.intro published
      intro later
      apply not_pending_of_published
      have keeps : ∀ call state, Operations.Wired state ∧ state.Published event.eventId →
          (machine.next call state).Wired ∧ (machine.next call state).Published event.eventId := by
        intro call state both
        obtain ⟨wired, published⟩ := both
        have called := machine_called env loop call wired
        exact ⟨called.wired wired, called.published published⟩
      have settled : after.Wired := wired.of_same drained.same.1 drained.same.2
      exact (Machine.run_invariant keeps later ⟨settled, published⟩).2
  · intro call row mem waits published
    exact (machine_called env loop call wired).finished wired configured mem waits
      published

end calls

def tenantOperations (tenants : List String) : Operations :=
  (autonomousOperations (.steady (.returned .null)) lenientLoop).run
    (tenants.map (fun tenant => .registerWorkflow (creationFlow tenant tenant)) ++
      [.append (creation "event" "tenant")]) (.start (some {}))

/-- The table of these operations. -/
def tenantTable : Outbox := { rows := [Outbox.rowOf (creation "event" "tenant")] }

/-- Two workflows of a tenant, and two of its events. -/
def tenantCalls : List OperationsCall :=
  ["first", "second"].map (fun flow => .registerWorkflow (creationFlow flow "tenant")) ++
    ["event", "other"].map fun event => .append (creation event "tenant")

def tenantEvents : Outbox :=
  { rows := ["event", "other"].map fun event => Outbox.rowOf (creation event "tenant") }

theorem tenant_events_published :
    let machine := autonomousOperations (.steady (.returned .null)) lenientLoop
    let after := machine.next (.drainOutbox 100) (machine.run tenantCalls (.start (some {})))
    (after.Published "event" ∧ ∀ later, ¬(machine.run later after).Pending "event") ∧
      after.Published "other" ∧ ∀ later, ¬(machine.run later after).Pending "other" := by
  intro machine after
  have ran : (machine.answer (.drainOutbox 100)
      (machine.run tenantCalls (.start (some {})))).isOk = true := by decide +kernel
  cases answered : machine.answer (.drainOutbox 100)
      (machine.run tenantCalls (.start (some {}))) with
  | error err =>
    rw [answered] at ran
    cases ran
  | ok answer =>
    have drained := (drained_iff_covered (.steady (.returned .null)) lenientLoop {} [] tenantCalls
      tenantEvents (by decide +kernel)).1 100 answer answered
    constructor
    · exact (drained (creation "event" "tenant") (by decide +kernel) (by decide +kernel)).mpr
        (by decide +kernel)
    · exact (drained (creation "other" "tenant") (by decide +kernel) (by decide +kernel)).mpr
        (by decide +kernel)

/-- A workflow of another tenant keeps an event in the outbox that is done. -/
theorem other_tenant_blocks :
    let machine := autonomousOperations (.steady (.returned .null)) lenientLoop
    let before := tenantOperations ["tenant", "other"]
    let after := machine.next (.drainOutbox 100) before
    (machine.answer (.drainOutbox 100) before).isOk = true ∧
      before.outbox = some tenantTable ∧ creation "event" "tenant" ∈ tenantTable.pending 100 ∧
      after.Finished (.fromOutbox (creation "event" "tenant")) ∧
      ¬after.Published "event" := by
  decide +kernel

end Ois.Autonomy
