import Ois.Autonomy.OperationsCalls

/-!
# Events that stop a drain

A rule that asks for the type of an event, or for any type, raises on a risk level that it
does not know, and nothing on the way of a drain catches the error. All other fields of a
payload are read without raising.
-/

namespace Ois.Autonomy

open Ois.Library Ois.Kernel Ois.Sources EventEnvelope Dict

section judgements

variable (digits : UInt64 → String)

def PolicyRule.Skips (kind : String) (rule : PolicyRule) : Prop :=
  ∃ asked, rule.eventType = some asked ∧ asked ≠ kind

/-- The payload names a known risk level, or no rule of the policy comes to ask for it. -/
def Usable (policy : AutomationPolicy) (event : EventEnvelope) : Prop :=
  (∃ risk, contextRisk digits event.payload = .ok risk) ∨
    ∀ rule ∈ policy, rule.Skips event.eventType

theorem context_risk_eq (event : EventEnvelope) :
    contextRisk digits event.context = contextRisk digits event.payload := by
  unfold contextRisk context
  rw [lookup_set, if_neg (by decide)]

variable {event : EventEnvelope}

variable {rule : PolicyRule}

theorem rule_skips (skips : rule.Skips event.eventType) :
    rule.evaluate digits event.context = .ok (false, "event type does not match") := by
  obtain ⟨asked, asks, unlike⟩ := skips
  unfold PolicyRule.evaluate context
  rw [lookup_set_same, asks]
  simp [unlike.symm, pure, Except.pure]

theorem rule_reads (reads : ¬rule.Skips event.eventType) :
    rule.evaluate digits event.context = (contextRisk digits event.payload >>= fun risk => do
        if riskOrder rule.maximumRisk < riskOrder risk ∧ requiresApproval event.context = false then
          return (false, "risk exceeds automation policy")
        let sideEffects := (event.context.lookup "side_effects").getD .null
        if sideEffects ∉ [.null, .str "none"] ∧ rule.allowSideEffects = false then
          return (false, "side effects are not permitted by automation policy")
        if ¬ rule.requiredTags ⊆ contextTags event.context then
          return (false, "required policy tags are missing")
        return (true, "rule matched")) := by
  have passes : rule.eventType.any (fun name =>
      event.context.lookup "event_type" != some (.str name)) = false := by
    cases asks : rule.eventType with
    | none => rfl
    | some asked =>
      have same : asked = event.eventType := by
        by_contra unlike
        exact reads ⟨asked, asks, unlike⟩
      rw [same, context, lookup_set_same]
      simp
  unfold PolicyRule.evaluate
  rw [← context_risk_eq, passes]
  rfl

theorem rule_raises {err : PyError} (unknown : contextRisk digits event.payload = .error err)
    (reads : ¬rule.Skips event.eventType) :
    rule.evaluate digits event.context = .error err := by
  rw [rule_reads digits reads, unknown]
  rfl

theorem rule_answers {risk : RiskLevel} (rule : PolicyRule)
    (known : contextRisk digits event.payload = .ok risk) :
    ∃ answer, rule.evaluate digits event.context = .ok answer := by
  by_cases skips : rule.Skips event.eventType
  · exact ⟨_, rule_skips digits skips⟩
  · rw [rule_reads digits skips, known]
    simp only [bind, Except.bind, pure, Except.pure]
    split_ifs <;> exact ⟨_, rfl⟩

theorem judge_ok_iff (policy : AutomationPolicy) (event : EventEnvelope) :
    (∃ evaluation, policy.judge digits event = .ok evaluation) ↔
      Usable digits policy event := by
  unfold AutomationPolicy.judge
  induction policy with
  | nil =>
    constructor
    · intro _
      exact Or.inr (by simp)
    · intro _
      exact ⟨_, rfl⟩
  | cons rule rest ih =>
    cases risk : contextRisk digits event.payload with
    | ok known =>
      obtain ⟨⟨matched, reason⟩, answers⟩ := rule_answers digits rule risk
      have usable (policy : AutomationPolicy) : Usable digits policy event :=
        Or.inl ⟨known, risk⟩
      rw [AutomationPolicy.evaluate, answers]
      apply iff_of_true _ (usable _)
      cases matched with
      | true => exact ⟨_, rfl⟩
      | false => exact ih.mpr (usable rest)
    | error err =>
      have unknown : ¬∃ known, contextRisk digits event.payload = .ok known := by
        rintro ⟨known, same⟩
        rw [risk] at same
        cases same
      have usable (policy : AutomationPolicy) : Usable digits policy event ↔
          ∀ rule ∈ policy, rule.Skips event.eventType := or_iff_right unknown
      rw [usable, List.forall_mem_cons, ← usable, ← ih, AutomationPolicy.evaluate]
      by_cases skips : rule.Skips event.eventType
      · rw [rule_skips digits skips]
        simp [skips, bind, Except.bind]
      · rw [rule_raises digits risk skips]
        simp [skips, bind, Except.bind]

end judgements

section fates

variable (env : Surroundings) (loop : AutonomousLoop)

/-- No identifier that is still to be drawn is taken. -/
def Operations.Fresh (ops : Operations) : Prop :=
  ∀ count, ops.drawn ≤ count → ops.approvals.lookup (env.uuid count) = none

/-- No action is ended by what is no `Exception`. -/
def Surroundings.Calm (env : Surroundings) : Prop :=
  ∀ count err, env.outcome count ≠ .interrupted err

variable {env loop} {flow : SourceWorkflow} {event : EventEnvelope}
  {granted : Bool} {ops after : Operations} {res : Except PyError LoopDecision}

theorem raises_iff : fate env loop flow event granted ops = .raises ↔
    (flow.workflowId, event.eventId) ∉ ops.processed ∧ flow.fires event = true ∧
      ¬Usable env.reprFloat loop.policy event := by
  rw [← judge_ok_iff]
  unfold fate
  by_cases passes : (flow.workflowId, event.eventId) ∈ ops.processed ∨
      flow.fires event = false
  · rw [if_pos passes]
    rcases passes with held | silent
    · simp [held]
    · simp [silent]
  · rw [if_neg passes]
    rw [not_or, Bool.not_eq_false] at passes
    cases judged : loop.policy.judge env.reprFloat event with
    | error err => simp [passes]
    | ok evaluation =>
      cases out : evaluation.outcome <;> cases granted <;> simp [out]

namespace Ran

theorem raises {err : PyError} (calm : env.Calm) (fresh : ops.Fresh env)
    (ran : Ran env loop flow event granted ops (.error err) after) :
    fate env loop flow event granted ops = .raises := by
  cases ran with
  | failed _ raises => exact raises
  | clashed _ asks taken =>
    rw [fresh ops.drawn (Nat.le_refl _)] at taken
    simp at taken
  | interrupted _ acts drawn runs cause =>
    obtain ⟨count, interrupts⟩ := cause
    exact absurd interrupts (calm count err)

theorem fresh (ran : Ran env loop flow event granted ops res after)
    (fresh : ops.Fresh env) : after.Fresh env := by
  cases ran with
  | passed | failed => exact fresh
  | asked decision reason asks free waits =>
    intro count later
    have newer : ops.drawn + 1 ≤ count := later
    have unlike : env.uuid count ≠ env.uuid ops.drawn := by
      intro same
      have equal := env.distinct same
      omega
    change (ops.approvals ++ [(env.uuid ops.drawn, _)]).lookup _ = none
    rw [lookup_append_fresh free, if_neg unlike]
    exact fresh count (by omega)
  | clashed err asks taken =>
    intro count later
    exact fresh count (Nat.le_of_succ_le later)
  | completed decision acts drawn runs idle grown burst
  | gaveUp decision acts drawn runs recovers grown burst
  | interrupted err acts drawn runs cause grown burst =>
    intro count later
    exact fresh count (Nat.le_trans grown later)

end Ran

theorem fresh_kept : Kept env loop (Operations.Fresh env) := by
  constructor
  · intro before after same fresh count later
    have approvals : after.approvals = before.approvals := congrArg (·.2.1) same
    have drawn : after.drawn = before.drawn := congrArg (·.2.2.2.2) same
    rw [approvals]
    exact fresh count (drawn ▸ later)
  · intro before askId decision actor now approvals res fresh decided count later
    have free := fresh count later
    cases decided with
    | refused => exact free
    | expired cur err found waits | done cur decidedAt found waits =>
      change (set _ _ before.approvals).lookup _ = none
      rw [lookup_set, if_neg, free]
      intro same
      simp [← same, free] at found
  · intro before flow event granted res after fresh approved ran
    exact ran.fresh fresh

variable {workflows : List SourceWorkflow} {res : Except PyError (List LoopDecision)}

theorem Served.raises {err : PyError} (calm : env.Calm)
    (served : Served env loop event workflows ops res after)
    (fresh : ops.Fresh env) (distinct : (workflows.map (·.workflowId)).Nodup)
    (raised : res = .error err) : ∃ flow ∈ workflows,
      fate env loop flow event false ops = .raises := by
  induction served with
  | nil | cons => cases raised
  | failed rest ran => exact ⟨_, List.mem_cons_self, ran.raises calm fresh⟩
  | later ran served ih =>
    rw [List.map_cons, List.nodup_cons] at distinct
    obtain ⟨flow, mem, raises⟩ := ih (ran.fresh fresh) distinct.2 raised
    apply Exists.intro flow
    apply And.intro (List.mem_cons_of_mem _ mem)
    rw [← raises]
    apply (ran.fate_of_other _).symm
    intro same
    exact distinct.1 ((Prod.mk.inj same).1 ▸ List.mem_map_of_mem mem)

theorem Served.returns_iff (calm : env.Calm)
    (served : Served env loop event workflows ops res after)
    (fresh : ops.Fresh env) (distinct : (workflows.map (·.workflowId)).Nodup) :
    (∃ decisions, res = .ok decisions) ↔ ∀ flow ∈ workflows,
      fate env loop flow event false ops ≠ .raises := by
  constructor
  · rintro ⟨decisions, rfl⟩
    exact served.goes_on distinct
  · intro none
    cases res with
    | ok decisions => exact ⟨decisions, rfl⟩
    | error err =>
      obtain ⟨flow, mem, raises⟩ := served.raises calm fresh distinct rfl
      exact absurd raises (none flow mem)

theorem Served.later_fates {event : OutboxEvent} {rest : List OutboxEvent}
    {between : Operations} {decisions : List LoopDecision}
    (served : Served env loop (fromOutbox event)
      (ops.takers (fromOutbox event)) ops (.ok decisions) between)
    (distinct : event.eventId ∉ rest.map (·.eventId)) :
    (∀ later ∈ rest, ∀ flow ∈ (between.settled env event.eventId decisions).takers
        (fromOutbox later),
      fate env loop flow (fromOutbox later) false
        (between.settled env event.eventId decisions) ≠ .raises) ↔
      ∀ later ∈ rest, ∀ flow ∈ ops.takers (fromOutbox later),
        fate env loop flow (fromOutbox later) false ops ≠ .raises := by
  have settled := between.settled_same env event.eventId decisions
  apply forall₂_congr
  intro later mem
  rw [Operations.settled_takers, served.takers]
  apply forall₂_congr
  intro flow _
  rw [fate_of_same env loop]
  rw [settled.2.2.1, served.processed_of_other]
  intro taker _ same
  apply distinct
  exact List.mem_map.mpr ⟨later, mem, (Prod.mk.inj same).2⟩

theorem Served.fresh_settled {event : EventEnvelope} {between : Operations}
    (served : Served env loop event workflows ops res between)
    (fresh : ops.Fresh env) (eventId : String) (decisions : List LoopDecision) :
    (between.settled env eventId decisions).Fresh env := by
  have kept : Kept env loop (Operations.Fresh env) := fresh_kept
  apply kept.alike between
  · exact (between.settled_same env eventId decisions).2.2.2
  · exact served.keeps _ (fun _ _ _ _ _ fresh ran => ran.fresh fresh) fresh

theorem Drained.returns_iff {events : List OutboxEvent}
    {res : Except PyError (List OperationReceipt)} (calm : env.Calm)
    (drained : Drained env loop events ops res after)
    (wired : ops.Wired) (fresh : ops.Fresh env)
    (distinct : (events.map (·.eventId)).Nodup) :
    (∃ receipts, res = .ok receipts) ↔ ∀ event ∈ events,
      ∀ flow ∈ ops.takers (fromOutbox event),
        fate env loop flow (fromOutbox event) false ops ≠ .raises := by
  induction drained with
  | nil => simp
  | @failed event ops after err rest served =>
    have stops := served.returns_iff calm fresh (wired.takers_distinct _)
    apply iff_of_false
    · simp
    · intro none
      have some := stops.mpr (none event List.mem_cons_self)
      simp at some
  | @cons event rest ops between after receipt receipts named served drained ih
  | @later event rest ops between after receipt err served drained ih =>
    rw [List.map_cons, List.nodup_cons] at distinct
    have head := (served.returns_iff calm fresh (wired.takers_distinct _)).mp ⟨_, rfl⟩
    have tail := ih (served.wired_settled wired _ _) (served.fresh_settled fresh _ _) distinct.2
    rw [served.later_fates distinct.1] at tail
    rw [List.forall_mem_cons, and_iff_right head]
    exact Iff.trans (by simp) tail

end fates

section drains

variable (env : Surroundings) (loop : AutonomousLoop)

/-- A drain returns and has a receipt for each pending event within its limit exactly when
every one of them that a workflow is still to be run for is usable. -/
theorem drain_handles_all_iff (calm : env.Calm) (outbox : Outbox)
    (approvals : InMemoryApprovalStore)
    (fresh : ∀ count, approvals.lookup (env.uuid count) = none)
    (calls : List OperationsCall) (limit : Int) :
    let machine := autonomousOperations env loop
    let before := machine.run calls (.start (some outbox) approvals)
    ∀ table, before.outbox = some table →
      ((∃ receipts, machine.answer (.drainOutbox limit) before = .ok (.receipts receipts) ∧
          receipts.map (·.eventId) = (table.pending limit).map (·.eventId)) ↔
        ∀ event ∈ table.pending limit, ∀ flow ∈ before.registered,
          flow.fires (.fromOutbox event) = true →
            (flow.workflowId, event.eventId) ∉ before.processed →
              Usable env.reprFloat loop.policy (.fromOutbox event)) := by
  intro machine before table configured
  have wired : before.Wired :=
    run_wired env loop calls (Operations.wired_start (some outbox) approvals)
  have unused : before.Fresh env :=
    run_kept fresh_kept calls (Operations.wired_start (some outbox) approvals)
      fun count _ => fresh count
  obtain ⟨res, answer, drained⟩ :=
    drain_answers env loop limit wired configured
  have returns := drained.returns_iff calm wired unused (table.pending_distinct limit)
  have handled : (∃ receipts, machine.answer (.drainOutbox limit) before =
      .ok (.receipts receipts) ∧ receipts.map (·.eventId) = (table.pending limit).map (·.eventId)) ↔
      ∃ receipts, res = .ok receipts := by
    change (∃ receipts, (autonomousOperations env loop).answer _ before = _ ∧ _) ↔ _
    rw [answer]
    constructor
    · rintro ⟨receipts, same, _⟩
      cases res with
      | error err => simp [Except.map] at same
      | ok found => exact ⟨found, rfl⟩
    · rintro ⟨receipts, rfl⟩
      exact ⟨receipts, rfl, drained.receipts⟩
  rw [handled, returns]
  apply forall₂_congr
  intro event mem
  constructor
  · intro none flow registered fires new
    by_contra unusable
    exact none flow (Operations.takers_of_fires registered fires)
      (raises_iff.mpr ⟨new, fires, unusable⟩)
  · intro usable flow taker raises
    obtain ⟨new, fires, unusable⟩ := raises_iff.mp raises
    exact unusable (usable flow (List.mem_filter.mp taker).1 fires new)

end drains

def riskyCalls (risk : String) : List OperationsCall :=
  [.registerWorkflow (creationFlow "flow" "tenant"),
    .append (creation "event" "tenant" [("risk_level", .str risk)]),
    .append (creation "later" "tenant")]

def riskyTable (risk : String) : Outbox :=
  { rows := [Outbox.rowOf (creation "event" "tenant" [("risk_level", .str risk)]),
      Outbox.rowOf (creation "later" "tenant")]
    distinct := by
      change List.Nodup ["event", "later"]
      decide }

theorem known_risk_drained :
    let machine := autonomousOperations (.steady (.returned .null)) lenientLoop
    let before := machine.run (riskyCalls "low") (.start (some {}))
    ∃ receipts, machine.answer (.drainOutbox 100) before = .ok (.receipts receipts) ∧
      receipts.map (·.eventId) = ((riskyTable "low").pending 100).map (·.eventId) := by
  have calm : (Surroundings.steady (.returned .null)).Calm := by
    intro count err same
    cases same
  apply (drain_handles_all_iff (.steady (.returned .null)) lenientLoop calm {} []
    (fun _ => rfl) (riskyCalls "low") 100 (riskyTable "low") (by decide +kernel)).mpr
  intro event mem flow registered fires new
  have listed : (riskyTable "low").pending 100 =
      [creation "event" "tenant" [("risk_level", .str "low")], creation "later" "tenant"] := by
    decide +kernel
  rw [listed, List.mem_pair] at mem
  rcases mem with rfl | rfl
  · exact Or.inl ⟨.low, by decide +kernel⟩
  · exact Or.inl ⟨.low, by decide +kernel⟩

/-- An unknown risk level ends the drain, and the event behind it reaches no workflow. -/
theorem unknown_risk_stops_drain :
    let machine := autonomousOperations (.steady (.returned .null)) lenientLoop
    let before := machine.run (riskyCalls "severe") (.start (some {}))
    before.outbox = some (riskyTable "severe") ∧
      (machine.answer (.drainOutbox 100) before).isOk = false ∧
        (machine.next (.drainOutbox 100) before).acts = [] := by
  decide +kernel

end Ois.Autonomy
