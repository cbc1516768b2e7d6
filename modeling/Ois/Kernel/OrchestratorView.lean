import Ois.Kernel.PlanMoves
import Ois.Kernel.RuntimeConduct

/-!
# What a run of the orchestrator does

The view of an orchestration is its plan and the view of its session. Each part of `execute` has
one rule here, down to the calls of the runtime, which `Conduct` describes.
-/

namespace Ois.Kernel

open Ois.Library Ois.Infrastructure Command ExecutionRuntime ExecutionPlan

structure RunView where
  plan : ExecutionPlan
  view : View

def Orchestration.look (orch : Orchestration) : RunView :=
  { plan := orch.plan, view := orch.session.view }

def View.planned (plan : ExecutionPlan) (view : View) : View :=
  { view with standing := { view.standing with plan := some plan.toDict } }

namespace PlanOrchestrator

variable {rt : ExecutionRuntime} {world : World} {Value : Type}

abbrev Shown (operation : Run Value) (ret : Value → RunView → Prop)
    (raised : Raised → RunView → Prop) (seen : RunView) : Prop :=
  Shows Orchestration.look operation ret raised seen

section prims

variable {plan : ExecutionPlan} {view : View} {raised : Raised → RunView → Prop}

theorem on_session_shown {operation : Operation Value} {ret : Value → RunView → Prop}
    (sees : Sees operation (fun value after => ret value ⟨plan, after⟩)
      (fun err after => raised (.exception err) ⟨plan, after⟩) view) :
    Shown (onSession operation) ret raised ⟨plan, view⟩ := by
  intro orch looks
  have samePlan : orch.plan = plan := congrArg RunView.plan looks
  have sameView : orch.session.view = view := congrArg RunView.view looks
  rw [onSession, ends_focus]
  subst samePlan
  exact sees orch.session sameView

variable {ret : Unit → RunView → Prop}

theorem change_plan_shown (update : ExecutionPlan → ExecutionPlan)
    (holds : ret () ⟨update plan, view⟩) :
    Shown (changePlan update) ret raised ⟨plan, view⟩ := by
  intro orch looks
  obtain ⟨rfl, rfl⟩ := RunView.mk.inj looks
  exact holds

theorem persist_shown (holds : view.Storable → ret () ⟨plan, (view.planned plan).saved⟩)
    (refused : ¬view.Storable → ∀ err, raised (.exception err) ⟨plan, view.planned plan⟩) :
    Shown (persist rt world) ret raised ⟨plan, view⟩ := by
  refine shows_get_bind fun orch looks => on_session_shown (shows_bind ?_)
  obtain ⟨rfl, _⟩ := RunView.mk.inj looks
  rintro session rfl
  simp only [change, ends_modify]
  exact store_checkpoint_sees holds refused

theorem dispatch_shown (task : TaskNode) {ret : InvocationResult → RunView → Prop}
    (holds : ∀ fresh res after,
      Conduct rt world (callFor view.standing.identity.executionId task) fresh
      (view.marked (.dispatched plan task.taskId)) (.ok res) after →
      ret res ⟨plan, after⟩)
    (fails : ∀ fresh err after,
      Conduct rt world (callFor view.standing.identity.executionId task) fresh
      (view.marked (.dispatched plan task.taskId)) (.error err) after →
      raised (.exception err) ⟨plan, after⟩) :
    Shown (dispatch rt world task) ret raised ⟨plan, view⟩ := by
  refine shows_get_bind fun orch looks => on_session_shown (shows_bind ?_)
  obtain ⟨rfl, rfl⟩ := RunView.mk.inj looks
  apply emit_sees _ (by simp)
  refine (execute_sees _ _).mono ?_ ?_
  · rintro res after ⟨fresh, conduct⟩
    exact holds fresh res after conduct
  · rintro err after ⟨fresh, conduct⟩
    exact fails fresh err after conduct

theorem invocation_id_nonempty (execId : Uuid) (taskId : String) :
    invocationId execId taskId ≠ "" := by
  intro empty
  have sizes := congrArg String.length empty
  simp [invocationId, String.length_append] at sizes

theorem entered_call_for {fresh execId : Uuid} {task : TaskNode} {entry : Entry}
    (entered : Entered rt fresh (callFor execId task) entry) :
    entry.invocationId = invocationId execId task.taskId ∧
      entry.key = invocationId execId task.taskId := by
  have named : entry.invocationId = invocationId execId task.taskId := by
    rw [entered.invocationId]
    simp [logicalInvocationId, callFor, orDefault, invocation_id_nonempty]
  exact ⟨named, by rw [entered.key, named]; rfl⟩

theorem start_turn_shown (task : TaskNode) (storable : view.Storable)
    (holds : ret () ⟨plan.setStatus task.taskId .running,
      (view.planned (plan.setStatus task.taskId .running)).saved⟩) :
    Shown (startTurn rt world task) ret raised ⟨plan, view⟩ := by
  refine shows_bind (change_plan_shown _ (shows_bind (on_session_shown ?_)))
  exact change_sees _ (fun _ => rfl) (persist_shown (fun _ => holds) fun stuck =>
    absurd storable stuck)

end prims

/-- A property `inv` of plan and view that the turn of a task keeps. `may left`
holds of a task in its turn when it may be dispatched, with so many retries left;
`runsOut` is what running out of retries would mean. -/
structure TurnInvariant (rt : ExecutionRuntime) (world : World) (fuel : Nat)
    (origin : ExecutionPlan) (inv : ExecutionPlan → View → Prop)
    (may : Nat → ExecutionPlan → TaskNode → View → Prop) (runsOut : Prop) : Prop where
  starts : ∀ plan view task, InTurn origin plan task .ready → inv plan view →
    may fuel (plan.setStatus task.taskId .running) task
      (view.planned (plan.setStatus task.taskId .running)).saved
  dispatches : ∀ left plan view task fresh outcome after,
    InTurn origin plan task .running → view.Storable → may left plan task view →
    Conduct rt world (callFor view.standing.identity.executionId task) fresh
      (view.marked (.dispatched plan task.taskId)) outcome after →
    inv plan after ∧ ∀ res, outcome = .ok res → shouldRetry res = true →
      (left = 0 → runsOut) ∧ ∀ fewer, left = fewer + 1 → may fewer plan task after
  finishes : ∀ plan view task next after, InTurn origin plan task .running →
    next = .succeeded ∨ next = .failed → MovesTask task.taskId next plan after →
      inv plan view → inv after (view.planned after).saved

structure RunInvariant (rt : ExecutionRuntime) (world : World) (fuel : Nat)
    (origin : ExecutionPlan) (inv : ExecutionPlan → View → Prop)
    (may : Nat → ExecutionPlan → TaskNode → View → Prop) (runsOut : Prop) : Prop extends
    TurnInvariant rt world fuel origin inv may runsOut where
  marks : ∀ plan view, Evolves origin plan → inv plan view → inv plan.markReady view
  completes : ∀ plan view, rt.fencing = false → inv plan view →
    view.standing.status.isTerminal = false →
      inv plan (view.movedTo .completed) ∧ inv plan (view.movedTo .completed).saved

section runs

variable {fuel : Nat} {origin : ExecutionPlan} {inv : ExecutionPlan → View → Prop}
  {may : Nat → ExecutionPlan → TaskNode → View → Prop} {runsOut : Prop}
  {plan : ExecutionPlan} {view : View} {task : TaskNode}

def unsucceeded : Except PyError InvocationResult → Bool
  | .ok res => res.status != .succeeded
  | .error _ => true

/-- What the turn of one task needs in order to keep `inv`. `may left` holds of a task in
its turn when it may be dispatched, with so many retries left, and `decided failed` once
its calls have ended so. -/
structure TaskInvariant (rt : ExecutionRuntime) (world : World) (fuel : Nat)
    (origin : ExecutionPlan) (inv : ExecutionPlan → View → Prop) (task : TaskNode)
    (may : Nat → ExecutionPlan → View → Prop) (decided : Bool → ExecutionPlan → View → Prop)
    (runsOut : Prop) : Prop where
  starts : ∀ plan view, InTurn origin plan task .ready → inv plan view →
    may fuel (plan.setStatus task.taskId .running)
      (view.planned (plan.setStatus task.taskId .running)).saved
  retries : ∀ left plan view fresh res after,
    InTurn origin plan task .running → view.Storable → may left plan view →
    Conduct rt world (callFor view.standing.identity.executionId task) fresh
      (view.marked (.dispatched plan task.taskId)) (.ok res) after →
    shouldRetry res = true →
      inv plan after ∧ (left = 0 → runsOut) ∧ ∀ fewer, left = fewer + 1 → may fewer plan after
  decides : ∀ left plan view fresh outcome after,
    InTurn origin plan task .running → view.Storable → may left plan view →
    Conduct rt world (callFor view.standing.identity.executionId task) fresh
      (view.marked (.dispatched plan task.taskId)) outcome after →
    (∀ res, outcome = .ok res → shouldRetry res = false) →
      decided (unsucceeded outcome) plan after
  finishes : ∀ plan view failed after, InTurn origin plan task .running →
    MovesTask task.taskId (if failed then .failed else .succeeded) plan after →
      decided failed plan view → inv after (view.planned after).saved

structure Decided (decided : Bool → ExecutionPlan → View → Prop) (plan : ExecutionPlan)
    (failed : Bool) (after : RunView) : Prop where
  same : after.plan = plan
  storable : after.view.Storable
  decided : decided failed plan after.view

/-- The task has been moved to a final status, and the invariant holds. -/
structure Finished (inv : ExecutionPlan → View → Prop) (plan : ExecutionPlan)
    (task : TaskNode) (failed : Bool) (after : RunView) : Prop where
  moves : MovesTask task.taskId (if failed then .failed else .succeeded) plan after.plan
  storable : after.view.Storable
  inv : inv after.plan after.view

structure OutOfRetries (inv : ExecutionPlan → View → Prop) (runsOut : Prop) (raised : Raised)
    (after : RunView) : Prop where
  outOfFuel : raised = .outOfFuel
  runsOut : runsOut
  inv : inv after.plan after.view

structure Judged (inv : ExecutionPlan → View → Prop) (may : Nat → ExecutionPlan → View → Prop)
    (decided : Bool → ExecutionPlan → View → Prop) (runsOut : Prop) (plan : ExecutionPlan)
    (left : Nat) (res : InvocationResult) (view : View) : Prop where
  storable : view.Storable
  again : shouldRetry res = true →
    inv plan view ∧ (left = 0 → runsOut) ∧ ∀ fewer, left = fewer + 1 → may fewer plan view
  decided : shouldRetry res = false → decided (res.status != .succeeded) plan view

def CutShort (inv : ExecutionPlan → View → Prop) (decided : Bool → ExecutionPlan → View → Prop)
    (runsOut : Prop) (plan : ExecutionPlan) (raised : Raised) (after : RunView) : Prop :=
  OutOfRetries inv runsOut raised after ∨ raised ≠ .outOfFuel ∧ Decided decided plan true after

structure Between (origin : ExecutionPlan) (inv : ExecutionPlan → View → Prop)
    (pending : Nat) (after : RunView) : Prop where
  evolves : Evolves origin after.plan
  pending : after.plan.count (· == .pending) = pending
  storable : after.view.Storable
  inv : inv after.plan after.view

def Rested (origin plan : ExecutionPlan) : Prop :=
  ∀ taskId, plan.status? taskId = some .ready → origin.status? taskId = some .ready

theorem ready_of_marked (plan : ExecutionPlan) {taskId : String}
    (ready : plan.markReady.status? taskId = some .ready) :
    plan.status? taskId = some .ready ∨ taskId ∈ plan.batch.map TaskNode.taskId := by
  rw [markReady, status_modify, Option.map_eq_some_iff] at ready
  obtain ⟨held, found, marked⟩ := ready
  split_ifs at marked with isReady
  · exact Or.inr (List.mem_map.mpr ⟨held, List.mem_filter.mpr ⟨(task_mem found).1, isReady⟩,
      (task_mem found).2⟩)
  · exact Or.inl (by rw [status?, found, Option.map_some, marked])

def KeepsTurns (rt : ExecutionRuntime) (world : World) (fuel : Nat) (origin : ExecutionPlan)
    (inv : ExecutionPlan → View → Prop) (runsOut : Prop) : Prop :=
  ∀ plan view task, InTurn origin plan task .ready → view.Storable → inv plan view →
    Shown (runTask rt world fuel task)
      (fun failed after => Finished inv plan task failed after)
      (fun raised after => OutOfRetries inv runsOut raised after) ⟨plan, view⟩

namespace TaskInvariant

variable {allowed : Nat → ExecutionPlan → View → Prop}
  {decided : Bool → ExecutionPlan → View → Prop}
  (rules : TaskInvariant rt world fuel origin inv task allowed decided runsOut)

include rules

section

variable (turn : InTurn origin plan task .running)

include turn

theorem dispatch (storable : view.Storable)
    (left : Nat) (may : allowed left plan view) :
    Shown (PlanOrchestrator.dispatch rt world task) (fun res after => after.plan = plan ∧
      Judged inv allowed decided runsOut plan left res after.view)
      (fun raised after => raised ≠ .outOfFuel ∧ Decided decided plan true after)
      ⟨plan, view⟩ := by
  refine dispatch_shown task ?_ ?_
  · intro fresh res after conduct
    refine ⟨rfl, (conduct_keeps conduct).storable storable, ?_, ?_⟩
    · exact rules.retries left plan view fresh res after turn storable may conduct
    · intro settled
      refine rules.decides left plan view fresh _ after turn storable may conduct ?_
      rintro _ ⟨rfl⟩
      exact settled
  · intro fresh err after conduct
    exact ⟨by simp, rfl, (conduct_keeps conduct).storable storable,
      rules.decides left plan view fresh _ after turn storable may conduct (by simp)⟩

theorem retry (left : Nat) (res : InvocationResult) (view : View)
    (judged : Judged inv allowed decided runsOut plan left res view) :
    Shown (PlanOrchestrator.retry rt world task left res)
      (fun last after => Decided decided plan (last.status != .succeeded) after)
      (fun raised after => CutShort inv decided runsOut plan raised after) ⟨plan, view⟩ := by
  induction left generalizing res view with
  | zero =>
    refine shows_ite (fun asks => shows_throw (Or.inl ?_)) fun settled => shows_pure ?_
    · obtain ⟨stays, ranOut, _⟩ := judged.again asks
      exact ⟨rfl, ranOut rfl, stays⟩
    · exact ⟨rfl, judged.storable, judged.decided (by simpa using settled)⟩
  | succ left ih =>
    refine shows_ite (fun asks => shows_bind ?_) fun settled => shows_pure ?_
    · refine (rules.dispatch turn judged.storable left
        ((judged.again asks).2.2 left rfl)).mono ?_ fun _ _ ended => Or.inr ended
      rintro next ⟨_, after⟩ ⟨rfl, judgedNext⟩
      exact ih next after judgedNext
    · exact ⟨rfl, judged.storable, judged.decided (by simpa using settled)⟩

theorem verdict (storable : view.Storable)
    (may : allowed fuel plan view) :
    Shown (PlanOrchestrator.verdict rt world fuel task)
      (fun last after => Decided decided plan (last.status != .succeeded) after)
      (fun raised after => CutShort inv decided runsOut plan raised after) ⟨plan, view⟩ := by
  refine shows_bind ((rules.dispatch turn storable fuel may).mono ?_ fun _ _ ended => Or.inr ended)
  rintro first ⟨_, after⟩ ⟨rfl, judged⟩
  exact rules.retry turn fuel first after judged

theorem finish (failed : Bool) (storable : view.Storable) (ended : decided failed plan view)
    (update : ExecutionPlan → ExecutionPlan)
    (moves : MovesTask task.taskId (if failed then .failed else .succeeded) plan (update plan))
    {raised : Raised → RunView → Prop} :
    Shown (do
      changePlan update
      persist rt world
      return failed)
      (fun failed after => Finished inv plan task failed after) raised ⟨plan, view⟩ := by
  refine shows_bind (change_plan_shown update ?_)
  refine shows_bind (persist_shown (fun _ => shows_pure ⟨moves, storable, ?_⟩)
    fun stuck => absurd storable stuck)
  exact rules.finishes plan view failed (update plan) turn moves ended

theorem attempt (storable : view.Storable)
    (may : allowed fuel plan view) :
    Shown (PlanOrchestrator.attempt rt world fuel task)
      (fun failed after => Finished inv plan task failed after)
      (fun raised after => CutShort inv decided runsOut plan raised after) ⟨plan, view⟩ := by
  refine shows_bind ((rules.verdict turn storable may).mono ?_ fun _ _ ended => ended)
  rintro res ⟨_, last⟩ ⟨rfl, storableLast, ended⟩
  refine shows_ite (fun failed => ?_) fun succeeded => ?_
  · rw [bne_iff_ne.mpr failed] at ended
    exact rules.finish turn true storableLast ended _ (fail_moves_task _ _ _)
  · rw [not_not.mp succeeded] at ended
    exact rules.finish turn false storableLast ended _ (succeed_moves_task _ _ _)

end

theorem turn (turn : InTurn origin plan task .ready) (storable : view.Storable)
    (may : allowed fuel (plan.setStatus task.taskId .running)
      (view.planned (plan.setStatus task.taskId .running)).saved) :
    Shown (PlanOrchestrator.runTask rt world fuel task)
      (fun failed after => Finished inv plan task failed after)
      (fun raised after => OutOfRetries inv runsOut raised after) ⟨plan, view⟩ := by
  have started := set_status_moves_task plan task.taskId .running
  have running := turn.moved started (by simp)
  refine shows_bind (start_turn_shown task storable ?_)
  refine shows_try_catch ((rules.attempt running (by exact storable) may).mono ?_ ?_)
  · rintro failed after ⟨moves, kept, stays⟩
    exact ⟨started.trans moves, kept, stays⟩
  · rintro raised ⟨_, after⟩ (out | ⟨caught, rfl, kept, ended⟩)
    · obtain ⟨rfl, ranOut, stays⟩ := out
      exact shows_throw ⟨rfl, ranOut, stays⟩
    · cases raised with
      | outOfFuel => exact absurd rfl caught
      | exception err =>
        refine (rules.finish running true kept ended _ (fail_moves_task _ _ _)).mono ?_
          fun _ _ ended => ended
        rintro failed after ⟨moves, keptAfter, staysAfter⟩
        exact ⟨started.trans moves, keptAfter, staysAfter⟩

theorem runTask (turn : InTurn origin plan task .ready) (storable : view.Storable)
    (holds : inv plan view) :
    Shown (PlanOrchestrator.runTask rt world fuel task)
      (fun failed after => Finished inv plan task failed after)
      (fun raised after => OutOfRetries inv runsOut raised after) ⟨plan, view⟩ :=
  rules.turn turn storable (rules.starts plan view turn holds)

end TaskInvariant

namespace TurnInvariant

variable (rules : TurnInvariant rt world fuel origin inv may runsOut)

include rules

theorem rules_for (task : TaskNode) :
    TaskInvariant rt world fuel origin inv task (fun left plan view => may left plan task view)
      (fun _ => inv) runsOut where
  starts plan view := rules.starts plan view task
  retries left plan view fresh res after turn storable allowed conduct asks := by
    obtain ⟨holds, again⟩ := rules.dispatches left plan view task fresh _ after turn storable
      allowed conduct
    exact ⟨holds, again res rfl asks⟩
  decides left plan view fresh outcome after turn storable allowed conduct _ :=
    (rules.dispatches left plan view task fresh outcome after turn storable allowed conduct).1
  finishes plan view failed after turn moves holds :=
    rules.finishes plan view task _ after turn (by cases failed <;> simp) moves holds

theorem runTask (turn : InTurn origin plan task .ready) (storable : view.Storable)
    (holds : inv plan view) :
    Shown (PlanOrchestrator.runTask rt world fuel task)
      (fun failed after => Finished inv plan task failed after)
      (fun raised after => OutOfRetries inv runsOut raised after) ⟨plan, view⟩ :=
  (rules.rules_for task).runTask turn storable holds

theorem keeps_turns : KeepsTurns rt world fuel origin inv runsOut :=
  fun _ _ _ turn storable holds => rules.runTask turn storable holds

end TurnInvariant

namespace KeepsTurns

variable (keeps : KeepsTurns rt world fuel origin inv runsOut)

include keeps

theorem runBatch (tasks : List TaskNode) (distinct : (tasks.map TaskNode.taskId).Nodup)
    (pending : Nat) (turns : ∀ task ∈ tasks, InTurn origin plan task .ready)
    (between : Between origin inv pending ⟨plan, view⟩) :
    Shown (PlanOrchestrator.runBatch rt world fuel tasks)
      (fun _ after => Between origin inv pending after ∧
      ∀ taskId, after.plan.status? taskId = some .ready →
      plan.status? taskId = some .ready ∧ taskId ∉ tasks.map TaskNode.taskId)
      (fun raised after => OutOfRetries inv runsOut raised after) ⟨plan, view⟩ := by
  induction tasks generalizing plan view with
  | nil => exact shows_pure ⟨between, fun _ ready => ⟨ready, by simp⟩⟩
  | cons task rest ih =>
    have turn := turns task (by simp)
    obtain ⟨fresh, distinctRest⟩ := List.nodup_cons.mp distinct
    refine shows_bind ((keeps plan view task turn between.storable between.inv).mono ?_
      fun _ _ ended => ended)
    rintro failed ⟨moved, after⟩ ⟨moves, kept, stays⟩
    have untouched : moved.count (· == .pending) = pending :=
      (count_pending_moves moves turn.status (by simp) (by cases failed <;> simp)).trans
        between.pending
    refine shows_bind ((ih distinctRest ?_
      ⟨turn.moved_evolves moves, untouched, kept, stays⟩).mono ?_ fun _ _ ended => ended)
    · intro other mem
      apply (turns other (by simp [mem])).other turn moves (by simp)
      intro same
      exact fresh (same ▸ List.mem_map.mpr ⟨other, mem, rfl⟩)
    · rintro others last ⟨ended, waiting⟩
      refine shows_pure ⟨ended, fun taskId ready => ?_⟩
      obtain ⟨readyBefore, later⟩ := waiting taskId ready
      rw [moves.statuses] at readyBefore
      by_cases own : taskId = task.taskId
      · cases failed <;> simp [own, turn.status] at readyBefore
      · rw [if_neg own] at readyBefore
        exact ⟨readyBefore, by simpa [own] using later⟩

variable (marks : ∀ plan view, Evolves origin plan → inv plan view → inv plan.markReady view)
  (completes : ∀ plan view, rt.fencing = false → inv plan view →
    view.standing.status.isTerminal = false →
      inv plan (view.movedTo .completed) ∧ inv plan (view.movedTo .completed).saved)

include marks completes

/-- Every turn of the loop that is followed by another leaves fewer PENDING tasks. -/
theorem loop (turns pending : Nat) (between : Between origin inv pending ⟨plan, view⟩)
    (rested : Rested origin plan) :
    Shown (PlanOrchestrator.loop rt world fuel turns)
      (fun _ after => inv after.plan after.view ∧ Rested origin after.plan)
      (fun raised after => inv after.plan after.view ∧
      (raised = .outOfFuel → runsOut ∨ turns ≤ pending) ∧
      (raised ≠ .outOfFuel → Rested origin after.plan)) ⟨plan, view⟩ := by
  induction turns generalizing plan view pending with
  | zero => exact shows_throw ⟨between.inv, fun _ => Or.inr (Nat.zero_le _), by simp⟩
  | succ turns ih =>
    refine shows_get_bind fun orch looks => ?_
    obtain ⟨rfl, sameView⟩ := RunView.mk.inj looks
    refine shows_ite (fun _ => on_session_shown ?_) fun _ => ?_
    · have unfenced : (rt.fencing = true → (none : Option WorkerLease) ≠ none) →
          rt.fencing = false := by
        intro leased
        simpa using leased
      refine complete_sees none ?_ ?_ ?_ ?_
      · exact fun leased movable =>
          ⟨(completes _ _ (unfenced leased) between.inv movable).2, rested⟩
      · exact fun _ _ => ⟨between.inv, by simp, fun _ => rested⟩
      · exact fun _ _ => ⟨between.inv, by simp, fun _ => rested⟩
      · exact fun leased movable _ _ =>
          ⟨(completes _ _ (unfenced leased) between.inv movable).1, by simp, fun _ => rested⟩
    · have marked := marks _ _ between.evolves between.inv
      have counted := count_pending_mark_ready orch.plan
      have wasPending : orch.plan.count (· == .pending) = pending := between.pending
      refine shows_bind (change_plan_shown _ ?_)
      refine shows_ite (fun empty => ?_) fun filled => ?_
      · have none_ : orch.plan.batch = [] := by simpa [readyTasks] using empty
        refine shows_throw ⟨marked, by simp, fun _ taskId ready => ?_⟩
        rcases ready_of_marked _ ready with before | inside
        · exact rested taskId before
        · simp [none_] at inside
      have some_ : 0 < orch.plan.batch.length := by
        simpa [readyTasks, List.isEmpty_iff, List.length_pos_iff] using filled
      refine shows_bind ((keeps.runBatch _ (batch_distinct _)
        (orch.plan.markReady.count (· == .pending))
        (fun task mem => in_turn_of_batch between.evolves mem)
        ⟨between.evolves.mark_ready, rfl, between.storable, marked⟩).mono ?_ ?_)
      · rintro failed after ⟨ended, waiting⟩
        have restedAfter : Rested origin after.plan := by
          intro taskId ready
          obtain ⟨readyBefore, outside⟩ := waiting taskId ready
          exact rested taskId ((ready_of_marked _ readyBefore).resolve_right outside)
        refine shows_ite (fun _ => shows_pure ⟨ended.inv, restedAfter⟩) fun _ => ?_
        refine (ih _ ended restedAfter).mono (fun _ _ done => done) ?_
        rintro raised last ⟨stays, out, restedLast⟩
        refine ⟨stays, fun ranOut => (out ranOut).imp_right fun few => ?_, restedLast⟩
        omega
      · rintro raised after ⟨caught, ranOut, stays⟩
        exact ⟨stays, fun _ => Or.inl ranOut, fun other => absurd caught other⟩

/-- An invariant that holds when the plan has been written to the context holds
throughout the run. -/
theorem execute (validated : origin.validate = .ok ()) (base : inv origin (view.planned origin))
    (saved : inv origin (view.planned origin).saved) :
    Shown (PlanOrchestrator.execute rt world fuel)
      (fun _ after => inv after.plan after.view ∧ Rested origin after.plan)
      (fun raised after => inv after.plan after.view ∧
      (raised = .outOfFuel → runsOut ∨ fuel ≤ origin.tasks.length) ∧
      (raised ≠ .outOfFuel → Rested origin after.plan)) ⟨origin, view⟩ := by
  refine shows_get_bind fun orch looks => ?_
  obtain ⟨rfl, _⟩ := RunView.mk.inj looks
  simp only [validated]
  have rested : Rested orch.plan orch.plan := fun _ ready => ready
  refine shows_bind (persist_shown (fun storable => ?_) fun _ _ => ⟨base, by simp, fun _ => rested⟩)
  have between : Between orch.plan inv (orch.plan.count (· == .pending))
      ⟨orch.plan, (view.planned orch.plan).saved⟩ :=
    ⟨evolves_refl _, rfl, storable, saved⟩
  refine shows_bind ((keeps.loop marks completes fuel _ between rested).mono ?_ ?_)
  · intro _ after ended
    exact shows_get_bind fun final _ => shows_pure ended
  · rintro raised after ⟨ended, out, restedAfter⟩
    refine ⟨ended, fun ranOut => (out ranOut).imp_right fun few => ?_, restedAfter⟩
    exact few.trans (count_le_length _ _)

end KeepsTurns

theorem RunInvariant.execute (rules : RunInvariant rt world fuel origin inv may runsOut)
    (validated : origin.validate = .ok ()) (base : inv origin (view.planned origin))
    (saved : inv origin (view.planned origin).saved) :
    Shown (PlanOrchestrator.execute rt world fuel) (fun _ after => inv after.plan after.view)
      (fun raised after => inv after.plan after.view ∧
      (raised = .outOfFuel → runsOut ∨ fuel ≤ origin.tasks.length)) ⟨origin, view⟩ :=
  (rules.keeps_turns.execute rules.marks rules.completes validated base saved).mono
    (fun _ _ ended => ended.1) fun _ _ ended => ⟨ended.1, ended.2.1⟩

end runs

end PlanOrchestrator

end Ois.Kernel
