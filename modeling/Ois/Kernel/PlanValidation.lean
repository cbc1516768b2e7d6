import Ois.Library.Dag
import Ois.Kernel.PlanMoves
import Mathlib.Data.Finset.Card

/-!
# What validation of a plan decides

`validate` names an unknown dependency if there is one and else a task on a
dependency cycle if there is one. A plan it accepts is finished by rounds of
`ready_tasks`: while a task is unfinished, some task is ready.
-/

namespace Ois.Kernel

open Ois.Library

namespace ExecutionPlan

theorem for_m_error {Item : Type} {items : List Item} {check : Item → Except PyError Unit}
    {err : PyError} (failed : items.forM check = .error err) :
    ∃ item ∈ items, check item = .error err := by
  induction items with
  | nil => simp [pure, Except.pure] at failed
  | cons item rest ih =>
    change (check item >>= fun _ => rest.forM check) = .error err at failed
    cases first : check item with
    | error raised =>
      rw [first] at failed
      have same : raised = err := by simpa [bind, Except.bind] using failed
      exact ⟨item, List.mem_cons_self, by rw [first, same]⟩
    | ok done =>
      rw [first] at failed
      obtain ⟨other, mem, raised⟩ := ih (by simpa [bind, Except.bind] using failed)
      exact ⟨other, List.mem_cons_of_mem _ mem, raised⟩

structure NamesUnknown (plan : ExecutionPlan) (err : PyError) (task : TaskNode)
    (dep : String) : Prop where
  kind : err.kind = .unknownDependencyError
  member : task ∈ plan.tasks
  listed : dep ∈ task.dependencies
  unknown : dep ∉ plan.ids
  message : err.message =
    "Task " ++ task.taskId ++ " depends on unknown task " ++ dep

theorem validate_dependencies_error {plan : ExecutionPlan} {err : PyError}
    (failed : plan.validateDependencies = .error err) :
    ∃ task dep, plan.NamesUnknown err task dep := by
  obtain ⟨task, mem, inTask⟩ := for_m_error failed
  obtain ⟨dep, listed, raised⟩ := for_m_error inTask
  by_cases known : dep ∈ plan.ids
  · simp [known] at raised
  · rw [if_neg known] at raised
    have same := Except.error.inj raised
    exact ⟨task, dep, by rw [← same], mem, listed, known, by rw [← same]⟩

variable (plan : ExecutionPlan) (taskId : String)

theorem dependencies_outside (outside : taskId ∉ plan.ids) : plan.dependenciesOf taskId = [] := by
  cases found : plan.task? taskId with
  | none => simp [dependenciesOf, found]
  | some task => exact absurd (mem_ids_iff.mpr ⟨task, found⟩) outside

def AcyclicDependencies (plan : ExecutionPlan) : Prop := Dag.Acyclic plan.dependenciesOf

structure NamesCycle (plan : ExecutionPlan) (err : PyError) (taskId : String) : Prop where
  kind : err.kind = .cyclicPlanError
  cyclic : Relation.TransGen (Dag.Needs plan.dependenciesOf) taskId taskId
  message : err.message = "Dependency cycle detected at " ++ taskId

theorem validate_cycles_visits (known : plan.KnownDependencies) :
    Dag.Visits plan.dependenciesOf [] [] plan.ids (Dag.visitAll plan.dependenciesOf plan.ids) :=
  Dag.visits_all plan.ids known

theorem validate_cycles_error {plan : ExecutionPlan} (known : plan.KnownDependencies)
    {err : PyError} (failed : plan.validateCycles = .error err) :
    ∃ taskId, plan.NamesCycle err taskId := by
  have search := plan.validate_cycles_visits known
  unfold validateCycles at failed
  cases found : Dag.visitAll plan.dependenciesOf plan.ids with
  | ok order => simp [found] at failed
  | error taskId =>
    simp only [found, Except.error.injEq] at failed
    rw [found] at search
    have cyclic := search.cycle (by simp) taskId rfl
    exact ⟨taskId, by rw [← failed], cyclic, by rw [← failed]⟩

theorem validate_ok_iff_acyclic :
    plan.validate = .ok () ↔ plan.KnownDependencies ∧ plan.AcyclicDependencies := by
  rw [validate_ok_iff]
  constructor
  · intro accepted
    exact ⟨accepted.1, (Dag.ranked_iff_acyclic plan.ids accepted.1
      plan.dependencies_outside).mp accepted.2⟩
  · intro exact
    exact ⟨exact.1, (Dag.ranked_iff_acyclic plan.ids exact.1
      plan.dependencies_outside).mpr exact.2⟩

theorem validate_unknown (unknown : ¬plan.KnownDependencies) :
    ∃ err task dep, plan.validate = .error err ∧
      plan.NamesUnknown err task dep := by
  cases checked : plan.validateDependencies with
  | ok done => exact absurd ((validate_dependencies_ok_iff plan).mp checked) unknown
  | error err =>
    obtain ⟨task, dep, names⟩ := validate_dependencies_error checked
    refine ⟨err, task, dep, ?_, names⟩
    unfold validate
    rw [checked]
    rfl

theorem validate_cyclic (known : plan.KnownDependencies) (cyclic : ¬plan.AcyclicDependencies) :
    ∃ err taskId, plan.validate = .error err ∧ plan.NamesCycle err taskId := by
  have checked := (validate_dependencies_ok_iff plan).mpr known
  cases out : plan.validate with
  | ok done => exact absurd ((plan.validate_ok_iff_acyclic).mp out).2 cyclic
  | error err =>
    unfold validate at out
    rw [checked] at out
    obtain ⟨taskId, names⟩ := validate_cycles_error known out
    exact ⟨err, taskId, rfl, names⟩

def succeedAll (plan : ExecutionPlan) (batch : List TaskNode) : ExecutionPlan :=
  batch.foldl (fun cur task => cur.setStatus task.taskId .succeeded) plan

/-- The result of `ready_tasks` marked SUCCEEDED. -/
def round (plan : ExecutionPlan) : ExecutionPlan :=
  plan.readyTasks.1.succeedAll plan.readyTasks.2

theorem same_shape_succeed_all (batch : List TaskNode) :
    SameShape plan (plan.succeedAll batch) := by
  induction batch generalizing plan with
  | nil => exact SameShape.refl plan
  | cons task rest ih => exact (same_shape_set_status plan task.taskId .succeeded).trans (ih _)

theorem same_shape_round : SameShape plan plan.round :=
  (same_shape_mark_ready plan).trans (same_shape_succeed_all _ _)

theorem status_succeed_all (batch : List TaskNode) (taskId : String) :
    (plan.succeedAll batch).status? taskId =
      if taskId ∈ batch.map TaskNode.taskId then
        (plan.status? taskId).map fun _ => .succeeded
      else plan.status? taskId := by
  induction batch generalizing plan with
  | nil => simp [succeedAll]
  | cons task rest ih =>
    change ((plan.setStatus task.taskId .succeeded).succeedAll rest).status? taskId = _
    rw [ih, status_set_status, List.map_cons]
    by_cases named : taskId = task.taskId
    · rw [if_pos named, if_pos (List.mem_cons.mpr (.inl named)), Option.map_map]
      split_ifs <;> rfl
    · rw [if_neg named]
      simp [named]

theorem status_round :
    plan.round.status? taskId =
      if taskId ∈ plan.batch.map TaskNode.taskId then some .succeeded
      else plan.status? taskId := by
  unfold round
  rw [status_succeed_all]
  by_cases ready : taskId ∈ plan.batch.map TaskNode.taskId
  · obtain ⟨task, mem, named⟩ := List.mem_map.mp ready
    have marked := status_mark_ready_of_batch plan mem
    rw [named] at marked
    change (if taskId ∈ plan.batch.map TaskNode.taskId then
      (plan.markReady.status? taskId).map fun _ => TaskStatus.succeeded
      else plan.markReady.status? taskId) = _
    rw [if_pos ready, if_pos ready, marked]
    rfl
  · change (if taskId ∈ plan.batch.map TaskNode.taskId then
      (plan.markReady.status? taskId).map fun _ => TaskStatus.succeeded
      else plan.markReady.status? taskId) = _
    rw [if_neg ready, if_neg ready, markReady, status_modify, status?]
    cases found : plan.task? taskId with
    | none => rfl
    | some task =>
      have unready : plan.isReady task = false := by
        by_contra isReady
        apply ready
        have held := task_mem found
        exact List.mem_map.mpr
          ⟨task, List.mem_filter.mpr ⟨held.1, by simpa using isReady⟩, held.2⟩
      simp [unready]

def succeededTasks (plan : ExecutionPlan) : Finset String :=
  (plan.ids.filter fun taskId => plan.status? taskId == some .succeeded).toFinset

theorem mem_succeeded_tasks_iff :
    taskId ∈ plan.succeededTasks ↔ plan.status? taskId = some .succeeded := by
  rw [succeededTasks, List.mem_toFinset, List.mem_filter, beq_iff_eq]
  constructor
  · exact fun both => both.2
  · intro succeeded
    obtain ⟨task, found, _⟩ := Option.map_eq_some_iff.mp succeeded
    exact ⟨mem_ids_iff.mpr ⟨task, found⟩, succeeded⟩

theorem succeeded_tasks_card_le : plan.succeededTasks.card ≤ plan.tasks.length := by
  have listed := List.toFinset_card_le
    (plan.ids.filter fun taskId => plan.status? taskId == some .succeeded)
  have filtered := List.length_filter_le
    (fun taskId => plan.status? taskId == some .succeeded) plan.ids
  have counted : plan.ids.length = plan.tasks.length := List.length_map ..
  unfold succeededTasks
  omega

/-- What rounds keep: every task waits or has succeeded. -/
def Settled (plan : ExecutionPlan) : Prop :=
  ∀ taskId ∈ plan.ids, plan.status? taskId = some .pending ∨
    plan.status? taskId = some .succeeded

theorem settled_of_pending (pending : ∀ task ∈ plan.tasks, task.status = .pending) :
    plan.Settled := by
  intro taskId mem
  obtain ⟨task, found⟩ := mem_ids_iff.mp mem
  left
  rw [status?, found, Option.map_some, pending task (task_mem found).1]

theorem settled_round {plan : ExecutionPlan} (settled : plan.Settled) : plan.round.Settled := by
  intro taskId mem
  rw [status_round]
  by_cases ready : taskId ∈ plan.batch.map TaskNode.taskId
  · rw [if_pos ready]
    exact .inr rfl
  · rw [if_neg ready]
    exact settled taskId ((same_shape_round plan).mem_ids taskId |>.mp mem)

theorem complete_of_finished {plan : ExecutionPlan}
    (all : ∀ taskId ∈ plan.ids, plan.status? taskId = some .succeeded) :
    plan.isComplete = true := by
  rw [isComplete, List.all_eq_true]
  intro task mem
  have found := task_of_mem mem
  have succeeded := all task.taskId (mem_ids_iff.mpr ⟨task, found⟩)
  rw [status?, found, Option.map_some, Option.some.injEq] at succeeded
  simp [succeeded]

theorem round_progress {plan : ExecutionPlan} (accepted : plan.validate = .ok ())
    (settled : plan.Settled) :
    plan.isComplete = true ∨ plan.succeededTasks.card < plan.round.succeededTasks.card := by
  obtain ⟨known, ranked⟩ := plan.validate_ok_iff.mp accepted
  by_cases all : ∀ taskId ∈ plan.ids, plan.status? taskId = some .succeeded
  · exact .inl (complete_of_finished all)
  · right
    push Not at all
    obtain ⟨start, mem, unfinished⟩ := all
    obtain ⟨taskId, inside, waiting, ready⟩ := Dag.exists_unfinished_with_finished_children
      plan.dependenciesOf plan.ids ranked known
      (fun taskId => plan.status? taskId = some .succeeded) start mem unfinished
    obtain ⟨task, found⟩ := mem_ids_iff.mp inside
    have named := (task_mem found).2
    have pending : task.status = .pending := by
      have status := (settled taskId inside).resolve_right waiting
      simpa [status?, found] using status
    have inBatch : task ∈ plan.batch := by
      rw [mem_batch_iff, named]
      refine ⟨found, pending, ?_⟩
      intro dep listed
      exact ready dep (by simpa [dependenciesOf, found] using listed)
    have moved : plan.round.status? taskId = some .succeeded := by
      rw [status_round, if_pos (List.mem_map.mpr ⟨task, inBatch, named⟩)]
    apply Finset.card_lt_card
    rw [Finset.ssubset_iff_of_subset]
    · exact ⟨taskId, (mem_succeeded_tasks_iff _ _).mpr moved,
        fun past => waiting ((mem_succeeded_tasks_iff _ _).mp past)⟩
    · intro other past
      rw [mem_succeeded_tasks_iff] at past ⊢
      rw [status_round, past]
      split_ifs <;> rfl

theorem rounds_keep (settled : plan.Settled) (rounds : Nat) :
    SameShape plan (round^[rounds] plan) ∧ (round^[rounds] plan).Settled := by
  induction rounds with
  | zero => exact ⟨SameShape.refl plan, settled⟩
  | succ rounds ih =>
    rw [Function.iterate_succ_apply']
    exact ⟨ih.1.trans (same_shape_round _), settled_round ih.2⟩

theorem rounds_progress (accepted : plan.validate = .ok ()) (settled : plan.Settled)
    (rounds : Nat) :
    (∃ fewer ≤ rounds, (round^[fewer] plan).isComplete = true) ∨
      rounds ≤ (round^[rounds] plan).succeededTasks.card := by
  induction rounds with
  | zero => exact .inr (Nat.zero_le _)
  | succ rounds ih =>
    cases ih with
    | inl reached =>
      obtain ⟨fewer, bound, complete⟩ := reached
      exact .inl ⟨fewer, by omega, complete⟩
    | inr counted =>
      have kept := rounds_keep plan settled rounds
      cases round_progress (kept.1.validate accepted) kept.2 with
      | inl complete => exact .inl ⟨rounds, by omega, complete⟩
      | inr more =>
        right
        rw [Function.iterate_succ_apply']
        omega

theorem rounds_complete (accepted : plan.validate = .ok ())
    (pending : ∀ task ∈ plan.tasks, task.status = .pending) :
    ∃ rounds ≤ plan.tasks.length, (round^[rounds] plan).isComplete = true := by
  have settled := plan.settled_of_pending pending
  cases rounds_progress plan accepted settled plan.tasks.length with
  | inl reached => exact reached
  | inr counted =>
    have kept := rounds_keep plan settled plan.tasks.length
    cases round_progress (kept.1.validate accepted) kept.2 with
    | inl complete => exact ⟨plan.tasks.length, Nat.le_refl _, complete⟩
    | inr more =>
      have bound := succeeded_tasks_card_le (round^[plan.tasks.length] plan).round
      have size := (kept.1.trans (same_shape_round _)).length
      omega

/-- What `validate` decides about a plan. -/
structure ValidatesExactly (plan : ExecutionPlan) : Prop where
  terminates : plan.KnownDependencies → ∃ search,
    Dag.Visits plan.dependenciesOf [] [] plan.ids search ∧
      (plan.validate = .ok () ↔ ∃ order, search = .ok order)
  accepts : plan.validate = .ok () ↔ plan.KnownDependencies ∧ plan.AcyclicDependencies
  unknown : ¬plan.KnownDependencies → ∃ err task dep,
    plan.validate = .error err ∧ plan.NamesUnknown err task dep
  cyclic : plan.KnownDependencies → ¬plan.AcyclicDependencies → ∃ err taskId,
    plan.validate = .error err ∧ plan.NamesCycle err taskId
  completes : plan.validate = .ok () → (∀ task ∈ plan.tasks, task.status = .pending) →
    ∃ rounds ≤ plan.tasks.length, (round^[rounds] plan).isComplete = true

theorem plan_validation_exact (plan : ExecutionPlan) : plan.ValidatesExactly where
  terminates := by
    intro known
    refine ⟨_, plan.validate_cycles_visits known, ?_⟩
    rw [validate, (validate_dependencies_ok_iff plan).mpr known]
    change plan.validateCycles = .ok () ↔ _
    unfold validateCycles
    cases Dag.visitAll plan.dependenciesOf plan.ids with
    | ok order => simp
    | error taskId => simp
  accepts := plan.validate_ok_iff_acyclic
  unknown := plan.validate_unknown
  cyclic := plan.validate_cyclic
  completes := plan.rounds_complete

def diamondPlan : ExecutionPlan :=
  { planId := "plan"
    tasks := [
      { taskId := "join", capabilityId := "c", capabilityVersion := "1"
        dependencies := ["left", "right", "left"] },
      { taskId := "left", capabilityId := "c", capabilityVersion := "1"
        dependencies := ["root"] },
      { taskId := "right", capabilityId := "c", capabilityVersion := "1"
        dependencies := ["root"] },
      { taskId := "root", capabilityId := "c", capabilityVersion := "1" }] }

example : diamondPlan.validate = .ok () := by decide +kernel

example : (round^[3] diamondPlan).isComplete = true ∧
    (round^[2] diamondPlan).isComplete = false := by decide +kernel

example : { diamondPlan with tasks := [
      { taskId := "self", capabilityId := "c", capabilityVersion := "1"
        dependencies := ["self"] }], unique := by decide }.validate =
    .error ⟨.cyclicPlanError, "Dependency cycle detected at self"⟩ := by decide +kernel

theorem waiting_round_iff {plan : ExecutionPlan} (settled : plan.Settled)
    {taskId : String} (mem : taskId ∈ plan.ids) :
    plan.round.status? taskId ≠ some .succeeded ↔ plan.status? taskId ≠ some .succeeded ∧
      ∃ dep ∈ plan.dependenciesOf taskId, plan.status? dep ≠ some .succeeded := by
  obtain ⟨task, found⟩ := mem_ids_iff.mp mem
  have named := (task_mem found).2
  have listed : plan.dependenciesOf taskId = task.dependencies := by
    rw [dependenciesOf, found, Option.elim_some]
  have batched : taskId ∈ plan.batch.map TaskNode.taskId ↔ task ∈ plan.batch := by
    constructor
    · intro inside
      obtain ⟨other, ready, same⟩ := List.mem_map.mp inside
      have held := (plan.mem_batch_iff other).mp ready
      rw [same, found, Option.some.injEq] at held
      exact held.1 ▸ ready
    · exact fun ready => List.mem_map.mpr ⟨task, ready, named⟩
  have ready := plan.mem_batch_iff task
  rw [named, ← listed] at ready
  rw [status_round]
  cases settled taskId mem with
  | inl pending =>
    have standing : task.status = .pending := by simpa [status?, found] using pending
    simp [batched, ready, found, standing, pending]
  | inr succeeded => simp [succeeded]

/-- The tasks of a plan that validates run as early as their dependencies allow: after any number
of rounds exactly those have succeeded that no longer chain of dependencies starts at. -/
theorem rounds_run_by_depth (accepted : plan.validate = .ok ())
    (pending : ∀ task ∈ plan.tasks, task.status = .pending) (rounds : Nat) :
    (∀ taskId ∈ plan.ids, (round^[rounds] plan).status? taskId = some .succeeded ↔
      ¬Dag.Deeper plan.dependenciesOf rounds taskId) ∧
    ((round^[rounds] plan).isComplete = true ↔
      ∀ taskId ∈ plan.ids, ¬Dag.Deeper plan.dependenciesOf rounds taskId) := by
  have known := (plan.validate_ok_iff.mp accepted).1
  have settled := plan.settled_of_pending pending
  have each : ∀ taskId ∈ plan.ids, (round^[rounds] plan).status? taskId = some .succeeded ↔
      ¬Dag.Deeper plan.dependenciesOf rounds taskId := by
    induction rounds with
    | zero =>
      intro taskId mem
      obtain ⟨task, found⟩ := mem_ids_iff.mp mem
      simp [Dag.Deeper, status?, found, pending task (task_mem found).1]
    | succ rounds ih =>
      intro taskId mem
      have kept := rounds_keep plan settled rounds
      rw [Function.iterate_succ_apply', ← not_iff_not, not_not, ← ne_eq,
        waiting_round_iff kept.2 ((kept.1.mem_ids taskId).mpr mem), kept.1.dependencies_of]
      constructor
      · rintro ⟨_, dep, listed, waits⟩
        have inside := known taskId mem dep listed
        exact ⟨dep, listed, not_not.mp ((not_congr (ih dep inside)).mp waits)⟩
      · intro deeper
        obtain ⟨dep, listed, further⟩ := deeper
        have inside := known taskId mem dep listed
        refine ⟨(not_congr (ih taskId mem)).mpr ?_, dep, listed,
          (not_congr (ih dep inside)).mpr (not_not.mpr further)⟩
        exact not_not.mpr (Dag.deeper_of_succ _ ⟨dep, listed, further⟩)
  refine ⟨each, ?_⟩
  constructor
  · intro complete taskId mem
    have kept := rounds_keep plan settled rounds
    have inside := (kept.1.mem_ids taskId).mpr mem
    apply (each taskId mem).mp
    apply (kept.2 taskId inside).resolve_left
    intro waits
    obtain ⟨task, found⟩ := mem_ids_iff.mp inside
    have done := List.all_eq_true.mp complete task (task_mem found).1
    rw [status?, found, Option.map_some, Option.some.injEq] at waits
    simp [waits] at done
  · intro shallow
    apply complete_of_finished
    intro taskId mem
    have inside := ((rounds_keep plan settled rounds).1.mem_ids taskId).mp mem
    exact (each taskId inside).mpr (shallow taskId inside)

theorem diamond_runs_by_depth : (round^[3] diamondPlan).isComplete = true ↔
    ∀ taskId ∈ diamondPlan.ids, ¬Dag.Deeper diamondPlan.dependenciesOf 3 taskId :=
  (rounds_run_by_depth diamondPlan (by decide +kernel) (by decide +kernel) 3).2

end ExecutionPlan

end Ois.Kernel
