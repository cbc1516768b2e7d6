import Ois.Kernel.Orchestrator

/-!
# How a run moves its plan

A run changes only the status, the output and the error of tasks, and it changes them only for
tasks that were PENDING when it began: a batch turns PENDING tasks READY, and the turn of a task
takes it through RUNNING to SUCCEEDED or FAILED. A worker that resumes an execution reads its plan
from the last checkpoint that took effect.
-/

namespace Ois.Kernel

open Ois.Library Json

structure TaskSpec where
  taskId : String
  capabilityId : String
  capabilityVersion : String
  input : Members
  dependencies : List String
  deriving DecidableEq, Repr

def TaskNode.spec (task : TaskNode) : TaskSpec :=
  { taskId := task.taskId, capabilityId := task.capabilityId
    capabilityVersion := task.capabilityVersion, input := Json.sortMembers task.inputData
    dependencies := task.dependencies }

namespace ExecutionPlan

def spec? (plan : ExecutionPlan) (taskId : String) : Option TaskSpec :=
  (plan.task? taskId).map TaskNode.spec

def SameShape (before after : ExecutionPlan) : Prop :=
  ∀ taskId, after.spec? taskId = before.spec? taskId

theorem mem_ids_iff_spec {plan : ExecutionPlan} {taskId : String} :
    taskId ∈ plan.ids ↔ ∃ spec, plan.spec? taskId = some spec := by
  rw [mem_ids_iff]
  cases found : plan.task? taskId <;> simp [spec?, found]

theorem dependencies_of_spec (plan : ExecutionPlan) (taskId : String) :
    plan.dependenciesOf taskId = (plan.spec? taskId).elim [] TaskSpec.dependencies := by
  cases found : plan.task? taskId <;> simp [dependenciesOf, spec?, found, TaskNode.spec]

namespace SameShape

variable {before after : ExecutionPlan}

theorem refl (plan : ExecutionPlan) : SameShape plan plan := fun _ => rfl

theorem trans {later : ExecutionPlan} (same : SameShape before after)
    (further : SameShape after later) : SameShape before later :=
  fun taskId => (further taskId).trans (same taskId)

theorem mem_ids (same : SameShape before after) (taskId : String) :
    taskId ∈ after.ids ↔ taskId ∈ before.ids := by
  rw [mem_ids_iff_spec, mem_ids_iff_spec, same taskId]

theorem length (same : SameShape before after) : after.tasks.length = before.tasks.length := by
  have listed : after.ids.Perm before.ids :=
    (List.perm_ext_iff_of_nodup after.unique before.unique).mpr same.mem_ids
  simpa [ids] using listed.length_eq

theorem dependencies_of (same : SameShape before after) (taskId : String) :
    after.dependenciesOf taskId = before.dependenciesOf taskId := by
  rw [dependencies_of_spec, dependencies_of_spec, same taskId]

/-- Validation looks at nothing that may change. -/
theorem validate (same : SameShape before after) (accepted : before.validate = .ok ()) :
    after.validate = .ok () := by
  rw [validate_ok_iff] at accepted ⊢
  obtain ⟨known, rank, falls⟩ := accepted
  refine ⟨?_, rank, ?_⟩
  · intro taskId mem dep listed
    rw [same.mem_ids] at mem ⊢
    rw [same.dependencies_of] at listed
    exact known taskId mem dep listed
  · intro taskId mem dep listed
    rw [same.mem_ids] at mem
    rw [same.dependencies_of] at listed
    exact falls taskId mem dep listed

end SameShape

section modify

variable (plan : ExecutionPlan) {change : TaskNode → TaskNode}
  {keeps : ∀ task, (change task).taskId = task.taskId}

theorem same_shape_modify (specs : ∀ task, (change task).spec = task.spec) :
    SameShape plan (plan.modify change keeps) := by
  intro taskId
  simp only [spec?, task_modify, Option.map_map, Function.comp_def, specs]

theorem status_modify (taskId : String) :
    (plan.modify change keeps).status? taskId =
      (plan.task? taskId).map fun task => (change task).status := by
  simp only [status?, task_modify, Option.map_map, Function.comp_def]

theorem status_modify_at {taskId : String} {status : TaskStatus}
    (changes : ∀ task : TaskNode, (change task).status =
      if task.taskId = taskId then status else task.status) (other : String) :
    (plan.modify change keeps).status? other =
      if other = taskId then (plan.status? other).map fun _ => status
      else plan.status? other := by
  rw [status_modify, status?]
  cases found : plan.task? other with
  | none => simp
  | some task =>
    have named := (task_mem found).2
    simp only [Option.map_some, changes, named]
    split_ifs <;> rfl

end modify

section moves

variable (plan : ExecutionPlan) (taskId : String)

theorem same_shape_set_status (status : TaskStatus) :
    SameShape plan (plan.setStatus taskId status) :=
  same_shape_modify plan fun task => by split_ifs <;> rfl

theorem same_shape_succeed (output : Json) : SameShape plan (plan.succeed taskId output) :=
  same_shape_modify plan fun task => by split_ifs <;> rfl

theorem same_shape_fail (err : Option Members) : SameShape plan (plan.fail taskId err) :=
  same_shape_modify plan fun task => by split_ifs <;> rfl

theorem same_shape_mark_ready : SameShape plan plan.markReady :=
  same_shape_modify plan fun task => by split_ifs <;> rfl

theorem same_shape_normalize :
    SameShape plan (PlanOrchestrator.normalizeInterruptedTasks plan) :=
  same_shape_modify plan fun task => by split_ifs <;> rfl

theorem status_set_status (status : TaskStatus) (other : String) :
    (plan.setStatus taskId status).status? other =
      if other = taskId then (plan.status? other).map fun _ => status
      else plan.status? other :=
  status_modify_at plan (fun task => by split_ifs <;> rfl) other

theorem status_succeed (output : Json) (other : String) :
    (plan.succeed taskId output).status? other =
      if other = taskId then (plan.status? other).map fun _ => .succeeded
      else plan.status? other :=
  status_modify_at plan (fun task => by split_ifs <;> rfl) other

theorem status_fail (err : Option Members) (other : String) :
    (plan.fail taskId err).status? other =
      if other = taskId then (plan.status? other).map fun _ => .failed
      else plan.status? other :=
  status_modify_at plan (fun task => by split_ifs <;> rfl) other

theorem status_normalize (other : String) :
    (PlanOrchestrator.normalizeInterruptedTasks plan).status? other =
      (plan.status? other).map fun status =>
      if status = .running then .pending else status := by
  unfold PlanOrchestrator.normalizeInterruptedTasks
  rw [status_modify, status?, Option.map_map]
  congr 1
  funext task
  simp only [Function.comp_apply]
  split_ifs <;> rfl

theorem status_mark_ready_of_ne_pending {status : TaskStatus}
    (found : plan.status? taskId = some status) (moved : status ≠ .pending) :
    plan.markReady.status? taskId = some status := by
  obtain ⟨task, held, rfl⟩ := Option.map_eq_some_iff.mp found
  have unready : plan.isReady task = false := by simp [isReady, moved]
  simp [markReady, status_modify, held, unready]

theorem mem_batch_iff (task : TaskNode) :
    task ∈ plan.batch ↔ plan.task? task.taskId = some task ∧ task.status = .pending ∧
      ∀ dep ∈ task.dependencies, plan.status? dep = some .succeeded := by
  rw [batch, List.mem_filter, task_some_iff]
  simp [isReady]

theorem status_mark_ready_of_batch {task : TaskNode} (mem : task ∈ plan.batch) :
    plan.markReady.status? task.taskId = some .ready := by
  have found := ((mem_batch_iff plan task).mp mem).1
  have ready := (List.mem_filter.mp mem).2
  simp [markReady, status_modify, found, ready]

theorem batch_distinct : (plan.batch.map TaskNode.taskId).Nodup :=
  plan.unique.sublist (List.filter_sublist.map _)

end moves

structure Evolves (origin plan : ExecutionPlan) : Prop where
  shape : SameShape origin plan
  fixed : ∀ taskId, origin.status? taskId ≠ some .pending →
    plan.status? taskId = origin.status? taskId

theorem evolves_refl (plan : ExecutionPlan) : Evolves plan plan :=
  ⟨SameShape.refl plan, fun _ _ => rfl⟩

theorem Evolves.pending {origin plan : ExecutionPlan} (evolves : Evolves origin plan)
    {taskId : String} (pending : plan.status? taskId = some .pending) :
    origin.status? taskId = some .pending := by
  by_contra other
  exact other ((evolves.fixed taskId other).symm.trans pending)

theorem Evolves.mark_ready {origin plan : ExecutionPlan} (evolves : Evolves origin plan) :
    Evolves origin plan.markReady := by
  refine ⟨evolves.shape.trans (same_shape_mark_ready plan), ?_⟩
  intro taskId moved
  have same := evolves.fixed taskId moved
  rw [← same] at moved ⊢
  cases found : plan.status? taskId with
  | none =>
    have absent : plan.task? taskId = none := by simpa [status?] using found
    simp [markReady, status_modify, absent]
  | some status =>
    rw [found] at moved
    exact status_mark_ready_of_ne_pending plan taskId found fun pending =>
      moved (by rw [pending])

structure InTurn (origin plan : ExecutionPlan) (task : TaskNode) (status : TaskStatus) :
    Prop where
  evolves : Evolves origin plan
  pending : origin.status? task.taskId = some .pending
  spec : plan.spec? task.taskId = some task.spec
  status : plan.status? task.taskId = some status
  dependencies : ∀ dep ∈ task.dependencies, plan.status? dep = some .succeeded

theorem in_turn_of_batch {origin plan : ExecutionPlan} {task : TaskNode}
    (evolves : Evolves origin plan) (mem : task ∈ plan.batch) :
    InTurn origin plan.markReady task .ready := by
  obtain ⟨found, pending, finished⟩ := (mem_batch_iff plan task).mp mem
  refine ⟨evolves.mark_ready, evolves.pending ?_, ?_, status_mark_ready_of_batch plan mem, ?_⟩
  · simp [status?, found, pending]
  · rw [same_shape_mark_ready plan]
    simp [spec?, found]
  · intro dep listed
    exact status_mark_ready_of_ne_pending plan dep (finished dep listed) (by simp)

structure MovesTask (taskId : String) (status : TaskStatus) (before after : ExecutionPlan) :
    Prop where
  ids : after.ids = before.ids
  shape : SameShape before after
  statuses : ∀ other, after.status? other =
    if other = taskId then (before.status? other).map fun _ => status
    else before.status? other

theorem MovesTask.trans {taskId : String} {middle next : TaskStatus}
    {first second third : ExecutionPlan} (moves : MovesTask taskId middle first second)
    (further : MovesTask taskId next second third) : MovesTask taskId next first third := by
  refine ⟨further.ids.trans moves.ids, moves.shape.trans further.shape, ?_⟩
  intro other
  rw [further.statuses, moves.statuses]
  split_ifs
  · rw [Option.map_map]
    rfl
  · rfl

theorem set_status_moves_task (plan : ExecutionPlan) (taskId : String) (status : TaskStatus) :
    MovesTask taskId status plan (plan.setStatus taskId status) :=
  ⟨ids_modify _ _ _, same_shape_set_status plan taskId status, status_set_status plan taskId status⟩

theorem succeed_moves_task (plan : ExecutionPlan) (taskId : String) (output : Json) :
    MovesTask taskId .succeeded plan (plan.succeed taskId output) :=
  ⟨ids_modify _ _ _, same_shape_succeed plan taskId output, status_succeed plan taskId output⟩

theorem fail_moves_task (plan : ExecutionPlan) (taskId : String) (err : Option Members) :
    MovesTask taskId .failed plan (plan.fail taskId err) :=
  ⟨ids_modify _ _ _, same_shape_fail plan taskId err, status_fail plan taskId err⟩

namespace InTurn

variable {origin plan after : ExecutionPlan} {task : TaskNode} {status next : TaskStatus}

theorem moved_evolves (turn : InTurn origin plan task status)
    (moves : MovesTask task.taskId next plan after) : Evolves origin after := by
  refine ⟨turn.evolves.shape.trans moves.shape, ?_⟩
  intro taskId fixed
  have other : taskId ≠ task.taskId := by
    rintro rfl
    exact fixed turn.pending
  rw [moves.statuses, if_neg other]
  exact turn.evolves.fixed taskId fixed

theorem moved (turn : InTurn origin plan task status)
    (moves : MovesTask task.taskId next plan after) (unfinished : status ≠ .succeeded) :
    InTurn origin after task next := by
  refine ⟨turn.moved_evolves moves, turn.pending, ?_, ?_, ?_⟩
  · rw [moves.shape]
    exact turn.spec
  · rw [moves.statuses, if_pos rfl, turn.status]
    rfl
  · intro dep listed
    have finished := turn.dependencies dep listed
    rw [moves.statuses, if_neg, finished]
    rintro rfl
    rw [turn.status, Option.some.injEq] at finished
    exact unfinished finished

theorem other {first : TaskNode} {held : TaskStatus} (turn : InTurn origin plan task status)
    (busy : InTurn origin plan first held) (moves : MovesTask first.taskId next plan after)
    (unfinished : held ≠ .succeeded) (different : task.taskId ≠ first.taskId) :
    InTurn origin after task status := by
  refine ⟨busy.moved_evolves moves, turn.pending, ?_, ?_, ?_⟩
  · rw [moves.shape]
    exact turn.spec
  · rw [moves.statuses, if_neg different]
    exact turn.status
  · intro dep listed
    have finished := turn.dependencies dep listed
    rw [moves.statuses, if_neg, finished]
    rintro rfl
    rw [busy.status, Option.some.injEq] at finished
    exact unfinished finished

end InTurn

def count (kind : TaskStatus → Bool) (plan : ExecutionPlan) : Nat :=
  plan.tasks.countP fun task => kind task.status

theorem count_le_length (kind : TaskStatus → Bool) (plan : ExecutionPlan) :
    plan.count kind ≤ plan.tasks.length :=
  List.countP_le_length

theorem count_eq_ids (kind : TaskStatus → Bool) (plan : ExecutionPlan) :
    plan.count kind = plan.ids.countP fun taskId => (plan.status? taskId).any kind := by
  rw [ids, List.countP_map, count]
  refine List.countP_congr fun task mem => ?_
  simp [status?, task_of_mem mem]

theorem count_at_one {ids : List String} {taskId : String} {before after : String → Bool}
    (distinct : ids.Nodup) (mem : taskId ∈ ids)
    (same : ∀ other, other ≠ taskId → after other = before other) :
    ids.countP after + (before taskId).toNat = ids.countP before + (after taskId).toNat := by
  induction ids with
  | nil => simp at mem
  | cons first rest ih =>
    obtain ⟨fresh, distinctRest⟩ := List.nodup_cons.mp distinct
    by_cases isFirst : first = taskId
    · subst isFirst
      have rest_ : rest.countP after = rest.countP before := by
        refine List.countP_congr fun other inside => ?_
        rw [same other (fun equal => fresh (equal ▸ inside))]
      rw [List.countP_cons, List.countP_cons, rest_]
      cases before first <;> cases after first <;> simp
    · have inside : taskId ∈ rest := by simpa [Ne.symm isFirst] using mem
      have others := ih distinctRest inside
      rw [List.countP_cons, List.countP_cons, same first isFirst]
      omega

theorem count_moves {taskId : String} {held next : TaskStatus} {before after : ExecutionPlan}
    (moves : MovesTask taskId next before after)
    (status : before.status? taskId = some held) (kind : TaskStatus → Bool) :
    after.count kind + (kind held).toNat = before.count kind + (kind next).toNat := by
  have mem : taskId ∈ before.ids := by
    obtain ⟨task, found, _⟩ := Option.map_eq_some_iff.mp status
    exact mem_ids_iff.mpr ⟨task, found⟩
  have counted := @count_at_one before.ids taskId
    (fun other => (before.status? other).any kind) (fun other => (after.status? other).any kind)
    before.unique mem (fun other different => by rw [moves.statuses, if_neg different])
  rw [count_eq_ids, count_eq_ids, moves.ids]
  simpa [moves.statuses, status] using counted

theorem count_pending_moves {taskId : String} {held next : TaskStatus}
    {before after : ExecutionPlan} (moves : MovesTask taskId next before after)
    (found : before.status? taskId = some held) (begun : held ≠ .pending)
    (stays : next ≠ .pending) :
    after.count (· == .pending) = before.count (· == .pending) := by
  have counted := count_moves moves found (· == .pending)
  have heldZero : (held == .pending).toNat = 0 := by simp [begun]
  have nextZero : (next == .pending).toNat = 0 := by simp [stays]
  beta_reduce at counted
  rw [heldZero, nextZero] at counted
  exact counted

theorem count_pending_mark_ready (plan : ExecutionPlan) :
    plan.markReady.count (· == .pending) + plan.batch.length = plan.count (· == .pending) := by
  have split : ∀ tasks : List TaskNode, tasks.countP (fun task => (if plan.isReady task then
          { task with status := .ready } else task).status == .pending) +
        tasks.countP plan.isReady = tasks.countP fun task => task.status == .pending := by
    intro tasks
    induction tasks with
    | nil => rfl
    | cons task rest ih =>
      have step : ((if plan.isReady task then { task with status := .ready }
          else task).status == .pending).toNat + (plan.isReady task).toNat =
            (task.status == .pending).toNat := by
        cases ready : plan.isReady task with
        | false => simp
        | true =>
          have pending : task.status = .pending := by
            simp only [isReady, Bool.and_eq_true, beq_iff_eq] at ready
            exact ready.1
          simp [pending]
      simp only [List.countP_cons] at ih ⊢
      simp only [Bool.toNat, Bool.cond_eq_ite] at step
      omega
  rw [batch, ← List.countP_eq_length_filter]
  simpa only [count, markReady, modify, List.countP_map, Function.comp_def] using split plan.tasks

theorem count_mark_ready {kind : TaskStatus → Bool} (same : kind .ready = kind .pending)
    (plan : ExecutionPlan) : plan.markReady.count kind = plan.count kind := by
  simp only [count, markReady, modify, List.countP_map]
  refine List.countP_congr fun task _ => ?_
  cases ready : plan.isReady task with
  | false => simp [ready]
  | true =>
    have pending : task.status = .pending := by
      simp only [isReady, Bool.and_eq_true, beq_iff_eq] at ready
      exact ready.1
    simp [ready, pending, same]

theorem spec_sorted (task : TaskNode) : task.sorted.spec = task.spec := by
  simp [TaskNode.spec, TaskNode.sorted]

theorem same_shape_sorted (plan : ExecutionPlan) : SameShape plan plan.sorted := by
  intro taskId
  simp only [spec?, task_sorted, Option.map_map, Function.comp_def, spec_sorted]

theorem status_sorted (plan : ExecutionPlan) (taskId : String) :
    plan.sorted.status? taskId = plan.status? taskId := by
  simp only [status?, task_sorted, Option.map_map]
  rfl

theorem ext_of_fields {plan loaded : ExecutionPlan} (tasks : loaded.tasks = plan.tasks)
    (planId : loaded.planId = plan.planId) (version : loaded.version = plan.version)
    (goal : loaded.objective = plan.objective)
    (metadata : loaded.metadata = plan.metadata) : loaded = plan := by
  cases loaded
  cases plan
  simp_all

theorem from_dict_of_entries (fresh : Uuid) (body : Members) (plan : ExecutionPlan)
    (tasks : List TaskNode) (write : TaskNode → Json) (read : TaskNode → TaskNode)
    (header : readHeader fresh body = some
      ({ planId := plan.planId, version := plan.version, objective := plan.objective
         metadata := plan.metadata }, tasks.map fun task => (task.taskId, write task)))
    (reads : ∀ task ∈ tasks, (write task).asMembers?.bind TaskNode.fromDict = some (read task))
    (keeps : ∀ task, (read task).taskId = task.taskId)
    (same : tasks.map read = plan.tasks) (accepted : plan.validate = .ok ()) :
    fromDict fresh body = .ok plan := by
  have distinct : (tasks.map TaskNode.taskId).Nodup := by
    have unique := plan.unique
    rw [← same, List.map_map, Function.comp_def] at unique
    simpa only [keeps] using unique
  obtain ⟨loaded, run, tasksLoaded, planId, version, goal, metadata⟩ :=
    load_tasks { planId := plan.planId, version := plan.version, objective := plan.objective
                 metadata := plan.metadata } tasks write read reads keeps (by simpa using distinct)
  have whole : loaded = plan :=
    ext_of_fields (by simpa [same] using tasksLoaded) planId version goal metadata
  subst whole
  simp only [fromDict, header, run, bind, Except.bind, accepted, pure, Except.pure]

theorem from_dict_to_dict (fresh : Uuid) (plan : ExecutionPlan)
    (accepted : plan.validate = .ok ()) : fromDict fresh plan.toDict = .ok plan := by
  refine from_dict_of_entries fresh plan.toDict plan plan.tasks (fun task => .obj task.toDict) id
    ?_ ?_ (fun _ => rfl) (by simp) accepted
  · simp [readHeader, toDict, ExecutionContext.field, List.lookup_cons, asStr?, asMembers?]
  · intro task _
    simp [asMembers?, TaskNode.from_dict_to_dict]

theorem sort_members_entries (tasks : List TaskNode) :
    sortMembers (tasks.map fun task => (task.taskId, .obj task.toDict)) =
      (tasks.insertionSort fun left right => left.taskId ≤ right.taskId).map
        fun task => (task.taskId, .obj (sortMembers task.toDict)) := by
  rw [sort_members_eq, List.map_map]
  refine (List.map_insertionSort (fun left right : TaskNode => left.taskId ≤ right.taskId)
    Json.KeyOrder _ tasks ?_).symm.trans ?_
  · intro left _ right _
    rfl
  · refine List.map_congr_left fun task _ => ?_
    simp [sortMember]

theorem from_dict_sort_members (fresh : Uuid) (plan : ExecutionPlan)
    (accepted : plan.validate = .ok ()) :
    fromDict fresh (sortMembers plan.toDict) = .ok plan.sorted := by
  refine from_dict_of_entries fresh _ plan.sorted
    (plan.tasks.insertionSort fun left right => left.taskId ≤ right.taskId)
    (fun task => .obj (sortMembers task.toDict)) TaskNode.sorted ?_ ?_ (fun _ => rfl) ?_
    ((same_shape_sorted plan).validate accepted)
  · have entries := sort_members_entries plan.tasks
    simp [readHeader, toDict, ExecutionContext.field, List.lookup_cons, asStr?,
      asMembers?, entries, sorted]
  · intro task _
    simp [asMembers?, TaskNode.from_dict_sort_members]
  · exact List.map_insertionSort _ _ TaskNode.sorted plan.tasks (fun _ _ _ _ => Iff.rfl)

end ExecutionPlan

end Ois.Kernel
