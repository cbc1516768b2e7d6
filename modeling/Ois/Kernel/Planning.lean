import Ois.Library.Dag
import Ois.Kernel.State

/-!
# Execution plans

`TaskNode` and `ExecutionPlan` of `planning.py`.
-/

namespace Ois.Kernel

open Ois.Library ExecutionContext Json

inductive TaskStatus where
  | pending | ready | running | succeeded | failed | blocked | skipped
  deriving DecidableEq, Repr

namespace TaskStatus

def value : TaskStatus → String
  | pending => "pending"
  | ready => "ready"
  | running => "running"
  | succeeded => "succeeded"
  | failed => "failed"
  | blocked => "blocked"
  | skipped => "skipped"

instance : StrEnum TaskStatus where
  members := [pending, ready, running, succeeded, failed, blocked, skipped]
  value := value
  complete := by intro mem; cases mem <;> simp
  distinct := by decide

end TaskStatus

structure TaskNode where
  taskId : String
  capabilityId : String
  capabilityVersion : String
  inputData : Members := []
  dependencies : List String := []
  status : TaskStatus := .pending
  output : Json := .null
  error : Option Members := none
  metadata : Members := []
  deriving DecidableEq, Repr

namespace TaskNode

def toDict (task : TaskNode) : Members :=
  [("task_id", .str task.taskId), ("capability_id", .str task.capabilityId),
    ("capability_version", .str task.capabilityVersion),
    ("input_data", .obj task.inputData),
    ("dependencies", .arr (task.dependencies.map .str)),
    ("status", .str task.status.value),
    ("output", task.output),
    ("error", ofOption .obj task.error),
    ("metadata", .obj task.metadata)]

def readDependencies (doc : Json) : Option (List String) := do
  let items ← doc.asItems?
  items.mapM asStr?

def readStatus (doc : Json) : Option TaskStatus := do
  let text ← doc.asStr?
  StrEnum.ofValue? text

/-- A missing or ill-typed entry, or an unknown status, is an exception. -/
def fromDict (body : Members) : Option TaskNode := do
  let taskId ← (← body.lookup "task_id").asStr?
  let capId ← (← body.lookup "capability_id").asStr?
  let ver ← (← body.lookup "capability_version").asStr?
  let inputData ← field body "input_data" [] asMembers?
  let dependencies ← field body "dependencies" [] readDependencies
  let status ← field body "status" TaskStatus.pending readStatus
  let output ← field body "output" null some
  let err ← field body "error" none (orNull? asMembers?)
  let metadata ← field body "metadata" [] asMembers?
  return {
    taskId := taskId, capabilityId := capId, capabilityVersion := ver, inputData, dependencies,
    status, output, error := err, metadata }

def sorted (task : TaskNode) : TaskNode :=
  { task with
    inputData := sortMembers task.inputData
    output := sortKeys task.output
    error := task.error.map sortMembers
    metadata := sortMembers task.metadata }

theorem read_dependencies_strs (dependencies : List String) :
    readDependencies (.arr (dependencies.map .str)) = some dependencies := by
  induction dependencies with
  | nil => rfl
  | cons dep rest ih =>
    simp only [readDependencies, asItems?, Option.bind_eq_bind, Option.bind_some,
      List.map_cons, List.mapM_cons] at ih ⊢
    rw [ih]
    rfl

variable (task : TaskNode)

theorem from_dict_to_dict : fromDict task.toDict = some task := by
  have optionalMembers := or_null_of_option .obj asMembers? (fun _ => rfl) (by simp) task.error
  have status : readStatus (.str task.status.value) = some task.status :=
    StrEnum.of_value_value task.status
  simp [fromDict, toDict, field, List.lookup_cons, status, optionalMembers,
    read_dependencies_strs, asStr?, asMembers?]

theorem map_sort_member_to_dict :
    task.toDict.map sortMember = task.sorted.toDict := by
  simp [toDict, sorted, sortMember, sort_keys_of_option_obj]

theorem from_dict_congr (left right : Members)
    (same : ∀ name, left.lookup name = right.lookup name) :
    fromDict left = fromDict right := by
  simp only [fromDict, field, same]

theorem from_dict_sort_members :
    fromDict (sortMembers task.toDict) = some task.sorted := by
  have lookups : ∀ name, (sortMembers task.toDict).lookup name =
      task.sorted.toDict.lookup name := by
    intro name
    rw [sort_members_eq, lookup_insertion_sort, map_sort_member_to_dict]
  rw [from_dict_congr _ _ lookups, from_dict_to_dict]

end TaskNode

structure ExecutionPlan where
  planId : String
  version : String := "1.0.0"
  objective : String := ""
  tasks : List TaskNode := []
  metadata : Members := []
  unique : (tasks.map TaskNode.taskId).Nodup := by decide
  deriving DecidableEq, Repr

namespace ExecutionPlan

def ids (plan : ExecutionPlan) : List String := plan.tasks.map TaskNode.taskId

def task? (plan : ExecutionPlan) (taskId : String) : Option TaskNode :=
  plan.tasks.find? fun task => task.taskId == taskId

def status? (plan : ExecutionPlan) (taskId : String) : Option TaskStatus :=
  (plan.task? taskId).map TaskNode.status

def dependenciesOf (plan : ExecutionPlan) (taskId : String) : List String :=
  (plan.task? taskId).elim [] TaskNode.dependencies

def addTask (plan : ExecutionPlan) (task : TaskNode) : Except PyError ExecutionPlan :=
  if present : task.taskId ∈ plan.ids then
    .error ⟨.duplicateTaskError, "Task already exists: " ++ task.taskId⟩
  else
    .ok { plan with
      tasks := plan.tasks ++ [task]
      unique := by
        rw [List.map_append, List.nodup_append_comm]
        exact List.nodup_cons.mpr ⟨present, plan.unique⟩ }

def validateDependencies (plan : ExecutionPlan) : Except PyError Unit :=
  plan.tasks.forM fun task =>
    task.dependencies.forM fun dep =>
      if dep ∈ plan.ids then .ok ()
      else .error ⟨.unknownDependencyError,
        "Task " ++ task.taskId ++ " depends on unknown task " ++ dep⟩

def validateCycles (plan : ExecutionPlan) : Except PyError Unit :=
  match Dag.visitAll plan.dependenciesOf plan.ids with
  | .ok _ => .ok ()
  | .error taskId => .error ⟨.cyclicPlanError, "Dependency cycle detected at " ++ taskId⟩

def validate (plan : ExecutionPlan) : Except PyError Unit := do
  plan.validateDependencies
  plan.validateCycles

def isReady (plan : ExecutionPlan) (task : TaskNode) : Bool :=
  task.status == .pending &&
    task.dependencies.all fun dep => plan.status? dep == some .succeeded

def modify (plan : ExecutionPlan) (change : TaskNode → TaskNode)
    (keeps : ∀ task, (change task).taskId = task.taskId) : ExecutionPlan :=
  { plan with
    tasks := plan.tasks.map change
    unique := by
      rw [List.map_map, Function.comp_def]
      simpa only [keeps] using plan.unique }

/-- The tasks of the batch. Marking a task READY never changes whether another
one is ready, since dependencies are compared with SUCCEEDED, so the batch and
the marks are computed from the plan as it was. Of the tasks in a batch only the
attributes that never change are read. -/
def batch (plan : ExecutionPlan) : List TaskNode := plan.tasks.filter plan.isReady

def markReady (plan : ExecutionPlan) : ExecutionPlan :=
  plan.modify (fun task => if plan.isReady task then { task with status := .ready } else task)
    (by intro task; split_ifs <;> rfl)

/-- `ready_tasks`: the plan it leaves and the batch it returns. -/
def readyTasks (plan : ExecutionPlan) : ExecutionPlan × List TaskNode :=
  (plan.markReady, plan.batch)

def isComplete (plan : ExecutionPlan) : Bool :=
  plan.tasks.all fun task => task.status == .succeeded || task.status == .skipped

def hasFailed (plan : ExecutionPlan) : Bool :=
  plan.tasks.any fun task => task.status == .failed

/-- `task.status = status` on one task. -/
def setStatus (plan : ExecutionPlan) (taskId : String) (status : TaskStatus) :
    ExecutionPlan :=
  plan.modify (fun task => if task.taskId = taskId then { task with status := status } else task)
    (by intro task; split_ifs <;> rfl)

/-- `task.output = output; task.status = SUCCEEDED`. -/
def succeed (plan : ExecutionPlan) (taskId : String) (output : Json) : ExecutionPlan :=
  plan.modify (fun task => if task.taskId = taskId then
      { task with output := output, status := .succeeded } else task)
    (by intro task; split_ifs <;> rfl)

/-- `task.status = FAILED; task.error = error`. -/
def fail (plan : ExecutionPlan) (taskId : String) (err : Option Members) : ExecutionPlan :=
  plan.modify (fun task => if task.taskId = taskId then
      { task with status := .failed, error := err } else task)
    (by intro task; split_ifs <;> rfl)

def toDict (plan : ExecutionPlan) : Members :=
  [("plan_id", .str plan.planId), ("version", .str plan.version),
    ("objective", .str plan.objective),
    ("tasks", .obj (plan.tasks.map fun task => (task.taskId, .obj task.toDict))),
    ("metadata", .obj plan.metadata)]

def illTyped : PyError := ⟨.other "TypeError", "ill-typed plan payload"⟩

def loadTask (plan : ExecutionPlan) (entry : String × Json) : Except PyError ExecutionPlan :=
  match entry.2.asMembers?.bind TaskNode.fromDict with
  | none => .error illTyped
  | some task =>
    if task.taskId = entry.1 then plan.addTask task
    else .error ⟨.planError, "Checkpoint task key does not match task_id"⟩

/-- `fresh` is the identifier drawn for a payload without `plan_id`. -/
def readHeader (fresh : Uuid) (body : Members) : Option (ExecutionPlan × Members) := do
  let planId ← field body "plan_id" fresh.str asStr?
  let version ← field body "version" "1.0.0" asStr?
  let goal ← field body "objective" "" asStr?
  let metadata ← field body "metadata" [] asMembers?
  let tasks ← field body "tasks" [] asMembers?
  return ({ planId := planId, version, objective := goal, metadata }, tasks)

def fromDict (fresh : Uuid) (body : Members) : Except PyError ExecutionPlan :=
  match readHeader fresh body with
  | none => .error illTyped
  | some (header, entries) => do
    let plan ← entries.foldlM loadTask header
    plan.validate
    return plan

theorem task_mem {plan : ExecutionPlan} {taskId : String} {task : TaskNode}
    (found : plan.task? taskId = some task) : task ∈ plan.tasks ∧ task.taskId = taskId := by
  refine ⟨List.mem_of_find?_eq_some found, ?_⟩
  simpa using List.find?_some found

theorem task_of_mem {plan : ExecutionPlan} {task : TaskNode} (mem : task ∈ plan.tasks) :
    plan.task? task.taskId = some task := by
  cases found : plan.task? task.taskId with
  | none =>
    have absent := List.find?_eq_none.mp found task mem
    simp at absent
  | some other =>
    obtain ⟨otherMember, sameId⟩ := task_mem found
    rw [List.inj_on_of_nodup_map plan.unique otherMember mem sameId]

theorem task_some_iff {plan : ExecutionPlan} {taskId : String} {task : TaskNode} :
    plan.task? taskId = some task ↔ task ∈ plan.tasks ∧ task.taskId = taskId := by
  constructor
  · exact task_mem
  · rintro ⟨mem, rfl⟩
    exact task_of_mem mem

theorem mem_ids_iff {plan : ExecutionPlan} {taskId : String} :
    taskId ∈ plan.ids ↔ ∃ task, plan.task? taskId = some task := by
  constructor
  · intro mem
    obtain ⟨task, inside, rfl⟩ := List.mem_map.mp mem
    exact ⟨task, task_of_mem inside⟩
  · rintro ⟨task, found⟩
    obtain ⟨inside, rfl⟩ := task_mem found
    exact List.mem_map.mpr ⟨task, inside, rfl⟩

variable (plan : ExecutionPlan)

variable (change : TaskNode → TaskNode) (keeps : ∀ task, (change task).taskId = task.taskId)

theorem ids_modify :
    (plan.modify change keeps).ids = plan.ids := by
  simp only [ids, modify, List.map_map, Function.comp_def, keeps]

theorem task_modify (taskId : String) :
    (plan.modify change keeps).task? taskId = (plan.task? taskId).map change := by
  simp only [task?, modify, List.find?_map, Function.comp_def, keeps]

def KnownDependencies (plan : ExecutionPlan) : Prop :=
  ∀ taskId ∈ plan.ids, ∀ dep ∈ plan.dependenciesOf taskId, dep ∈ plan.ids

theorem for_m_ok_iff {Item : Type} (items : List Item) (check : Item → Except PyError Unit) :
    items.forM check = .ok () ↔ ∀ item ∈ items, check item = .ok () := by
  induction items with
  | nil => simp [pure, Except.pure]
  | cons item rest ih =>
    change (check item >>= fun _ => rest.forM check) = .ok () ↔ _
    cases first : check item with
    | error err => simp [first, bind, Except.bind]
    | ok done => simpa [first, bind, Except.bind] using ih

theorem validate_dependencies_ok_iff :
    plan.validateDependencies = .ok () ↔ plan.KnownDependencies := by
  unfold validateDependencies KnownDependencies
  simp only [for_m_ok_iff]
  constructor
  · intro known taskId mem dep listed
    obtain ⟨task, found⟩ := mem_ids_iff.mp mem
    have inside := (task_mem found).1
    have checked := known task inside dep (by simpa [dependenciesOf, found] using listed)
    by_contra missing
    simp [missing] at checked
  · intro known task inside dep listed
    have found := task_of_mem inside
    have mem := mem_ids_iff.mpr ⟨task, found⟩
    have named : dep ∈ plan.dependenciesOf task.taskId := by
      simpa [dependenciesOf, found] using listed
    rw [if_pos (known task.taskId mem dep named)]

theorem validate_ok_iff :
    plan.validate = .ok () ↔ plan.KnownDependencies ∧ Dag.Ranked plan.dependenciesOf plan.ids := by
  unfold validate
  by_cases known : plan.KnownDependencies
  · rw [(validate_dependencies_ok_iff plan).mpr known]
    have accepted := Dag.visit_all_ok_iff plan.dependenciesOf plan.ids known
    unfold validateCycles
    cases found : Dag.visitAll plan.dependenciesOf plan.ids with
    | ok order =>
      have ranked := accepted.mp ⟨order, found⟩
      simp [known, ranked, bind, Except.bind]
    | error taskId =>
      have cyclic : ¬Dag.Ranked plan.dependenciesOf plan.ids := by
        intro ranked
        obtain ⟨order, accepts⟩ := accepted.mpr ranked
        simp [accepts] at found
      simp [cyclic, bind, Except.bind]
  · have refused : plan.validateDependencies ≠ .ok () := fun accepted =>
      known ((validate_dependencies_ok_iff plan).mp accepted)
    cases out : plan.validateDependencies with
    | ok done => exact absurd out refused
    | error err => simp [known, bind, Except.bind]

/-- The plan with its tasks in the order of their identifiers and the members
of every payload in key order, which is how a text checkpoint returns it. -/
def sorted (plan : ExecutionPlan) : ExecutionPlan :=
  { plan with
    tasks := (plan.tasks.map TaskNode.sorted).insertionSort
      fun left right => left.taskId ≤ right.taskId
    metadata := sortMembers plan.metadata
    unique := by
      have same := (List.perm_insertionSort (fun left right : TaskNode =>
        left.taskId ≤ right.taskId) (plan.tasks.map TaskNode.sorted)).map TaskNode.taskId
      rw [same.nodup_iff, List.map_map]
      exact plan.unique }

theorem task_sorted (taskId : String) :
    plan.sorted.task? taskId = (plan.task? taskId).map TaskNode.sorted := by
  ext task
  have mapped : task ∈ plan.sorted.tasks ↔ ∃ original ∈ plan.tasks, original.sorted = task := by
    simp only [sorted, List.mem_insertionSort, List.mem_map]
  simp only [task_some_iff, mapped, Option.map_eq_some_iff]
  constructor
  · rintro ⟨⟨original, mem, rfl⟩, sameId⟩
    exact ⟨original, ⟨mem, sameId⟩, rfl⟩
  · rintro ⟨original, ⟨mem, sameId⟩, rfl⟩
    exact ⟨⟨original, mem, rfl⟩, sameId⟩

theorem load_tasks (header : ExecutionPlan) (tasks : List TaskNode)
    (write : TaskNode → Json) (read : TaskNode → TaskNode)
    (reads : ∀ task ∈ tasks, (write task).asMembers?.bind TaskNode.fromDict = some (read task))
    (keeps : ∀ task, (read task).taskId = task.taskId)
    (unique : (header.tasks.map TaskNode.taskId ++ tasks.map TaskNode.taskId).Nodup) :
    ∃ loaded, (tasks.map fun task => (task.taskId, write task)).foldlM loadTask header =
      .ok loaded ∧ loaded.tasks = header.tasks ++ tasks.map read ∧
      loaded.planId = header.planId ∧ loaded.version = header.version ∧
      loaded.objective = header.objective ∧ loaded.metadata = header.metadata := by
  induction tasks generalizing header with
  | nil => exact ⟨header, rfl, by simp, rfl, rfl, rfl, rfl⟩
  | cons task rest ih =>
    have fresh : (read task).taskId ∉ header.ids := by
      rw [keeps, List.nodup_append] at *
      intro present
      exact unique.2.2 _ present _ (by simp) rfl
    have added : header.loadTask (task.taskId, write task) = .ok { header with
          tasks := header.tasks ++ [read task]
          unique := by
            rw [List.map_append, List.nodup_append_comm]
            exact List.nodup_cons.mpr ⟨fresh, header.unique⟩ } := by
      simp only [loadTask, reads task (by simp), keeps, addTask]
      rw [keeps] at fresh
      simp [fresh]
    obtain ⟨loaded, run, tasksLoaded, headerKept⟩ := ih { header with
        tasks := header.tasks ++ [read task]
        unique := by
          rw [List.map_append, List.nodup_append_comm]
          exact List.nodup_cons.mpr ⟨fresh, header.unique⟩ }
      (fun other mem => reads other (by simp [mem]))
      (by simpa [keeps, List.append_assoc] using unique)
    refine ⟨loaded, ?_, ?_, headerKept⟩
    · rw [List.map_cons, List.foldlM_cons, added]
      exact run
    · simp [tasksLoaded]

end ExecutionPlan

end Ois.Kernel
