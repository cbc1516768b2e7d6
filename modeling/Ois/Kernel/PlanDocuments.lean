import Ois.Infrastructure.Tables
import Ois.Library.RelatedLists
import Ois.Kernel.PlanMoves
import Ois.Kernel.PlanValidation
import Ois.Kernel.PyValues

/-!
# Plans read from any document

`from_dict` of `TaskNode` and `ExecutionPlan` on documents that `to_dict` need not have written.
Texts are made of whatever is found, fields that are only stored keep it, and the plan is
validated last.
-/

namespace Ois.Kernel

open Ois.Library Json

/-- A task as `from_dict` builds it. -/
structure ReadTask where
  taskId : String
  capabilityId : String
  capabilityVersion : String
  inputData : Json := .obj []
  dependencies : List Json := []
  status : TaskStatus := .pending
  output : Json := .null
  error : Json := .null
  metadata : Json := .obj []
  deriving DecidableEq, Repr

open ReadTask

structure ReadPlan where
  planId : String
  version : String := "1.0.0"
  objective : String := ""
  tasks : List ReadTask := []
  metadata : Json := .obj []
  unique : (tasks.map taskId).Nodup := by first | exact List.nodup_nil | decide
  deriving DecidableEq, Repr

/-- `payload[name]` of a value that may be no mapping. -/
def subscript (body : Json) (name : String) : Except PyError Json :=
  match body with
  | .obj members =>
    match members.lookup name with
    | some value => .ok value
    | none => .error ⟨.other "KeyError", reprStr name⟩
  | .arr _ => .error ⟨.other "TypeError", "list indices must be integers or slices, not str"⟩
  | .str _ => .error ⟨.other "TypeError", "string indices must be integers, not 'str'"⟩
  | value => .error ⟨.other "TypeError", "'" ++ typeName value ++ "' object is not subscriptable"⟩

/-- `payload.get(name, default)`. -/
def fieldOr (body : Members) (name : String) (default : Json) : Json :=
  (body.lookup name).getD default

def unhashable (value : Json) : PyError :=
  ⟨.other "TypeError", "unhashable type: '" ++ typeName value ++ "'"⟩

section reading

variable (digits : UInt64 → String)

/-- `TaskStatus(value)`. -/
def taskStatus (value : Json) : Except PyError TaskStatus :=
  match TaskNode.readStatus value with
  | some status => .ok status
  | none => .error ⟨.valueError, reprOf digits value ++ " is not a valid TaskStatus"⟩

namespace ReadTask

/-- `TaskNode.from_dict(payload)`. -/
def fromDict (body : Json) : Except PyError ReadTask := do
  let taskId ← subscript body "task_id"
  let capId ← subscript body "capability_id"
  let ver ← subscript body "capability_version"
  -- nothing but a mapping gets here
  let members := body.asMembers?.getD []
  let dependencies ← iterate (fieldOr members "dependencies" (.arr []))
  let status ← taskStatus digits (fieldOr members "status" (.str TaskStatus.pending.value))
  return {
    taskId := strOf digits taskId
    capabilityId := strOf digits capId
    capabilityVersion := strOf digits ver
    inputData := fieldOr members "input_data" (.obj [])
    dependencies := dependencies
    status := status
    output := fieldOr members "output" .null
    error := fieldOr members "error" .null
    metadata := fieldOr members "metadata" (.obj []) }

def dependencyTexts (task : ReadTask) : List String := task.dependencies.filterMap asStr?

end ReadTask

namespace ReadPlan

def ids (plan : ReadPlan) : List String := plan.tasks.map taskId

def addTask (plan : ReadPlan) (task : ReadTask) : Except PyError ReadPlan :=
  if present : task.taskId ∈ plan.ids then
    .error ⟨.duplicateTaskError, "Task already exists: " ++ task.taskId⟩
  else
    .ok { plan with
      tasks := plan.tasks ++ [task]
      unique := nodup_map_concat plan.unique present }

def dependenciesOf (plan : ReadPlan) (taskId : String) : List String :=
  (plan.tasks.find? fun task => task.taskId == taskId).elim [] dependencyTexts

/-- `dependency not in self.tasks`, and what is raised then. -/
def checkDependency (plan : ReadPlan) (task : ReadTask) (dep : Json) :
    Except PyError Unit :=
  match dep with
  | .arr _ | .obj _ => .error (unhashable dep)
  | value =>
    if value.asStr?.any (· ∈ plan.ids) then .ok ()
    else .error ⟨.unknownDependencyError, "Task " ++ task.taskId ++
      " depends on unknown task " ++ strOf digits value⟩

def validateDependencies (plan : ReadPlan) : Except PyError Unit :=
  plan.tasks.forM fun task => task.dependencies.forM (plan.checkDependency digits task)

def validateCycles (plan : ReadPlan) : Except PyError Unit :=
  match Dag.visitAll plan.dependenciesOf plan.ids with
  | .ok _ => .ok ()
  | .error taskId => .error ⟨.cyclicPlanError, "Dependency cycle detected at " ++ taskId⟩

def validate (plan : ReadPlan) : Except PyError Unit := do
  plan.validateDependencies digits
  plan.validateCycles

def loadTask (plan : ReadPlan) (entry : String × Json) : Except PyError ReadPlan := do
  let task ← fromDict digits entry.2
  if task.taskId = entry.1 then plan.addTask task
  else .error ⟨.planError, "Checkpoint task key does not match task_id"⟩

/-- `value.items()`. -/
def entriesOf : Json → Except PyError (List (String × Json))
  | .obj members => .ok members
  | value => .error ⟨.other "AttributeError",
      "'" ++ typeName value ++ "' object has no attribute 'items'"⟩

/-- The plan that has no tasks yet; `fresh` is the identifier drawn for it. -/
def header (fresh : Uuid) (body : Members) : ReadPlan :=
  { planId := strOf digits (fieldOr body "plan_id" (.str fresh.str))
    version := strOf digits (fieldOr body "version" (.str "1.0.0"))
    objective := strOf digits (fieldOr body "objective" (.str ""))
    metadata := fieldOr body "metadata" (.obj []) }

/-- `ExecutionPlan.from_dict(payload)`. -/
def fromDict (fresh : Uuid) (body : Members) : Except PyError ReadPlan := do
  let entries ← entriesOf (fieldOr body "tasks" (.obj []))
  let plan ← entries.foldlM (loadTask digits) (header digits fresh body)
  plan.validate digits
  return plan

end ReadPlan

end reading

/-- A task, as an object that also holds other values. -/
def TaskNode.asRead (task : TaskNode) : ReadTask :=
  { taskId := task.taskId
    capabilityId := task.capabilityId
    capabilityVersion := task.capabilityVersion
    inputData := .obj task.inputData
    dependencies := task.dependencies.map .str
    status := task.status
    output := task.output
    error := ofOption .obj task.error
    metadata := .obj task.metadata }

/-- A plan, as an object that also holds other values. -/
def ExecutionPlan.asRead (plan : ExecutionPlan) : ReadPlan :=
  { planId := plan.planId
    version := plan.version
    objective := plan.objective
    tasks := plan.tasks.map TaskNode.asRead
    metadata := .obj plan.metadata
    unique := by
      rw [List.map_map]
      exact plan.unique }

/-- The items that `from_dict` takes for the dependencies of a task. -/
def dependencyItems (task : Json) : List Json :=
  match task with
  | .obj members => (iterate (fieldOr members "dependencies" (.arr []))).toOption.getD []
  | _ => []

section entries

variable (digits : UInt64 → String) (entries : List (String × Json))

def TasksComplete : Prop :=
  ∀ entry ∈ entries, ∃ members, entry.2 = .obj members ∧
    (members.lookup "task_id").isSome ∧ (members.lookup "capability_id").isSome ∧
      (members.lookup "capability_version").isSome ∧
        ∃ items, iterate (fieldOr members "dependencies" (.arr [])) = .ok items

/-- The key of each task is the text of its identifier. -/
def KeysMatch : Prop :=
  ∀ entry ∈ entries, ∀ members taskId, entry.2 = .obj members →
    members.lookup "task_id" = some taskId → strOf digits taskId = entry.1

/-- The status of each task is a known one, or missing. -/
def StatusesKnown : Prop :=
  ∀ entry ∈ entries, ∀ members, entry.2 = .obj members → ∃ status : TaskStatus,
    fieldOr members "status" (.str TaskStatus.pending.value) = .str status.value

/-- Each dependency is a key. -/
def DependenciesClosed : Prop :=
  ∀ entry ∈ entries, ∀ item ∈ dependencyItems entry.2,
    ∃ taskId ∈ entries.map Prod.fst, item = .str taskId

def entryDependencies (taskId : String) : List String :=
  ((entries.lookup taskId).elim [] dependencyItems).filterMap asStr?

/-- No task depends on itself, however indirectly. -/
def DependenciesAcyclic : Prop := Dag.Acyclic (entryDependencies entries)

def ReadFrom (entry : String × Json) (task : ReadTask) : Prop :=
  fromDict digits entry.2 = .ok task ∧ task.taskId = entry.1

end entries

section reads

variable {digits : UInt64 → String}

theorem read_status_iff {value : Json} {status : TaskStatus} :
    TaskNode.readStatus value = some status ↔ value = .str status.value := by
  constructor
  · intro read
    unfold TaskNode.readStatus at read
    cases value with
    | str text =>
      have named : StrEnum.ofValue? text = some status := read
      unfold StrEnum.ofValue? at named
      have same := List.find?_some named
      rw [beq_iff_eq] at same
      rw [← same]
      rfl
    | _ => cases read
  · intro same
    rw [same]
    exact StrEnum.of_value_value status

theorem subscript_ok {body value : Json} {name : String}
    (read : subscript body name = .ok value) :
    ∃ members, body = .obj members ∧ members.lookup name = some value := by
  unfold subscript at read
  cases body with
  | obj members =>
    dsimp only at read
    cases found : members.lookup name with
    | none =>
      rw [found] at read
      cases read
    | some held =>
      rw [found] at read
      exact ⟨members, rfl, by rw [found, Except.ok.inj read]⟩
  | _ => cases read

theorem subscript_of_lookup {members : Members} {name : String} {value : Json}
    (found : members.lookup name = some value) : subscript (.obj members) name = .ok value := by
  unfold subscript
  simp only [found]

structure ReadTask.From (digits : UInt64 → String) (members : Members) (task : ReadTask) :
    Prop where
  named : ∃ taskId, members.lookup "task_id" = some taskId ∧ task.taskId = strOf digits taskId
  capability : (members.lookup "capability_id").isSome
  version : (members.lookup "capability_version").isSome
  dependencies : iterate (fieldOr members "dependencies" (.arr [])) = .ok task.dependencies
  status : fieldOr members "status" (.str TaskStatus.pending.value) = .str task.status.value

theorem task_status_ok {value : Json} {status : TaskStatus}
    (known : taskStatus digits value = .ok status) : value = .str status.value := by
  unfold taskStatus at known
  cases read : TaskNode.readStatus value with
  | none =>
    rw [read] at known
    cases known
  | some found =>
    rw [read] at known
    rw [← Except.ok.inj known]
    exact read_status_iff.mp read

theorem ReadTask.from_dict_ok {body : Json} {task : ReadTask}
    (read : fromDict digits body = .ok task) :
    ∃ members, body = .obj members ∧ task.From digits members := by
  unfold fromDict at read
  obtain ⟨taskId, byId, read⟩ := Infrastructure.bind_ok read
  obtain ⟨capId, byCapability, read⟩ := Infrastructure.bind_ok read
  obtain ⟨ver, byVersion, read⟩ := Infrastructure.bind_ok read
  obtain ⟨members, same, named⟩ := subscript_ok byId
  rw [same] at read byCapability byVersion
  obtain ⟨items, iterated, read⟩ := Infrastructure.bind_ok read
  obtain ⟨status, known, read⟩ := Infrastructure.bind_ok read
  obtain ⟨others, again, capability⟩ := subscript_ok byCapability
  cases again
  obtain ⟨others, again, version⟩ := subscript_ok byVersion
  cases again
  have built := Except.ok.inj read
  refine ⟨members, same, ?_⟩
  constructor
  · exact ⟨taskId, named, by rw [← built]⟩
  · rw [capability]
    rfl
  · rw [version]
    rfl
  · rw [← built]
    exact iterated
  · rw [← built]
    exact task_status_ok known

theorem ReadTask.exists_from_dict {members : Members} {status : TaskStatus} {items : List Json}
    (named : (members.lookup "task_id").isSome)
    (capability : (members.lookup "capability_id").isSome)
    (version : (members.lookup "capability_version").isSome)
    (iterated : iterate (fieldOr members "dependencies" (.arr [])) = .ok items)
    (known : fieldOr members "status" (.str TaskStatus.pending.value) = .str status.value) :
    ∃ task, fromDict digits (.obj members) = .ok task := by
  obtain ⟨taskId, byId⟩ := Option.isSome_iff_exists.mp named
  obtain ⟨capId, byCapability⟩ := Option.isSome_iff_exists.mp capability
  obtain ⟨ver, byVersion⟩ := Option.isSome_iff_exists.mp version
  have found : taskStatus digits (.str status.value) = .ok status := by
    unfold taskStatus
    rw [read_status_iff.mpr rfl]
  unfold fromDict
  rw [subscript_of_lookup byId, subscript_of_lookup byCapability, subscript_of_lookup byVersion]
  simp only [asMembers?, Option.getD_some, iterated, known, found, bind, Except.bind]
  exact ⟨_, rfl⟩

theorem exists_read_from_iff {entry : String × Json} :
    (∃ task, ReadFrom digits entry task) ↔
      TasksComplete [entry] ∧ KeysMatch digits [entry] ∧ StatusesKnown [entry] := by
  unfold TasksComplete KeysMatch StatusesKnown ReadFrom
  simp only [List.mem_singleton, forall_eq]
  constructor
  · intro reads
    obtain ⟨task, read, filed⟩ := reads
    obtain ⟨members, same, origin⟩ := from_dict_ok read
    obtain ⟨taskId, named, text⟩ := origin.named
    constructor
    · exact ⟨members, same, by rw [named]; rfl, origin.capability, origin.version, _,
        origin.dependencies⟩
    · constructor
      · intro others found again byId
        rw [same] at again
        cases again
        rw [named] at byId
        rw [← filed, text, Option.some.inj byId]
      · intro others again
        rw [same] at again
        cases again
        exact ⟨task.status, origin.status⟩
  · intro all
    obtain ⟨⟨members, same, named, capability, version, items, iterated⟩, keys, statuses⟩ := all
    obtain ⟨status, known⟩ := statuses members same
    have readable : ∃ task, fromDict digits (.obj members) = .ok task :=
      exists_from_dict named capability version iterated known
    obtain ⟨task, read⟩ := readable
    obtain ⟨others, again, origin⟩ := from_dict_ok read
    cases again
    obtain ⟨taskId, byId, text⟩ := origin.named
    refine ⟨task, by rw [same]; exact read, ?_⟩
    rw [text]
    exact keys members taskId same byId

namespace ReadPlan

theorem load_task_ok {plan loaded : ReadPlan} {entry : String × Json}
    (step : plan.loadTask digits entry = .ok loaded) :
    ∃ task, ReadFrom digits entry task ∧ plan.addTask task = .ok loaded := by
  unfold loadTask at step
  obtain ⟨task, read, rest⟩ := Infrastructure.bind_ok step
  split_ifs at rest with filed
  exact ⟨task, ⟨read, filed⟩, rest⟩

theorem load_task_of {plan : ReadPlan} {entry : String × Json} {task : ReadTask}
    (reads : ReadFrom digits entry task) :
    plan.loadTask digits entry = plan.addTask task := by
  unfold loadTask
  rw [reads.1]
  exact if_pos reads.2

theorem add_task_ok {plan added : ReadPlan} {task : ReadTask}
    (step : plan.addTask task = .ok added) :
    task.taskId ∉ plan.ids ∧ added.tasks = plan.tasks ++ [task] ∧
      added.planId = plan.planId ∧ added.version = plan.version ∧
      added.objective = plan.objective ∧ added.metadata = plan.metadata := by
  unfold addTask at step
  split_ifs at step with present
  · rw [← Except.ok.inj step]
    exact ⟨present, rfl, rfl, rfl, rfl, rfl⟩

theorem load_tasks_ok {entries : List (String × Json)} {header plan : ReadPlan}
    (loaded : entries.foldlM (loadTask digits) header = .ok plan) :
    ∃ tasks, List.Forall₂ (ReadFrom digits) entries tasks ∧
      plan.tasks = header.tasks ++ tasks ∧ plan.planId = header.planId ∧
      plan.version = header.version ∧ plan.objective = header.objective ∧
      plan.metadata = header.metadata := by
  induction entries generalizing header with
  | nil =>
    rw [← Except.ok.inj loaded]
    exact ⟨[], .nil, by simp, rfl, rfl, rfl, rfl⟩
  | cons entry rest ih =>
    rw [List.foldlM_cons] at loaded
    obtain ⟨next, step, later⟩ := Infrastructure.bind_ok loaded
    obtain ⟨task, reads, added⟩ := load_task_ok step
    obtain ⟨_, tasks, planId, version, goal, metadata⟩ := add_task_ok added
    obtain ⟨others, related, all, samePlan, sameVersion, sameObjective, sameMetadata⟩ := ih later
    exact ⟨task :: others, .cons reads related, by rw [all, tasks]; simp,
      samePlan.trans planId, sameVersion.trans version, sameObjective.trans goal,
      sameMetadata.trans metadata⟩

theorem exists_load_tasks {entries : List (String × Json)} {tasks : List ReadTask}
    (related : List.Forall₂ (ReadFrom digits) entries tasks) {header : ReadPlan}
    (distinct : (header.ids ++ entries.map Prod.fst).Nodup) :
    ∃ plan, entries.foldlM (loadTask digits) header = .ok plan := by
  induction related generalizing header with
  | nil => exact ⟨header, rfl⟩
  | @cons entry task rest others reads _ ih =>
    have free : task.taskId ∉ header.ids := by
      rw [reads.2]
      intro present
      exact (List.nodup_append.mp distinct).2.2 _ present _ (by simp) rfl
    have step : header.loadTask digits entry = .ok { header with
        tasks := header.tasks ++ [task]
        unique := nodup_map_concat header.unique free } := by
      rw [load_task_of reads, addTask, dif_neg free]
    have later : ∃ plan, rest.foldlM (loadTask digits) { header with
        tasks := header.tasks ++ [task]
        unique := nodup_map_concat header.unique free } = .ok plan :=
      ih (by simpa [ids, reads.2] using distinct)
    obtain ⟨plan, loaded⟩ := later
    exact ⟨plan, by rw [List.foldlM_cons, step]; exact loaded⟩

def KnownDependencies (plan : ReadPlan) : Prop :=
  ∀ task ∈ plan.tasks, ∀ dep ∈ task.dependencies,
    ∃ taskId ∈ plan.ids, dep = .str taskId

theorem check_dependency_ok_iff (plan : ReadPlan) (task : ReadTask) (dep : Json) :
    plan.checkDependency digits task dep = .ok () ↔
      ∃ taskId ∈ plan.ids, dep = .str taskId := by
  unfold checkDependency
  cases dep with
  | str text =>
    simp only [asStr?, Option.any_some, decide_eq_true_eq, str.injEq]
    constructor
    · intro passed
      split_ifs at passed with known
      · exact ⟨text, known, rfl⟩
    · intro named
      obtain ⟨taskId, known, same⟩ := named
      rw [if_pos (same ▸ known)]
  | _ => simp [asStr?]

theorem validate_dependencies_ok_iff (plan : ReadPlan) :
    plan.validateDependencies digits = .ok () ↔ plan.KnownDependencies := by
  unfold validateDependencies KnownDependencies
  simp only [ExecutionPlan.for_m_ok_iff, check_dependency_ok_iff]

theorem mem_dependencies_of {plan : ReadPlan} {taskId dep : String}
    (listed : dep ∈ plan.dependenciesOf taskId) :
    ∃ task ∈ plan.tasks, task.taskId = taskId ∧ .str dep ∈ task.dependencies := by
  unfold dependenciesOf at listed
  cases found : plan.tasks.find? fun task => task.taskId == taskId with
  | none =>
    rw [found] at listed
    cases listed
  | some task =>
    rw [found] at listed
    obtain ⟨item, inside, text⟩ := List.mem_filterMap.mp listed
    have same : item = .str dep := by
      cases item with
      | str other => rw [Option.some.inj text]
      | _ => cases text
    rw [same] at inside
    exact ⟨task, List.mem_of_find?_eq_some found, by simpa using List.find?_some found, inside⟩

theorem KnownDependencies.closed {plan : ReadPlan} (known : plan.KnownDependencies) :
    ∀ node ∈ plan.ids, ∀ child ∈ plan.dependenciesOf node, child ∈ plan.ids := by
  intro node _ child listed
  obtain ⟨task, mem, _, inside⟩ := mem_dependencies_of listed
  obtain ⟨taskId, present, same⟩ := known task mem _ inside
  rw [str.inj same]
  exact present

theorem validate_ok_iff (plan : ReadPlan) :
    plan.validate digits = .ok () ↔
      plan.KnownDependencies ∧ Dag.Acyclic plan.dependenciesOf := by
  have outside (taskId : String) (absent : taskId ∉ plan.ids) :
      plan.dependenciesOf taskId = [] := by
    rw [List.eq_nil_iff_forall_not_mem]
    intro dep listed
    obtain ⟨task, mem, named, _⟩ := mem_dependencies_of listed
    exact absent (List.mem_map.mpr ⟨task, mem, named⟩)
  unfold validate
  constructor
  · intro accepted
    obtain ⟨_, checked, cycles⟩ := Infrastructure.bind_ok accepted
    have known := plan.validate_dependencies_ok_iff.mp checked
    have closed := known.closed
    refine ⟨known, (Dag.ranked_iff_acyclic plan.ids closed outside).mp ?_⟩
    apply (Dag.visit_all_ok_iff plan.dependenciesOf plan.ids closed).mp
    unfold validateCycles at cycles
    cases found : Dag.visitAll plan.dependenciesOf plan.ids with
    | ok order => exact ⟨order, rfl⟩
    | error taskId =>
      rw [found] at cycles
      cases cycles
  · intro both
    obtain ⟨known, acyclic⟩ := both
    have closed := known.closed
    have ranked := (Dag.ranked_iff_acyclic plan.ids closed outside).mpr acyclic
    obtain ⟨order, found⟩ := (Dag.visit_all_ok_iff plan.dependenciesOf plan.ids closed).mpr ranked
    rw [plan.validate_dependencies_ok_iff.mpr known]
    unfold validateCycles
    rw [found]
    rfl

theorem dependency_items_of_read {entry : String × Json} {task : ReadTask}
    (reads : ReadFrom digits entry task) : dependencyItems entry.2 = task.dependencies := by
  obtain ⟨members, same, origin⟩ := from_dict_ok reads.1
  unfold dependencyItems
  rw [same]
  dsimp only
  rw [origin.dependencies]
  rfl

theorem dependencies_of_related {entries : List (String × Json)} {tasks : List ReadTask}
    (related : List.Forall₂ (ReadFrom digits) entries tasks) (taskId : String) :
    (tasks.find? fun task => task.taskId == taskId).elim [] dependencyTexts =
      entryDependencies entries taskId := by
  induction related with
  | nil => rfl
  | @cons entry task rest others reads _ ih =>
    unfold entryDependencies at ih ⊢
    obtain ⟨key, value⟩ := entry
    have filed : task.taskId = key := reads.2
    rw [List.find?_cons, List.lookup_cons, filed]
    by_cases here : key = taskId
    · have forward : (key == taskId) = true := beq_iff_eq.mpr here
      have back : (taskId == key) = true := beq_iff_eq.mpr here.symm
      rw [forward, back]
      simp only [Option.elim_some]
      rw [dependency_items_of_read reads]
      rfl
    · have forward : (key == taskId) = false := beq_eq_false_iff_ne.mpr here
      have back : (taskId == key) = false := beq_eq_false_iff_ne.mpr (Ne.symm here)
      rw [forward, back]
      exact ih

section related

variable {entries : List (String × Json)} {plan : ReadPlan}

section

variable (related : List.Forall₂ (ReadFrom digits) entries plan.tasks)

include related

theorem ids_of_related :
    plan.ids = entries.map Prod.fst :=
  (map_eq_of_related (fun _ _ reads => reads.2.symm) related).symm

theorem known_of_related :
    plan.KnownDependencies ↔ DependenciesClosed entries := by
  unfold KnownDependencies DependenciesClosed
  rw [ids_of_related related]
  constructor
  · intro known entry mem item listed
    obtain ⟨task, inside, reads⟩ := exists_of_related related mem
    rw [dependency_items_of_read reads] at listed
    exact known task inside item listed
  · intro closed task mem dep listed
    obtain ⟨entry, inside, reads⟩ := exists_of_related_right related mem
    rw [← dependency_items_of_read reads] at listed
    exact closed entry inside dep listed

theorem acyclic_of_related :
    Dag.Acyclic plan.dependenciesOf ↔ DependenciesAcyclic entries := by
  have same : plan.dependenciesOf = entryDependencies entries := by
    funext taskId
    exact dependencies_of_related related taskId
  rw [same, DependenciesAcyclic]

end

end related

theorem from_dict_ok_iff {fresh : Uuid} {body : Members} {plan : ReadPlan} :
    fromDict digits fresh body = .ok plan ↔
      ∃ entries, fieldOr body "tasks" (.obj []) = .obj entries ∧
      entries.foldlM (loadTask digits) (header digits fresh body) = .ok plan ∧
      plan.KnownDependencies ∧ Dag.Acyclic plan.dependenciesOf := by
  have accepts : plan.validate digits = .ok () ↔ _ := plan.validate_ok_iff
  rw [← accepts]
  unfold fromDict
  constructor
  · intro read
    obtain ⟨entries, found, rest⟩ := Infrastructure.bind_ok read
    obtain ⟨loaded, loads, rest⟩ := Infrastructure.bind_ok rest
    obtain ⟨_, accepted, rest⟩ := Infrastructure.bind_ok rest
    rw [← Except.ok.inj rest]
    refine ⟨entries, ?_, loads, accepted⟩
    unfold entriesOf at found
    cases tasks : fieldOr body "tasks" (.obj []) with
    | obj members =>
      rw [tasks] at found
      rw [Except.ok.inj found]
    | _ =>
      rw [tasks] at found
      cases found
  · intro all
    obtain ⟨entries, found, loads, accepted⟩ := all
    have listed : entriesOf (fieldOr body "tasks" (.obj [])) = .ok entries := by
      rw [found]
      rfl
    simp only [listed, loads, accepted, bind, Except.bind, pure, Except.pure]

end ReadPlan

section documents

variable (entries : List (String × Json))

theorem exists_related_iff :
    (∃ tasks, List.Forall₂ (ReadFrom digits) entries tasks) ↔
      TasksComplete entries ∧ KeysMatch digits entries ∧ StatusesKnown entries := by
  have each : (∃ tasks, List.Forall₂ (ReadFrom digits) entries tasks) ↔
      ∀ entry ∈ entries, ∃ task, ReadFrom digits entry task := by
    constructor
    · intro related entry mem
      obtain ⟨tasks, related⟩ := related
      obtain ⟨task, _, reads⟩ := exists_of_related related mem
      exact ⟨task, reads⟩
    · intro all
      induction entries with
      | nil => exact ⟨[], .nil⟩
      | cons entry rest ih =>
        obtain ⟨task, reads⟩ := all entry (by simp)
        obtain ⟨tasks, related⟩ := ih fun other mem => all other (by simp [mem])
        exact ⟨task :: tasks, .cons reads related⟩
  rw [each]
  simp only [exists_read_from_iff]
  unfold TasksComplete KeysMatch StatusesKnown
  simp only [List.mem_singleton, forall_eq]
  constructor
  · intro all
    exact ⟨fun entry mem => (all entry mem).1, fun entry mem => (all entry mem).2.1,
      fun entry mem => (all entry mem).2.2⟩
  · intro all entry mem
    exact ⟨all.1 entry mem, all.2.1 entry mem, all.2.2 entry mem⟩

end documents

/-- What a document must be to be read as a plan. The keys of a dictionary are distinct. -/
structure PlanDocument (digits : UInt64 → String) (entries : List (String × Json)) : Prop where
  distinct : (entries.map Prod.fst).Nodup
  complete : TasksComplete entries
  keys : KeysMatch digits entries
  statuses : StatusesKnown entries
  closed : DependenciesClosed entries
  acyclic : DependenciesAcyclic entries

theorem ReadPlan.exists_from_dict_iff (fresh : Uuid) (body : Members) :
    (∃ plan, fromDict digits fresh body = .ok plan) ↔
      ∃ entries, fieldOr body "tasks" (.obj []) = .obj entries ∧
      PlanDocument digits entries := by
  constructor
  · intro read
    obtain ⟨plan, read⟩ := read
    obtain ⟨entries, found, loads, known, acyclic⟩ := from_dict_ok_iff.mp read
    obtain ⟨tasks, related, all, _⟩ := load_tasks_ok loads
    have whole : List.Forall₂ (ReadFrom digits) entries plan.tasks := by
      rw [all]
      exact related
    obtain ⟨complete, keys, statuses⟩ := (exists_related_iff entries).mp ⟨_, whole⟩
    refine ⟨entries, found, ?_, complete, keys, statuses, (known_of_related whole).mp known,
      (acyclic_of_related whole).mp acyclic⟩
    rw [← ids_of_related whole]
    exact plan.unique
  · intro read
    obtain ⟨entries, found, doc⟩ := read
    obtain ⟨tasks, related⟩ := (exists_related_iff entries).mpr
      ⟨doc.complete, doc.keys, doc.statuses⟩
    have loadable : ∃ plan, entries.foldlM (loadTask digits) (header digits fresh body) =
        .ok plan := exists_load_tasks related (by simpa [header, ids] using doc.distinct)
    obtain ⟨plan, loads⟩ := loadable
    obtain ⟨others, again, all, _⟩ := load_tasks_ok loads
    have whole : List.Forall₂ (ReadFrom digits) entries plan.tasks := by
      rw [all]
      exact again
    exact ⟨plan, from_dict_ok_iff.mpr ⟨entries, found, loads,
      (known_of_related whole).mpr doc.closed,
      (acyclic_of_related whole).mpr doc.acyclic⟩⟩

theorem read_from_to_dict (task : TaskNode) :
    ReadFrom digits (task.taskId, .obj task.toDict) task.asRead := by
  have known : taskStatus digits (.str task.status.value) = .ok task.status := by
    unfold taskStatus
    rw [read_status_iff.mpr rfl]
  constructor
  · simp [fromDict, TaskNode.toDict, subscript, asMembers?, fieldOr, iterate, known,
      strOf, TaskNode.asRead, List.lookup_cons, bind, Except.bind, pure, Except.pure]
  · rfl

theorem read_from_unique {entry : String × Json} {left right : ReadTask}
    (one : ReadFrom digits entry left) (other : ReadFrom digits entry right) :
    left = right :=
  Except.ok.inj (one.1.symm.trans other.1)

theorem related_unique {entries : List (String × Json)} {left right : List ReadTask}
    (one : List.Forall₂ (ReadFrom digits) entries left)
    (other : List.Forall₂ (ReadFrom digits) entries right) : left = right := by
  induction one generalizing right with
  | nil =>
    cases other
    rfl
  | cons first _ ih =>
    cases other with
    | cons second rest => rw [read_from_unique first second, ih rest]

end reads

namespace ExecutionPlan

theorem dependencies_of_as_read (plan : ExecutionPlan) :
    plan.asRead.dependenciesOf = plan.dependenciesOf := by
  funext taskId
  unfold ReadPlan.dependenciesOf dependenciesOf task? asRead
  rw [List.find?_map]
  change Option.elim ((plan.tasks.find? fun task => task.taskId == taskId).map
    TaskNode.asRead) [] dependencyTexts = _
  cases plan.tasks.find? fun task => task.taskId == taskId with
  | none => rfl
  | some task =>
    simp [TaskNode.asRead, dependencyTexts, List.filterMap_map, Function.comp_def, asStr?]

theorem known_dependencies_as_read {plan : ExecutionPlan} (known : plan.KnownDependencies) :
    plan.asRead.KnownDependencies := by
  intro read mem dep listed
  obtain ⟨task, inside, same⟩ := List.mem_map.mp mem
  rw [← same] at listed
  obtain ⟨taskId, named, text⟩ := List.mem_map.mp listed
  have found := task_of_mem inside
  have present := known task.taskId (mem_ids_iff.mpr ⟨task, found⟩) taskId
    (by simpa [dependenciesOf, found] using named)
  refine ⟨taskId, ?_, text.symm⟩
  unfold ReadPlan.ids asRead
  rw [List.map_map]
  exact present

variable (digits : UInt64 → String)

theorem read_to_dict (fresh : Uuid) (plan : ExecutionPlan) (accepted : plan.validate = .ok ()) :
    ReadPlan.fromDict digits fresh plan.toDict = .ok plan.asRead := by
  obtain ⟨known, acyclic⟩ := plan.validate_ok_iff_acyclic.mp accepted
  have related : List.Forall₂ (ReadFrom digits)
      (plan.tasks.map fun task => (task.taskId, .obj task.toDict)) plan.asRead.tasks := by
    unfold asRead
    rw [List.forall₂_map_left_iff, List.forall₂_map_right_iff, List.forall₂_same]
    exact fun task _ => read_from_to_dict task
  have loadable : ∃ loaded, (plan.tasks.map fun task => (task.taskId, .obj task.toDict)).foldlM
      (ReadPlan.loadTask digits) (ReadPlan.header digits fresh plan.toDict) = .ok loaded := by
    apply ReadPlan.exists_load_tasks related
    rw [List.map_map]
    exact plan.unique
  obtain ⟨loaded, loads⟩ := loadable
  obtain ⟨tasks, again, all, planId, version, goal, metadata⟩ :=
    ReadPlan.load_tasks_ok loads
  have same : loaded = plan.asRead := by
    rw [← related_unique related again] at all
    cases loaded
    simp_all [ReadPlan.header, asRead, fieldOr, toDict, List.lookup_cons, strOf]
  rw [← same, ReadPlan.from_dict_ok_iff]
  refine ⟨_, ?_, loads, ?_, ?_⟩
  · simp [fieldOr, toDict, List.lookup_cons]
  · rw [same]
    exact known_dependencies_as_read known
  · rw [same, dependencies_of_as_read]
    exact acyclic

/-- Validated plans are read back from their dictionary forms, and a document is read as a plan
exactly when it is one. -/
theorem plan_documents_exact (fresh : Uuid) :
    (∀ plan : ExecutionPlan, plan.validate = .ok () →
      ReadPlan.fromDict digits fresh plan.toDict = .ok plan.asRead) ∧
      ∀ body : Members, (∃ plan, ReadPlan.fromDict digits fresh body = .ok plan) ↔
      ∃ entries, fieldOr body "tasks" (.obj []) = .obj entries ∧
      PlanDocument digits entries :=
  ⟨read_to_dict digits fresh, ReadPlan.exists_from_dict_iff fresh⟩

/-- A task without a capability. -/
def unableTask : List (String × Json) := [("a", .obj [("task_id", .str "a")])]

theorem unable_task_refused :
    KeysMatch (fun _ => "0.0") unableTask ∧ StatusesKnown unableTask ∧
      DependenciesClosed unableTask ∧ DependenciesAcyclic unableTask ∧
      ¬∃ plan, ReadPlan.fromDict (fun _ => "0.0") ⟨0⟩
      [("tasks", .obj unableTask)] = .ok plan := by
  unfold unableTask
  refine ⟨?_, ?_, ?_, ?_, ?_⟩
  · intro entry mem members taskId same named
    cases List.mem_singleton.mp mem
    cases same
    cases named
    rfl
  · intro entry mem members same
    cases List.mem_singleton.mp mem
    cases same
    exact ⟨.pending, rfl⟩
  · intro entry mem item listed
    cases List.mem_singleton.mp mem
    cases listed
  · have independent (taskId child : String) :
        ¬Dag.Needs (entryDependencies [("a", .obj [("task_id", .str "a")])]) taskId child := by
      intro needs
      unfold Dag.Needs entryDependencies at needs
      rw [List.lookup_cons] at needs
      cases here : taskId == "a" <;> simp [here, dependencyItems, fieldOr, iterate,
        Except.toOption, List.lookup_cons] at needs
    intro taskId chain
    cases chain with
    | single step => exact independent _ _ step
    | tail _ step => exact independent _ _ step
  · intro read
    obtain ⟨plan, read⟩ := read
    cases read

end ExecutionPlan

end Ois.Kernel
