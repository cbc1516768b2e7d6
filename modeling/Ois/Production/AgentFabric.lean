import Ois.Library.PyText
import Ois.Library.Separator
import Ois.Library.Machine
import Ois.Kernel.Attempts
import Ois.Kernel.CallResults

/-!
# The agent fabric

`AgentFabric` of `agent_fabric.py` over `Supervisor` and `AgentRegistry`: the tasks of a call are
invoked one after another until one of them does not succeed.
-/

namespace Ois.Production

open Ois.Library Ois.Kernel PyText

structure AgentTask where
  capabilityId : String
  version : String
  inputData : Members
  deriving DecidableEq

structure AgentFabricResult where
  taskResults : List InvocationResult
  completed : Bool
  failedIndex : Option Nat := none

/-- A `CapabilityEntry`, with its contract if that is an `AgentContract`. -/
structure AgentEntry where
  id : String
  version : String
  contract : Option CapabilityContract

abbrev AgentRegistry := List AgentEntry

/-- What a task meets: the world of its invocation, the policy and the availability that `route`
asks, and the lease of the worker is none. -/
structure TaskWorld where
  world : World
  authorize : InvocationRequest → CapabilityContract → Except PyError Unit
  availability : AgentEntry → Bool

structure AgentFabric where
  runtime : ExecutionRuntime
  registry : AgentRegistry
  agentRegistry : Option AgentRegistry

def agentSelectionError (msg : String) : PyError := ⟨.other "AgentSelectionError", msg⟩

namespace AgentRegistry

def resolve (reg : AgentRegistry) (task : AgentTask) : Except PyError Unit :=
  if reg.any fun entry => entry.id = task.capabilityId ∧ entry.version = task.version then
    .ok ()
  else .error ⟨.capabilityNotFoundError,
    Kernel.reprStr ("not registered: " ++ task.capabilityId ++ "@" ++ task.version)⟩

def candidates (reg : AgentRegistry) (task : AgentTask) :
    List (AgentEntry × CapabilityContract) :=
  reg.filterMap fun entry => entry.contract.bind fun contract =>
    if contract.capabilityId = task.capabilityId ∧ contract.version = task.version then
      some (entry, contract)
    else none

/-- One round of the loop of `route`: the reason to reject a candidate, or the candidate. -/
def judge (task : AgentTask) (meets : TaskWorld) (req : InvocationRequest)
    (candidate : AgentEntry × CapabilityContract) : Except PyError (String ⊕ AgentEntry) :=
  match meets.authorize req candidate.2 with
  | .error err => if err.kind = .authorizationDenied then .ok (.inl err.message)
      else .error err
  | .ok _ => if meets.availability candidate.1 then .ok (.inr candidate.1)
      else .ok (.inl ("Agent unavailable: " ++ task.capabilityId ++ "@" ++ task.version))

/-- An `AgentRoutingError` is raised again as an `AgentSelectionError` by the caller. -/
def route (reg : AgentRegistry) (task : AgentTask) (meets : TaskWorld)
    (req : InvocationRequest) : Except PyError AgentEntry := do
  if (reg.candidates task).isEmpty then
    throw (agentSelectionError
      ("No agent registered for " ++ task.capabilityId ++ "@" ++ task.version))
  let judged ← (reg.candidates task).mapM (judge task meets req)
  match judged.filterMap Sum.getRight? with
  | [] => throw (agentSelectionError ("; ".intercalate (judged.filterMap Sum.getLeft?)))
  | [agent] => return agent
  | eligible => throw (agentSelectionError ("Ambiguous agent routing for " ++ task.capabilityId ++
      "@" ++ task.version ++ ": " ++ toString eligible.length ++ " eligible agents"))

end AgentRegistry

namespace AgentFabric

variable (fabric : AgentFabric)

def validate (tasks : List AgentTask) : Except PyError Unit := do
  if tasks.isEmpty then throw ⟨.valueError, "agent fabric requires at least one task"⟩
  tasks.forM fabric.registry.resolve

def taskId (ctx : ExecutionContext) (step : String) (index : Nat) : String :=
  ctx.identity.executionId.str ++ step ++ ":" ++ toString index

def selectAgent (ctx : ExecutionContext) (index : Nat) (task : AgentTask) (meets : TaskWorld) :
    Except PyError AgentEntry :=
  match fabric.agentRegistry with
  | none => .error (agentSelectionError "agent_registry is required for agent selection")
  | some reg =>
    if strip task.capabilityId = "" then
      .error (agentSelectionError "capability_id is required for agent selection")
    else if strip task.version = "" then
      .error (agentSelectionError "version is required for agent selection")
    else reg.route task meets
      { invocationId := taskId ctx ":agent" index, capabilityId := task.capabilityId
        input := task.inputData, execution := ctx }

/-- What `Supervisor.execute` returns for a request that it does not pass on. -/
def rejected (task : AgentTask) (callId msg : String) : InvocationResult :=
  { invocationId := callId, capabilityId := task.capabilityId, status := .failed
    error := some [("type", .str "SupervisorValidationError"), ("message", .str msg),
      ("failure_class", .str "validation"), ("recovery_action", .str "stop")] }

structure FabricState where
  store : IdempotencyStore
  checkpoints : CheckpointStore
  context : ExecutionContext

def attempt (index : Nat) (task : AgentTask) (meets : TaskWorld) (state : FabricState) : Attempt :=
  { runtime := fabric.runtime, world := meets.world, context := state.context
    checkpoints := state.checkpoints
    call := { capabilityId := task.capabilityId, version := task.version
              inputData := task.inputData
              invocationId := some (taskId state.context ":invoke" index) } }

/-- A call of the runtime, and the store that it met. -/
abbrev Asked := Attempt × IdempotencyStore

/-- `Supervisor.execute` for one invocation: how it ends, the call of the runtime if it makes one,
and what it leaves. -/
def invoke (goal : String) (index : Nat) (task : AgentTask) (meets : TaskWorld)
    (state : FabricState) :
    Except PyError InvocationResult × List Asked × FabricState :=
  let callId := taskId state.context ":invoke" index
  if strip goal = "" then
    (.ok (rejected task callId "objective is required"), [], state)
  else if strip task.capabilityId = "" then
    (.ok (rejected task callId "capability_id is required"), [], state)
  else
    let made := fabric.attempt index task meets state
    let after := made.after state.store
    (made.outcome state.store, [(made, state.store)],
      ⟨after.durable.idempotency, after.durable.checkpoints, after.context⟩)

structure FabricRun where
  outcome : Except PyError AgentFabricResult
  asked : List Asked
  state : FabricState

def succeeded (res : InvocationResult) : Bool :=
  ["success", "succeeded", "completed"].contains res.status.value

/-- The loop of `execute` from a task on. Nothing that runs in it assigns the objective. -/
def executeFrom (goal : String) (meets : Nat → TaskWorld) :
    Nat → List AgentTask → List InvocationResult → FabricState → FabricRun
  | _, [], results, state => ⟨.ok ⟨results, true, none⟩, [], state⟩
  | index, task :: rest, results, state =>
    match fabric.selectAgent state.context index task (meets index) with
    | .error err => ⟨.error err, [], state⟩
    | .ok _ =>
      let (out, asked, after) := fabric.invoke goal index task (meets index) state
      match out with
      | .error err => ⟨.error err, asked, after⟩
      | .ok res =>
        if succeeded res then
          let run := executeFrom goal meets (index + 1) rest (results ++ [res]) after
          { run with asked := asked ++ run.asked }
        else ⟨.ok ⟨results ++ [res], false, some index⟩, asked, after⟩

def execute (tasks : List AgentTask) (meets : Nat → TaskWorld) (state : FabricState) : FabricRun :=
  match fabric.validate tasks with
  | .error err => ⟨.error err, [], state⟩
  | .ok _ => fabric.executeFrom state.context.objective meets 0 tasks [] state

open ExecutionRuntime

inductive Came (asked : Asked) (res : InvocationResult) : Prop where
  | returned (req : InvocationRequest) (reply : Reply) (given : InvocationResult)
      (invokes : Invokes asked.1.world asked.1.call (asked.1.session asked.2).view
        (asked.1.after asked.2).view req reply)
      (returns : reply.outcome = .returned given) (status : res.status = given.status)
      (same : res.status = .succeeded → res.sorted = given.sorted)
  | raised (req : InvocationRequest) (reply : Reply) (err : PyError)
      (invokes : Invokes asked.1.world asked.1.call (asked.1.session asked.2).view
        (asked.1.after asked.2).view req reply)
      (raises : reply.outcome = .raised err) (status : res.status = .failed)
  | cancelled (stopped : Stopped asked.1.world asked.1.call (asked.1.session asked.2).view
        (asked.1.after asked.2).view) (status : res.status = .cancelled)

structure AsksFor (task : AgentTask) (asked : Asked) : Prop where
  capabilityId : asked.1.call.capabilityId = task.capabilityId
  version : asked.1.call.version = task.version
  inputData : asked.1.call.inputData = task.inputData

def Vouched (log : List Asked) (task : AgentTask) (res : InvocationResult) : Prop :=
  ∃ asked ∈ log, AsksFor task asked ∧ Came asked res

/-- What a call of the fabric returns, in terms of its tasks and of all calls of the runtime up to
its end. -/
structure OwnResults (tasks : List AgentTask) (log asked : List Asked)
    (res : AgentFabricResult) : Prop where
  own : List.Forall₂ (Vouched log) (tasks.take res.taskResults.length) res.taskResults
  invoked : List.Forall₂ AsksFor (tasks.take res.taskResults.length) asked
  failed : ∀ index, res.failedIndex = some index ↔
    ∃ given, res.taskResults[index]? = some given ∧ given.status ≠ .succeeded
  stops : ∀ index given, res.taskResults[index]? = some given → given.status ≠ .succeeded →
    res.taskResults.length = index + 1
  completed : res.completed = true ↔ res.taskResults.length = tasks.length ∧
    ∀ given ∈ res.taskResults, given.status = .succeeded

section invocation

variable {goal : String} {index : Nat} {task : AgentTask} {meets : TaskWorld}
  {state : FabricState} {log : List Asked} {stored res : InvocationResult}

theorem succeeded_iff : succeeded res = true ↔ res.status = .succeeded := by
  unfold succeeded
  cases res.status <;> decide

theorem Vouched.mono {more : List Asked} (vouched : Vouched log task res)
    (inside : log ⊆ more) : Vouched more task res := by
  obtain ⟨asked, mem, rest⟩ := vouched
  exact ⟨asked, inside mem, rest⟩

theorem task_id_inj {ctx other : ExecutionContext} {step : String} {n : Nat}
    (same : taskId ctx step index = taskId other step n) :
    ctx.identity.executionId = other.identity.executionId ∧ index = n := by
  obtain ⟨ids, numbers⟩ := numbered_inj.mp same
  exact ⟨Uuid.str_injective (String.append_left_inj _ |>.mp ids), numbers⟩

theorem attempt_key : (fabric.attempt index task meets state).key =
    taskId state.context ":invoke" index := by
  have filled : taskId state.context ":invoke" index ≠ "" := by
    intro empty
    simpa [taskId] using congrArg String.toList empty
  simp [Attempt.key, Attempt.invocationId, attempt, storageKey, logicalInvocationId, orDefault,
    filled]

theorem came_of_outcome {asked : Asked} (ends : asked.1.outcome asked.2 = .ok res) :
    asked.2.get asked.1.key = some res ∨ Came asked res := by
  have conduct := asked.1.conduct asked.2
  rw [ends] at conduct
  cases conduct_source conduct with
  | store hit => exact Or.inl hit
  | cancellation stopped status => exact Or.inr (.cancelled stopped status)
  | failure req reply err invokes raises status =>
    exact Or.inr (.raised req reply err invokes raises status)
  | capability req reply made invokes returns sameId movable status same =>
    refine Or.inr (.returned req reply made invokes returns status fun succeeded => ?_)
    rw [same succeeded]

theorem came_of_stored {asked : Asked} {key : String}
    (found : (asked.1.after asked.2).durable.idempotency.get key = some stored) :
    asked.2.get key = some stored ∨ key = asked.1.key ∧ Came asked stored := by
  rcases conduct_stores (asked.1.conduct asked.2) with
    same | ⟨req, reply, made, invokes, returns, terminal, -, put⟩
  · exact Or.inl ((congrArg _ same.symm).trans found)
  · change (asked.1.after asked.2).durable.idempotency = asked.2.put asked.1.key made at put
    rw [put, IdempotencyStore.get_put _ _ _ _ terminal] at found
    rcases Option.or_eq_some_iff.mp found with before | ⟨-, new⟩
    · exact Or.inl before
    · split_ifs at new with own
      obtain rfl := Option.some.inj new
      exact Or.inr ⟨own, .returned req reply made invokes returns
        (IdempotencyStore.kept_status _ _) fun _ => IdempotencyStore.kept_sorted _ _⟩

theorem after_identity (asked : Asked) :
    (asked.1.after asked.2).context.identity = asked.1.context.identity :=
  (conduct_keeps (asked.1.conduct asked.2)).identity

theorem select_agent_ok {agent : AgentEntry}
    (selects : fabric.selectAgent state.context index task meets = .ok agent) :
    strip task.capabilityId ≠ "" := by
  intro blank
  unfold selectAgent at selects
  cases reg : fabric.agentRegistry with
  | none => simp [reg] at selects
  | some agents => simp [reg, blank] at selects

theorem invoke_asks (given : strip goal ≠ "")
    (named : strip task.capabilityId ≠ "") :
    ∃ after, fabric.invoke goal index task meets state =
      ((fabric.attempt index task meets state).outcome state.store,
      [(fabric.attempt index task meets state, state.store)], after) :=
  ⟨_, (if_neg given).trans (if_neg named)⟩

end invocation

section loop

variable {goal : String} {meets : Nat → TaskWorld} {log : List Asked}

theorem invoke_files (index : Nat) (task : AgentTask) (state : FabricState) :
    (fabric.invoke goal index task (meets index) state).2.2.context.identity =
      state.context.identity ∧
      ∀ key stored, (fabric.invoke goal index task (meets index) state).2.2.store.get key =
      some stored →
      state.store.get key = some stored ∨ key = taskId state.context ":invoke" index ∧
      Vouched (fabric.invoke goal index task (meets index) state).2.1 task stored := by
  unfold invoke
  dsimp only
  split_ifs with blank capability
  · exact ⟨rfl, fun key stored found => Or.inl found⟩
  · exact ⟨rfl, fun key stored found => Or.inl found⟩
  · refine ⟨after_identity (fabric.attempt index task (meets index) state, state.store),
      fun key stored found => ?_⟩
    rcases @came_of_stored _ (fabric.attempt index task (meets index) state, state.store) key found
      with before | ⟨own, came⟩
    · exact Or.inl before
    · exact Or.inr ⟨own.trans fabric.attempt_key, _, List.mem_singleton_self _, ⟨rfl, rfl, rfl⟩,
        came⟩

variable (index : Nat) (tasks : List AgentTask) (results : List InvocationResult)
  (state : FabricState)

theorem execute_from_files :
    (fabric.executeFrom goal meets index tasks results state).state.context.identity =
      state.context.identity ∧
      ∀ key stored,
      (fabric.executeFrom goal meets index tasks results state).state.store.get key =
      some stored →
      state.store.get key = some stored ∨ ∃ offset task, tasks[offset]? = some task ∧
      key = taskId state.context ":invoke" (index + offset) ∧
      Vouched (fabric.executeFrom goal meets index tasks results state).asked task
      stored := by
  induction tasks generalizing index results state with
  | nil => exact ⟨rfl, fun key stored found => Or.inl found⟩
  | cons task rest ih =>
    obtain ⟨ident, files⟩ := @invoke_files fabric goal meets index task state
    rw [executeFrom]
    cases fabric.selectAgent state.context index task (meets index) with
    | error err => exact ⟨rfl, fun key stored found => Or.inl found⟩
    | ok agent =>
      generalize fabric.invoke goal index task (meets index) state = invoked
        at ident files ⊢
      obtain ⟨out, asked, after⟩ := invoked
      have first : ∀ key stored, after.store.get key = some stored →
          state.store.get key = some stored ∨ ∃ offset other, (task :: rest)[offset]? = some other ∧
              key = taskId state.context ":invoke" (index + offset) ∧
                Vouched asked other stored := fun key stored found =>
        (files key stored found).imp_right fun ⟨own, vouched⟩ => ⟨0, task, rfl, own, vouched⟩
      cases out with
      | error err => exact ⟨ident, first⟩
      | ok res =>
        dsimp only
        split_ifs with success
        · obtain ⟨same, later⟩ := ih (index + 1) (results ++ [res]) after
          refine ⟨same.trans ident, fun key stored found => ?_⟩
          rcases later key stored found with before | ⟨offset, other, place, own, vouched⟩
          · rcases first key stored before with start | ⟨offset, other, place, own, vouched⟩
            · exact Or.inl start
            · exact Or.inr ⟨offset, other, place, own, vouched.mono (List.subset_append_left _ _)⟩
          · refine Or.inr ⟨offset + 1, other, place, ?_,
              vouched.mono (List.subset_append_right _ _)⟩
            rw [own, taskId, taskId, ident, Nat.add_assoc, Nat.add_comm 1 offset]
        · exact ⟨ident, first⟩

structure Adds (log : List Asked) (index : Nat) (tasks : List AgentTask)
    (results : List InvocationResult) (asked : List Asked) (res : AgentFabricResult)
    (more : List InvocationResult) : Prop where
  taskResults : res.taskResults = results ++ more
  own : List.Forall₂ (Vouched log) (tasks.take more.length) more
  invoked : List.Forall₂ AsksFor (tasks.take more.length) asked
  ends : (res.completed = true ∧ res.failedIndex = none ∧ more.length = tasks.length ∧
      ∀ given ∈ more, given.status = .succeeded) ∨
    ∃ before last, more = before ++ [last] ∧ (∀ given ∈ before, given.status = .succeeded) ∧
      last.status ≠ .succeeded ∧ res.completed = false ∧
      res.failedIndex = some (index + before.length)

theorem execute_from_adds (given : strip goal ≠ "")
    (clean : ∀ offset task, tasks[offset]? = some task → ∀ stored,
      state.store.get (taskId state.context ":invoke" (index + offset)) = some stored →
      Vouched log task stored)
    {res : AgentFabricResult}
    (returns : (fabric.executeFrom goal meets index tasks results state).outcome =
      .ok res) :
    ∃ more, Adds (log ++ (fabric.executeFrom goal meets index tasks results state).asked)
      index tasks results (fabric.executeFrom goal meets index tasks results state).asked
      res more := by
  induction tasks generalizing index results state log with
  | nil =>
    obtain rfl := Except.ok.inj returns
    exact ⟨[], (List.append_nil _).symm, .nil, .nil, Or.inl ⟨rfl, rfl, rfl, nofun⟩⟩
  | cons task rest ih =>
    rw [executeFrom] at returns ⊢
    cases selects : fabric.selectAgent state.context index task (meets index) with
    | error err =>
      rw [selects] at returns
      cases returns
    | ok agent =>
      obtain ⟨ident, files⟩ := @invoke_files fabric goal meets index task state
      obtain ⟨after, asks⟩ := fabric.invoke_asks given (fabric.select_agent_ok selects)
      rw [selects, asks] at returns
      rw [asks] at ident files ⊢
      dsimp only at returns ident files ⊢
      generalize own : fabric.attempt index task (meets index) state = attempt at *
      have asks' : AsksFor task (attempt, state.store) := own ▸ ⟨rfl, rfl, rfl⟩
      have vouched {given : InvocationResult}
          (ends : attempt.outcome state.store = .ok given) :
          Vouched (log ++ [(attempt, state.store)]) task given := by
        rcases @came_of_outcome _ (attempt, state.store) ends with stored | came
        · rw [← own, fabric.attempt_key] at stored
          exact (clean 0 task rfl given stored).mono (List.subset_append_left _ _)
        · exact ⟨_, List.mem_append_right _ (List.mem_singleton_self _), asks', came⟩
      cases ends : attempt.outcome state.store with
      | error err =>
        rw [ends] at returns
        cases returns
      | ok made =>
        rw [ends] at returns
        dsimp only at returns ⊢
        split_ifs at returns ⊢ with success
        · have later : ∀ offset other, rest[offset]? = some other → ∀ stored,
              after.store.get (taskId after.context ":invoke" (index + 1 + offset)) =
                some stored → Vouched (log ++ [(attempt, state.store)]) other stored := by
            intro offset other place stored found
            rcases files _ _ found with before | ⟨own, -⟩
            · rw [taskId, ident, Nat.add_assoc, Nat.add_comm 1 offset] at before
              exact (clean (offset + 1) other place stored before).mono
                (List.subset_append_left _ _)
            · have n := (task_id_inj own).2
              omega
          obtain ⟨more, adds⟩ := ih (index + 1) (results ++ [made]) _ later returns
          generalize fabric.executeFrom goal meets (index + 1) rest (results ++ [made])
            _ = run at adds returns ⊢
          rw [List.append_assoc] at adds
          have wider : log ++ [(attempt, state.store)] ⊆
              log ++ ([(attempt, state.store)] ++ run.asked) :=
            List.append_subset.mpr ⟨List.subset_append_left _ _,
              List.subset_append_of_subset_right _ (List.subset_append_left _ _)⟩
          refine ⟨made :: more, adds.taskResults.trans (List.append_assoc _ _ _),
            .cons ((vouched ends).mono wider) adds.own, .cons asks' adds.invoked, ?_⟩
          have here := succeeded_iff.mp success
          rcases adds.ends with
            ⟨completed, failed, all, each⟩ | ⟨before, last, split, each, fails, rest'⟩
          · exact Or.inl ⟨completed, failed, by rw [List.length_cons, all, List.length_cons],
              List.forall_mem_cons.mpr ⟨here, each⟩⟩
          · refine Or.inr ⟨made :: before, last, by rw [split, List.cons_append],
              List.forall_mem_cons.mpr ⟨here, each⟩, fails, rest'.1, ?_⟩
            rw [rest'.2, List.length_cons, Nat.add_assoc, Nat.add_comm 1]
        · obtain rfl := Except.ok.inj returns
          exact ⟨[made], rfl, .cons (vouched ends) .nil, .cons asks' .nil,
            Or.inr ⟨[], made, rfl, nofun, fun same => success (succeeded_iff.mpr same), rfl, rfl⟩⟩

theorem own_of_adds {tasks : List AgentTask} {asked : List Asked} {res : AgentFabricResult}
    {more : List InvocationResult} (adds : Adds log 0 tasks [] asked res more) :
    OwnResults tasks log asked res := by
  obtain ⟨given, own, invoked, ends⟩ := adds
  rw [List.nil_append] at given
  rw [← given] at own invoked ends
  rcases ends with ⟨completed, failed, all, each⟩ |
    ⟨before, last, split, each, fails, completed, failed⟩
  · refine ⟨own, invoked, fun index => ?_, fun index other place wrong => ?_, ?_⟩
    · rw [failed]
      refine ⟨nofun, fun ⟨other, place, wrong⟩ => ?_⟩
      exact absurd (each other (List.mem_of_getElem? place)) wrong
    · exact absurd (each other (List.mem_of_getElem? place)) wrong
    · exact iff_of_true completed ⟨all, each⟩
  · have only (index : Nat) (other : InvocationResult)
        (place : res.taskResults[index]? = some other) (wrong : other.status ≠ .succeeded) :
        index = before.length := by
      by_contra elsewhere
      rw [split] at place
      rcases Nat.lt_or_gt_of_ne elsewhere with early | late
      · rw [List.getElem?_append_left early] at place
        exact wrong (each other (List.mem_of_getElem? place))
      · rw [List.getElem?_eq_none (by simpa using Nat.succ_le_of_lt late)] at place
        cases place
    have there : res.taskResults[before.length]? = some last := by
      rw [split, List.getElem?_concat_length]
    refine ⟨own, invoked, fun index => ?_, fun index other place wrong => ?_, ?_⟩
    · rw [failed, Option.some.injEq, Nat.zero_add]
      constructor
      · rintro rfl
        exact ⟨last, there, fails⟩
      · rintro ⟨other, place, wrong⟩
        exact (only index other place wrong).symm
    · rw [only index other place wrong, split, List.length_append, List.length_singleton]
    · refine iff_of_false (by simp [completed]) fun both => ?_
      exact fails (both.2 last (List.mem_of_getElem? there))

end loop

structure FabricCall where
  context : Nat
  tasks : List AgentTask
  meets : Nat → TaskWorld

/-- The contexts that calls are made on, by number, over one store and its checkpoints. -/
structure FabricScene where
  store : IdempotencyStore
  checkpoints : CheckpointStore
  contexts : Nat → ExecutionContext

def calls : Machine FabricCall FabricScene FabricRun := fun call scene =>
  let run := fabric.execute call.tasks call.meets
    ⟨scene.store, scene.checkpoints, scene.contexts call.context⟩
  ({ store := run.state.store, checkpoints := run.state.checkpoints
     contexts := Function.update scene.contexts call.context run.state.context }, run)

/-- The calls of the runtime in a run. -/
def askedIn (history : List FabricCall) (start : FabricScene) : List Asked :=
  (fabric.calls.answers history start).flatMap FabricRun.asked

/-- A call asks for an objective, and a result that is stored under the identifier of one of its
invocations was stored in the run, by calls with the same task at that position. -/
structure Unmixed (start : FabricScene) (before : List FabricCall) (call : FabricCall) : Prop where
  objective : strip ((fabric.calls.run before start).contexts call.context).objective ≠ ""
  stored : ∀ index task, call.tasks[index]? = some task → ∀ res,
    (fabric.calls.run before start).store.get
      (taskId (start.contexts call.context) ":invoke" index) = some res →
    start.store.get (taskId (start.contexts call.context) ":invoke" index) = none ∧
      ∀ past ∈ before, (start.contexts past.context).identity.executionId =
          (start.contexts call.context).identity.executionId →
        ∀ other, past.tasks[index]? = some other → other = task

section runs

variable {start : FabricScene}

theorem execute_files (tasks : List AgentTask) (meets : Nat → TaskWorld) (state : FabricState) :
    (fabric.execute tasks meets state).state.context.identity = state.context.identity ∧
      ∀ key stored, (fabric.execute tasks meets state).state.store.get key = some stored →
      state.store.get key = some stored ∨ ∃ index task, tasks[index]? = some task ∧
      key = taskId state.context ":invoke" index ∧
      Vouched (fabric.execute tasks meets state).asked task stored := by
  unfold execute
  cases fabric.validate tasks with
  | error err => exact ⟨rfl, fun key stored found => Or.inl found⟩
  | ok valid =>
    simpa using @execute_from_files fabric state.context.objective meets 0 tasks [] state

theorem asked_in_concat (history : List FabricCall) (call : FabricCall) :
    fabric.askedIn (history ++ [call]) start = fabric.askedIn history start ++
      (fabric.calls.answer call (fabric.calls.run history start)).asked := by
  simp [askedIn, Machine.answers_concat]

theorem run_files (history : List FabricCall) :
    (∀ n, ((fabric.calls.run history start).contexts n).identity =
      (start.contexts n).identity) ∧
    ∀ key stored, (fabric.calls.run history start).store.get key = some stored →
      start.store.get key = some stored ∨ ∃ past ∈ history, ∃ index task,
      past.tasks[index]? = some task ∧
      key = taskId (start.contexts past.context) ":invoke" index ∧
      Vouched (fabric.askedIn history start) task stored := by
  induction history using List.reverseRecOn with
  | nil => exact ⟨fun n => rfl, fun key stored found => Or.inl found⟩
  | append_singleton history call ih =>
    obtain ⟨identities, files⟩ := ih
    rw [Machine.run_concat, fabric.asked_in_concat]
    obtain ⟨ident, later⟩ := fabric.execute_files call.tasks call.meets
      ⟨(fabric.calls.run history start).store, (fabric.calls.run history start).checkpoints,
        (fabric.calls.run history start).contexts call.context⟩
    constructor
    · intro n
      change ((Function.update (fabric.calls.run history start).contexts call.context _ :
        Nat → ExecutionContext) n).identity = _
      rw [Function.update_apply]
      split_ifs with own
      · rw [own]
        exact ident.trans (identities call.context)
      · exact identities n
    · intro key stored found
      rcases later key stored found with before | ⟨index, task, place, own, vouched⟩
      · rcases files key stored before with first | ⟨past, mem, index, task, place, own,
          vouched⟩
        · exact Or.inl first
        · exact Or.inr ⟨past, List.mem_append_left _ mem, index, task, place, own,
            vouched.mono (List.subset_append_left _ _)⟩
      · refine Or.inr ⟨call, List.mem_append_right _ (List.mem_singleton_self _), index, task,
          place, own.trans ?_, vouched.mono (List.subset_append_right _ _)⟩
        rw [taskId, taskId, identities]

end runs

/-- In a run in which no call meets what another task has left, every call that returns returns what
came of its own tasks. -/
theorem fabric_results_own (start : FabricScene) (history : List FabricCall)
    (unmixed : Historically (fabric.Unmixed start) history) (before : List FabricCall)
    (call : FabricCall) (after : List FabricCall) (split : history = before ++ call :: after)
    (res : AgentFabricResult)
    (returns : (fabric.calls.answer call (fabric.calls.run before start)).outcome = .ok res) :
    OwnResults call.tasks (fabric.askedIn (before ++ [call]) start)
      (fabric.calls.answer call (fabric.calls.run before start)).asked res := by
  obtain ⟨goal, stored⟩ := unmixed before call after split
  obtain ⟨identities, files⟩ := @run_files fabric start before
  rw [fabric.asked_in_concat]
  change (fabric.execute call.tasks call.meets _).outcome = _ at returns
  change OwnResults _ (_ ++ (fabric.execute call.tasks call.meets _).asked)
    (fabric.execute call.tasks call.meets _).asked _
  unfold execute at returns ⊢
  cases valid : fabric.validate call.tasks with
  | error err =>
    rw [valid] at returns
    cases returns
  | ok _ =>
    rw [valid] at returns
    have clean : ∀ offset task, call.tasks[offset]? = some task → ∀ given,
        (fabric.calls.run before start).store.get (taskId
          ((fabric.calls.run before start).contexts call.context) ":invoke" (0 + offset)) =
            some given → Vouched (fabric.askedIn before start) task given := by
      intro offset task place given found
      rw [Nat.zero_add, taskId, identities] at found
      obtain ⟨fresh, same⟩ := stored offset task place given found
      rcases files _ _ found with first | ⟨past, mem, n, other, there, own, vouched⟩
      · exact absurd (fresh.symm.trans first) nofun
      · obtain ⟨ids, rfl⟩ := task_id_inj own
        rwa [same past mem ids.symm other there] at vouched
    obtain ⟨more, adds⟩ := fabric.execute_from_adds 0 call.tasks []
      ⟨(fabric.calls.run before start).store, (fabric.calls.run before start).checkpoints,
        (fabric.calls.run before start).contexts call.context⟩ goal clean returns
    exact own_of_adds adds

section examples

def agentContract (capId : String) : CapabilityContract :=
  { capabilityId := capId, version := "1" }

def writers : AgentRegistry := ["draft", "publish"].map fun capId =>
  ⟨capId, "1", some (agentContract capId)⟩

def writing : AgentFabric :=
  { runtime := .permissive [agentContract "draft", agentContract "publish"]
    registry := writers, agentRegistry := some writers }

def writingWorld : TaskWorld where
  world := .ending fun req => .returned
    { invocationId := req.invocationId, capabilityId := req.capabilityId
      status := .succeeded, output := .str req.capabilityId }
  authorize _ _ := .ok ()
  availability _ := true

def callOf (context : Nat) (capIds : List String) : FabricCall :=
  ⟨context, capIds.map fun capId => ⟨capId, "1", []⟩, fun _ => writingWorld⟩

def blankScene : FabricScene :=
  ⟨.inMemory [], .inMemory [], fun context => .fresh (if context = 0 then ⟨1⟩ else ⟨2⟩) "tenant"⟩

/-- The first call is made again, after one with the same tasks in another order elsewhere. -/
def repeated : List FabricCall :=
  [callOf 0 ["draft", "publish"], callOf 1 ["publish", "draft"], callOf 0 ["draft", "publish"]]

theorem repeated_call_own :
    ∃ res, OwnResults (callOf 0 ["draft", "publish"]).tasks (writing.askedIn repeated blankScene)
        (writing.calls.answer (callOf 0 ["draft", "publish"])
          (writing.calls.run (repeated.take 2) blankScene)).asked res := by
  have unmixed (before : List FabricCall) (call : FabricCall)
      (asks : strip ((writing.calls.run before blankScene).contexts call.context).objective ≠ "")
      (alike : ∀ past ∈ before, (blankScene.contexts past.context).identity.executionId =
        (blankScene.contexts call.context).identity.executionId → past.tasks = call.tasks) :
      writing.Unmixed blankScene before call := by
    refine ⟨asks, fun index task place res _ => ⟨rfl, fun past mem ids other there => ?_⟩⟩
    rw [alike past mem ids, place] at there
    exact (Option.some.inj there).symm
  have ran : (writing.calls.answer (callOf 0 ["draft", "publish"])
      (writing.calls.run (repeated.take 2) blankScene)).outcome.isOk = true := by decide +kernel
  cases out : (writing.calls.answer (callOf 0 ["draft", "publish"])
      (writing.calls.run (repeated.take 2) blankScene)).outcome with
  | error err =>
    rw [out] at ran
    cases ran
  | ok res =>
    refine ⟨res, fabric_results_own writing blankScene repeated ?_ _ _ [] rfl res out⟩
    refine historically_concat.mpr ⟨historically_concat.mpr ⟨historically_concat.mpr
      ⟨historically_nil _, ?_⟩, ?_⟩, ?_⟩
    all_goals exact unmixed _ _ (by decide +kernel) (by decide +kernel)

def Step.invokes : Step → Bool
  | .invoke _ _ _ => true
  | _ => false

theorem not_came {asked : Asked} {res : InvocationResult}
    (quiet : (asked.1.callSteps asked.2).any Step.invokes = false)
    (succeeded : res.status = .succeeded) : ¬Came asked res := by
  have none (req : InvocationRequest) (reply : Reply) : ¬Invokes asked.1.world asked.1.call
      (asked.1.session asked.2).view (asked.1.after asked.2).view req reply := by
    intro invokes
    rw [List.any_eq_false] at quiet
    exact quiet _ (Attempt.invoke_mem_story.mpr invokes.told) rfl
  rintro (⟨req, reply, given, invokes, -, -, -⟩ | ⟨req, reply, err, invokes, -, -⟩ |
    ⟨-, status⟩)
  · exact none req reply invokes
  · exact none req reply invokes
  · rw [succeeded] at status
    cases status

/-- The second call on a context is answered with the result of the first one, for a capability that
it did not ask for. -/
theorem second_call_answered_for_first :
    ¬∀ (fabric : AgentFabric) (start : FabricScene) (history : List FabricCall) (call : FabricCall)
      (res : AgentFabricResult),
      (fabric.calls.answer call (fabric.calls.run history start)).outcome = .ok res →
      OwnResults call.tasks (fabric.askedIn (history ++ [call]) start)
      (fabric.calls.answer call (fabric.calls.run history start)).asked res := by
  intro own
  have returns : ∃ res, (writing.calls.answer (callOf 0 ["publish"])
        (writing.calls.run [callOf 0 ["draft"]] blankScene)).outcome = .ok res ∧
      ∃ given, res.taskResults = [given] ∧ given.status = .succeeded := by
    refine ⟨_, rfl, _, rfl, rfl⟩
  obtain ⟨res, returns, given, only, succeeded⟩ := returns
  have vouched := (own _ _ _ _ res returns).own
  rw [only] at vouched
  obtain ⟨⟨asked, mem, asks, came⟩, -⟩ := List.forall₂_cons.mp vouched
  have quiet : (writing.askedIn [callOf 0 ["draft"], callOf 0 ["publish"]] blankScene).all
      (fun asked => asked.1.call.capabilityId != "publish" ||
        !(asked.1.callSteps asked.2).any Step.invokes) = true := by decide +kernel
  have here := List.all_eq_true.mp quiet asked mem
  rw [asks.capabilityId] at here
  exact not_came (by simpa using here) succeeded came

end examples

end AgentFabric

end Ois.Production
