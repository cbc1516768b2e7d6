import Ois.Kernel.Types
import Ois.Library.Command
import Ois.Library.Dict
import Ois.Sources.PollingAdapter

/-!
# The source fabric

`infrastructure/source_registry.py`. A source is filed under its tenant, its workspace and its
identifier.
-/

namespace Ois.Sources

open Ois.Library Ois.Kernel

inductive SourceStatus where
  | registered | enabled | paused | degraded | disabled
  deriving DecidableEq, Repr

namespace SourceStatus

def value : SourceStatus → String
  | registered => "registered"
  | enabled => "enabled"
  | paused => "paused"
  | degraded => "degraded"
  | disabled => "disabled"

/-- `_ALLOWED_TRANSITIONS`. -/
def allowed : SourceStatus → List SourceStatus
  | registered => [enabled, disabled]
  | enabled => [paused, degraded, disabled]
  | paused => [enabled, disabled]
  | degraded => [enabled, paused, disabled]
  | disabled => [registered]

end SourceStatus

inductive SourceMode where
  | poll | webhook | push
  deriving DecidableEq, Repr

structure SourceKey where
  tenantId : String
  workspaceId : String
  sourceId : String
  deriving DecidableEq, Repr

structure SourceDefinition where
  sourceId : String
  tenantId : String
  workspaceId : String
  provider : String
  mode : SourceMode
  credentialId : Option String := none
  status : SourceStatus := .enabled
  required : tenantId ≠ "" ∧ workspaceId ≠ "" ∧ sourceId ≠ "" ∧ provider ≠ "" := by decide
  deriving DecidableEq, Repr

/-- The message is the `repr` of the text, as for every `KeyError`. -/
def notRegistered (sourceId : String) : PyError :=
  ⟨.other "KeyError", Kernel.reprStr ("source not registered: " ++ sourceId)⟩

def alreadyRegistered (sourceId : String) : PyError :=
  ⟨.valueError, "source already registered: " ++ sourceId⟩

def transitionRefused (cur target : SourceStatus) : PyError :=
  ⟨.valueError, "invalid source lifecycle transition: " ++ cur.value ++ " -> " ++ target.value⟩

namespace SourceDefinition

def key (defn : SourceDefinition) : SourceKey :=
  ⟨defn.tenantId, defn.workspaceId, defn.sourceId⟩

/-- `transition(target)`. -/
def transition (target : SourceStatus) (defn : SourceDefinition) :
    Except PyError SourceDefinition :=
  if target = defn.status then .ok defn
  else if target ∉ defn.status.allowed then
    .error (transitionRefused defn.status target)
  else .ok { defn with status := target }

theorem transition_ok {target : SourceStatus} {defn updated : SourceDefinition}
    (done : defn.transition target = .ok updated) :
    updated = { defn with status := target } := by
  unfold transition at done
  split_ifs at done with same refused
  · rw [← Except.ok.inj done, same]
  · exact (Except.ok.inj done).symm

theorem transition_key {target : SourceStatus} {defn updated : SourceDefinition}
    (done : defn.transition target = .ok updated) : updated.key = defn.key := by
  rw [transition_ok done]
  rfl

theorem transition_error {target : SourceStatus} {defn : SourceDefinition}
    {err : PyError} (refused : defn.transition target = .error err) :
    err = transitionRefused defn.status target ∧ target ≠ defn.status ∧
      target ∉ defn.status.allowed := by
  unfold transition at refused
  split_ifs at refused with same outside
  exact ⟨(Except.error.inj refused).symm, same, outside⟩

end SourceDefinition

theorem SourceDefinition.no_keys : (([] : List SourceDefinition).map (·.key)).Nodup :=
  List.nodup_nil

structure SourceRegistry where
  rows : List SourceDefinition := []
  distinct : (rows.map (·.key)).Nodup := by first | exact SourceDefinition.no_keys | decide
  deriving DecidableEq, Repr

namespace SourceRegistry

variable (key : SourceKey) (defn : SourceDefinition) (reg : SourceRegistry)

def replaced (row : SourceDefinition) : SourceDefinition :=
  if row.key = defn.key then defn else row

theorem replaced_key (row : SourceDefinition) : (replaced defn row).key = row.key := by
  unfold replaced
  split_ifs with same
  · exact same.symm
  · rfl

theorem keys_replaced (rows : List SourceDefinition) :
    (rows.map (replaced defn)).map (·.key) = rows.map (·.key) := by
  rw [List.map_map]
  apply List.map_congr_left
  intro row _
  exact replaced_key defn row

/-- `put(source)`. -/
def put : SourceRegistry :=
  if held : defn.key ∈ reg.rows.map (·.key) then
    ⟨reg.rows.map (replaced defn), by
      rw [keys_replaced]
      exact reg.distinct⟩
  else ⟨reg.rows ++ [defn], nodup_map_concat reg.distinct held⟩

/-- `get(tenant_id, workspace_id, source_id)`. -/
def get : Option SourceDefinition := reg.rows.find? (·.key = key)

/-- `delete(tenant_id, workspace_id, source_id)`. -/
def delete : SourceRegistry :=
  ⟨reg.rows.filter (·.key ≠ key), reg.distinct.sublist (List.filter_sublist.map _)⟩

variable {key defn reg}

theorem key_of_get (found : reg.get key = some defn) : defn.key = key := by
  simpa using List.find?_some found

theorem find_replaced (rows : List SourceDefinition) :
    (rows.map (replaced defn)).find? (·.key = key) =
      if key = defn.key then (rows.find? (·.key = key)).map fun _ => defn
      else rows.find? (·.key = key) := by
  induction rows with
  | nil => simp
  | cons row rest ih =>
    rw [List.map_cons, List.find?_cons, List.find?_cons, replaced_key, ih]
    by_cases here : row.key = key
    · simp only [here, decide_true]
      unfold replaced
      rw [here]
      split_ifs <;> rfl
    · simp only [here, decide_false]

theorem get_put : (reg.put defn).get key =
    if key = defn.key then some defn else reg.get key := by
  unfold put get
  split_ifs with held same same
  · simp only [find_replaced, if_pos same]
    obtain ⟨row, mem, own⟩ := List.mem_map.mp held
    have found : (reg.rows.find? (·.key = key)).isSome := by
      rw [List.find?_isSome]
      exact ⟨row, mem, by simp [own, same]⟩
    obtain ⟨other, present⟩ := Option.isSome_iff_exists.mp found
    rw [present]
    rfl
  · simp only [find_replaced, if_neg same]
  · have absent : reg.rows.find? (·.key = key) = none := by
      rw [List.find?_eq_none]
      intro row mem own
      apply held
      rw [← same, ← of_decide_eq_true own]
      exact List.mem_map_of_mem mem
    rw [List.find?_append, absent]
    simp [same]
  · rw [List.find?_append]
    have other : ¬defn.key = key := fun equal => same equal.symm
    simp [other]

end SourceRegistry

namespace SourceControl

variable (key : SourceKey) (reg : SourceRegistry)

/-- `SourceControlAPI.get(...)`. -/
def get : Except PyError SourceDefinition :=
  match reg.get key with
  | none => .error (notRegistered key.sourceId)
  | some source => .ok source

/-- `SourceControlAPI.register(source)`: the definition that is stored. -/
def register (source : SourceDefinition) : Except PyError SourceDefinition :=
  match reg.get source.key with
  | none => .ok { source with status := .registered }
  | some existing =>
    if existing.status ≠ .disabled then .error (alreadyRegistered source.sourceId)
    else .ok { source with status := .registered }

/-- `SourceControlAPI.transition(...)`: the definition that is stored. -/
def transition (target : SourceStatus) : Except PyError SourceDefinition := do
  let source ← get key reg
  source.transition target

variable {key reg}

theorem transition_of_get {source : SourceDefinition} (found : reg.get key = some source)
    (target : SourceStatus) : transition key reg target = source.transition target := by
  unfold transition get
  rw [found]
  rfl

theorem transition_ok {target : SourceStatus} {updated : SourceDefinition}
    (done : transition key reg target = .ok updated) :
    updated.key = key ∧ updated.status = target := by
  cases found : reg.get key with
  | none =>
    unfold transition get at done
    rw [found] at done
    cases done
  | some source =>
    rw [transition_of_get found] at done
    apply And.intro
    · exact (SourceDefinition.transition_key done).trans (SourceRegistry.key_of_get found)
    · rw [SourceDefinition.transition_ok done]

theorem get_ok {source : SourceDefinition} :
    get key reg = .ok source ↔ reg.get key = some source := by
  unfold get
  cases reg.get key with
  | none => simp
  | some other => simp

end SourceControl

structure SourceAdapter where
  sourceId : String
  deriving DecidableEq, Repr

structure AdapterRun where
  drafts : List SourceRequest := []
  result : Except PyError AdapterResult
  deriving DecidableEq, Repr

structure PollingJob where
  sourceId : String
  adapter : SourceAdapter
  tenantId : String
  workspaceId : String
  credentialId : Option String := none
  deriving DecidableEq, Repr

namespace PollingJob

def key (job : PollingJob) : SourceKey := ⟨job.tenantId, job.workspaceId, job.sourceId⟩

/-- The request of an adapter that was handed the scope of the job. -/
def request (job : PollingJob) (draft : SourceRequest) : SourceRequest :=
  { draft with tenantId := job.tenantId, workspaceId := job.workspaceId }

end PollingJob

structure SourceHealthSnapshot where
  healthy : Bool
  consecutiveFailures : Nat := 0
  lastError : Option String := none
  deriving DecidableEq, Repr

inductive FabricEffect where
  | ran (job : PollingJob)
  | ingested (request : SourceRequest)
  | checked (key : SourceKey) (healthy : Bool)
  | moved (key : SourceKey) (status : SourceStatus)
  deriving DecidableEq, Repr

structure Fabric where
  registry : SourceRegistry := {}
  adapters : List SourceAdapter := []
  jobs : List PollingJob := []
  health : Dict SourceKey SourceHealthSnapshot := []
  effects : List FabricEffect := []
  deriving DecidableEq, Repr

structure RetryPolicy where
  maxAttempts : Nat := 4
  positive : 0 < maxAttempts := by decide
  deriving Repr

structure RetryDecision where
  retry : Bool
  attempt : Nat
  reason : String
  deriving DecidableEq, Repr

structure SourceFabricRun where
  sourceId : String
  result : Option AdapterResult
  attempts : Nat
  retries : List RetryDecision := []
  error : Option String := none
  deriving DecidableEq, Repr

def adapterTaken (sourceId : String) : PyError :=
  ⟨.valueError, "source adapter already registered: " ++ sourceId⟩

def adapterMissing (sourceId : String) : PyError :=
  ⟨.other "KeyError", Kernel.reprStr ("source adapter not registered: " ++ sourceId)⟩

def jobTaken (sourceId : String) : PyError :=
  ⟨.valueError, "polling job already registered: " ++ sourceId⟩

def jobMissing (sourceId : String) : PyError :=
  ⟨.other "KeyError", Kernel.reprStr ("polling job not registered: " ++ sourceId)⟩

def notRetryable (source : SourceDefinition) : PyError :=
  ⟨.other "PermissionError", "source is not retryable: " ++ source.sourceId ++ " (" ++
    source.status.value ++ ")"⟩

def notPolled (sourceId : String) : PyError :=
  ⟨.valueError, "source is not configured for polling: " ++ sourceId⟩

def attemptsExceeded : PyError :=
  ⟨.other "AssertionError", "retry controller exceeded its configured attempt bound"⟩

/-- `_require_retryable(...)`. -/
def requireRetryable (key : SourceKey) (reg : SourceRegistry) :
    Except PyError SourceDefinition := do
  let source ← SourceControl.get key reg
  if source.status ≠ .enabled ∧ source.status ≠ .degraded then .error (notRetryable source)
  else return source

def requirePollable (key : SourceKey) (reg : SourceRegistry) :
    Except PyError SourceDefinition := do
  let source ← requireRetryable key reg
  if source.mode ≠ .poll then .error (notPolled key.sourceId) else return source

section required

variable {key : SourceKey} {reg : SourceRegistry} {source : SourceDefinition}

theorem require_retryable_ok :
    requireRetryable key reg = .ok source ↔
      reg.get key = some source ∧ (source.status = .enabled ∨ source.status = .degraded) := by
  unfold requireRetryable SourceControl.get
  cases found : reg.get key with
  | none => simp [bind, Except.bind]
  | some other =>
    by_cases status : other.status ≠ .enabled ∧ other.status ≠ .degraded
    · simp only [bind, Except.bind, if_pos status, reduceCtorEq, Option.some.injEq, false_iff]
      rintro ⟨rfl, enabled | degraded⟩
      · exact status.1 enabled
      · exact status.2 degraded
    · simp only [bind, Except.bind, if_neg status, pure, Except.pure, Except.ok.injEq,
        Option.some.injEq, iff_self_and]
      rintro rfl
      rwa [not_and_or, not_not, not_not] at status

theorem require_pollable_ok :
    requirePollable key reg = .ok source ↔ reg.get key = some source ∧
      (source.status = .enabled ∨ source.status = .degraded) ∧ source.mode = .poll := by
  rw [← and_assoc, ← require_retryable_ok]
  unfold requirePollable
  cases requireRetryable key reg with
  | error err => simp [bind, Except.bind]
  | ok other =>
    by_cases mode : other.mode = .poll
    · simp only [bind, Except.bind, mode, ne_eq, not_true_eq_false, if_false, pure,
        Except.pure, Except.ok.injEq, iff_self_and]
      rintro rfl
      exact mode
    · simp only [bind, Except.bind, ne_eq, mode, not_false_eq_true, if_true, reduceCtorEq,
        Except.ok.injEq, false_iff, not_and]
      rintro rfl
      exact mode

end required

abbrev FabricCommand (Value : Type) := Command PyError Fabric Value

namespace Fabric

def job? (sourceId : String) (fabric : Fabric) : Option PollingJob :=
  fabric.jobs.find? (·.sourceId = sourceId)

def did (effects : List FabricEffect) (fabric : Fabric) : Fabric :=
  { fabric with effects := fabric.effects ++ effects }

def controlGet (key : SourceKey) : FabricCommand SourceDefinition := do
  MonadExcept.ofExcept (SourceControl.get key (← get).registry)

def controlRegister (source : SourceDefinition) : FabricCommand SourceDefinition := do
  let registered ← MonadExcept.ofExcept (SourceControl.register (← get).registry source)
  modify fun fabric => { fabric with registry := fabric.registry.put registered }
  controlGet source.key

def controlTransition (key : SourceKey) (target : SourceStatus) :
    FabricCommand SourceDefinition := do
  let updated ← MonadExcept.ofExcept (SourceControl.transition key (← get).registry target)
  modify fun fabric =>
    { fabric with registry := fabric.registry.put updated }.did [.moved key target]
  controlGet key

/-- `ApiSourceSocket.register(adapter)`. -/
def socketRegister (adapter : SourceAdapter) : FabricCommand Unit := do
  if (← get).adapters.any (·.sourceId = adapter.sourceId) then
    throw (adapterTaken adapter.sourceId)
  modify fun fabric => { fabric with adapters := fabric.adapters ++ [adapter] }

/-- `PollingEngine.register(job)`. -/
def pollingRegister (job : PollingJob) : FabricCommand Unit := do
  if ((← get).job? job.sourceId).isSome then throw (jobTaken job.sourceId)
  modify fun fabric => { fabric with jobs := fabric.jobs ++ [job] }

/-- `register(source, adapter)`. -/
def register (source : SourceDefinition) (adapter : SourceAdapter) :
    FabricCommand SourceDefinition := do
  let defn ← controlRegister source
  socketRegister adapter
  if defn.mode = .poll then
    pollingRegister
      { sourceId := defn.sourceId, adapter := adapter, tenantId := defn.tenantId
        workspaceId := defn.workspaceId, credentialId := defn.credentialId }
  return defn

/-- `SourceControlAPI.delete(...)`. -/
def controlDelete (key : SourceKey) : FabricCommand Unit := do
  let _ ← controlGet key
  modify fun fabric => { fabric with registry := fabric.registry.delete key }

/-- `ApiSourceSocket.unregister(source_id)`. -/
def socketUnregister (sourceId : String) : FabricCommand Unit := do
  if (← get).adapters.all (·.sourceId ≠ sourceId) then throw (adapterMissing sourceId)
  modify fun fabric =>
    { fabric with adapters := fabric.adapters.filter (·.sourceId ≠ sourceId) }

/-- `PollingEngine.unregister(source_id)`. -/
def pollingUnregister (sourceId : String) : FabricCommand Unit := do
  if ((← get).job? sourceId).isNone then throw (jobMissing sourceId)
  modify fun fabric => { fabric with jobs := fabric.jobs.filter (·.sourceId ≠ sourceId) }

/-- `SourceHealthRegistry.record(...)`. -/
def recordHealth (key : SourceKey) (healthy : Bool) (err : Option String) :
    FabricCommand SourceHealthSnapshot := do
  let previous := (← get).health.lookup key
  let snapshot : SourceHealthSnapshot :=
    { healthy := healthy
      consecutiveFailures :=
        if healthy then 0 else (previous.elim 0 (·.consecutiveFailures)) + 1
      lastError := if healthy then none else err }
  modify fun fabric =>
    { fabric with health := fabric.health.set key snapshot }.did [.checked key healthy]
  return snapshot

/-- Records the health of a source, which moves to `target` if the definition shows `shown`. -/
def recordAndMove (healthy : Bool) (err : Option String) (shown target : SourceStatus)
    (defn : SourceDefinition) : FabricCommand SourceHealthSnapshot := do
  let snapshot ← recordHealth defn.key healthy err
  if defn.status = shown then
    let _ ← controlTransition defn.key target
  return snapshot

/-- `_record_success(definition)`. -/
def recordSuccess (defn : SourceDefinition) : FabricCommand SourceHealthSnapshot :=
  recordAndMove true none .degraded .enabled defn

/-- `_record_failure(definition, error=error)`. -/
def recordFailure (err : String) (defn : SourceDefinition) :
    FabricCommand SourceHealthSnapshot :=
  recordAndMove false (some err) .enabled .degraded defn

/-- `PollingEngine.run_once(source_id)`: the result, or the text of the exception. -/
def runOnce (run : AdapterRun) (sourceId : String) :
    FabricCommand (Except String AdapterResult) := do
  match (← get).job? sourceId with
  | none => throw ⟨.other "KeyError", Kernel.reprStr sourceId⟩
  | some job =>
    modify (did (.ran job :: run.drafts.map fun draft => .ingested (job.request draft)))
    return run.result.mapError fun err => err.kind.name ++ ": " ++ err.message

/-- `_run_poll(...)`. -/
def runPoll (run : AdapterRun) (key : SourceKey) : FabricCommand SourceFabricRun := do
  let out ← runOnce run key.sourceId
  let defn ← controlGet key
  match out with
  | .ok res =>
    let _ ← recordSuccess defn
    return { sourceId := key.sourceId, result := some res, attempts := 1 }
  | .error err =>
    let _ ← recordFailure err defn
    return { sourceId := key.sourceId, result := none, attempts := 1, error := some err }

def requirePolled (key : SourceKey) : FabricCommand SourceDefinition := do
  MonadExcept.ofExcept (requirePollable key (← get).registry)

/-- `poll_once(...)`. -/
def pollOnce (key : SourceKey) (run : AdapterRun) : FabricCommand SourceFabricRun := do
  let _ ← requirePolled key
  runPoll run key

/-- The `for` of `poll_with_retry`, where `left` rounds are left. -/
def pollAttempts (policy : RetryPolicy) (key : SourceKey) (runs : Nat → AdapterRun) :
    (left attempt : Nat) → List RetryDecision → FabricCommand SourceFabricRun
  | 0, _, _ => throw attemptsExceeded
  | left + 1, attempt, retries => do
    let run ← runPoll (runs attempt) key
    match run.error with
    | none =>
      return { sourceId := key.sourceId, result := run.result, attempts := attempt
               retries := retries }
    | some err =>
      let retry := decide (attempt < policy.maxAttempts)
      let decided := retries ++ [⟨retry, attempt, err⟩]
      if retry then pollAttempts policy key runs left (attempt + 1) decided
      else return { sourceId := key.sourceId, result := none, attempts := attempt
                    retries := decided, error := some err }

/-- `poll_with_retry(...)`. -/
def pollWithRetry (policy : RetryPolicy) (key : SourceKey) (runs : Nat → AdapterRun) :
    FabricCommand SourceFabricRun := do
  let _ ← requirePolled key
  pollAttempts policy key runs policy.maxAttempts 1 []

end Fabric

/-- A call of the fabric, or of the control, the socket and the engine that it composes. -/
inductive FabricCall where
  | register (source : SourceDefinition) (adapter : SourceAdapter)
  | transition (key : SourceKey) (target : SourceStatus)
  | delete (key : SourceKey)
  | unregisterAdapter (sourceId : String)
  | unregisterJob (sourceId : String)
  | pollOnce (key : SourceKey) (run : AdapterRun)
  | pollWithRetry (key : SourceKey) (runs : Nat → AdapterRun)

inductive FabricValue where
  | definition (source : SourceDefinition)
  | done
  | run (run : SourceFabricRun)
  deriving DecidableEq, Repr

def FabricCall.command (policy : RetryPolicy) : FabricCall → FabricCommand FabricValue
  | .register source adapter => do return .definition (← Fabric.register source adapter)
  | .transition key target => do return .definition (← Fabric.controlTransition key target)
  | .delete key => do
    Fabric.controlDelete key
    return .done
  | .unregisterAdapter sourceId => do
    Fabric.socketUnregister sourceId
    return .done
  | .unregisterJob sourceId => do
    Fabric.pollingUnregister sourceId
    return .done
  | .pollOnce key run => do return .run (← Fabric.pollOnce key run)
  | .pollWithRetry key runs => do return .run (← Fabric.pollWithRetry policy key runs)

def sourceFabric (policy : RetryPolicy) :
    Machine FabricCall Fabric (Except PyError FabricValue) :=
  fun call fabric =>
    ((call.command policy).stateAfter fabric, (call.command policy).outcome fabric)

end Ois.Sources
