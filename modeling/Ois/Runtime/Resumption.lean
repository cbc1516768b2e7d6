import Ois.Kernel.State
import Ois.Library.Histories

/-!
# Checkpoints of an execution

`SQLiteExecutionStore` of `runtime/execution_backend.py`. A column of JSON text holds the value that
was written, and what the clock shows comes with a call. How Python writes a set is a parameter.
-/

namespace Ois.Runtime

open Ois.Library Ois.Kernel

inductive ExecutionStatus where
  | ready | running | succeeded | failed
  deriving DecidableEq, Repr

namespace ExecutionStatus

def value : ExecutionStatus → String
  | ready => "ready"
  | running => "running"
  | succeeded => "succeeded"
  | failed => "failed"

instance : StrEnum ExecutionStatus where
  members := [ready, running, succeeded, failed]
  value := value
  complete := by intro mem; cases mem <;> simp
  distinct := by decide

/-- `_VALID_EXECUTION_TRANSITIONS`. -/
def validTransitions : ExecutionStatus → List ExecutionStatus
  | ready => [running]
  | running => [succeeded, failed]
  | succeeded => []
  | failed => []

end ExecutionStatus

structure ExecutionRecord where
  executionId : String
  workflowId : String
  status : ExecutionStatus
  payload : Members
  result : Json := .null
  error : Option Members := none
  checkpoint : Option Members := none
  updatedAt : String
  deriving DecidableEq, Repr

/-- The rows of `executions`, by their identifiers. -/
abbrev ExecutionTable := Dict String ExecutionRecord

section store

variable (reprSet : List String → String)

/-- `_validate_execution_transition(current, target)`. -/
def validateExecutionTransition (cur target : ExecutionStatus) : Except PyError Unit :=
  let allowed := cur.validTransitions
  if target ∈ allowed then .ok ()
  else .error ⟨.other "InvalidStatusTransitionError",
    "Execution status transition '" ++ cur.value ++ "' → '" ++ target.value ++
      "' is not permitted. Allowed: " ++
        (if allowed = [] then "none (terminal state)" else reprSet (allowed.map (·.value))) ++ "."⟩

namespace ExecutionTable

/-- `get(execution_id)`. -/
def get (execId : String) (table : ExecutionTable) : Except PyError ExecutionRecord :=
  match table.lookup execId with
  | some record => .ok record
  | none => .error ⟨.other "ExecutionNotFoundError",
      "Execution '" ++ execId ++ "' not found in store."⟩

/-- `create(execution_id, workflow_id, payload)` at `now`. -/
def create (execId workflowId : String) (body : Members) (now : String)
    (table : ExecutionTable) : ExecutionTable × Except PyError ExecutionRecord :=
  if (table.lookup execId).isSome then
    (table, .error ⟨.other "DuplicateExecutionError", "Execution '" ++ execId ++
      "' already exists. Execution store is append-only."⟩)
  else
    let next := table.set execId
      { executionId := execId, workflowId := workflowId, status := .ready
        payload := body, updatedAt := now }
    (next, get execId next)

def move (execId : String) (target : ExecutionStatus)
    (change : ExecutionRecord → ExecutionRecord) (table : ExecutionTable) :
    ExecutionTable × Except PyError ExecutionRecord :=
  match table.get execId with
  | .error err => (table, .error err)
  | .ok record =>
    match validateExecutionTransition reprSet record.status target with
    | .error err => (table, .error err)
    | .ok () =>
      let next := table.set execId { change record with status := target }
      (next, get execId next)

/-- `checkpoint(execution_id, checkpoint)` at `now`. -/
def checkpoint (execId : String) (checkpoint : Members) (now : String) :
    ExecutionTable → ExecutionTable × Except PyError ExecutionRecord :=
  move reprSet execId .running fun record =>
    { record with checkpoint := some checkpoint, updatedAt := now }

/-- `_set_terminal(...)` at `now`. -/
def setTerminal (execId : String) (target : ExecutionStatus) (res : Json)
    (err : Option Members) (now : String) :
    ExecutionTable → ExecutionTable × Except PyError ExecutionRecord :=
  move reprSet execId target fun record =>
    { record with result := res, error := err, updatedAt := now }

def complete (execId : String) (res : Json) (now : String) :
    ExecutionTable → ExecutionTable × Except PyError ExecutionRecord :=
  setTerminal reprSet execId .succeeded res none now

def fail (execId : String) (err : Members) (now : String) :
    ExecutionTable → ExecutionTable × Except PyError ExecutionRecord :=
  setTerminal reprSet execId .failed .null (some err) now

end ExecutionTable

inductive ExecutionCall where
  | create (execId workflowId : String) (body : Members) (now : String)
  | checkpoint (execId : String) (checkpoint : Members) (now : String)
  | complete (execId : String) (res : Json) (now : String)
  | fail (execId : String) (err : Members) (now : String)
  | get (execId : String)
  deriving DecidableEq, Repr

def executionStore : Machine ExecutionCall ExecutionTable (Except PyError ExecutionRecord)
  | .create execId workflowId body now, table =>
    table.create execId workflowId body now
  | .checkpoint execId checkpoint now, table =>
    table.checkpoint reprSet execId checkpoint now
  | .complete execId res now, table => table.complete reprSet execId res now
  | .fail execId err now, table => table.fail reprSet execId err now
  | .get execId, table => (table, table.get execId)

end store

open Machine

def Open (execId : String) (table : ExecutionTable) : Prop :=
  ∃ record, table.lookup execId = some record ∧
    (record.status = .ready ∨ record.status = .running)

def ExecutionCall.target : ExecutionCall → Option String
  | .create execId _ _ _ => some execId
  | .checkpoint execId _ _ => some execId
  | .complete execId _ _ => some execId
  | .fail execId _ _ => some execId
  | .get _ => none

section resumption

variable (reprSet : List String → String)

/-- Whenever an open execution is checkpointed, this succeeds, and until another call changes it,
the execution is running and has this checkpoint. -/
def Resumable (calls : List ExecutionCall) : Prop :=
  ∀ before execId body now after,
    calls = before ++ .checkpoint execId body now :: after →
      Open execId ((executionStore reprSet).run before []) →
        (∃ record, (executionStore reprSet).answer (.checkpoint execId body now)
          ((executionStore reprSet).run before []) = .ok record) ∧
          ((∀ call ∈ after, call.target ≠ some execId) →
            ∃ record, ((executionStore reprSet).run calls []).get execId = .ok record ∧
              record.status = .running ∧ record.checkpoint = some body)

def Checkpointed (execId : String) (calls : List ExecutionCall) : Prop :=
  Since (fun before call execId => ∃ body now, call = .checkpoint execId body now ∧
        Open execId ((executionStore reprSet).run before []))
    (fun _ _ => False) calls execId

/-- Each open execution that is checkpointed is so for the first time. -/
def CheckpointedOnce (calls : List ExecutionCall) : Prop :=
  ∀ before execId body now after,
    calls = before ++ .checkpoint execId body now :: after →
      Open execId ((executionStore reprSet).run before []) →
        ¬Checkpointed reprSet execId before

variable {reprSet}

theorem ready_of_permitted {cur : ExecutionStatus}
    (permitted : ExecutionStatus.running ∈ cur.validTransitions) : cur = .ready := by
  cases cur with
  | ready => rfl
  | running => simp [ExecutionStatus.validTransitions] at permitted
  | succeeded => cases permitted
  | failed => cases permitted

variable (reprSet) in
theorem move_settles (execId : String) (target : ExecutionStatus)
    (change : ExecutionRecord → ExecutionRecord) (table : ExecutionTable) :
    (∃ err, table.move reprSet execId target change = (table, .error err) ∧
      ∀ record, table.lookup execId = some record →
      target ∉ record.status.validTransitions) ∨
      ∃ record, table.lookup execId = some record ∧
      target ∈ record.status.validTransitions ∧
      table.move reprSet execId target change =
      (table.set execId { change record with status := target },
      .ok { change record with status := target }) := by
  unfold ExecutionTable.move ExecutionTable.get validateExecutionTransition
  cases found : table.lookup execId with
  | none => exact Or.inl ⟨_, rfl, by simp⟩
  | some record =>
    by_cases permitted : target ∈ record.status.validTransitions
    · right
      refine ⟨record, rfl, permitted, ?_⟩
      simp only [if_pos permitted, Dict.lookup_set_same]
    · left
      simp only [if_neg permitted]
      refine ⟨_, rfl, ?_⟩
      intro other same
      rw [← Option.some.inj same]
      exact permitted

theorem lookup_move_other {execId other : String} (unlike : other ≠ execId)
    (target : ExecutionStatus) (change : ExecutionRecord → ExecutionRecord)
    (table : ExecutionTable) :
    (table.move reprSet execId target change).1.lookup other = table.lookup other := by
  cases move_settles reprSet execId target change table with
  | inl refused =>
    obtain ⟨err, same, _⟩ := refused
    rw [same]
  | inr done =>
    obtain ⟨record, _, _, same⟩ := done
    rw [same, Dict.lookup_set, if_neg unlike]

variable {call : ExecutionCall} {execId : String} {calls : List ExecutionCall}

theorem lookup_next_other (unlike : call.target ≠ some execId) (table : ExecutionTable) :
    ((executionStore reprSet).next call table).lookup execId = table.lookup execId := by
  unfold next executionStore
  cases call with
  | create other workflowId body now =>
    have apart : execId ≠ other := fun same => unlike (congrArg some same.symm)
    unfold ExecutionTable.create
    dsimp only
    split_ifs with held
    · rfl
    · rw [Dict.lookup_set, if_neg apart]
  | checkpoint | complete | fail =>
    exact lookup_move_other (fun same => unlike (congrArg some same.symm)) _ _ _
  | get other => rfl

theorem lookup_run_others (others : ∀ call ∈ calls, call.target ≠ some execId)
    (table : ExecutionTable) :
    ((executionStore reprSet).run calls table).lookup execId = table.lookup execId := by
  induction calls generalizing table with
  | nil => rfl
  | cons call rest ih =>
    rw [run, ih fun other mem => others other (List.mem_cons_of_mem _ mem)]
    exact lookup_next_other (others call List.mem_cons_self) table

def Tracks (reprSet : List String → String) (calls : List ExecutionCall)
    (table : ExecutionTable) : Prop :=
  ∀ execId, (table.lookup execId = none → ¬Checkpointed reprSet execId calls) ∧
    ∀ record, table.lookup execId = some record →
      (record.status = .ready → ¬Checkpointed reprSet execId calls) ∧
        (record.status = .running → Checkpointed reprSet execId calls)

theorem checkpointed_concat :
    Checkpointed reprSet execId (calls ++ [call]) ↔
      Checkpointed reprSet execId calls ∨ ∃ body now,
      call = .checkpoint execId body now ∧
      Open execId ((executionStore reprSet).run calls []) := by
  unfold Checkpointed
  rw [since_concat]
  simp

theorem checkpointed_of_other (unlike : ∀ body now, call ≠ .checkpoint execId body now) :
    Checkpointed reprSet execId (calls ++ [call]) ↔
      Checkpointed reprSet execId calls := by
  rw [checkpointed_concat]
  apply or_iff_left
  intro made
  obtain ⟨body, now, same, _⟩ := made
  exact unlike body now same

theorem tracks_terminal {target : ExecutionStatus} {change : ExecutionRecord → ExecutionRecord}
    (terminal : target = .succeeded ∨ target = .failed)
    (unlike : ∀ body now, call ≠ .checkpoint execId body now) {table : ExecutionTable}
    (before : (table.lookup execId = none → ¬Checkpointed reprSet execId calls) ∧
      ∀ record, table.lookup execId = some record →
      (record.status = .ready → ¬Checkpointed reprSet execId calls) ∧
      (record.status = .running → Checkpointed reprSet execId calls)) :
    let after := (table.move reprSet execId target change).1
    (after.lookup execId = none → ¬Checkpointed reprSet execId (calls ++ [call])) ∧
      ∀ record, after.lookup execId = some record →
      (record.status = .ready → ¬Checkpointed reprSet execId (calls ++ [call])) ∧
      (record.status = .running → Checkpointed reprSet execId (calls ++ [call])) := by
  simp only [checkpointed_of_other unlike]
  cases move_settles reprSet execId target change table with
  | inl refused =>
    obtain ⟨err, same, _⟩ := refused
    rw [same]
    exact before
  | inr done =>
    obtain ⟨record, _, _, same⟩ := done
    rw [same]
    dsimp only
    rw [Dict.lookup_set_same]
    constructor
    · intro absent
      cases absent
    · intro other stored
      rw [← Option.some.inj stored]
      cases terminal with
      | inl succeeded => simp [succeeded]
      | inr failed => simp [failed]

theorem tracks_next {table : ExecutionTable}
    (reached : (executionStore reprSet).run calls [] = table)
    (tracks : Tracks reprSet calls table) :
    Tracks reprSet (calls ++ [call]) ((executionStore reprSet).next call table) := by
  intro execId
  have before := tracks execId
  by_cases targets : call.target = some execId
  · cases call with
    | create other workflowId body now =>
      cases targets
      have unlike (given : Members) (moment : String) :
          ExecutionCall.create execId workflowId body now ≠
            .checkpoint execId given moment := by
        intro same
        cases same
      simp only [checkpointed_of_other unlike]
      unfold next executionStore ExecutionTable.create
      dsimp only
      split_ifs with held
      · exact before
      · rw [Dict.lookup_set_same]
        constructor
        · intro absent
          cases absent
        · intro record stored
          rw [← Option.some.inj stored]
          exact ⟨fun _ => before.1 (Option.not_isSome_iff_eq_none.mp held),
            fun running => by cases running⟩
    | checkpoint other body now =>
      cases targets
      rw [checkpointed_concat, reached]
      unfold next executionStore ExecutionTable.checkpoint
      dsimp only
      cases move_settles reprSet execId .running
          (fun record => { record with checkpoint := some body, updatedAt := now })
          table with
      | inl refused =>
        obtain ⟨err, same, forbidden⟩ := refused
        rw [same]
        constructor
        · intro absent made
          cases made with
          | inl past => exact before.1 absent past
          | inr last =>
            obtain ⟨_, _, _, record, found, _⟩ := last
            rw [absent] at found
            cases found
        · intro record found
          constructor
          · intro ready
            have refuses := forbidden record found
            rw [ready] at refuses
            exact absurd (List.mem_singleton.mpr rfl) refuses
          · exact fun running => Or.inl ((before.2 record found).2 running)
      | inr done =>
        obtain ⟨record, found, permitted, same⟩ := done
        rw [same]
        dsimp only
        rw [Dict.lookup_set_same]
        constructor
        · intro absent
          cases absent
        · intro other stored
          rw [← Option.some.inj stored]
          constructor
          · intro ready
            cases ready
          · intro _
            right
            refine ⟨body, now, rfl, record, found, Or.inl ?_⟩
            exact ready_of_permitted permitted
    | complete other res now =>
      cases targets
      exact tracks_terminal (Or.inl rfl) (fun body now same => by cases same) before
    | fail other err now =>
      cases targets
      exact tracks_terminal (Or.inr rfl) (fun body now same => by cases same) before
    | get other => cases targets
  · have unlike (body : Members) (now : String) :
        call ≠ .checkpoint execId body now := by
      intro same
      exact targets (by rw [same]; rfl)
    rw [lookup_next_other targets]
    simp only [checkpointed_of_other unlike]
    exact before

variable (reprSet) in
theorem tracks_run (calls : List ExecutionCall) :
    Tracks reprSet calls ((executionStore reprSet).run calls []) := by
  induction calls using List.reverseRecOn with
  | nil =>
    intro execId
    constructor
    · exact fun _ => since_nil _ _ _
    · intro record found
      cases found
  | append_singleton past call ih =>
    rw [run_concat]
    exact tracks_next rfl ih

theorem checkpoint_of_open {calls : List ExecutionCall} {execId : String}
    (body : Members) (now : String)
    (opened : Open execId ((executionStore reprSet).run calls [])) :
    (Checkpointed reprSet execId calls ∧
      ∃ err, executionStore reprSet (.checkpoint execId body now)
      ((executionStore reprSet).run calls []) =
      ((executionStore reprSet).run calls [], .error err)) ∨
      (¬Checkpointed reprSet execId calls ∧
      ∃ record : ExecutionRecord, record.status = .running ∧ record.checkpoint = some body ∧
      executionStore reprSet (.checkpoint execId body now)
      ((executionStore reprSet).run calls []) =
      (((executionStore reprSet).run calls []).set execId record, .ok record)) := by
  obtain ⟨held, found, status⟩ := opened
  have tracks := (tracks_run reprSet calls execId).2 held found
  cases move_settles reprSet execId .running
      (fun record => { record with checkpoint := some body, updatedAt := now })
      ((executionStore reprSet).run calls []) with
  | inl refused =>
    obtain ⟨err, same, forbidden⟩ := refused
    cases status with
    | inl ready =>
      have refuses := forbidden held found
      rw [ready] at refuses
      exact absurd (List.mem_singleton.mpr rfl) refuses
    | inr running => exact Or.inl ⟨tracks.2 running, err, same⟩
  | inr done =>
    obtain ⟨record, again, permitted, same⟩ := done
    rw [found] at again
    rw [← Option.some.inj again] at permitted same
    exact Or.inr ⟨tracks.1 (ready_of_permitted permitted), _, rfl, rfl, same⟩

variable (reprSet)

/-- Executions can be resumed from all their checkpoints exactly if each has only one. -/
theorem resumable_iff (calls : List ExecutionCall) :
    Resumable reprSet calls ↔ CheckpointedOnce reprSet calls := by
  constructor
  · intro resumable before execId body now after split opened
    have taken := (resumable before execId body now after split opened).1
    cases checkpoint_of_open body now opened with
    | inl again =>
      obtain ⟨_, err, same⟩ := again
      obtain ⟨record, answered⟩ := taken
      rw [answer, same] at answered
      cases answered
    | inr first => exact first.1
  · intro once before execId body now after split opened
    have first := once before execId body now after split opened
    cases checkpoint_of_open body now opened with
    | inl again => exact absurd again.1 first
    | inr done =>
      obtain ⟨_, record, running, stored, same⟩ := done
      constructor
      · exact ⟨record, by rw [answer, same]⟩
      · intro others
        refine ⟨record, ?_, running, stored⟩
        have kept : ((executionStore reprSet).run calls []).lookup execId = some record := by
          rw [split, run_append, run, lookup_run_others others, next, same]
          exact Dict.lookup_set_same ..
        unfold ExecutionTable.get
        rw [kept]

end resumption

/-- An execution is checkpointed after each of two steps. -/
theorem second_checkpoint_refused :
    ¬Resumable (fun _ => "") [.create "exec_001" "wf" [] "t0",
      .checkpoint "exec_001" [("step", .int 1)] "t1",
      .checkpoint "exec_001" [("step", .int 2)] "t2"] := by
  intro resumable
  obtain ⟨⟨record, answered⟩, _⟩ := resumable
    [.create "exec_001" "wf" [] "t0", .checkpoint "exec_001" [("step", .int 1)] "t1"]
    "exec_001" [("step", .int 2)] "t2" [] rfl
    ⟨_, rfl, Or.inr rfl⟩
  cases answered

end Ois.Runtime
