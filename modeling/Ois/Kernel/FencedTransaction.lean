import Mathlib.Data.Finset.Card
import Mathlib.Data.List.Range
import Ois.Library.Command
import Ois.Kernel.PyValues

/-!
# Retries of a fenced transaction

`execute_fenced_transaction` of `production_resilience.py`. Every awaited step may raise, and a
step that ends in a `COMMIT` may raise after the commit has taken effect.
-/

namespace Ois.Kernel

open Ois.Library

/-- An exception out of an awaited step: `psycopg.OperationalError` or `OSError`,
`FencingTokenMismatch`, or another one. -/
inductive StepFault where
  | transient (msg : String)
  | fencing (msg : String)
  | other (name msg : String)
  deriving DecidableEq, Repr

inductive TransactionError where
  | raised (fault : StepFault)
  | retryExhausted
  deriving DecidableEq, Repr

/-- How a step that ends in a `COMMIT` ends. -/
inductive CommitEnd where
  | done
  | refused (fault : StepFault)
  /-- The commit took effect, and the step raised after it. -/
  | unacknowledged (fault : StepFault)
  deriving DecidableEq, Repr

namespace CommitEnd

def fault? : CommitEnd → Option StepFault
  | done => none
  | refused fault => some fault
  | unacknowledged fault => some fault

def tookEffect : CommitEnd → Bool
  | done => true
  | refused _ => false
  | unacknowledged _ => true

end CommitEnd

def heartbeatFault : StepFault := .fencing "RC-05 heartbeat lost during protected operation"

structure TransactionAttempt (Result Effect : Type) where
  asserted : Option StepFault := none
  connected : Option StepFault := none
  tenantSet : Option StepFault := none
  assertedInside : Option StepFault := none
  operation : Option StepFault := none
  result : Result
  /-- What the operation changes within its transaction. -/
  effect : Effect
  heartbeatLost : Bool := false
  assertedLast : Option StepFault := none
  commit : CommitEnd := .done
  /-- Leaving the cursor and the connection. -/
  closed : Option StepFault := none
  success : CommitEnd := .done
  /-- `elapsed >= ctx.retry_deadline_s`, by the clock of the handler. -/
  overdue : Bool := false
  deadLetter : CommitEnd := .done
  deadLetterEvidence : CommitEnd := .done
  /-- The bits of the delay that is drawn. -/
  delay : UInt64 := 0
  retryEvidence : CommitEnd := .done
  slept : Option StepFault := none
  fencingEvidence : CommitEnd := .done

def firstFault (faults : List (Option StepFault)) : Option StepFault := faults.findSome? id

namespace TransactionAttempt

variable {Result Effect : Type} (attempt : TransactionAttempt Result Effect)

def entering : List (Option StepFault) :=
  [attempt.asserted, attempt.connected, attempt.tenantSet, attempt.assertedInside]

def protecting : List (Option StepFault) :=
  [attempt.operation, if attempt.heartbeatLost = true then some heartbeatFault else none,
    attempt.assertedLast]

def Starts : Prop := firstFault attempt.entering = none

def Commits : Prop :=
  firstFault (attempt.entering ++ attempt.protecting) = none ∧ attempt.commit.tookEffect = true

/-- The fault that ends the `try` block. -/
def fault : Option StepFault :=
  firstFault (attempt.entering ++ attempt.protecting ++
    [attempt.commit.fault?, attempt.closed, attempt.success.fault?])

instance : Decidable attempt.Starts := inferInstanceAs (Decidable (_ = _))

instance : Decidable attempt.Commits := inferInstanceAs (Decidable (_ ∧ _))

end TransactionAttempt

structure KernelTaskContext where
  tenantId : String
  threadId : String
  maxRetries : Int := 3
  deriving DecidableEq, Repr

/-- A row of `ois_kernel_dead_letter_queue`. -/
structure DeadLetter where
  tenantId : String
  threadId : String
  lastScenarioId : String
  errorDiagnosticLog : String
  frozenContextData : Json.Text
  contextHash : String
  cryptographicSealSignature : String
  deriving DecidableEq, Repr

structure TransactionRecords (Effect : Type) where
  starts : Nat := 0
  committed : List Effect := []
  evidence : List (String × Members) := []
  deadLetters : List DeadLetter := []
  deriving DecidableEq, Repr

/-- The `sha256` of a text, the HMAC of a text under the secret, and whether there is a
recovery pool. -/
structure OISProductionResilience where
  sha256 : Json.Text → String
  attested : String → String
  recoveryPool : Bool

/-- The arguments of a call, with what it meets. -/
structure FencedCall (Result Effect : Type) where
  context : KernelTaskContext
  scenarioId : String
  stateDump : Members
  /-- The fencing token of the lease, or why there is none. -/
  acquired : Except StepFault Nat
  attempts : Nat → TransactionAttempt Result Effect

namespace OISProductionResilience

section calls

variable {Result Effect : Type}

abbrev Operation (Effect Value : Type) :=
  Command TransactionError (TransactionRecords Effect) Value

def await (fault : Option StepFault) : Operation Effect Unit :=
  match fault with
  | none => pure ()
  | some fault => throw (.raised fault)

def awaitAll : List (Option StepFault) → Operation Effect Unit
  | [] => pure ()
  | fault :: rest => do
    await fault
    awaitAll rest

/-- A step that ends in a `COMMIT` of a record. -/
def committing (ended : CommitEnd)
    (record : TransactionRecords Effect → TransactionRecords Effect) : Operation Effect Unit :=
  match ended with
  | .done => modify record
  | .refused fault => throw (.raised fault)
  | .unacknowledged fault => do
    modify record
    throw (.raised fault)

/-- `PostgresEvidenceChain.append`. -/
def appendEvidence (ended : CommitEnd) (kind : String) (ctx : Members) :
    Operation Effect Unit :=
  committing ended fun records =>
    { records with evidence := records.evidence ++ [(kind, ctx)] }

variable (kernel : OISProductionResilience) (call : FencedCall Result Effect)

def deadLetterOf (msg : String) : DeadLetter :=
  let canonical := Json.dumpsSorted (.obj call.stateDump)
  let contextHash := kernel.sha256 canonical
  { tenantId := call.context.tenantId
    threadId := call.context.threadId
    lastScenarioId := call.scenarioId
    errorDiagnosticLog := msg
    frozenContextData := canonical
    contextHash := contextHash
    cryptographicSealSignature := kernel.attested (call.context.tenantId ++ ":" ++
      call.context.threadId ++ ":" ++ call.scenarioId ++ ":" ++ contextHash) }

/-- `_write_dlq`. -/
def writeDlq (ended : CommitEnd) (msg : String) : Operation Effect Unit :=
  if kernel.recoveryPool = false then
    throw (.raised (.other "RecoverySinkUnavailable"
      "RC-04 durable recovery_pool is not configured"))
  else
    committing ended fun records =>
      { records with deadLetters := records.deadLetters ++ [kernel.deadLetterOf call msg] }

/-- The `try` block. Only a commit leaves something in the database: a fault before it rolls
back what the operation has done. -/
def body (token : Nat) (attempt : TransactionAttempt Result Effect) :
    Operation Effect Result := do
  awaitAll attempt.entering
  modify fun records => { records with starts := records.starts + 1 }
  awaitAll attempt.protecting
  committing attempt.commit fun records =>
    { records with committed := records.committed ++ [attempt.effect] }
  await attempt.closed
  appendEvidence attempt.success "TRANSACTION_SUCCESS"
    [("scenario_id", .str call.scenarioId), ("fencing_token", .int token)]
  return attempt.result

def giveUp (attempt : TransactionAttempt Result Effect) (retryCount : Nat) (msg : String) :
    Operation Effect Result := do
  kernel.writeDlq call attempt.deadLetter msg
  appendEvidence attempt.deadLetterEvidence "RECOVERY_DLQ"
    [("scenario_id", .str call.scenarioId), ("retry_count", .int retryCount)]
  throw .retryExhausted

/-- The handler of a fault that leaves a retry. `2**retry_count` has to fit a double. -/
def backOff (attempt : TransactionAttempt Result Effect) (retryCount : Nat) :
    Operation Effect Unit := do
  if 1024 ≤ retryCount then
    throw (.raised (.other "OverflowError" "int too large to convert to float"))
  else
    appendEvidence attempt.retryEvidence "RECOVERY_RETRY"
      [("scenario_id", .str call.scenarioId), ("retry_count", .int retryCount),
        ("delay_s", .float attempt.delay)]
    await attempt.slept

/-- The handler of `FencingTokenMismatch`. -/
def reject (token : Nat) (attempt : TransactionAttempt Result Effect) (msg : String) :
    Operation Effect Result := do
  appendEvidence attempt.fencingEvidence "RC05_FENCING_REJECTED"
    [("scenario_id", .str call.scenarioId), ("fencing_token", .int token)]
  throw (.raised (.fencing msg))

/-- The loop, from the pass after `retryCount` retries on. -/
def loopFrom (token retryCount : Nat) : Operation Effect Result :=
  let attempt := call.attempts retryCount
  tryCatch (body call token attempt) fun err =>
    match err with
    | .raised (.transient msg) =>
      if spent : call.context.maxRetries < retryCount + 1 ∨ attempt.overdue = true then
        kernel.giveUp call attempt (retryCount + 1) msg
      else do
        backOff call attempt (retryCount + 1)
        loopFrom token (retryCount + 1)
    | .raised (.fencing msg) => reject call token attempt msg
    | err => throw err
termination_by (call.context.maxRetries - retryCount).toNat
decreasing_by
  rw [not_or] at spent
  omega

def executeFencedTransaction : Operation Effect Result :=
  match call.acquired with
  | .error fault => throw (.raised fault)
  | .ok token => kernel.loopFrom call token 0

/-- What the call raises or returns, and what it has done by then. -/
def outcome : Except TransactionError Result :=
  (kernel.executeFencedTransaction call).outcome {}

def records : TransactionRecords Effect :=
  (kernel.executeFencedTransaction call).stateAfter {}

/-- At most one commit, the operation started at most once more than there are retries, and
a call that raises `RetryExhaustedException` has committed nothing and left a dead letter. -/
structure AtMostOnce : Prop where
  committedOnce : (kernel.records call).committed.length ≤ 1
  startsBounded : ((kernel.records call).starts : Int) ≤ call.context.maxRetries + 1
  exhausted : kernel.outcome call = .error .retryExhausted →
    (kernel.records call).committed = [] ∧ (kernel.records call).deadLetters ≠ []

end calls

open Command

section body

variable {Result Effect : Type}

structure Tried (attempt : TransactionAttempt Result Effect)
    (before after : TransactionRecords Effect) : Prop where
  starts : after.starts = before.starts + if attempt.Starts then 1 else 0
  committed : after.committed =
    before.committed ++ if attempt.Commits then [attempt.effect] else []
  deadLetters : after.deadLetters = before.deadLetters

section rules

variable {ret : Unit → TransactionRecords Effect → Prop}
  {raised : TransactionError → TransactionRecords Effect → Prop}
  {records : TransactionRecords Effect}

theorem ends_await {fault : Option StepFault} :
    Ends (await fault) ret raised records ↔
      (fault = none → ret () records) ∧
        ∀ held, fault = some held → raised (.raised held) records := by
  cases fault <;> simp [await]

theorem ends_await_all {faults : List (Option StepFault)} :
    Ends (awaitAll faults) ret raised records ↔
      (firstFault faults = none → ret () records) ∧
        ∀ held, firstFault faults = some held → raised (.raised held) records := by
  induction faults with
  | nil => simp [awaitAll, firstFault]
  | cons fault rest ih =>
    rw [awaitAll, ends_bind, ends_await]
    cases fault with
    | none => simpa [firstFault] using ih
    | some held => simp [firstFault]

theorem ends_committing {ended : CommitEnd}
    {record : TransactionRecords Effect → TransactionRecords Effect} :
    Ends (committing ended record) ret raised records ↔
      (ended.fault? = none → ret () (record records)) ∧
        ∀ held, ended.fault? = some held →
          raised (.raised held) (if ended.tookEffect then record records else records) := by
  cases ended <;> simp [committing, CommitEnd.fault?, CommitEnd.tookEffect]

end rules

theorem first_fault_append (faults others : List (Option StepFault)) :
    firstFault (faults ++ others) = (firstFault faults).or (firstFault others) :=
  List.findSome?_append

theorem took_effect_of_done {ended : CommitEnd} (done : ended.fault? = none) :
    ended.tookEffect = true := by
  cases ended with
  | done => rfl
  | refused fault => cases done
  | unacknowledged fault => cases done

theorem body_ends (call : FencedCall Result Effect) (token : Nat)
    (attempt : TransactionAttempt Result Effect) (before : TransactionRecords Effect) :
    Ends (body call token attempt)
      (fun _ after => attempt.fault = none ∧ Tried attempt before after)
      (fun err after => (∃ fault, attempt.fault = some fault ∧ err = .raised fault) ∧
        Tried attempt before after) before := by
  simp only [body, ends_bind, ends_await_all, ends_modify, ends_committing, ends_await,
    appendEvidence, ends_pure]
  -- one case for each part of the block that may raise, and one for its end
  refine ⟨fun entered => ⟨fun guarded => ?_, ?_⟩, ?_⟩
  · have starts : attempt.Starts := entered
    have reached : firstFault (attempt.entering ++ attempt.protecting) = none := by
      rw [first_fault_append, entered, guarded]
      rfl
    have fault : attempt.fault =
        firstFault [attempt.commit.fault?, attempt.closed, attempt.success.fault?] := by
      rw [TransactionAttempt.fault, first_fault_append, reached]
      rfl
    refine ⟨fun done => ?_, ?_⟩
    · have commits : attempt.Commits := ⟨reached, took_effect_of_done done⟩
      refine ⟨fun closed => ⟨fun success => ?_, fun held success => ?_⟩, fun held closed => ?_⟩
      · exact ⟨by simp [fault, firstFault, done, closed, success],
          by simp [starts], by simp [commits], rfl⟩
      · refine ⟨⟨held, by simp [fault, firstFault, done, closed, success], rfl⟩, ?_⟩
        split_ifs
        · exact ⟨by simp [starts], by simp [commits], rfl⟩
        · exact ⟨by simp [starts], by simp [commits], rfl⟩
      · exact ⟨⟨held, by simp [fault, firstFault, done, closed], rfl⟩,
          by simp [starts], by simp [commits], rfl⟩
    · intro held failed
      refine ⟨⟨held, by simp [fault, firstFault, failed], rfl⟩, ?_⟩
      split_ifs with took
      · have commits : attempt.Commits := ⟨reached, took⟩
        exact ⟨by simp [starts], by simp [commits], rfl⟩
      · have commits : ¬attempt.Commits := fun commits => took commits.2
        exact ⟨by simp [starts], by simp [commits], rfl⟩
  · intro held failed
    have starts : attempt.Starts := entered
    have commits : ¬attempt.Commits := by
      simp [TransactionAttempt.Commits, first_fault_append, entered, failed]
    exact ⟨⟨held, by simp [TransactionAttempt.fault, first_fault_append, entered, failed], rfl⟩,
      by simp [starts], by simp [commits], rfl⟩
  · intro held failed
    have starts : ¬attempt.Starts := by
      simp [TransactionAttempt.Starts, failed]
    have commits : ¬attempt.Commits := by
      simp [TransactionAttempt.Commits, first_fault_append, failed]
    exact ⟨⟨held, by simp [TransactionAttempt.fault, first_fault_append, failed], rfl⟩,
      by simp [starts], by simp [commits], rfl⟩

end body

section loop

variable {Result Effect : Type} (kernel : OISProductionResilience)
  (call : FencedCall Result Effect)

def Transient (pass : Nat) : Prop :=
  ∃ msg, (call.attempts pass).fault = some (.transient msg)

def Spent (pass : Nat) : Prop :=
  call.context.maxRetries < pass + 1 ∨ (call.attempts pass).overdue = true

/-- The handler goes on to the next pass. -/
def GoesOn (pass : Nat) : Prop :=
  Transient call pass ∧ ¬Spent call pass ∧ pass + 1 < 1024 ∧
    (call.attempts pass).retryEvidence.fault? = none ∧ (call.attempts pass).slept = none

def GivesUp (pass : Nat) : Prop :=
  Transient call pass ∧ Spent call pass ∧ kernel.recoveryPool = true ∧
    (call.attempts pass).deadLetter.fault? = none ∧
      (call.attempts pass).deadLetterEvidence.fault? = none

def Reached (pass : Nat) : Prop :=
  (∃ token, call.acquired = .ok token) ∧ ∀ past < pass, GoesOn call past

def WithinBudget : Prop :=
  0 ≤ call.context.maxRetries ∨
    call.context.maxRetries = -1 ∧ ¬(Reached call 0 ∧ (call.attempts 0).Starts)

/-- After a pass whose commit took effect and that ended in a transient fault, no pass
commits and the call does not give up. -/
structure Harmless : Prop where
  budget : WithinBudget call
  afterCommit : ∀ pass, Reached call pass → (call.attempts pass).Commits → Transient call pass →
    ¬GivesUp kernel call pass ∧
      ∀ later, pass < later → Reached call later →
        ¬(call.attempts later).Commits ∧ ¬GivesUp kernel call later

/-- The handler neither starts the operation nor commits for it. -/
def Unmoved (before after : TransactionRecords Effect) : Prop :=
  after.starts = before.starts ∧ after.committed = before.committed

variable {kernel} {call}

variable {before : TransactionRecords Effect} {attempt : TransactionAttempt Result Effect}

theorem append_evidence_ends {ended : CommitEnd} {kind : String} {ctx : Members} :
    Ends (appendEvidence ended kind ctx)
      (fun _ after => ended.fault? = none ∧ Unmoved before after ∧
        after.deadLetters = before.deadLetters)
      (fun err after => (∃ fault, ended.fault? = some fault ∧ err = .raised fault) ∧
        Unmoved before after ∧ after.deadLetters = before.deadLetters) before := by
  rw [appendEvidence, ends_committing]
  constructor
  · exact fun done => ⟨done, ⟨rfl, rfl⟩, rfl⟩
  · intro held failed
    split_ifs
    · exact ⟨⟨held, failed, rfl⟩, ⟨rfl, rfl⟩, rfl⟩
    · exact ⟨⟨held, failed, rfl⟩, ⟨rfl, rfl⟩, rfl⟩

theorem write_dlq_ends {ended : CommitEnd} {msg : String} :
    Ends (kernel.writeDlq call ended msg)
      (fun _ after => (kernel.recoveryPool = true ∧ ended.fault? = none) ∧
        Unmoved before after ∧
          after.deadLetters = before.deadLetters ++ [kernel.deadLetterOf call msg])
      (fun err after => ¬(kernel.recoveryPool = true ∧ ended.fault? = none) ∧
        (∃ fault, err = .raised fault) ∧ Unmoved before after) before := by
  unfold writeDlq
  split_ifs with missing
  · exact ⟨by simp [missing], ⟨_, rfl⟩, rfl, rfl⟩
  · rw [ends_committing]
    constructor
    · exact fun done => ⟨⟨by simpa using missing, done⟩, ⟨rfl, rfl⟩, rfl⟩
    · intro held failed
      have fails : ¬(kernel.recoveryPool = true ∧ ended.fault? = none) := by simp [failed]
      split_ifs
      · exact ⟨fails, ⟨held, rfl⟩, rfl, rfl⟩
      · exact ⟨fails, ⟨held, rfl⟩, rfl, rfl⟩

theorem Unmoved.trans {before middle after : TransactionRecords Effect}
    (first : Unmoved before middle) (second : Unmoved middle after) : Unmoved before after :=
  ⟨second.1.trans first.1, second.2.trans first.2⟩

theorem give_up_ends {retryCount : Nat} {msg : String} :
    Ends (kernel.giveUp call attempt retryCount msg) (fun _ _ => False)
      (fun err after => Unmoved before after ∧
        (err = .retryExhausted ↔ kernel.recoveryPool = true ∧
          attempt.deadLetter.fault? = none ∧ attempt.deadLetterEvidence.fault? = none) ∧
        (err = .retryExhausted →
          after.deadLetters = before.deadLetters ++ [kernel.deadLetterOf call msg]))
      before := by
  unfold giveUp
  rw [ends_bind]
  refine write_dlq_ends.mono ?_ ?_
  · rintro _ middle ⟨⟨pool, written⟩, unmoved, letters⟩
    rw [ends_bind]
    refine append_evidence_ends.mono ?_ ?_
    · rintro _ after ⟨appended, further, same⟩
      refine ⟨unmoved.trans further, by simp [pool, written, appended], ?_⟩
      intro _
      rw [same, letters]
    · rintro err after ⟨⟨fault, failed, rfl⟩, further, _⟩
      exact ⟨unmoved.trans further, by simp [failed], nofun⟩
  · rintro err after ⟨failed, ⟨fault, rfl⟩, unmoved⟩
    refine ⟨unmoved, ⟨nofun, ?_⟩, nofun⟩
    rintro ⟨pool, written, _⟩
    exact absurd ⟨pool, written⟩ failed

theorem back_off_ends {retryCount : Nat} :
    Ends (backOff call attempt retryCount)
      (fun _ after => (retryCount < 1024 ∧ attempt.retryEvidence.fault? = none ∧
          attempt.slept = none) ∧
        Unmoved before after ∧ after.deadLetters = before.deadLetters)
      (fun err after => ¬(retryCount < 1024 ∧ attempt.retryEvidence.fault? = none ∧
          attempt.slept = none) ∧
        err ≠ .retryExhausted ∧ Unmoved before after) before := by
  unfold backOff
  split_ifs with large
  · refine ⟨?_, nofun, rfl, rfl⟩
    rintro ⟨small, _⟩
    omega
  · rw [ends_bind]
    refine append_evidence_ends.mono ?_ ?_
    · rintro _ after ⟨appended, unmoved, same⟩
      rw [ends_await]
      constructor
      · exact fun slept => ⟨⟨by omega, appended, slept⟩, unmoved, same⟩
      · intro held failed
        exact ⟨by simp [failed], nofun, unmoved⟩
    · rintro err after ⟨⟨fault, failed, rfl⟩, unmoved, _⟩
      exact ⟨by simp [failed], nofun, unmoved⟩

theorem reject_ends {token : Nat} {msg : String} :
    Ends (reject call token attempt msg) (fun _ _ => False)
      (fun err after => err ≠ .retryExhausted ∧ Unmoved before after) before := by
  unfold reject
  rw [ends_bind]
  refine append_evidence_ends.mono ?_ ?_
  · rintro _ after ⟨_, unmoved, _⟩
    exact ⟨nofun, unmoved⟩
  · rintro err after ⟨⟨fault, _, rfl⟩, unmoved, _⟩
    exact ⟨nofun, unmoved⟩

variable (kernel call) in
structure Concluded (pass more : Nat) (before : TransactionRecords Effect)
    (ending : Except TransactionError Result) (after : TransactionRecords Effect) : Prop where
  goesOn : ∀ past < more, GoesOn call (pass + past)
  last : ¬GoesOn call (pass + more)
  starts : after.starts = before.starts +
    ((List.range' pass (more + 1)).filter fun n => (call.attempts n).Starts).length
  committed : after.committed = before.committed ++
    ((List.range' pass (more + 1)).filter fun n => (call.attempts n).Commits).map
      fun n => (call.attempts n).effect
  exhausted : ending = .error .retryExhausted ↔ GivesUp kernel call (pass + more)
  deadLetters : GivesUp kernel call (pass + more) →
    ∃ msg, after.deadLetters = before.deadLetters ++ [kernel.deadLetterOf call msg]

variable {before tried after : TransactionRecords Effect} {ending : Except TransactionError Result}

theorem concluded_here {pass : Nat} (tries : Tried (call.attempts pass) before tried)
    (unmoved : Unmoved tried after) (last : ¬GoesOn call pass)
    (exhausted : ending = .error .retryExhausted ↔ GivesUp kernel call pass)
    (deadLetters : GivesUp kernel call pass →
      ∃ msg, after.deadLetters = before.deadLetters ++ [kernel.deadLetterOf call msg]) :
    Concluded kernel call pass 0 before ending after where
  goesOn := nofun
  last := last
  starts := by
    rw [unmoved.1, tries.starts]
    by_cases starts : (call.attempts pass).Starts <;> simp [starts]
  committed := by
    rw [unmoved.2, tries.committed]
    by_cases commits : (call.attempts pass).Commits <;> simp [commits]
  exhausted := exhausted
  deadLetters := deadLetters

theorem concluded_later {pass more : Nat} {before tried middle after : TransactionRecords Effect}
    (tries : Tried (call.attempts pass) before tried) (unmoved : Unmoved tried middle)
    (same : middle.deadLetters = tried.deadLetters) (goesOn : GoesOn call pass)
    (later : Concluded kernel call (pass + 1) more middle ending after) :
    Concluded kernel call pass (more + 1) before ending after where
  goesOn := by
    intro past bound
    cases past with
    | zero => exact goesOn
    | succ past =>
      have next := later.goesOn past (by omega)
      rwa [Nat.add_right_comm] at next
  last := by
    have next := later.last
    rwa [Nat.add_right_comm] at next
  starts := by
    have passes : List.range' pass (more + 1 + 1) = pass :: List.range' (pass + 1) (more + 1) :=
      List.range'_succ
    rw [later.starts, unmoved.1, tries.starts, passes, List.filter_cons]
    by_cases starts : (call.attempts pass).Starts
    · simp only [starts, decide_true, if_true, List.length_cons]
      omega
    · simp [starts]
  committed := by
    have passes : List.range' pass (more + 1 + 1) = pass :: List.range' (pass + 1) (more + 1) :=
      List.range'_succ
    rw [later.committed, unmoved.2, tries.committed, passes, List.filter_cons]
    by_cases commits : (call.attempts pass).Commits <;> simp [commits]
  exhausted := by
    rw [later.exhausted, Nat.add_right_comm]
    rfl
  deadLetters := by
    intro gives
    rw [← tries.deadLetters, ← same]
    apply later.deadLetters
    rwa [Nat.add_right_comm]

theorem concluded_aside {pass : Nat} (tries : Tried (call.attempts pass) before tried)
    (unmoved : Unmoved tried after) (last : ¬GoesOn call pass) (kept : ¬GivesUp kernel call pass)
    (other : ending ≠ .error .retryExhausted) :
    Concluded kernel call pass 0 before ending after := by
  refine concluded_here tries unmoved last ?_ fun gives => absurd gives kept
  exact ⟨fun same => absurd same other, fun gives => absurd gives kept⟩

theorem concluded_calmly {pass : Nat} (tries : Tried (call.attempts pass) before tried)
    (unmoved : Unmoved tried after)
    (calm : ∀ msg, (call.attempts pass).fault ≠ some (.transient msg))
    (other : ending ≠ .error .retryExhausted) :
    Concluded kernel call pass 0 before ending after := by
  have never : ¬Transient call pass := fun ⟨msg, fault⟩ => calm msg fault
  exact concluded_aside tries unmoved (fun on => never on.1) (fun gives => never gives.1) other

theorem error_ne_exhausted {err : TransactionError} (other : err ≠ .retryExhausted) :
    (Except.error err : Except TransactionError Result) ≠ .error .retryExhausted :=
  fun same => other (Except.error.inj same)

theorem loop_ends (kernel : OISProductionResilience) (call : FencedCall Result Effect)
    (token pass : Nat) (before : TransactionRecords Effect) :
    Ends (kernel.loopFrom call token pass)
      (fun res after => ∃ more, Concluded kernel call pass more before (.ok res) after)
      (fun err after => ∃ more, Concluded kernel call pass more before (.error err) after)
      before := by
  rw [loopFrom, ends_try_catch]
  refine (body_ends call token (call.attempts pass) before).mono ?_ ?_
  · rintro res after ⟨faultless, tries⟩
    exact ⟨0, concluded_calmly tries ⟨rfl, rfl⟩ (by simp [faultless]) nofun⟩
  · rintro err tried ⟨⟨fault, ends, rfl⟩, tries⟩
    cases fault with
    | transient msg =>
      have transient : Transient call pass := ⟨msg, ends⟩
      dsimp only
      split_ifs with spent
      · refine give_up_ends.mono nofun ?_
        rintro err after ⟨unmoved, exhausted, letters⟩
        have gives : err = .retryExhausted ↔ GivesUp kernel call pass := by
          rw [exhausted]
          exact ⟨fun through => ⟨transient, spent, through⟩, fun gives => gives.2.2⟩
        refine ⟨0, concluded_here tries unmoved (fun on => on.2.1 spent) ?_ fun given => ?_⟩
        · simpa using gives
        · exact ⟨msg, by rw [letters (gives.mpr given), tries.deadLetters]⟩
      · rw [ends_bind]
        refine back_off_ends.mono ?_ ?_
        · rintro _ middle ⟨through, unmoved, same⟩
          have goesOn : GoesOn call pass := ⟨transient, spent, through⟩
          refine (loop_ends kernel call token (pass + 1) middle).mono ?_ ?_
          · rintro res after ⟨more, later⟩
            exact ⟨more + 1, concluded_later tries unmoved same goesOn later⟩
          · rintro err after ⟨more, later⟩
            exact ⟨more + 1, concluded_later tries unmoved same goesOn later⟩
        · rintro err after ⟨failed, other, unmoved⟩
          exact ⟨0, concluded_aside tries unmoved (fun on => failed on.2.2)
            (fun gives => spent gives.2.1) (error_ne_exhausted other)⟩
    | fencing msg =>
      refine reject_ends.mono nofun ?_
      rintro err after ⟨other, unmoved⟩
      exact ⟨0, concluded_calmly tries unmoved (by simp [ends]) (error_ne_exhausted other)⟩
    | other name msg =>
      exact ⟨0, concluded_calmly tries ⟨rfl, rfl⟩ (by simp [ends]) nofun⟩
termination_by (call.context.maxRetries - pass).toNat
decreasing_by
  rw [not_or] at spent
  omega

section passes

variable {more : Nat} {ending : Except TransactionError Result}
  {after : TransactionRecords Effect}

section

variable (concluded : Concluded kernel call 0 more {} ending after)

include concluded

theorem Concluded.goes_on {pass : Nat}
    (bound : pass < more) : GoesOn call pass := by
  have goesOn := concluded.goesOn pass bound
  rwa [Nat.zero_add] at goesOn

theorem Concluded.reached_iff
    {token : Nat} (acquired : call.acquired = .ok token) {pass : Nat} :
    Reached call pass ↔ pass ≤ more := by
  constructor
  · intro reached
    by_contra beyond
    have last := concluded.last
    rw [Nat.zero_add] at last
    exact last (reached.2 more (by omega))
  · intro bound
    exact ⟨⟨token, acquired⟩, fun past before => concluded.goes_on (by omega)⟩

theorem Concluded.gives_up_last
    {pass : Nat} (bound : pass ≤ more) (gives : GivesUp kernel call pass) : pass = more := by
  by_contra apart
  exact (concluded.goes_on (by omega : pass < more)).2.1 gives.2.1

omit concluded in
theorem mem_passes {chosen : Nat → Bool} {pass : Nat} :
    pass ∈ (List.range' 0 (more + 1)).filter chosen ↔ pass ≤ more ∧ chosen pass = true := by
  rw [List.mem_filter, List.mem_range'_1, Nat.zero_add, Nat.lt_succ_iff]
  exact and_congr_left fun _ => and_iff_right (Nat.zero_le pass)

theorem Concluded.committed_nil_iff :
    after.committed = [] ↔ ∀ pass ≤ more, ¬(call.attempts pass).Commits := by
  rw [concluded.committed, List.nil_append, List.map_eq_nil_iff, List.eq_nil_iff_forall_not_mem]
  simp only [mem_passes, decide_eq_true_eq, not_and]

theorem Concluded.committed_once_iff :
    after.committed.length ≤ 1 ↔
      ∀ pass later, pass < later → later ≤ more → (call.attempts pass).Commits →
        ¬(call.attempts later).Commits := by
  have distinct : ((List.range' 0 (more + 1)).filter fun n =>
      (call.attempts n).Commits).Nodup :=
    List.Nodup.filter _ (List.nodup_range' ..)
  rw [concluded.committed, List.nil_append, List.length_map,
    ← List.toFinset_card_of_nodup distinct, Finset.card_le_one]
  simp only [List.mem_toFinset, mem_passes, decide_eq_true_eq]
  constructor
  · intro single pass later apart bound commits again
    exact absurd (single pass ⟨by omega, commits⟩ later ⟨bound, again⟩) (by omega)
  · rintro once pass ⟨bound, commits⟩ other ⟨within, again⟩
    rcases Nat.lt_trichotomy pass other with less | same | more
    · exact absurd again (once pass other less within commits)
    · exact same
    · exact absurd commits (once other pass more bound again)

theorem Concluded.starts_bounded_iff
    {token : Nat} (acquired : call.acquired = .ok token) :
    (after.starts : Int) ≤ call.context.maxRetries + 1 ↔ WithinBudget call := by
  have counted := concluded.starts
  unfold WithinBudget
  cases more with
  | zero =>
    have reached : Reached call 0 := ⟨⟨token, acquired⟩, nofun⟩
    by_cases starts : (call.attempts 0).Starts
    · have once : after.starts = 1 := by simpa [starts] using counted
      rw [once]
      simp only [reached, starts, and_self, not_true_eq_false, and_false, or_false]
      constructor <;> omega
    · have never : after.starts = 0 := by simpa [starts] using counted
      rw [never]
      simp only [starts, and_false, not_false_eq_true, and_true]
      constructor <;> omega
  | succ more =>
    have unspent := not_or.mp (concluded.goes_on (Nat.lt_succ_self more)).2.1
    have most := List.length_filter_le (fun n => decide (call.attempts n).Starts)
      (List.range' 0 (more + 1 + 1))
    rw [List.length_range'] at most
    have few : after.starts ≤ more + 1 + 1 := by
      rw [counted]
      simpa using most
    exact ⟨fun _ => Or.inl (by omega), fun _ => by omega⟩

end

end passes

end loop

theorem concluded_of_acquired {Result Effect : Type} (kernel : OISProductionResilience)
    {call : FencedCall Result Effect} {token : Nat} (acquired : call.acquired = .ok token) :
    ∃ more, Concluded kernel call 0 more {} (kernel.outcome call) (kernel.records call) := by
  have runs : kernel.executeFencedTransaction call = kernel.loopFrom call token 0 := by
    rw [executeFencedTransaction, acquired]
  rw [outcome, records, runs]
  exact Ends.outcome (fun ending after => ∃ more, Concluded kernel call 0 more {} ending after)
    (loop_ends kernel call token 0 {})

theorem at_most_once_of_refused {Result Effect : Type} {kernel : OISProductionResilience}
    {call : FencedCall Result Effect} {fault : StepFault}
    (refused : call.acquired = .error fault) :
    AtMostOnce kernel call ↔ Harmless kernel call := by
  have unreached : ∀ pass, ¬Reached call pass := by
    rintro pass ⟨⟨token, acquired⟩, _⟩
    rw [refused] at acquired
    cases acquired
  have runs : kernel.executeFencedTransaction call = throw (.raised fault) := by
    rw [executeFencedTransaction, refused]
  have budget : WithinBudget call ↔ (0 : Int) ≤ call.context.maxRetries + 1 := by
    simp only [WithinBudget, unreached, false_and, not_false_eq_true, and_true]
    omega
  have nothing : kernel.records call = {} := by
    rw [records, runs]
    rfl
  have raised : kernel.outcome call = .error (.raised fault) := by
    rw [outcome, runs]
    rfl
  constructor
  · intro once
    have bounded := once.startsBounded
    rw [nothing] at bounded
    exact ⟨budget.mpr bounded, fun pass reached => absurd reached (unreached pass)⟩
  · intro harmless
    refine ⟨by rw [nothing]; exact Nat.zero_le _, ?_, by rw [raised]; nofun⟩
    rw [nothing]
    exact budget.mp harmless.budget

section directions

variable {Result Effect : Type} {kernel : OISProductionResilience}
  {call : FencedCall Result Effect} {more : Nat} {token : Nat}

theorem Concluded.harmless
    (concluded : Concluded kernel call 0 more {} (kernel.outcome call) (kernel.records call))
    (acquired : call.acquired = .ok token) (once : AtMostOnce kernel call) :
    Harmless kernel call := by
  refine ⟨(concluded.starts_bounded_iff acquired).mp once.startsBounded, ?_⟩
  have single := concluded.committed_once_iff.mp once.committedOnce
  -- only the last pass gives up, and then nothing is committed
  have kept : ∀ pass ≤ more, ∀ later ≤ more, (call.attempts pass).Commits →
      ¬GivesUp kernel call later := by
    intro pass bound later within commits gives
    rw [concluded.gives_up_last within gives] at gives
    have exhausted : kernel.outcome call = .error .retryExhausted :=
      concluded.exhausted.mpr (by rwa [Nat.zero_add])
    have none := concluded.committed_nil_iff.mp (once.exhausted exhausted).1
    exact none pass bound commits
  intro pass reached commits transient
  rw [concluded.reached_iff acquired] at reached
  refine ⟨kept pass reached pass reached commits, ?_⟩
  intro later apart further
  rw [concluded.reached_iff acquired] at further
  exact ⟨single pass later apart further commits, kept pass reached later further commits⟩

theorem Concluded.at_most_once
    (concluded : Concluded kernel call 0 more {} (kernel.outcome call) (kernel.records call))
    (acquired : call.acquired = .ok token) (harmless : Harmless kernel call) :
    AtMostOnce kernel call := by
  have reached : ∀ pass ≤ more, Reached call pass :=
    fun pass bound => (concluded.reached_iff acquired).mpr bound
  -- a pass before the last one ends in a transient fault
  have after : ∀ pass < more, (call.attempts pass).Commits →
      ∀ later, pass < later → later ≤ more →
        ¬(call.attempts later).Commits ∧ ¬GivesUp kernel call later := by
    intro pass before commits later apart bound
    have transient := (concluded.goes_on before).1
    exact (harmless.afterCommit pass (reached pass (by omega)) commits transient).2 later apart
      (reached later bound)
  refine ⟨?_, (concluded.starts_bounded_iff acquired).mpr harmless.budget, ?_⟩
  · rw [concluded.committed_once_iff]
    intro pass later apart bound commits
    exact (after pass (by omega) commits later apart bound).1
  · intro exhausted
    have gives := concluded.exhausted.mp exhausted
    obtain ⟨msg, letters⟩ := concluded.deadLetters gives
    rw [Nat.zero_add] at gives
    refine ⟨?_, by rw [letters]; simp⟩
    rw [concluded.committed_nil_iff]
    intro pass bound commits
    rcases Nat.lt_or_eq_of_le bound with before | rfl
    · exact (after pass before commits more before le_rfl).2 gives
    · exact (harmless.afterCommit pass (reached pass bound) commits gives.1).1 gives

end directions

/-- At most one commit exactly when no pass that the loop reaches has its commit take effect
and then ends in a transient fault, unless nothing is committed or given up after it; a
negative number of retries apart. -/
theorem at_most_once_iff {Result Effect : Type} (kernel : OISProductionResilience)
    (call : FencedCall Result Effect) :
    AtMostOnce kernel call ↔ Harmless kernel call := by
  cases acquired : call.acquired with
  | error fault => exact at_most_once_of_refused acquired
  | ok token =>
    obtain ⟨more, concluded⟩ := concluded_of_acquired kernel acquired
    exact ⟨concluded.harmless acquired, concluded.at_most_once acquired⟩

/-- In the first pass the evidence of the success cannot be appended; every later pass is
faultless. -/
def evidenceLost (maxRetries : Int) : FencedCall Unit Nat where
  context := { tenantId := "tenant", threadId := "thread", maxRetries := maxRetries }
  scenarioId := "RC-04"
  stateDump := []
  acquired := .ok 1
  attempts := fun pass =>
    { result := ()
      effect := pass
      success := if pass = 0 then .refused (.transient "connection lost") else .done }

def recoveringKernel : OISProductionResilience where
  sha256 := fun _ => ""
  attested := fun _ => ""
  recoveryPool := true

/-- The operation is committed twice, and without a retry it is reported as exhausted although
it was committed. -/
theorem lost_evidence_repeats_commit :
    (recoveringKernel.records (evidenceLost 3)).committed = [0, 1] ∧
      ¬AtMostOnce recoveringKernel (evidenceLost 3) ∧
      recoveringKernel.outcome (evidenceLost 0) = .error .retryExhausted ∧
      (recoveringKernel.records (evidenceLost 0)).committed = [0] ∧
      ¬AtMostOnce recoveringKernel (evidenceLost 0) := by
  have twice : (recoveringKernel.records (evidenceLost 3)).committed = [0, 1] := by
    decide +kernel
  have exhausted : recoveringKernel.outcome (evidenceLost 0) = .error .retryExhausted := by
    decide +kernel
  have committed : (recoveringKernel.records (evidenceLost 0)).committed = [0] := by
    decide +kernel
  refine ⟨twice, fun once => ?_, exhausted, committed, fun once => ?_⟩
  · have single := once.committedOnce
    rw [twice] at single
    simp at single
  · have nothing := (once.exhausted exhausted).1
    rw [committed] at nothing
    cases nothing

end OISProductionResilience

end Ois.Kernel
