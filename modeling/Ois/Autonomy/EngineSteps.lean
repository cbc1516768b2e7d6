import Ois.Autonomy.DurableRuns
import Ois.Autonomy.Engine

/-!
# What a statement of the engine can do

A run is inserted, moved by a transition or swept. These lemmas say what each does to the
rows of the table, found by their identifiers.
-/

namespace Ois.Autonomy

open Ois.Library Ois.Kernel Ois.Infrastructure FencedStore Dict

namespace RunTable

variable {pg : Postgres} {double : List Char → UInt64} {now : Int} {table : RunTable}
  {runId : Uuid}

theorem insert_ok {run : DurableWorkflowRun} {after : RunTable}
    (inserted : table.insert pg now run = .ok (some after)) :
    ∃ checkpoint, pg.column (Json.dumpsSorted
        (if truthy run.checkpoint then run.checkpoint else .obj [])) = .ok checkpoint ∧
      table.lookup run.runId = none ∧ table.ofIdentity run.identity = none ∧
      (∀ entry ∈ table, entry.2.idempotencyKey ≠ run.idempotencyKey) ∧
      after = table ++ [(run.runId, insertion now run checkpoint)] := by
  obtain ⟨checkpoint, written, rest⟩ := bind_ok inserted
  refine ⟨checkpoint, written, ?_⟩
  cases identified : table.ofIdentity run.identity with
  | some entry => simp [identified, pure, Except.pure] at rest
  | none =>
    cases found : table.lookup run.runId with
    | some row => simp [identified, found, throw, throwThe, MonadExceptOf.throw] at rest
    | none =>
      simp only [identified, found, Option.isSome_none, Bool.false_eq_true, if_false] at rest
      split_ifs at rest with taken
      refine ⟨rfl, rfl, ?_, (Option.some.inj (Except.ok.inj rest)).symm⟩
      simpa using taken

variable {change : RunChange} {row : DurableRunRow}

theorem changed_ok (written : changed pg now runId change table = .ok row) :
    ∃ old checkpoint res err, table.lookup runId = some old ∧
      optionalColumn pg (change.checkpoint.map .obj) = .ok checkpoint ∧
      optionalColumn pg (given change.result) = .ok res ∧
      optionalColumn pg (change.error.map .obj) = .ok err ∧
      row = { old with
        toWorkflowRunRow := transitioned now change.status change.attempt checkpoint
          res err old.toWorkflowRunRow } := by
  obtain ⟨checkpoint, first, rest⟩ := bind_ok written
  obtain ⟨res, second, rest⟩ := bind_ok rest
  obtain ⟨err, third, rest⟩ := bind_ok rest
  cases found : table.lookup runId with
  | none => simp [found] at rest
  | some old =>
    simp only [found, pure, Except.pure, Except.ok.injEq] at rest
    exact ⟨old, checkpoint, res, err, rfl, first, second, third, rest.symm⟩

theorem changed_of_columns {old : DurableRunRow} {checkpoint res err : Option Json}
    (found : table.lookup runId = some old)
    (first : optionalColumn pg (change.checkpoint.map .obj) = .ok checkpoint)
    (second : optionalColumn pg (given change.result) = .ok res)
    (third : optionalColumn pg (change.error.map .obj) = .ok err) :
    changed pg now runId change table = .ok { old with
      toWorkflowRunRow := transitioned now change.status change.attempt checkpoint
        res err old.toWorkflowRunRow } := by
  simp only [changed, first, second, third, found, bind, Except.bind, pure, Except.pure]

theorem transition_ok {after : RunTable}
    (done : transition pg now runId change table = .ok (after, row)) :
    changed pg now runId change table = .ok row ∧ after = table.set runId row := by
  obtain ⟨written, changed, ended⟩ := bind_ok done
  simp only [pure, Except.pure, Except.ok.injEq, Prod.mk.injEq] at ended
  obtain ⟨set, rfl⟩ := ended
  exact ⟨changed, set.symm⟩

theorem fenced_transition_ok {leases : LeaseTable} {lease : WorkerLease} {after : RunTable}
    (done : fencedTransition pg now leases lease runId change table = .ok (after, row)) :
    leases.isCurrent now lease = true ∧ changed pg now runId change table = .ok row ∧
      after = table.set runId row := by
  obtain ⟨_, asserted, rest⟩ := bind_ok done
  refine ⟨?_, transition_ok rest⟩
  unfold LeaseTable.assertCurrent at asserted
  split_ifs at asserted with cur
  exact cur

end RunTable

theorem lookup_claimed {claims : ClaimTable} {run : DurableWorkflowRun} (key : String)
    (unclaimed : claims.lookup run.idempotencyKey = none) :
    (claims.claim run).1.lookup key = if key = run.idempotencyKey then
        some { tenantId := run.identity.tenantId, workspaceId := run.identity.workspaceId
               runId := run.runId }
      else claims.lookup key := by
  rw [ClaimTable.claim, unclaimed]
  exact lookup_append_fresh unclaimed key

theorem DurableRunRow.run_ok {double : List Char → UInt64} {runId : Uuid} {row : DurableRunRow}
    {run : DurableWorkflowRun} (decoded : row.run double runId = .ok run) :
    run.runId = runId ∧ run.identity = row.identity ∧ run.status = row.status ∧
      run.attempt = row.attempt ∧ run.idempotencyKey = row.idempotencyKey ∧
      decodeMembers double row.checkpoint = .ok run.checkpoint ∧
      decodeText double (row.result.getD .null) = .ok run.result ∧
      decodeText double (row.error.getD .null) = .ok run.error := by
  obtain ⟨checkpoint, first, rest⟩ := bind_ok decoded
  obtain ⟨res, second, rest⟩ := bind_ok rest
  obtain ⟨err, third, ended⟩ := bind_ok rest
  rw [← Except.ok.inj ended]
  exact ⟨rfl, rfl, rfl, rfl, rfl, first, second, third⟩

namespace WorkflowRecoverySweeper

variable {sweeper : WorkflowRecoverySweeper} {double : List Char → UInt64} {now : Int}
  {table : RunTable}

theorem map_run_ids {rows : RunTable} {recovered : List DurableWorkflowRun}
    (decoded : rows.mapM (fun entry => (swept now entry.2).run double entry.1) = .ok recovered) :
    recovered.map (·.runId) = keys rows := by
  induction rows generalizing recovered with
  | nil =>
    simp only [List.mapM_nil, pure, Except.pure, Except.ok.injEq] at decoded
    rw [← decoded]
    rfl
  | cons entry rest ih =>
    rw [List.mapM_cons] at decoded
    obtain ⟨run, first, others⟩ := bind_ok decoded
    obtain ⟨runs, later, ended⟩ := bind_ok others
    rw [← Except.ok.inj ended, List.map_cons, ih later, (DurableRunRow.run_ok first).1]
    rfl

theorem sweep_ok {limit : Int} {locked : List Uuid} {after : RunTable}
    {recovered : List DurableWorkflowRun}
    (done : sweeper.sweep double now limit locked table = .ok (after, recovered)) :
    after = sweptTable now (sweeper.selected now limit.toNat locked table) table ∧
      recovered.map (·.runId) = keys (sweeper.selected now limit.toNat locked table) := by
  unfold sweep at done
  split_ifs at done with small
  · simp [throw, throwThe, MonadExceptOf.throw, bind, Except.bind] at done
  · obtain ⟨runs, decoded, ended⟩ := bind_ok done
    simp only [pure, Except.pure, Except.ok.injEq, Prod.mk.injEq] at ended
    obtain ⟨rfl, rfl⟩ := ended
    exact ⟨rfl, map_run_ids decoded⟩

theorem mem_selected {limit : Nat} {locked : List Uuid} {entry : Uuid × DurableRunRow}
    (mem : entry ∈ sweeper.selected now limit locked table) :
    entry ∈ table ∧ sweeper.Stale now entry.2 := by
  have stale := (List.perm_insertionSort HeardFirst _).mem_iff.mp (List.mem_of_mem_take mem)
  rw [List.mem_filter, Bool.and_eq_true, decide_eq_true_eq] at stale
  exact ⟨stale.1, stale.2.1⟩

theorem lookup_swept (selected : RunTable) (table : RunTable) (runId : Uuid) :
    (sweptTable now selected table).lookup runId = (table.lookup runId).map fun row =>
      if runId ∈ keys selected then swept now row else row := by
  unfold sweptTable
  induction table with
  | nil => rfl
  | cons entry rest ih =>
    obtain ⟨key, row⟩ := entry
    have head : (if (key, row).1 ∈ keys selected then (key, swept now row) else (key, row)) =
        (key, if key ∈ keys selected then swept now row else row) := by
      split_ifs <;> rfl
    rw [List.map_cons, head, List.lookup_cons, List.lookup_cons]
    by_cases same : runId = key
    · subst same
      simp
    · have different : (runId == key) = false := by simpa using same
      simp only [different, ih]

theorem keys_swept (selected : RunTable) (table : RunTable) :
    keys (sweptTable now selected table) = keys table := by
  unfold sweptTable keys
  rw [List.map_map]
  apply List.map_congr_left
  intro entry _
  simp only [Function.comp_apply]
  split_ifs <;> rfl

end WorkflowRecoverySweeper

open RunTable

inductive Moves (exec : Execution) :
    EnginePoint → RunChange → (DurableWorkflowRun → EnginePoint) → Prop where
  | stopped : Moves exec (.leased exec) Execution.toStopped (exec.receipt none)
  | running : Moves exec (.leased exec) exec.toRunning
      fun run => .running exec run.attempt
  | waiting (askId : String) : Moves exec (.waiting exec askId)
      (Execution.toWaiting askId) (exec.receipt (some askId))
  | recovering (attempt : Int) (typeName msg : String) :
      Moves exec (.failed exec attempt typeName msg)
        (exec.toRecovering attempt typeName msg) (exec.receipt none)
  | completed (res : Json) : Moves exec (.returned exec res)
      (exec.toCompleted res) (exec.receipt none)

def EngineEvent.IsEnd : EngineEvent → Prop
  | .returned _ => True
  | .raised _ => True
  | _ => False

open EngineEvent

def EngineEvent.ReceiptOf (point : EnginePoint) (event : EngineEvent) : Prop :=
  ∀ receipt, event = .returned receipt →
    receipt.approvalId = none ∨ ∃ lease, point = .releasing lease receipt

def Execution.Asks (site : Deployment) (exec : Execution) : Prop :=
  exec.approvalId = none ∧
    (exec.policy.judge site.reprFloat exec.event).toOption.map (·.outcome) =
      some .approvalRequired

instance (site : Deployment) (exec : Execution) :
    Decidable (exec.Asks site) :=
  inferInstanceAs (Decidable (_ ∧ _))

inductive Proceeds (site : Deployment) (input : EngineInput) (tables : EngineTables) :
    EnginePoint → EngineStride → Prop where
  | ended (point : EnginePoint) (leases : LeaseTable) (event : EngineEvent)
      (ends : event.IsEnd) (receipts : event.ReceiptOf point) :
      Proceeds site input tables point (.ending { tables with leases := leases } [event])
  | conflicted (call : EngineCall) (event : EventEnvelope) (run existing : DurableWorkflowRun)
      (read : tables.runs.getByEvent site.double run.identity = .ok (some existing)) :
      Proceeds site input tables (.conflicted call event run)
        (.going tables (.created call event existing) [])
  | claimed (call : EngineCall) (event : EventEnvelope) (run : DurableWorkflowRun)
      (unclaimed : tables.claims.lookup run.idempotencyKey = none) :
      Proceeds site input tables (.created call event run)
        (.going { tables with claims := (tables.claims.claim run).1 } (.claimed call event run) [])
  | refused (call : EngineCall) (event : EventEnvelope) (run : DurableWorkflowRun)
      (taken : tables.claims.lookup run.idempotencyKey ≠ none) :
      Proceeds site input tables (.created call event run) (.going tables (.refused run) [])
  | leased (call : EngineCall) (event : EventEnvelope) (run : DurableWorkflowRun)
      (leases : LeaseTable) (lease : WorkerLease)
      (owned : tables.leases.claim site.ttl input.now input.workerNow run.runId
        call.workerId = .ok (leases, some lease)) :
      Proceeds site input tables (.claimed call event run)
        (.going { tables with leases := leases }
          (.leased { policy := call.policy, run := run, event := event, lease := lease }) [])
  | found (call : EngineCall) (askId : String) (approval : ApprovalRequest)
      (run : DurableWorkflowRun)
      (read : tables.runs.getByEvent site.double (approvedIdentity call.workflow approval) =
        .ok (some run)) :
      Proceeds site input tables (.approved call askId approval)
        (.going tables (.found call askId run) [])
  | owned (call : EngineCall) (askId : String) (run : DurableWorkflowRun)
      (leases : LeaseTable) (lease : WorkerLease)
      (owned : tables.leases.claim site.ttl input.now input.workerNow run.runId
        call.workerId = .ok (leases, some lease)) :
      Proceeds site input tables (.found call askId run)
        (.going { tables with leases := leases } (.owned call askId run lease) [])
  | current (call : EngineCall) (askId : String) (run : DurableWorkflowRun)
      (lease : WorkerLease) :
      Proceeds site input tables (.owned call askId run lease)
        (.going tables (.current call askId run lease) [])
  | resumed (call : EngineCall) (askId : String) (run : DurableWorkflowRun)
      (lease : WorkerLease) (event : EventEnvelope)
      (read : tables.approvals.resumeEvent site.postgres site.double input.clock
        askId = .ok event) :
      Proceeds site input tables (.current call askId run lease)
        (.going tables (.leased { policy := call.policy, run := run, event := event, lease := lease
                                  approvalId := some askId }) [])
  | asked (exec : Execution) (approval : ApprovalRequest)
      (started : exec.approvalId = none)
      (read : tables.approvals.getByEvent site.double input.clock
        exec.run.identity.eventId = .ok (some approval))
      (asks : exec.Asks site) :
      Proceeds site input tables (.leased exec)
        (.going tables (.waiting exec approval.approvalId) [])
  | unasked (exec : Execution) (reason : String) (started : exec.approvalId = none)
      (read : tables.approvals.getByEvent site.double input.clock
        exec.run.identity.eventId = .ok none)
      (asks : exec.Asks site) :
      Proceeds site input tables (.leased exec)
        (.going tables (.requesting exec reason) [])
  | requested (exec : Execution) (reason : String) (approvals : ApprovalTable)
      (filed : tables.approvals.create site.postgres
        (.forRun exec.run exec.event reason input.workerNow)
          (some exec.run.runId) = .ok approvals) :
      Proceeds site input tables (.requesting exec reason)
        (.going { tables with approvals := approvals }
          (.waiting exec exec.run.runId.str) [])
  | called (exec : Execution) (attempt : Int) (res : Json)
      (out : input.outcome = .returned res) :
      Proceeds site input tables (.running exec attempt)
        (.going tables (.returned exec res)
          [.called exec.run.runId exec.approvalId input.outcome])
  | threw (exec : Execution) (attempt : Int) (typeName msg : String)
      (out : input.outcome = .raised typeName msg) :
      Proceeds site input tables (.running exec attempt)
        (.going tables (.failed exec attempt typeName msg)
          [.called exec.run.runId exec.approvalId input.outcome])
  | moved (exec : Execution) (point : EnginePoint) (change : RunChange)
      (next : DurableWorkflowRun → EnginePoint) (row : DurableRunRow) (run : DurableWorkflowRun)
      (moves : Moves exec point change next)
      (cur : tables.leases.isCurrent input.now exec.lease = true)
      (written : changed site.postgres input.now exec.run.runId change
        tables.runs = .ok row)
      (decoded : row.run site.double exec.run.runId = .ok run) :
      Proceeds site input tables point
        (.going { tables with runs := tables.runs.set exec.run.runId row } (next run)
          [.transitioned exec.run.runId change.status input.now])
  | broken (exec : Execution) (point : EnginePoint) (change : RunChange)
      (next : DurableWorkflowRun → EnginePoint) (row : DurableRunRow) (err : PyError)
      (moves : Moves exec point change next)
      (cur : tables.leases.isCurrent input.now exec.lease = true)
      (written : changed site.postgres input.now exec.run.runId change
        tables.runs = .ok row)
      (undecoded : row.run site.double exec.run.runId = .error err) :
      Proceeds site input tables point
        (.ending { tables with runs := tables.runs.set exec.run.runId row }
          [.transitioned exec.run.runId change.status input.now, .raised err])

section inversion

variable {site : Deployment} {input : EngineInput} {tables : EngineTables}

theorem receipt_of_plain {point : EnginePoint} {receipt : DurableExecutionReceipt}
    (plain : receipt.approvalId = none) : (returned receipt).ReceiptOf point := by
  intro other same
  cases same
  exact Or.inl plain

variable (point : EnginePoint)

theorem receipt_of_raised (err : PyError) :
    (raised err).ReceiptOf point := by
  intro receipt same
  cases same

theorem proceeds_raised (err : PyError) :
    Proceeds site input tables point (.ending tables [.raised err]) :=
  .ended point tables.leases (.raised err) trivial (receipt_of_raised point err)

theorem proceeds_move {exec : Execution} {point : EnginePoint} {change : RunChange}
    {next : DurableWorkflowRun → EnginePoint} (moves : Moves exec point change next) :
    Proceeds site input tables point
      (exec.move site change next input tables) := by
  unfold Execution.move moving attempting
  cases done : fencedTransition site.postgres input.now tables.leases
      exec.lease exec.run.runId change tables.runs with
  | error err => exact proceeds_raised point err
  | ok both =>
    obtain ⟨runs, row⟩ := both
    obtain ⟨cur, written, rfl⟩ := fenced_transition_ok done
    cases decoded : row.run site.double exec.run.runId with
    | error err =>
      simp only [decoded]
      exact .broken exec point change next row err moves cur written decoded
    | ok run =>
      simp only [decoded]
      exact .moved exec point change next row run moves cur written decoded

theorem move_of_written {exec : Execution} {change : RunChange}
    {next : DurableWorkflowRun → EnginePoint} {row : DurableRunRow} {run : DurableWorkflowRun}
    (cur : tables.leases.isCurrent input.now exec.lease = true)
    (written : changed site.postgres input.now exec.run.runId change
      tables.runs = .ok row)
    (decoded : row.run site.double exec.run.runId = .ok run) :
    exec.move site change next input tables =
      .going { tables with runs := tables.runs.set exec.run.runId row } (next run)
      [.transitioned exec.run.runId change.status input.now] := by
  simp only [Execution.move, moving, attempting, fencedTransition,
    LeaseTable.assertCurrent, cur, if_true, RunTable.transition, written, bind, Except.bind,
    pure, Except.pure, decoded]
  rfl

theorem proceeds_evaluate (exec : Execution) :
    Proceeds site input tables (.leased exec)
      (exec.evaluate site input tables) := by
  unfold Execution.evaluate attempting
  cases judged : exec.policy.judge site.reprFloat exec.event with
  | error err => exact proceeds_raised _ err
  | ok evaluation =>
    cases out : evaluation.outcome with
    | deny =>
      simp only [out]
      exact proceeds_move .stopped
    | allow =>
      simp only [out]
      exact proceeds_move .running
    | approvalRequired =>
      cases started : exec.approvalId with
      | some askId =>
        simp only [out]
        exact proceeds_move .running
      | none =>
        have asks : exec.Asks site :=
          ⟨started, by simp [judged, Except.toOption, out]⟩
        simp only [out, Execution.ask, attempting]
        cases read : tables.approvals.getByEvent site.double input.clock
            exec.run.identity.eventId with
        | error err => exact proceeds_raised _ err
        | ok answer =>
          cases answer with
          | none => exact .unasked exec evaluation.reason started read asks
          | some approval => exact .asked exec approval started read asks

theorem proceeds :
    Proceeds site input tables point (proceedEngine site point input tables) := by
  cases point with
  | conflicted call event run =>
    simp only [proceedEngine, attempting]
    cases read : tables.runs.getByEvent site.double run.identity with
    | error err => exact proceeds_raised _ err
    | ok answer =>
      cases answer with
      | none => exact proceeds_raised _ _
      | some existing => exact .conflicted call event run existing read
  | created call event run =>
    simp only [proceedEngine]
    cases taken : tables.claims.lookup run.idempotencyKey with
    | none =>
      have claims : (tables.claims.claim run).2 = true := by simp [ClaimTable.claim, taken]
      simp only [claims, if_true]
      exact .claimed call event run taken
    | some claim =>
      have kept : tables.claims.claim run = (tables.claims, false) := by
        simp [ClaimTable.claim, taken]
      simp only [kept, Bool.false_eq_true, if_false]
      exact .refused call event run (by simp [taken])
  | refused run =>
    simp only [proceedEngine, attempting]
    cases tables.runs.getByEvent site.double run.identity with
    | error err => exact proceeds_raised _ err
    | ok answer =>
      cases answer with
      | none => exact proceeds_raised _ _
      | some existing =>
        exact .ended _ tables.leases (.returned { run := existing }) trivial (receipt_of_plain rfl)
  | claimed call event run =>
    simp only [proceedEngine, claiming, attempting]
    cases owned : tables.leases.claim site.ttl input.now input.workerNow run.runId
        call.workerId with
    | error err => exact proceeds_raised _ err
    | ok both =>
      obtain ⟨leases, lease⟩ := both
      cases lease with
      | none =>
        exact .ended _ leases (.returned { run := run }) trivial (receipt_of_plain rfl)
      | some lease => exact .leased call event run leases lease owned
  | approved call askId approval =>
    simp only [proceedEngine, attempting]
    cases read : tables.runs.getByEvent site.double
        (approvedIdentity call.workflow approval) with
    | error err => exact proceeds_raised _ err
    | ok answer =>
      cases answer with
      | none => exact proceeds_raised _ _
      | some run => exact .found call askId approval run read
  | found call askId run =>
    simp only [proceedEngine, claiming, attempting]
    cases owned : tables.leases.claim site.ttl input.now input.workerNow run.runId
        call.workerId with
    | error err => exact proceeds_raised _ err
    | ok both =>
      obtain ⟨leases, lease⟩ := both
      cases lease with
      | none => exact .ended _ leases (.raised _) trivial (receipt_of_raised _ _)
      | some lease => exact .owned call askId run leases lease owned
  | owned call askId run lease =>
    simp only [proceedEngine, attempting]
    cases tables.leases.assertCurrent input.now lease with
    | error err => exact proceeds_raised _ err
    | ok _ => exact .current call askId run lease
  | current call askId run lease =>
    simp only [proceedEngine, attempting]
    cases read : tables.approvals.resumeEvent site.postgres site.double
        input.clock askId with
    | error err => exact proceeds_raised _ err
    | ok event => exact .resumed call askId run lease event read
  | leased exec => exact proceeds_evaluate exec
  | requesting exec reason =>
    simp only [proceedEngine, attempting]
    cases filed : tables.approvals.create site.postgres
        (.forRun exec.run exec.event reason input.workerNow)
          (some exec.run.runId) with
    | error err => exact proceeds_raised _ err
    | ok approvals => exact .requested exec reason approvals filed
  | waiting exec askId => exact proceeds_move (.waiting askId)
  | running exec attempt =>
    simp only [proceedEngine]
    cases out : input.outcome with
    | returned res =>
      simp only [← out]
      exact .called exec attempt res out
    | raised typeName msg =>
      simp only [← out]
      exact .threw exec attempt typeName msg out
  | failed exec attempt typeName msg =>
    exact proceeds_move (.recovering attempt typeName msg)
  | returned exec res => exact proceeds_move (.completed res)
  | releasing lease receipt =>
    exact .ended _ _ (.returned receipt) trivial fun _ same => by
      cases same
      exact Or.inr ⟨lease, rfl⟩

end inversion

inductive Asks : EngineRequest → Uuid → RunChange → Prop where
  | transition (runId : Uuid) (change : RunChange) : Asks (.transition runId change) runId change
  | fenced (lease : WorkerLease) (runId : Uuid) (change : RunChange) :
      Asks (.fencedTransition lease runId change) runId change

def EngineRequest.IsInside : EngineRequest → Prop
  | .transition _ _ => False
  | .fencedTransition _ _ _ => False
  | _ => True

instance : DecidablePred EngineRequest.IsInside
  | .start _ _ _ | .resumeApproval _ _ | .decide _ _ _ | .sweep _ _ => .isTrue trivial
  | .transition _ _ | .fencedTransition _ _ _ => .isFalse id

def Inside : EngineStatement → Prop
  | .enter _ req _ => req.IsInside
  | _ => True

instance : DecidablePred Inside
  | .enter _ req _ => inferInstanceAs (Decidable req.IsInside)
  | .proceed _ _ | .crash _ => .isTrue trivial

inductive Enters (site : Deployment) (input : EngineInput) (tables : EngineTables) :
    EngineRequest → EngineStride → Prop where
  | ended (req : EngineRequest) (err : PyError) :
      Enters site input tables req (.ending tables [.raised err])
  | conflicted (call : EngineCall) (event : EventEnvelope) (runId : Uuid)
      (fires : call.workflow.fires event = true) :
      Enters site input tables (.start call event runId)
        (.going tables (.conflicted call event (.new runId (runIdentity call.workflow event))) [])
  | created (call : EngineCall) (event : EventEnvelope) (runId : Uuid) (runs : RunTable)
      (fires : call.workflow.fires event = true)
      (inserted : tables.runs.insert site.postgres input.now
        (.new runId (runIdentity call.workflow event)) = .ok (some runs)) :
      Enters site input tables (.start call event runId) (.going { tables with runs := runs }
          (.created call event (.new runId (runIdentity call.workflow event)))
          [.created runId input.now])
  | approved (call : EngineCall) (askId : String) (approval : ApprovalRequest)
      (read : tables.approvals.get site.postgres site.double input.clock askId =
        .ok (some approval))
      (granted : approval.decision = .approved) :
      Enters site input tables (.resumeApproval call askId)
        (.going tables (.approved call askId approval) [])
  | decided (askId : String) (decision : ApprovalDecision) (actor : String)
      (events : List EngineEvent) (raises : ∀ event ∈ events, ∃ err, event = .raised err) :
      Enters site input tables (.decide askId decision actor) (.ending { tables with
          approvals := (tables.approvals.decide site.postgres site.double input.clock
            askId decision actor input.workerNow).1 } events)
  | swept (limit : Int) (locked : List Uuid) (runs : RunTable) (recovered : List DurableWorkflowRun)
      (done : site.sweeper.sweep site.double input.now limit locked tables.runs =
        .ok (runs, recovered)) :
      Enters site input tables (.sweep limit locked)
        (.ending { tables with runs := runs } [.swept (recovered.map (·.runId)) input.now])
  | moved (req : EngineRequest) (runId : Uuid) (change : RunChange) (row : DurableRunRow)
      (events : List EngineEvent) (raises : ∀ event ∈ events, ∃ err, event = .raised err)
      (asks : Asks req runId change)
      (written : changed site.postgres input.now runId change tables.runs = .ok row) :
      Enters site input tables req
        (.ending { tables with runs := tables.runs.set runId row }
          (.transitioned runId change.status input.now :: events))

section inversion

variable {site : Deployment} {input : EngineInput} {tables : EngineTables}

theorem enters_moving {req : EngineRequest} {runId : Uuid} {change : RunChange}
    {res : Except PyError (RunTable × DurableRunRow)} (asks : Asks req runId change)
    (written : ∀ runs row, res = .ok (runs, row) →
      changed site.postgres input.now runId change tables.runs = .ok row ∧
      runs = tables.runs.set runId row) :
    Enters site input tables req
      (moving site runId change input tables res fun _ => none) := by
  unfold moving attempting
  cases res with
  | error err => exact .ended req err
  | ok both =>
    obtain ⟨runs, row⟩ := both
    obtain ⟨changed, rfl⟩ := written runs row rfl
    cases decoded : row.run site.double runId with
    | error err =>
      simp only [decoded]
      exact .moved req runId change row [.raised err] (by simp) asks changed
    | ok run =>
      simp only [decoded]
      exact .moved req runId change row [] (by simp) asks changed

theorem enters (req : EngineRequest) :
    Enters site input tables req (enterEngine site req input tables) := by
  cases req with
  | start call event runId =>
    simp only [enterEngine, enterStart, attempting]
    split_ifs with fires
    · cases inserted : tables.runs.insert site.postgres input.now
          (.new runId (runIdentity call.workflow event)) with
      | error err => exact .ended _ err
      | ok answer =>
        cases answer with
        | none => exact .conflicted call event runId fires
        | some runs => exact .created call event runId runs fires inserted
    · exact .ended _ _
  | resumeApproval call askId =>
    simp only [enterEngine, enterResume, attempting]
    cases read : tables.approvals.get site.postgres site.double input.clock
        askId with
    | error err => exact .ended _ err
    | ok answer =>
      cases answer with
      | none => exact .ended _ _
      | some approval =>
        simp only
        split_ifs with granted
        · exact .approved call askId approval read granted
        · exact .ended _ _
  | decide askId decision actor =>
    simp only [enterEngine, attempting]
    cases (tables.approvals.decide site.postgres site.double input.clock
        askId decision actor input.workerNow).2 with
    | error err =>
      exact .decided askId decision actor [.raised err] (by simp)
    | ok req => exact .decided askId decision actor [] (by simp)
  | sweep limit locked =>
    simp only [enterEngine, enterSweep, attempting]
    cases done : site.sweeper.sweep site.double input.now limit locked tables.runs with
    | error err => exact .ended _ err
    | ok both => exact .swept limit locked both.1 both.2 done
  | transition runId change =>
    exact enters_moving (.transition runId change) fun runs row done => transition_ok done
  | fencedTransition lease runId change =>
    exact enters_moving (.fenced lease runId change)
      fun runs row done => (fenced_transition_ok done).2

end inversion

def EngineEvent.runIds : EngineEvent → List Uuid
  | .created runId _ => [runId]
  | .transitioned runId _ _ => [runId]
  | .swept runIds _ => runIds
  | _ => []

theorem EngineEvent.run_ids_of_end {event : EngineEvent} (ends : event.IsEnd) :
    event.runIds = [] := by
  cases event with
  | returned => rfl
  | raised => rfl
  | created | transitioned | swept | called => exact ends.elim

inductive Writes (scene : EngineScene) : EngineStatement → Uuid → RunChange → Prop where
  | asked (n : Nat) (req : EngineRequest) (input : EngineInput) (runId : Uuid)
      (change : RunChange) (asks : Asks req runId change) :
      Writes scene (.enter n req input) runId change
  | moved (n : Nat) (point : EnginePoint) (input : EngineInput) (exec : Execution)
      (change : RunChange) (next : DurableWorkflowRun → EnginePoint)
      (reached : scene.calls n = some point) (moves : Moves exec point change next) :
      Writes scene (.proceed n input) exec.run.runId change

inductive RunsStep (site : Deployment) (scene : EngineScene) :
    EngineStatement → RunTable → List EngineEvent → Prop where
  | kept (stmt : EngineStatement) (events : List EngineEvent)
      (quiet : ∀ event ∈ events, event.runIds = []) :
      RunsStep site scene stmt scene.shared.runs events
  | created (n : Nat) (call : EngineCall) (event : EventEnvelope) (runId : Uuid)
      (input : EngineInput) (runs : RunTable)
      (inserted : scene.shared.runs.insert site.postgres input.now
        (.new runId (runIdentity call.workflow event)) = .ok (some runs)) :
      RunsStep site scene (.enter n (.start call event runId) input) runs
        [.created runId input.now]
  | moved (stmt : EngineStatement) (runId : Uuid) (change : RunChange) (now : Int)
      (row : DurableRunRow) (rest : List EngineEvent)
      (quiet : ∀ event ∈ rest, event.runIds = []) (writes : Writes scene stmt runId change)
      (written : changed site.postgres now runId change scene.shared.runs = .ok row) :
      RunsStep site scene stmt (scene.shared.runs.set runId row)
        (.transitioned runId change.status now :: rest)
  | swept (n : Nat) (limit : Int) (locked : List Uuid) (input : EngineInput)
      (free : scene.calls n = none) (runs : RunTable) (recovered : List DurableWorkflowRun)
      (done : site.sweeper.sweep site.double input.now limit locked
        scene.shared.runs = .ok (runs, recovered)) :
      RunsStep site scene (.enter n (.sweep limit locked) input) runs
        [.swept (recovered.map (·.runId)) input.now]

section runs

variable {site : Deployment} {scene : EngineScene}

theorem quiet_of_raises {events : List EngineEvent}
    (raises : ∀ event ∈ events, ∃ err, event = .raised err) :
    ∀ event ∈ events, event.runIds = [] := by
  intro event mem
  obtain ⟨err, rfl⟩ := raises event mem
  rfl

theorem enter_runs (n : Nat) (req : EngineRequest) (input : EngineInput)
    (free : scene.calls n = none) :
    RunsStep site scene (.enter n req input)
      (enterEngine site req input scene.shared).shared.runs
      (enterEngine site req input scene.shared).said := by
  have step : Enters site input scene.shared req _ := enters req
  generalize enterEngine site req input scene.shared = stride at step ⊢
  cases step with
  | ended => exact .kept _ _ (by simp [runIds])
  | conflicted => exact .kept _ _ (by simp)
  | created call event runId runs fires inserted =>
    exact .created n call event runId input runs inserted
  | approved => exact .kept _ _ (by simp)
  | decided _ _ _ events raises => exact .kept _ events (quiet_of_raises raises)
  | swept limit locked runs recovered done =>
    exact .swept n limit locked input free runs recovered done
  | moved _ runId change row events raises asks written =>
    exact .moved _ runId change input.now row events (quiet_of_raises raises)
      (.asked n req input runId change asks) written

theorem proceed_runs {n : Nat} {point : EnginePoint} (input : EngineInput)
    (reached : scene.calls n = some point) :
    RunsStep site scene (.proceed n input)
      (proceedEngine site point input scene.shared).shared.runs
      (proceedEngine site point input scene.shared).said := by
  have step : Proceeds site input scene.shared point _ := proceeds point
  generalize proceedEngine site point input scene.shared = stride at step ⊢
  cases step with
  | ended point leases event ends =>
    exact .kept _ _ (by simpa using run_ids_of_end ends)
  | moved exec point change next row run moves cur written decoded =>
    exact .moved _ exec.run.runId change input.now row [] (by simp)
      (.moved n point input exec change next reached moves) written
  | broken exec point change next row err moves cur written undecoded =>
    exact .moved _ exec.run.runId change input.now row _ (by simp [runIds])
      (.moved n point input exec change next reached moves) written
  | called | threw => exact .kept _ _ (by simp [runIds])
  | _ => exact .kept _ _ (by simp)

theorem runs_step (stmt : EngineStatement) (scene : EngineScene) :
    RunsStep site scene stmt
      ((engineMachine site).next stmt scene).shared.runs
      (((engineMachine site).answer stmt scene).getD []) := by
  have happens := (engine site).machine_happens stmt scene
  change RunsStep site scene stmt
    ((engine site).machine stmt scene).1.shared.runs
    (((engine site).machine stmt scene).2.getD [])
  generalize (engine site).machine stmt scene = res at happens ⊢
  cases happens with
  | ignored | crashed => exact .kept _ _ (by simp)
  | entered call req input free => exact enter_runs call req input free
  | proceeded call point input reached => exact proceed_runs input reached

end runs

end Ois.Autonomy
