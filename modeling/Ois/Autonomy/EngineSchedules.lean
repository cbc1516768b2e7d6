import Ois.Autonomy.BoundApprovals

/-!
# Calls that nothing disturbs

A call whose statements run one after another, on the tables that it meets. These lemmas
take a call that resumes or starts a run to the evaluation of the policy, and from there to
its first transition.
-/

namespace Ois.Autonomy

open Ois.Library Ois.Kernel Ois.Infrastructure LeaseTable

def Reaches (n : Nat) (point : EnginePoint) (tables : EngineTables) (scene : EngineScene) :
    Prop :=
  scene.calls n = some point ∧ scene.shared = tables

section strides

variable (site : Deployment) {scene : EngineScene} {n : Nat} (input : EngineInput)

theorem reaches_entered {req : EngineRequest} {next : EnginePoint} {after : EngineTables}
    (said : List EngineEvent) (free : scene.calls n = none)
    (stride : enterEngine site req input scene.shared = .going after next said) :
    Reaches n next after
      ((engineMachine site).next (.enter n req input) scene) := by
  rw [(engine site).next_of_free req input free]
  change Reaches n next after
    (scene.strode n (enterEngine site req input scene.shared))
  rw [stride]
  exact ⟨by simp [Scene.strode_calls], rfl⟩

theorem reaches_proceeded {point next : EnginePoint} {tables after : EngineTables}
    (said : List EngineEvent) (reaches : Reaches n point tables scene)
    (stride : proceedEngine site point input tables = .going after next said) :
    Reaches n next after ((engineMachine site).next (.proceed n input) scene) := by
  obtain ⟨reached, rfl⟩ := reaches
  rw [(engine site).next_of_reached input reached]
  change Reaches n next after
    (scene.strode n (proceedEngine site point input scene.shared))
  rw [stride]
  exact ⟨by simp [Scene.strode_calls], rfl⟩

theorem current_of_claimed {ttl now workerNow : Int} {execId : Uuid} {worker : String}
    {leases after : LeaseTable} {lease : WorkerLease} (positive : 0 < ttl)
    (claimed : leases.claim ttl now workerNow execId worker = .ok (after, some lease)) :
    after.isCurrent now lease = true := by
  unfold claim at claimed
  split_ifs at claimed with nameless
  have later : now < now + ttl := by omega
  cases found : leases.lookup execId with
  | none =>
    simp only [found, Except.ok.injEq, Prod.mk.injEq, Option.some.injEq] at claimed
    obtain ⟨rfl, rfl⟩ := claimed
    simp [isCurrent, leaseOf, later]
  | some row =>
    simp only [found] at claimed
    cases granted : claimOver ttl now workerNow worker row with
    | none => simp [granted] at claimed
    | some next =>
      simp only [granted, Except.ok.injEq, Prod.mk.injEq, Option.some.injEq] at claimed
      obtain ⟨rfl, rfl⟩ := claimed
      have expires : next.leaseExpiresAt = now + ttl := by
        unfold claimOver at granted
        split_ifs at granted
        · rw [← Option.some.inj granted]
        · rw [← Option.some.inj granted]
      simp [isCurrent, leaseOf, expires, later]

end strides

section approvals

variable {pg : Postgres} {double : List Char → UInt64} {id : Uuid} {row : ApprovalRow}
  {askId : String} {table : ApprovalTable}

theorem get_of_sound (clock : DateTime) (sound : row.Sound)
    (named : pg.uuid askId = some id) (found : table.lookup id = some row) :
    ∃ req event, ApprovalTable.get pg double clock askId table =
        .ok (some req) ∧ req.event = some event ∧ event.eventId = row.eventId := by
  obtain ⟨⟨members, body⟩, ⟨kind, typed⟩⟩ := sound
  have asked : ApprovalTable.uuidColumn pg askId = .ok id := by
    simp [ApprovalTable.uuidColumn, named]
  simp only [ApprovalTable.get, asked, found, ApprovalTable.request, body, typed,
    decodeMembers, bind, Except.bind, pure, Except.pure, Option.map_some]
  exact ⟨_, _, rfl, rfl, rfl⟩

theorem resume_event_of_get {clock : DateTime} {req : ApprovalRequest} {event : EventEnvelope}
    (read : ApprovalTable.get pg double clock askId table = .ok (some req))
    (granted : req.decision = .approved) (kept : req.event = some event) :
    ApprovalTable.resumeEvent pg double clock askId table = .ok event := by
  simp [ApprovalTable.resumeEvent, read, granted, kept, bind, Except.bind, pure, Except.pure]

end approvals

section resume

variable {site : Deployment} {scene : EngineScene}

theorem reaches_resumed {n : Nat} {call : EngineCall} {askId : String}
    {input : EngineInput} {approval : ApprovalRequest} {run : DurableWorkflowRun}
    {leases : LeaseTable} {lease : WorkerLease} {event : EventEnvelope}
    (free : scene.calls n = none)
    (asked : scene.shared.approvals.get site.postgres site.double input.clock
      askId = .ok (some approval)) (granted : approval.decision = .approved)
    (kept : approval.event = some event)
    (read : scene.shared.runs.getByEvent site.double
      (approvedIdentity call.workflow approval) = .ok (some run))
    (claimed : scene.shared.leases.claim site.ttl input.now input.workerNow run.runId
      call.workerId = .ok (leases, some lease)) :
    Reaches n
      (.leased { policy := call.policy, run := run, event := event, lease := lease
                 approvalId := some askId })
      { scene.shared with leases := leases }
      ((engineMachine site).run
        (.enter n (.resumeApproval call askId) input :: rest n 4 input) scene) := by
  have cur := current_of_claimed site.positive claimed
  have resumed := resume_event_of_get asked granted kept
  have entered : Reaches n (.approved call askId approval) scene.shared
      ((engineMachine site).next (.enter n (.resumeApproval call askId) input)
        scene) :=
    reaches_entered site input [] free
      (by simp [enterEngine, enterResume, attempting, asked, granted])
  have found : Reaches n (.found call askId run) scene.shared _ :=
    reaches_proceeded site input [] entered (by simp [proceedEngine, attempting, read])
  have owned : Reaches n (.owned call askId run lease)
      { scene.shared with leases := leases } _ :=
    reaches_proceeded site input [] found
      (by simp [proceedEngine, claiming, attempting, claimed])
  have asserted : Reaches n (.current call askId run lease)
      { scene.shared with leases := leases } _ :=
    reaches_proceeded site input [] owned
      (by simp [proceedEngine, attempting, assertCurrent, cur])
  exact reaches_proceeded site input [] asserted
    (by simp [proceedEngine, attempting, resumed])

theorem runs_leased {n : Nat} {input : EngineInput} {exec : Execution}
    {askId : String} {tables : EngineTables} {evaluation : PolicyEvaluation}
    {row : DurableRunRow} {eventId : String} {res : Json}
    (reaches : Reaches n (.leased exec) tables scene)
    (resumed : exec.approvalId = some askId)
    (judged : exec.policy.judge site.reprFloat exec.event = .ok evaluation)
    (permitted : evaluation.outcome ≠ .deny)
    (plain : Jsonb.holdText exec.event.eventId = some eventId)
    (cur : tables.leases.isCurrent input.now exec.lease = true)
    (found : tables.runs.lookup exec.run.runId = some row) (sound : RowSound row)
    (decoded : decodeText site.double (row.result.getD .null) = .ok res) :
    ∃ attempt after, Reaches n (.running exec attempt) after
      ((engineMachine site).next (.proceed n input) scene) := by
  have checkpoint : ∃ doc, FencedStore.optionalColumn site.postgres
      (some (.obj (exec.phase "execution"))) = .ok (some doc) := by
    simp only [FencedStore.optionalColumn]
    rw [column_phase _ _ (by decide +kernel), plain]
    exact ⟨_, rfl⟩
  obtain ⟨doc, checkpoint⟩ := checkpoint
  have running : ∃ moved, RunTable.changed site.postgres input.now exec.run.runId
      exec.toRunning tables.runs = .ok moved ∧ moved.result = row.result :=
    ⟨_, RunTable.changed_of_columns found checkpoint rfl rfl, rfl⟩
  obtain ⟨moved, written, kept⟩ := running
  rw [← kept] at decoded
  have sure : ∃ run, moved.run site.double exec.run.runId = .ok run ∧
      run.result = res := run_of_sound (row_sound_changed found sound written) decoded
  obtain ⟨run, reads, _⟩ := sure
  have evaluates : proceedEngine site (.leased exec) input tables =
      exec.enterRunning site input tables := by
    cases out : evaluation.outcome with
    | deny => exact absurd out permitted
    | allow => simp only [proceedEngine, Execution.evaluate, attempting, judged, out]
    | approvalRequired =>
      simp only [proceedEngine, Execution.evaluate, attempting, judged, out, resumed]
  exact ⟨run.attempt, _, reaches_proceeded site input _ reaches
    (evaluates.trans (move_of_written cur written reads))⟩

end resume

end Ois.Autonomy
