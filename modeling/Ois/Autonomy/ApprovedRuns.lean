import Ois.Autonomy.EngineSchedules

/-!
# Which run an approval lets run

The approval that a waiting run records, or that a receipt names, is for that run, a
callback that runs under an approval runs for the run of the approval, and an approval that
is granted lets a call execute the run that waits for it.
-/

namespace Ois.Autonomy

open Ois.Library Ois.Kernel Ois.Infrastructure Machine EngineEvent

def LetsRun (site : Deployment) (scene : EngineScene) (askId : String)
    (runId : Uuid) : Prop :=
  ∀ n call input run leases lease eventId, scene.calls n = none →
    scene.shared.runs.get site.double runId = .ok (some run) →
    call.workflow.version = run.identity.workflowVersion →
    scene.shared.leases.claim site.ttl input.now input.workerNow runId call.workerId =
      .ok (leases, some lease) →
    Jsonb.holdText run.identity.eventId = some eventId →
    ∃ event, scene.shared.approvals.resumeEvent site.postgres site.double
        input.clock askId = .ok event ∧
      ∀ evaluation, call.policy.judge site.reprFloat event = .ok evaluation →
        evaluation.outcome ≠ .deny → called runId (some askId) input.outcome ∈
            eventsOf ((engineMachine site).answers
              (.enter n (.resumeApproval call askId) input :: rest n 6 input) scene)

structure ApprovalsBound (site : Deployment) (stmts : List EngineStatement) :
    Prop where
  recorded : ∀ runId row,
    ((engineMachine site).run stmts (.quiet {})).shared.runs.lookup runId = some row →
      row.status = .waitingApproval → ∃ askId,
        recordedApproval row.checkpoint = some askId ∧
          Approves site ((engineMachine site).run stmts (.quiet {})).shared
            askId runId
  receipts : ∀ receipt askId, returned receipt ∈
        eventsOf ((engineMachine site).answers stmts (.quiet {})) →
      receipt.approvalId = some askId →
        Approves site ((engineMachine site).run stmts (.quiet {})).shared
          askId receipt.run.runId
  executes : ∀ runId askId out, called runId (some askId) out ∈
        eventsOf ((engineMachine site).answers stmts (.quiet {})) →
      Approves site ((engineMachine site).run stmts (.quiet {})).shared
        askId runId
  lets : ∀ runId row askId id approval,
    ((engineMachine site).run stmts (.quiet {})).shared.runs.lookup runId = some row →
      row.status = .waitingApproval → recordedApproval row.checkpoint = some askId →
        site.postgres.uuid askId = some id →
          ((engineMachine site).run stmts (.quiet {})).shared.approvals.lookup id =
              some approval → approval.decision = .approved →
            LetsRun site ((engineMachine site).run stmts (.quiet {}))
              askId runId

section lets

variable {site : Deployment} {scene : EngineScene} {events : List EngineEvent}

theorem lets_of_own {askId : String} {runId : Uuid} {approval : ApprovalRow}
    (sound : BindingSound site events scene)
    (named : site.postgres.uuid askId = some runId)
    (filed : scene.shared.approvals.lookup runId = some approval)
    (granted : approval.decision = .approved) : LetsRun site scene askId runId := by
  intro n call input run leases lease eventId free read version claimed plain
  obtain ⟨whole, row, found, whose⟩ := sound.waits.filed runId approval filed
  have gets : ∃ req event, scene.shared.approvals.get site.postgres site.double
      input.clock askId = .ok (some req) ∧ req.event = some event ∧
        event.eventId = approval.eventId := get_of_sound input.clock whole named filed
  obtain ⟨req, event, asked, kept, about⟩ := gets
  obtain ⟨other, held, again, there, tenant, workspace, flow, eventOf, decision⟩ :=
    approval_of_get asked
  rw [named, Option.some.injEq] at again
  subst again
  rw [filed, Option.some.injEq] at there
  subst there
  have approved : req.decision = .approved := decision.trans granted
  have decoded : row.run site.double runId = .ok run := by
    simp only [RunTable.get, found, Except.map] at read
    cases reads : row.run site.double runId with
    | error err => simp [reads] at read
    | ok res => simpa [reads] using read
  obtain ⟨own, ident, _, _, _, _, res, _⟩ := DurableRunRow.run_ok decoded
  have same : approvedIdentity call.workflow req = row.identity := by
    rw [approvedIdentity, tenant, workspace, flow, eventOf, version, ident,
      whose.tenantId, whose.workspaceId, whose.workflowId, whose.eventId]
  have selected : scene.shared.runs.getByEvent site.double
      (approvedIdentity call.workflow req) = .ok (some run) := by
    rw [same, RunTable.getByEvent, (of_identity_iff sound.waits.engine.runs).mpr ⟨found, rfl⟩]
    simp [decoded, Except.map]
  rw [← own] at claimed
  refine ⟨event, resume_event_of_get asked approved kept, ?_⟩
  intro evaluation judged permitted
  have cur := current_of_claimed site.positive claimed
  have identified : Jsonb.holdText event.eventId = some eventId := by
    rw [about, whose.eventId, ← ident, plain]
  let resuming : List EngineStatement :=
    .enter n (.resumeApproval call askId) input :: rest n 4 input
  have leased : Reaches n _ _ ((engineMachine site).run resuming scene) :=
    reaches_resumed free asked approved kept selected claimed
  obtain ⟨attempt, after, running, _⟩ := runs_leased leased rfl judged permitted identified
    cur (by rw [own]; exact found) (sound.waits.engine.runs.rows runId row found) res
  change _ ∈ eventsOf ((engineMachine site).answers
    (resuming ++ [.proceed n input] ++ [.proceed n input]) scene)
  rw [answers_concat, events_of_concat, run_concat,
    (engine site).answer_of_reached input running]
  apply List.mem_append_right
  simp [engine, proceedEngine, own]

end lets

section bound

variable {site : Deployment}

theorem binding_sound_run {stmts : List EngineStatement}
    (uuids : UuidsRead site.postgres) (inside : ∀ stmt ∈ stmts, Inside stmt)
    (binds : (engineMachine site).Throughout (BindsOwn site) stmts (.quiet {})) :
    BindingSound site (eventsOf ((engineMachine site).answers stmts (.quiet {})))
      ((engineMachine site).run stmts (.quiet {})) := by
  induction stmts using List.reverseRecOn with
  | nil =>
    exact { waits := waiting_sound_quiet
            points := fun n point reached => by simp [run] at reached
            told := fun event mem => by simp [answers, eventsOf] at mem }
  | append_singleton past stmt ih =>
    obtain ⟨before, here, _⟩ := throughout_append.mp binds
    have sound := ih (fun other mem => inside other (List.mem_append_left _ mem)) before
    rw [answers_concat, run_concat, events_of_concat]
    exact binding_sound_next uuids (inside stmt (by simp)) here sound

end bound

/-- Calls of any workers start and resume runs of any tenants, workspaces and workflows,
humans decide and sweeps are made. As long as every call that needs an approval finds no
pending one of its event, and every call that resumes is handed the version of the run that
its approval is filed for, approvals are bound to their runs. -/
theorem approvals_bound (site : Deployment) (uuids : UuidsRead site.postgres)
    (stmts : List EngineStatement) (inside : ∀ stmt ∈ stmts, Inside stmt)
    (binds : (engineMachine site).Throughout (BindsOwn site) stmts (.quiet {})) :
    ApprovalsBound site stmts := by
  have sound := binding_sound_run uuids inside binds
  constructor
  case recorded =>
    intro runId row found waiting
    obtain ⟨askId, recorded, own⟩ := sound.waits.recorded runId row found waiting
    exact ⟨askId, recorded, approves_of_own sound.waits.filed own⟩
  case receipts =>
    intro receipt askId mem named
    apply approves_of_own sound.waits.filed
    exact sound.told _ mem askId _ (by simp [approval?, named])
  case executes =>
    intro runId askId out mem
    exact approves_of_own sound.waits.filed (sound.told _ mem askId runId rfl)
  case lets =>
    intro runId row askId id approval found waiting recorded named filed granted
    obtain ⟨other, same, own, _⟩ := sound.waits.recorded runId row found waiting
    rw [recorded, Option.some.injEq] at same
    subst same
    rw [named, Option.some.injEq] at own
    subst own
    exact lets_of_own sound named filed granted

theorem exact_reads_uuids : UuidsRead Deployment.exact.postgres := by
  simp [UuidsRead, Deployment.exact, Postgres.exact]

/-- Two tenants with one event identifier: each starts its run, has it approved and resumes it. -/
def tenantsApproved : List EngineStatement :=
  [("tenant", ⟨1⟩, 0), ("other", ⟨2⟩, 3)].flatMap fun (tenant, runId, n) =>
    starting n tenant true runId 6 ++ deciding (n + 1) runId .approved (second 10) ::
      resuming (n + 2) tenant runId 7 (second 20)

theorem tenant_approvals_bound : ApprovalsBound .exact tenantsApproved :=
  approvals_bound .exact exact_reads_uuids tenantsApproved (by decide +kernel)
    (by decide +kernel)

/-- The run of another tenant, whose event has the same identifier, waits for the approval
of the first. When that is granted, it lets the first tenant's run be executed and no call
execute the other's. -/
theorem foreign_approval_recorded :
    let stmts := starting 0 "tenant" true ⟨1⟩ 6 ++ starting 1 "other" true ⟨2⟩ 6
    let scene := (engineMachine .exact).run stmts (.quiet {})
    (scene.shared.runs.lookup ⟨2⟩).map (fun row =>
      (row.tenantId, row.status, recordedApproval row.checkpoint)) =
      some ("other", .waitingApproval, some (Uuid.str ⟨1⟩)) ∧
    (scene.shared.approvals.lookup ⟨1⟩).map (·.tenantId) = some "tenant" ∧
      ¬ApprovalsBound .exact stmts := by
  intro stmts scene
  have waits : (scene.shared.runs.lookup ⟨2⟩).map (fun row =>
      (row.tenantId, row.status, recordedApproval row.checkpoint)) =
        some ("other", .waitingApproval, some (Uuid.str ⟨1⟩)) := by decide +kernel
  have filed : (scene.shared.approvals.lookup ⟨1⟩).map (·.tenantId) = some "tenant" := by
    decide +kernel
  refine ⟨waits, filed, fun bound => ?_⟩
  obtain ⟨row, found, columns⟩ := Option.map_eq_some_iff.mp waits
  simp only [Prod.mk.injEq] at columns
  obtain ⟨tenant, waiting, named⟩ := columns
  obtain ⟨askId, recorded, id, approval, held, asked, there, here, whose⟩ :=
    bound.recorded ⟨2⟩ row found waiting
  rw [named, Option.some.injEq] at recorded
  subst recorded
  rw [exact_reads_uuids, Option.some.injEq] at asked
  subst asked
  have same : held = row := Option.some.inj (here.symm.trans found)
  have first : approval.tenantId = "tenant" := by
    have columns := filed
    rw [there, Option.map_some, Option.some.injEq] at columns
    exact columns
  have other : approval.tenantId = row.tenantId := same ▸ whose.tenantId
  rw [first, tenant] at other
  exact absurd other (by decide)

end Ois.Autonomy
