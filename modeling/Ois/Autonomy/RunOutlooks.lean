import Ois.Autonomy.EngineSchedules
import Ois.Autonomy.RunHolds

/-!
# What is left for a run

A run that is not over goes on when a call has it in hand, when the approval that it waits for is
decided, or when a later call moves it: a start of its event as long as nobody has claimed its
key, a resume of an approval that is granted for it, a sweep as long as it has recoveries left.
-/

namespace Ois.Autonomy

open Ois.Library Ois.Kernel Ois.Infrastructure

def DurableRunRow.IsOver (row : DurableRunRow) : Prop :=
  row.status = .completed ∨ row.status = .failed ∨ row.status = .stopped

instance (row : DurableRunRow) : Decidable row.IsOver :=
  inferInstanceAs (Decidable (_ ∨ _ ∨ _))

def ApprovalRow.Resumes (ident : RunIdentity) (row : ApprovalRow) : Prop :=
  row.tenantId = ident.tenantId ∧ row.workspaceId = ident.workspaceId ∧
    row.workflowId = ident.workflowId ∧ row.eventId = ident.eventId

instance (ident : RunIdentity) (row : ApprovalRow) : Decidable (row.Resumes ident) :=
  inferInstanceAs (Decidable (_ ∧ _ ∧ _ ∧ _))

def Awaits (site : Deployment) (tables : EngineTables) (ident : RunIdentity)
    (askId : String) : Prop :=
  ∃ id ∈ site.postgres.uuid askId, ∃ approval ∈ tables.approvals.lookup id,
    approval.decision = .pending ∧ approval.Resumes ident

instance (site : Deployment) (tables : EngineTables) (ident : RunIdentity)
    (askId : String) : Decidable (Awaits site tables ident askId) :=
  inferInstanceAs (Decidable (∃ id ∈ _, ∃ approval ∈ _, _ ∧ _))

def Waits (site : Deployment) (tables : EngineTables) (row : DurableRunRow) : Prop :=
  row.status = .waitingApproval ∧ ∃ askId ∈ recordedApproval row.checkpoint,
    Awaits site tables row.identity askId

instance (site : Deployment) (tables : EngineTables) (row : DurableRunRow) :
    Decidable (Waits site tables row) :=
  inferInstanceAs (Decidable (_ ∧ ∃ askId ∈ _, _))

/-- An approval is granted that a call can resume a run of the identity with. -/
def Resumable (approvals : ApprovalTable) (ident : RunIdentity) : Prop :=
  ∃ id ∈ Dict.keys approvals, ∃ approval ∈ approvals.lookup id,
    approval.decision = .approved ∧ approval.Resumes ident

instance (approvals : ApprovalTable) (ident : RunIdentity) :
    Decidable (Resumable approvals ident) :=
  inferInstanceAs (Decidable (∃ id ∈ _, ∃ approval ∈ _, _ ∧ _))

theorem resumable_found_iff {approvals : ApprovalTable} {ident : RunIdentity} :
    Resumable approvals ident ↔ ∃ id approval, approvals.lookup id = some approval ∧
      approval.decision = .approved ∧ approval.Resumes ident := by
  constructor
  · rintro ⟨id, _, approval, found, granted, whose⟩
    exact ⟨id, approval, found, granted, whose⟩
  · rintro ⟨id, approval, found, granted, whose⟩
    exact ⟨id, List.mem_map_of_mem (Dict.mem_of_lookup found), approval, found, granted, whose⟩

def Startable (claims : ClaimTable) (row : DurableRunRow) : Prop :=
  row.status = .received ∧ claims.lookup row.idempotencyKey = none

instance (claims : ClaimTable) (row : DurableRunRow) : Decidable (Startable claims row) :=
  inferInstanceAs (Decidable (_ ∧ _))

def Sweepable (sweeper : WorkflowRecoverySweeper) (row : DurableRunRow) : Prop :=
  (row.status = .running ∨ row.status = .recovering) ∧ row.recoveryCount < sweeper.maxRecoveries

instance (sweeper : WorkflowRecoverySweeper) (row : DurableRunRow) :
    Decidable (Sweepable sweeper row) :=
  inferInstanceAs (Decidable (_ ∧ _))

def Provided (site : Deployment) (tables : EngineTables) (row : DurableRunRow) : Prop :=
  row.IsOver ∨ Waits site tables row ∨ Resumable tables.approvals row.identity ∨
    Startable tables.claims row ∨ Sweepable site.sweeper row

instance (site : Deployment) (tables : EngineTables) (row : DurableRunRow) :
    Decidable (Provided site tables row) :=
  inferInstanceAs (Decidable (_ ∨ _ ∨ _ ∨ _ ∨ _))

def InHand (scene : EngineScene) (runId : Uuid) : Prop :=
  ∃ n hold, heldBy scene n = some (runId, hold)

def EngineRequest.Drives : EngineRequest → Prop
  | .start _ _ _ | .resumeApproval _ _ | .sweep _ _ => True
  | _ => False

def Drives (since : Int) : EngineStatement → Prop
  | .enter _ req input => req.Drives ∧ since ≤ input.now ∧ since ≤ input.workerNow
  | .proceed _ input => since ≤ input.now ∧ since ≤ input.workerNow
  | .crash _ => False

def Later (site : Deployment) (scene : EngineScene) (holds : EngineScene → Prop) : Prop :=
  ∀ since, ∃ stmts, (∀ stmt ∈ stmts, Drives since stmt) ∧
    holds ((engineMachine site).run stmts scene)

def MovesLater (site : Deployment) (scene : EngineScene) (runId : Uuid)
    (row : DurableRunRow) : Prop :=
  Later site scene fun after => after.shared.runs.lookup runId ≠ some row

/-- Some later call comes to `_execute` for the run. -/
def ExecutesLater (site : Deployment) (scene : EngineScene) (runId : Uuid) : Prop :=
  Later site scene fun after => ∃ n exec,
    after.calls n = some (.leased exec) ∧ exec.run.runId = runId

def clocks (moment : Int) : EngineInput := { now := moment, workerNow := moment }

theorem drives_rest {since moment : Int} {n count : Nat} (late : since ≤ moment) :
    ∀ stmt ∈ rest n count (clocks moment), Drives since stmt := by
  intro stmt mem
  rw [List.eq_of_mem_replicate mem]
  exact ⟨late, late⟩

theorem lease_granted (ttl : Int) (leases : LeaseTable) (runId : Uuid) (since : Int) :
    ∃ moment, since ≤ moment ∧ ∃ after lease,
      leases.claim ttl moment moment runId "worker" = .ok (after, some lease) := by
  cases found : leases.lookup runId with
  | none =>
    refine ⟨since, le_refl since, ?_⟩
    simp [LeaseTable.claim, found]
  | some row =>
    refine ⟨max since row.leaseExpiresAt, le_max_left _ _, ?_⟩
    have expired : ¬max since row.leaseExpiresAt < row.leaseExpiresAt := by omega
    simp [LeaseTable.claim, found, LeaseTable.claimOver, expired]

def denying (ident : RunIdentity) : EngineCall :=
  { policy := [], workerId := "worker"
    workflow := { workflowId := ident.workflowId, version := ident.workflowVersion
                  tenantId := ident.tenantId, workspaceId := ident.workspaceId
                  trigger := { eventType := "" } } }

def plainEvent (ident : RunIdentity) : EventEnvelope :=
  { eventId := ident.eventId, tenantId := ident.tenantId
    workspaceId := ident.workspaceId, eventType := "", aggregateId := ident.eventId
    createdAt := .epoch }

theorem denying_fires (ident : RunIdentity) :
    (denying ident).workflow.fires (plainEvent ident) = true := by
  simp [denying, plainEvent, SourceWorkflow.fires, WorkflowTrigger.fires, WorkflowTrigger.accepts]

theorem insert_conflicts {pg : Postgres} {now : Int} {runs : RunTable} {runId : Uuid}
    {ident : RunIdentity} {entry : Uuid × DurableRunRow}
    (there : runs.ofIdentity ident = some entry) :
    runs.insert pg now (.new runId ident) = .ok none := by
  have empty : pg.column (Json.dumpsSorted (.obj [])) = .ok (.obj []) := rfl
  simp [RunTable.insert, DurableWorkflowRun.new, truthy, empty, there, bind, Except.bind, pure,
    Except.pure]

section taking

variable {site : Deployment} {scene : EngineScene} {runId : Uuid} {row : DurableRunRow}
  {run : DurableWorkflowRun}

structure TakesUp (site : Deployment) (scene : EngineScene) (runId : Uuid) (moment : Int)
    (stmts : List EngineStatement) (n : Nat) (exec : Execution) : Prop where
  reached : ((engineMachine site).run stmts scene).calls n =
    some (.leased exec)
  runs : ((engineMachine site).run stmts scene).shared.runs = scene.shared.runs
  current : ((engineMachine site).run stmts scene).shared.leases.isCurrent moment
    exec.lease = true
  denies : exec.policy = []
  own : exec.run.runId = runId

def TakenUp (site : Deployment) (scene : EngineScene) (runId : Uuid) : Prop :=
  ∀ since, ∃ moment stmts n exec, since ≤ moment ∧
    (∀ stmt ∈ stmts, Drives since stmt) ∧
      TakesUp site scene runId moment stmts n exec

theorem executes_later (taken : TakenUp site scene runId) :
    ExecutesLater site scene runId := by
  intro since
  obtain ⟨_, stmts, n, exec, _, drives, takes⟩ := taken since
  exact ⟨stmts, drives, n, exec, takes.reached, takes.own⟩

theorem stops {moment : Int} {stmts : List EngineStatement} {n : Nat}
    {exec : Execution} (sound : RunsSound scene.shared.runs)
    (found : scene.shared.runs.lookup runId = some row)
    (decoded : row.run site.double runId = .ok run)
    (takes : TakesUp site scene runId moment stmts n exec) :
    ∃ stopped, ((engineMachine site).run (stmts ++ [.proceed n (clocks moment)])
      scene).shared.runs.lookup runId = some stopped ∧ stopped.status = .stopped := by
  obtain ⟨reached, runs, cur, denies, own⟩ := takes
  subst own
  have res := (DurableRunRow.run_ok decoded).2.2.2.2.2.2.1
  rw [← runs] at found sound
  have written : ∃ moved, RunTable.changed site.postgres moment exec.run.runId
      Execution.toStopped ((engineMachine site).run stmts scene).shared.runs =
        .ok moved ∧ moved.status = .stopped ∧ moved.result = row.result :=
    ⟨_, RunTable.changed_of_columns found rfl rfl rfl, rfl, rfl⟩
  obtain ⟨moved, written, stopped, kept⟩ := written
  rw [← kept] at res
  have reads : ∃ after, moved.run site.double exec.run.runId = .ok after ∧
      after.result = run.result :=
    run_of_sound (row_sound_changed found (sound.rows _ row found) written) res
  obtain ⟨after, reads, _⟩ := reads
  have strode : proceedEngine site (.leased exec) (clocks moment)
      ((engineMachine site).run stmts scene).shared = _ :=
    (show proceedEngine site (.leased exec) (clocks moment) _ =
        exec.move site Execution.toStopped (exec.receipt none) (clocks moment) _ by
      simp only [proceedEngine, Execution.evaluate, attempting, denies,
        AutomationPolicy.judge_nil]).trans (move_of_written cur written reads)
  refine ⟨moved, ?_, stopped⟩
  rw [Machine.run_concat, shared_of_reached _ reached, strode]
  simp

theorem moves_later_of_taken (sound : RunsSound scene.shared.runs)
    (found : scene.shared.runs.lookup runId = some row)
    (decoded : row.run site.double runId = .ok run) (unfinished : ¬row.IsOver)
    (taken : TakenUp site scene runId) : MovesLater site scene runId row := by
  intro since
  obtain ⟨moment, stmts, n, exec, late, drives, takes⟩ := taken since
  obtain ⟨stopped, there, status⟩ := stops sound found decoded takes
  refine ⟨stmts ++ [.proceed n (clocks moment)], ?_, ?_⟩
  · intro stmt mem
    rcases List.mem_append.mp mem with past | last
    · exact drives stmt past
    · rw [List.mem_singleton.mp last]
      exact ⟨late, late⟩
  · intro same
    have equal : stopped = row := Option.some.inj (there.symm.trans same)
    exact unfinished (Or.inr (Or.inr (equal ▸ status)))

theorem get_by_event_of_found (sound : RunsSound scene.shared.runs)
    (found : scene.shared.runs.lookup runId = some row)
    (decoded : row.run site.double runId = .ok run) :
    scene.shared.runs.getByEvent site.double row.identity = .ok (some run) := by
  rw [RunTable.getByEvent, (of_identity_iff sound).mpr ⟨found, rfl⟩]
  simp [decoded, Except.map]

theorem taken_up_resumable {n : Nat} (uuids : UuidsRead site.postgres)
    (sound : RunsSound scene.shared.runs) (filed : ApprovalsFiled scene.shared)
    (free : scene.calls n = none) (found : scene.shared.runs.lookup runId = some row)
    (decoded : row.run site.double runId = .ok run)
    (resumable : Resumable scene.shared.approvals row.identity) :
    TakenUp site scene runId := by
  intro since
  obtain ⟨id, approval, held, granted, tenant, workspace, flow, event⟩ :=
    resumable_found_iff.mp resumable
  obtain ⟨moment, late, leases, lease, claimed⟩ :=
    lease_granted site.ttl scene.shared.leases runId since
  have readable : ∃ req event, scene.shared.approvals.get site.postgres
      site.double (clocks moment).clock id.str = .ok (some req) ∧
        req.event = some event ∧ event.eventId = approval.eventId :=
    get_of_sound _ (filed id approval held).1 (uuids id) held
  obtain ⟨req, envelope, asked, kept, _⟩ := readable
  obtain ⟨other, again, named, there, tenantId, spaceId, workflowId, eventId, decision⟩ :=
    approval_of_get asked
  rw [uuids, Option.some.injEq] at named
  subst named
  rw [held, Option.some.injEq] at there
  subst there
  have same : approvedIdentity (denying row.identity).workflow req = row.identity := by
    rw [approvedIdentity, tenantId, spaceId, workflowId, eventId, tenant, workspace, flow,
      event]
    rfl
  have read : scene.shared.runs.getByEvent site.double
      (approvedIdentity (denying row.identity).workflow req) = .ok (some run) :=
    same ▸ get_by_event_of_found sound found decoded
  have own := (DurableRunRow.run_ok decoded).1
  rw [← own] at claimed
  have leases_run : scene.shared.leases.claim site.ttl (clocks moment).now
      (clocks moment).workerNow run.runId (denying row.identity).workerId =
        .ok (leases, some lease) := claimed
  obtain ⟨reached, tables⟩ := reaches_resumed free asked (decision.trans granted) kept read
    leases_run
  refine ⟨moment, _, n, _, late, ?_, ⟨reached, ?_, ?_, rfl, own⟩⟩
  · intro stmt mem
    rcases List.mem_cons.mp mem with rfl | later
    · exact ⟨trivial, late, late⟩
    · exact drives_rest late stmt later
  · rw [tables]
  · rw [tables]
    exact current_of_claimed site.positive claimed

theorem taken_up_unclaimed {n : Nat} (sound : RunsSound scene.shared.runs)
    (free : scene.calls n = none) (found : scene.shared.runs.lookup runId = some row)
    (decoded : row.run site.double runId = .ok run)
    (unclaimed : scene.shared.claims.lookup row.idempotencyKey = none) :
    TakenUp site scene runId := by
  intro since
  obtain ⟨moment, late, leases, lease, claimed⟩ :=
    lease_granted site.ttl scene.shared.leases runId since
  obtain ⟨own, ident, _, _, key, _⟩ := DurableRunRow.run_ok decoded
  let call := denying row.identity
  let made := DurableWorkflowRun.new runId (runIdentity call.workflow (plainEvent row.identity))
  have read : scene.shared.runs.getByEvent site.double made.identity = .ok (some run) :=
    get_by_event_of_found sound found decoded
  have there : scene.shared.runs.ofIdentity made.identity = some (runId, row) :=
    (of_identity_iff sound).mpr ⟨found, rfl⟩
  have conflicts : scene.shared.runs.insert site.postgres (clocks moment).now made =
      .ok none := insert_conflicts there
  have fires : call.workflow.fires (plainEvent row.identity) = true := denying_fires row.identity
  have leases_run : scene.shared.leases.claim site.ttl (clocks moment).now
      (clocks moment).workerNow run.runId call.workerId = .ok (leases, some lease) :=
    own.symm ▸ claimed
  rw [← key] at unclaimed
  have entered : Reaches n (.conflicted call (plainEvent row.identity) made) scene.shared
      ((engineMachine site).next
        (.enter n (.start call (plainEvent row.identity) runId) (clocks moment)) scene) :=
    reaches_entered site (clocks moment) [] free
      (by simp only [enterEngine, enterStart, attempting, fires, if_true]; rw [conflicts])
  have created : Reaches n (.created call (plainEvent row.identity) run) scene.shared _ :=
    reaches_proceeded site (clocks moment) [] entered
      (by simp [proceedEngine, attempting, read])
  have first : Reaches n (.claimed call (plainEvent row.identity) run)
      { scene.shared with claims := (scene.shared.claims.claim run).1 } _ :=
    reaches_proceeded site (clocks moment) [] created
      (by simp [proceedEngine, ClaimTable.claim, unclaimed])
  let stmts : List EngineStatement :=
    .enter n (.start call (plainEvent row.identity) runId) (clocks moment) ::
      rest n 3 (clocks moment)
  have leased : Reaches n
      (.leased { policy := [], run := run, event := plainEvent row.identity, lease := lease })
      { scene.shared with claims := (scene.shared.claims.claim run).1, leases := leases }
      ((engineMachine site).run stmts scene) :=
    reaches_proceeded site (clocks moment) [] first
      (by simp only [proceedEngine, claiming, attempting, leases_run]; rfl)
  obtain ⟨reached, tables⟩ := leased
  refine ⟨moment, stmts, n, _, late, ?_, ⟨reached, ?_, ?_, rfl, own⟩⟩
  · intro stmt mem
    rcases List.mem_cons.mp mem with rfl | later
    · exact ⟨trivial, late, late⟩
    · exact drives_rest late stmt later
  · rw [tables]
  · rw [tables]
    exact current_of_claimed site.positive claimed

end taking

section sweeping

variable {sweeper : WorkflowRecoverySweeper} {double : List Char → UInt64} {now : Int}
  {runs : RunTable} {runId : Uuid} {row : DurableRunRow}

def Readable (double : List Char → UInt64) (runs : RunTable) : Prop :=
  ∀ runId row, runs.lookup runId = some row → ¬row.IsOver → ∃ run, row.run double runId = .ok run

theorem unfinished_of_stale (stale : sweeper.Stale now row) : ¬row.IsOver := by
  rcases stale.1 with running | recovering
  · simp [DurableRunRow.IsOver, running]
  · simp [DurableRunRow.IsOver, recovering]

theorem swept_decodes {run : DurableWorkflowRun} (decoded : row.run double runId = .ok run) :
    ∃ after, (WorkflowRecoverySweeper.swept now row).run double runId = .ok after := by
  obtain ⟨_, _, _, _, _, checkpoint, res, err⟩ := DurableRunRow.run_ok decoded
  simp only [DurableRunRow.run, WorkflowRecoverySweeper.swept, checkpoint, res, err, bind,
    Except.bind, pure, Except.pure]
  exact ⟨_, rfl⟩

theorem map_decodes {rows : RunTable}
    (decodes : ∀ entry ∈ rows, ∃ run, (WorkflowRecoverySweeper.swept now entry.2).run double
      entry.1 = .ok run) :
    ∃ recovered, rows.mapM (fun entry =>
      (WorkflowRecoverySweeper.swept now entry.2).run double entry.1) = .ok recovered := by
  induction rows with
  | nil => exact ⟨[], rfl⟩
  | cons entry rest ih =>
    obtain ⟨run, first⟩ := decodes entry List.mem_cons_self
    obtain ⟨recovered, others⟩ := ih fun other mem =>
      decodes other (List.mem_cons_of_mem entry mem)
    exact ⟨run :: recovered, by simp [first, others, bind, Except.bind, pure, Except.pure]⟩

theorem sweep_takes (sound : RunsSound runs) (readable : Readable double runs)
    (found : runs.lookup runId = some row) (stale : sweeper.Stale now row) :
    ∃ after recovered, sweeper.sweep double now runs.length [] runs = .ok (after, recovered) ∧
      after.lookup runId = some (WorkflowRecoverySweeper.swept now row) := by
  have mem : (runId, row) ∈ sweeper.selected now runs.length [] runs := by
    have short : (runs.filter fun entry => decide (sweeper.Stale now entry.2) &&
        !([] : List Uuid).contains entry.1).length ≤ runs.length := List.length_filter_le _ _
    rw [WorkflowRecoverySweeper.selected, List.take_of_length_le
      (by rw [List.length_insertionSort]; exact short)]
    rw [(List.perm_insertionSort _ _).mem_iff, List.mem_filter]
    exact ⟨Dict.mem_of_lookup found, by simp [stale]⟩
  have decodes : ∀ entry ∈ sweeper.selected now runs.length [] runs,
      ∃ run, (WorkflowRecoverySweeper.swept now entry.2).run double entry.1 = .ok run := by
    intro entry selected
    obtain ⟨here, stale⟩ := WorkflowRecoverySweeper.mem_selected selected
    obtain ⟨run, decoded⟩ := readable entry.1 entry.2 (Dict.lookup_of_mem sound.distinct here)
      (unfinished_of_stale stale)
    exact swept_decodes decoded
  obtain ⟨recovered, mapped⟩ := map_decodes decodes
  have positive : ¬(runs.length : Int) < 1 := by
    have nonempty := List.length_pos_of_mem (Dict.mem_of_lookup found)
    omega
  refine ⟨_, recovered, by
    simp only [WorkflowRecoverySweeper.sweep, positive, if_false, Int.toNat_natCast, mapped, bind,
      Except.bind, pure, Except.pure]; rfl, ?_⟩
  rw [WorkflowRecoverySweeper.lookup_swept, found]
  simp [List.mem_map_of_mem mem, Dict.keys]

end sweeping

section outlooks

variable {site : Deployment} {scene : EngineScene} {runId : Uuid} {row : DurableRunRow}

theorem moves_later_swept {n : Nat} (sound : RunsSound scene.shared.runs)
    (readable : Readable site.double scene.shared.runs) (free : scene.calls n = none)
    (found : scene.shared.runs.lookup runId = some row)
    (sweepable : Sweepable site.sweeper row) : MovesLater site scene runId row := by
  intro since
  let moment := max since (row.lastHeartbeatAt + site.sweeper.staleAfter + 1)
  have late : since ≤ moment := le_max_left _ _
  have heard : row.lastHeartbeatAt < moment - site.sweeper.staleAfter := by
    have after : row.lastHeartbeatAt + site.sweeper.staleAfter + 1 ≤ moment :=
      le_max_right _ _
    omega
  obtain ⟨after, recovered, done, swept⟩ := sweep_takes sound readable found
    ⟨sweepable.1, heard, sweepable.2⟩
  refine ⟨[.enter n (.sweep scene.shared.runs.length []) (clocks moment)], ?_, ?_⟩
  · intro stmt mem
    rw [List.mem_singleton.mp mem]
    exact ⟨trivial, late, late⟩
  · have next : ((engineMachine site).run
        [.enter n (.sweep scene.shared.runs.length []) (clocks moment)] scene).shared.runs =
          after := by
      rw [Machine.run, Machine.run, (engine site).next_of_free _ _ free]
      simp [engine, enterEngine, enterSweep, attempting, clocks, done]
    change List.lookup runId _ ≠ some row
    rw [next, swept]
    intro same
    have counts := congrArg DurableRunRow.recoveryCount (Option.some.inj same)
    simp [WorkflowRecoverySweeper.swept] at counts

theorem moves_later_of_provided {n : Nat} (uuids : UuidsRead site.postgres)
    (sound : RunsSound scene.shared.runs) (filed : ApprovalsFiled scene.shared)
    (readable : Readable site.double scene.shared.runs) (free : scene.calls n = none)
    (found : scene.shared.runs.lookup runId = some row)
    (provided : Provided site scene.shared row) :
    row.IsOver ∨ Waits site scene.shared row ∨ MovesLater site scene runId row := by
  by_cases ended : row.IsOver
  · exact Or.inl ended
  obtain ⟨run, decoded⟩ := readable runId row found ended
  rcases provided with finished | waits | resumable | startable | sweepable
  · exact absurd finished ended
  · exact Or.inr (Or.inl waits)
  · exact Or.inr (Or.inr (moves_later_of_taken sound found decoded ended
      (taken_up_resumable uuids sound filed free found decoded resumable)))
  · exact Or.inr (Or.inr (moves_later_of_taken sound found decoded ended
      (taken_up_unclaimed sound free found decoded startable.2)))
  · exact Or.inr (Or.inr (moves_later_swept sound readable free found sweepable))

end outlooks

end Ois.Autonomy
