import Ois.Autonomy.EngineInvariants
import Ois.Autonomy.PreservedEvents

/-!
# The run that an approval is for

An approval is filed for a run, under the identifier of the run.
-/

namespace Ois.Autonomy

open Ois.Library Ois.Kernel Ois.Infrastructure Stride Jsonb

/-- The server reads the text of an identifier as the identifier. -/
def UuidsRead (pg : Postgres) : Prop := ∀ id : Uuid, pg.uuid id.str = some id

/-- What a row holds whatever is decided. -/
structure ApprovalRow.Sound (row : ApprovalRow) : Prop where
  payload : ∃ members, row.eventPayload = .obj members
  typed : ∃ kind, row.eventType = some kind

def Own (site : Deployment) (tables : EngineTables) (askId : String) (runId : Uuid) :
    Prop :=
  site.postgres.uuid askId = some runId ∧
    ∃ approval, tables.approvals.lookup runId = some approval

def Approves (site : Deployment) (tables : EngineTables) (askId : String)
    (runId : Uuid) : Prop :=
  ∃ id approval row, site.postgres.uuid askId = some id ∧
    tables.approvals.lookup id = some approval ∧ tables.runs.lookup runId = some row ∧
    approval.For runId row.identity

def recordedApproval (checkpoint : Json) : Option String :=
  (checkpoint.asMembers?.getD []).lookup "approval_id" >>= Json.asStr?

def AsksAlone (site : Deployment) (tables : EngineTables) : EnginePoint → Prop
  | .leased exec => exec.Asks site →
      tables.approvals.pendingFor exec.run.identity.eventId = none
  | _ => True

instance (site : Deployment) (tables : EngineTables) :
    DecidablePred (AsksAlone site tables)
  | .leased _ => inferInstanceAs (Decidable (_ → _))
  | .conflicted _ _ _ | .created _ _ _ | .refused _ | .claimed _ _ _ | .approved _ _ _
  | .found _ _ _ | .owned _ _ _ _ | .current _ _ _ _ | .requesting _ _ | .waiting _ _
  | .running _ _ | .failed _ _ _ _ | .returned _ _ | .releasing _ _ => .isTrue trivial

def AsksOwn (site : Deployment) : EngineStatement → EngineScene → Prop
  | .proceed n _, scene =>
    ∀ point ∈ scene.calls n, AsksAlone site scene.shared point
  | _, _ => True

instance (site : Deployment) (stmt : EngineStatement) (scene : EngineScene) :
    Decidable (AsksOwn site stmt scene) :=
  match stmt with
  | .proceed _ _ => inferInstanceAs (Decidable (∀ point ∈ _, _))
  | .enter _ _ _ | .crash _ => .isTrue trivial

def ResumesVersion (site : Deployment) (tables : EngineTables) : EngineRequest → Prop
  | .resumeApproval call askId =>
    ∀ id ∈ site.postgres.uuid askId, ∀ row ∈ tables.runs.lookup id,
      call.workflow.version = row.workflowVersion
  | _ => True

instance (site : Deployment) (tables : EngineTables) :
    DecidablePred (ResumesVersion site tables)
  | .resumeApproval _ _ => inferInstanceAs (Decidable (∀ id ∈ _, ∀ row ∈ _, _ = _))
  | .start _ _ _ | .decide _ _ _ | .sweep _ _ | .transition _ _ | .fencedTransition _ _ _ =>
    .isTrue trivial

def ResumesOwn (site : Deployment) : EngineStatement → EngineScene → Prop
  | .enter _ req _, scene => ResumesVersion site scene.shared req
  | _, _ => True

instance (site : Deployment) (stmt : EngineStatement) (scene : EngineScene) :
    Decidable (ResumesOwn site stmt scene) :=
  match stmt with
  | .enter _ req _ => inferInstanceAs (Decidable (ResumesVersion site _ req))
  | .proceed _ _ | .crash _ => .isTrue trivial

/-- A call that needs an approval finds no pending one of its event, and a call that
resumes is handed the version of the run that the approval is filed for. -/
def BindsOwn (site : Deployment) (stmt : EngineStatement) (scene : EngineScene) :
    Prop :=
  AsksOwn site stmt scene ∧ ResumesOwn site stmt scene

instance (site : Deployment) (stmt : EngineStatement) (scene : EngineScene) :
    Decidable (BindsOwn site stmt scene) :=
  inferInstanceAs (Decidable (_ ∧ _))

inductive ApprovalFate (site : Deployment) (scene : EngineScene) (id : Uuid) :
    EngineStatement → Option ApprovalRow → Option ApprovalRow → Prop where
  | kept (stmt : EngineStatement) (row : Option ApprovalRow) :
      ApprovalFate site scene id stmt row row
  | decided (n : Nat) (askId : String) (decision : ApprovalDecision) (actor : String)
      (input : EngineInput) (free : scene.calls n = none) (row : ApprovalRow)
      (asked : site.postgres.uuid askId = some id) :
      ApprovalFate site scene id (.enter n (.decide askId decision actor) input)
        (some row) (some (ApprovalTable.decided decision actor input.workerNow row))
  | filed (n : Nat) (input : EngineInput) (exec : Execution) (reason : String)
      (row : ApprovalRow) (reached : scene.calls n = some (.requesting exec reason))
      (asked : site.postgres.uuid exec.run.runId.str = some id)
      (written : ApprovalTable.approvalRow site.postgres
        (.forRun exec.run exec.event reason input.workerNow)
          (some exec.run.runId) = .ok row) :
      ApprovalFate site scene id (.proceed n input) none (some row)

section fates

variable {site : Deployment} {scene : EngineScene} (id : Uuid)

theorem uuid_column_ok {pg : Postgres} {text : String} {read : Uuid}
    (done : ApprovalTable.uuidColumn pg text = .ok read) :
    pg.uuid text = some read := by
  unfold ApprovalTable.uuidColumn at done
  cases parsed : pg.uuid text with
  | none => simp [parsed] at done
  | some uuid =>
    simp only [parsed, Except.ok.injEq] at done
    rw [done]

theorem fate_of_decide (n : Nat) (askId : String) (decision : ApprovalDecision)
    (actor : String) (input : EngineInput) (free : scene.calls n = none) :
    ApprovalFate site scene id (.enter n (.decide askId decision actor) input)
      (scene.shared.approvals.lookup id)
      ((scene.shared.approvals.decide site.postgres site.double input.clock askId
      decision actor input.workerNow).1.lookup id) := by
  unfold ApprovalTable.decide
  cases sent : ApprovalTable.decideParameters site.postgres askId actor with
  | error err => exact .kept _ _
  | ok other =>
    obtain ⟨_, _, asked⟩ := bind_ok sent
    cases found : scene.shared.approvals.lookup other with
    | none =>
      simp only [found]
      exact .kept _ _
    | some row =>
      simp only [found, Dict.lookup_set]
      split_ifs with own
      · subst own
        rw [found]
        exact .decided n askId decision actor input free row (uuid_column_ok asked)
      · exact .kept _ _

theorem approval_entered (n : Nat) (req : EngineRequest) (input : EngineInput)
    (free : scene.calls n = none) :
    ApprovalFate site scene id (.enter n req input)
      (scene.shared.approvals.lookup id)
      ((enterEngine site req input scene.shared).shared.approvals.lookup id) := by
  have step : Enters site input scene.shared req _ := enters req
  generalize enterEngine site req input scene.shared = stride at step ⊢
  cases step with
  | decided askId decision actor =>
    exact fate_of_decide id n askId decision actor input free
  | _ => exact .kept _ _

theorem approval_proceeded {n : Nat} {point : EnginePoint} (input : EngineInput)
    (reached : scene.calls n = some point) :
    ApprovalFate site scene id (.proceed n input) (scene.shared.approvals.lookup id)
      ((proceedEngine site point input scene.shared).shared.approvals.lookup id) := by
  have step : Proceeds site input scene.shared point _ := proceeds point
  generalize proceedEngine site point input scene.shared = stride at step ⊢
  cases step with
  | requested exec reason approvals filed =>
    obtain ⟨other, row, asked, written, missing, rfl⟩ := create_ok filed
    simp only [going_shared, Dict.lookup_append_fresh missing]
    split_ifs with own
    · subst own
      rw [missing]
      exact .filed n input exec reason row reached (uuid_column_ok asked) written
    · exact .kept _ _
  | _ => exact .kept _ _

theorem approval_fate (stmt : EngineStatement) (scene : EngineScene) :
    ApprovalFate site scene id stmt (scene.shared.approvals.lookup id)
      (((engineMachine site).next stmt scene).shared.approvals.lookup id) := by
  have happens := (engine site).machine_happens stmt scene
  change ApprovalFate site scene id stmt _
    (((engine site).machine stmt scene).1.shared.approvals.lookup id)
  generalize (engine site).machine stmt scene = res at happens ⊢
  cases happens with
  | ignored => exact .kept _ _
  | crashed call => exact .kept _ _
  | entered call req input free => exact approval_entered id call req input free
  | proceeded call point input reached => exact approval_proceeded id input reached

end fates

def EnginePoint.approval? : EnginePoint → Option (String × Uuid)
  | .found _ askId run => some (askId, run.runId)
  | .owned _ askId run _ => some (askId, run.runId)
  | .current _ askId run _ => some (askId, run.runId)
  | .leased exec => exec.approvalId.map (·, exec.run.runId)
  | .running exec _ => exec.approvalId.map (·, exec.run.runId)
  | .failed exec _ _ _ => exec.approvalId.map (·, exec.run.runId)
  | .returned exec _ => exec.approvalId.map (·, exec.run.runId)
  | .releasing _ receipt => receipt.approvalId.map (·, receipt.run.runId)
  | _ => none

def EngineEvent.approval? : EngineEvent → Option (String × Uuid)
  | .called runId askId _ => askId.map (·, runId)
  | .returned receipt => receipt.approvalId.map (·, receipt.run.runId)
  | _ => none

def ReadsOwn (site : Deployment) (tables : EngineTables) : EnginePoint → Prop
  | .approved call askId approval => ∃ id row, Own site tables askId id ∧
      tables.runs.lookup id = some row ∧ approvedIdentity call.workflow approval = row.identity
  | _ => True

structure PointBound (site : Deployment) (tables : EngineTables) (point : EnginePoint) :
    Prop where
  own : ∀ askId runId, point.approval? = some (askId, runId) →
    Own site tables askId runId
  reads : ReadsOwn site tables point

def ApprovalsFiled (tables : EngineTables) : Prop :=
  ∀ id approval, tables.approvals.lookup id = some approval → approval.Sound ∧
    ∃ row, tables.runs.lookup id = some row ∧ approval.For id row.identity

def WaitsOwn (site : Deployment) (tables : EngineTables) (point : EnginePoint) : Prop :=
  ∀ exec askId, point = .waiting exec askId →
    Own site tables askId exec.run.runId

structure WaitingSound (site : Deployment) (scene : EngineScene) : Prop where
  engine : EngineSound scene
  filed : ApprovalsFiled scene.shared
  waiting : ∀ n point, scene.calls n = some point → WaitsOwn site scene.shared point
  recorded : ∀ runId row, scene.shared.runs.lookup runId = some row →
    row.status = .waitingApproval → ∃ askId,
      recordedApproval row.checkpoint = some askId ∧
        Own site scene.shared askId runId

structure BindingSound (site : Deployment) (events : List EngineEvent)
    (scene : EngineScene) : Prop where
  waits : WaitingSound site scene
  points : ∀ n point, scene.calls n = some point →
    PointBound site scene.shared point
  told : ∀ event ∈ events, ∀ askId runId, event.approval? = some (askId, runId) →
    Own site scene.shared askId runId

section binding

variable {site : Deployment} {scene : EngineScene} {events : List EngineEvent}

variable {askId : String} {runId : Uuid} {stmt : EngineStatement} {row : DurableRunRow}
  {input : EngineInput} {stride : EngineStride} {point next : EnginePoint}

theorem approves_of_own {tables : EngineTables} (filed : ApprovalsFiled tables)
    (own : Own site tables askId runId) :
    Approves site tables askId runId := by
  obtain ⟨named, approval, found⟩ := own
  obtain ⟨_, row, there, whose⟩ := filed runId approval found
  exact ⟨runId, approval, row, named, found, there, whose⟩

theorem for_decided {ident : RunIdentity} {row : ApprovalRow} (decision : ApprovalDecision)
    (actor : String) (now : Int) (whose : row.For runId ident) :
    (ApprovalTable.decided decision actor now row).For runId ident := by
  have same := decided_undecided decision actor now row
  constructor
  case runId => rw [← whose.runId]; exact congrArg (·.runId) same
  case tenantId => rw [← whose.tenantId]; exact congrArg (·.tenantId) same
  case workspaceId => rw [← whose.workspaceId]; exact congrArg (·.workspaceId) same
  case workflowId => rw [← whose.workflowId]; exact congrArg (·.workflowId) same
  case eventId => rw [← whose.eventId]; exact congrArg (·.eventId) same

theorem sound_decided {row : ApprovalRow} (decision : ApprovalDecision) (actor : String)
    (now : Int) (sound : row.Sound) : (ApprovalTable.decided decision actor now row).Sound := by
  have same := decided_undecided decision actor now row
  have body : (ApprovalTable.decided decision actor now row).eventPayload =
      row.eventPayload := congrArg (·.eventPayload) same
  have typed : (ApprovalTable.decided decision actor now row).eventType = row.eventType :=
    congrArg (·.eventType) same
  exact { payload := body ▸ sound.payload, typed := typed ▸ sound.typed }

theorem approval_stays {id : Uuid} {approval : ApprovalRow}
    (found : scene.shared.approvals.lookup id = some approval) :
    ∃ after, ((engineMachine site).next stmt scene).shared.approvals.lookup id =
      some after := by
  have fate : ApprovalFate site scene id stmt _ _ := approval_fate id stmt scene
  rw [found] at fate
  generalize ((engineMachine site).next stmt scene).shared.approvals.lookup id = new
    at fate ⊢
  cases fate with
  | kept => exact ⟨approval, rfl⟩
  | decided => exact ⟨_, rfl⟩

theorem own_next (own : Own site scene.shared askId runId) :
    Own site ((engineMachine site).next stmt scene).shared askId runId := by
  obtain ⟨named, approval, found⟩ := own
  exact ⟨named, approval_stays found⟩

theorem approvals_filed_next (uuids : UuidsRead site.postgres) (sound : EngineSound scene)
    (filed : ApprovalsFiled scene.shared) :
    ApprovalsFiled ((engineMachine site).next stmt scene).shared := by
  intro id approval found
  have step : RunsStep site scene stmt _ _ := runs_step stmt scene
  have kept : ∀ row, scene.shared.runs.lookup id = some row → approval.For id row.identity →
      ∃ after, ((engineMachine site).next stmt scene).shared.runs.lookup id =
        some after ∧ approval.For id after.identity := by
    intro row there whose
    obtain ⟨after, here, ident, _⟩ := row_kept sound.runs.distinct step there
    exact ⟨after, here, ident ▸ whose⟩
  have fate : ApprovalFate site scene id stmt _ _ := approval_fate id stmt scene
  rw [found] at fate
  generalize before : scene.shared.approvals.lookup id = old at fate
  cases fate with
  | kept =>
    obtain ⟨whole, row, there, whose⟩ := filed id approval before
    exact ⟨whole, kept row there whose⟩
  | decided n askId decision actor input free past =>
    obtain ⟨whole, row, there, whose⟩ := filed id past before
    exact ⟨sound_decided decision actor input.workerNow whole,
      kept row there (for_decided decision actor input.workerNow whose)⟩
  | filed n input exec reason _ reached asked written =>
    rw [uuids, Option.some.injEq] at asked
    obtain ⟨row, there, ident, _⟩ := sound.known n _ reached exec.run rfl
    obtain ⟨members, _, body, _, typed, columns⟩ := approval_row_for_run written
    refine ⟨⟨⟨members, body⟩, ⟨_, typed⟩⟩, kept row (asked ▸ there) ?_⟩
    rw [ident, ← asked]
    exact columns

theorem approval_of_get {pg : Postgres} {double : List Char → UInt64} {clock : DateTime}
    {table : ApprovalTable} {req : ApprovalRequest}
    (read : ApprovalTable.get pg double clock askId table = .ok (some req)) :
    ∃ id row, pg.uuid askId = some id ∧ table.lookup id = some row ∧
      req.tenantId = row.tenantId ∧ req.workspaceId = row.workspaceId ∧
      req.workflowId = row.workflowId ∧ req.eventId = row.eventId ∧
      req.decision = row.decision := by
  obtain ⟨id, asked, rest⟩ := bind_ok read
  cases found : table.lookup id with
  | none => simp [found, pure, Except.pure] at rest
  | some row =>
    simp only [found] at rest
    obtain ⟨made, decoded, ended⟩ := bind_ok rest
    obtain ⟨body, _, fields⟩ := bind_ok decoded
    rw [Option.some.inj (Except.ok.inj ended)] at fields
    rw [← Except.ok.inj fields]
    exact ⟨id, row, uuid_column_ok asked, found, rfl, rfl, rfl, rfl, rfl⟩

theorem run_of_identity {runs : RunTable} {run : DurableWorkflowRun} {id : Uuid}
    (sound : RunsSound runs) (known : Known runs run) (found : runs.lookup id = some row)
    (same : run.identity = row.identity) : run.runId = id := by
  obtain ⟨held, there, ident, _⟩ := known
  apply sound.single run.runId id held row there found
  rw [(sound.rows _ held there).keyed, (sound.rows id row found).keyed, ident, same]

theorem bound_of_enters {req : EngineRequest} {next : EnginePoint}
    (filed : ApprovalsFiled scene.shared)
    (resumes : ResumesVersion site scene.shared req)
    (step : Enters site input scene.shared req stride)
    (ahead : stride.point = some next) : PointBound site stride.shared next := by
  cases step with
  | conflicted | created =>
    cases ahead
    exact ⟨by simp [EnginePoint.approval?], trivial⟩
  | approved call askId approval read =>
    cases ahead
    obtain ⟨id, row, named, found, tenant, workspace, flow, event, _⟩ := approval_of_get read
    obtain ⟨_, run, there, whose⟩ := filed id row found
    refine ⟨by simp [EnginePoint.approval?], id, run, ⟨named, row, found⟩, there, ?_⟩
    have version : call.workflow.version = run.workflowVersion := resumes id named run there
    rw [approvedIdentity, tenant, workspace, flow, event, version, whose.tenantId,
      whose.workspaceId, whose.workflowId, whose.eventId]
    rfl
  | ended | decided | swept | moved => simp at ahead

theorem pending_of_read {double : List Char → UInt64} {clock : DateTime} {eventId : String}
    {table : ApprovalTable} {approval : ApprovalRequest}
    (read : table.getByEvent double clock eventId = .ok (some approval)) :
    table.pendingFor eventId ≠ none := by
  intro absent
  simp [ApprovalTable.getByEvent, absent] at read

theorem own_of_proceeds (sound : RunsSound scene.shared.runs)
    (bound : PointBound site scene.shared point)
    (waits : WaitsOwn site scene.shared point)
    (step : Proceeds site input scene.shared point stride)
    (ahead : stride.point = some next) (about : next.approval? = some (askId, runId)) :
    Own site scene.shared askId runId := by
  cases step with
  | ended => simp at ahead
  | broken => simp at ahead
  | found call given approval run read =>
    cases ahead
    cases about
    obtain ⟨id, row, own, there, ident⟩ := bound.reads
    obtain ⟨known, same⟩ := read_ok sound read
    rw [run_of_identity sound known there (same.trans ident)]
    exact own
  | owned | current | resumed | called
  | threw => cases ahead; exact bound.own askId runId about
  | moved exec _ change following row run moves _ _ decoded =>
    cases ahead
    have whose := (DurableRunRow.run_ok decoded).1
    cases moves with
    | running => exact bound.own askId runId about
    | waiting given =>
      simp only [EnginePoint.approval?, Execution.receipt, Option.map_some, whose] at about
      cases about
      exact waits exec askId rfl
    | _ => cases about
  | _ => cases ahead; cases about

theorem reads_of_proceeds (step : Proceeds site input scene.shared point stride)
    (ahead : stride.point = some next) (tables : EngineTables) :
    ReadsOwn site tables next := by
  cases step with
  | ended => simp at ahead
  | broken => simp at ahead
  | moved _ _ _ _ _ _ moves =>
    cases ahead
    cases moves <;> trivial
  | _ =>
    cases ahead
    trivial

theorem shared_of_reached {n : Nat} {point : EnginePoint} (input : EngineInput)
    (reached : scene.calls n = some point) :
    ((engineMachine site).next (.proceed n input) scene).shared =
      (proceedEngine site point input scene.shared).shared := by
  rw [(engine site).next_of_reached input reached]
  rfl

theorem point_bound_next (resumes : ResumesOwn site stmt scene)
    (sound : BindingSound site events scene) :
    ∀ n point, ((engineMachine site).next stmt scene).calls n = some point →
      PointBound site ((engineMachine site).next stmt scene).shared point := by
  have rows : RunsStep site scene stmt _ _ := runs_step stmt scene
  apply (engine site).points_next (PointBound site) stmt scene
  case entered =>
    rintro n req input point rfl ahead
    exact bound_of_enters sound.waits.filed resumes (enters req) ahead
  case proceeded =>
    rintro n past input point rfl there bound ahead
    have step : Proceeds site input scene.shared past _ := proceeds past
    constructor
    case own =>
      intro askId runId about
      have own : Own site ((engineMachine site).next (.proceed n input)
          scene).shared askId runId :=
        own_next (own_of_proceeds sound.waits.engine.runs bound
          (sound.waits.waiting n past there) step ahead about)
      rw [shared_of_reached input there] at own
      exact own
    case reads => exact reads_of_proceeds step ahead _
  case kept =>
    intro point bound
    constructor
    case own => exact fun askId runId about => own_next (bound.own askId runId about)
    case reads =>
      cases point with
      | approved call askId approval =>
        obtain ⟨id, row, own, there, ident⟩ := bound.reads
        obtain ⟨after, here, same, _⟩ := row_kept sound.waits.engine.runs.distinct rows there
        exact ⟨id, after, own_next own, here, ident.trans same.symm⟩
      | _ => trivial
  case before => exact sound.points

theorem waits_own_of_proceeds (uuids : UuidsRead site.postgres)
    (alone : AsksAlone site scene.shared point)
    (step : Proceeds site input scene.shared point stride)
    (ahead : stride.point = some next) : WaitsOwn site stride.shared next := by
  intro exec askId waiting
  cases step with
  | ended => simp at ahead
  | broken => simp at ahead
  | asked _ approval started read asks => exact absurd (alone asks) (pending_of_read read)
  | requested _ reason approvals filed =>
    cases ahead
    cases waiting
    obtain ⟨id, row, asked, _, missing, rfl⟩ := create_ok filed
    have same : exec.run.runId = id := by
      have named := uuid_column_ok asked
      rw [ApprovalRequest.forRun, uuids] at named
      exact Option.some.inj named
    refine ⟨uuids _, row, ?_⟩
    rw [same]
    simp [Dict.lookup_append_fresh missing]
  | moved _ _ _ _ _ _ moves =>
    cases ahead
    cases moves with
    | _ => cases waiting
  | _ => cases ahead; cases waiting

theorem waits_own_next (uuids : UuidsRead site.postgres)
    (asks : AsksOwn site stmt scene) (sound : WaitingSound site scene) :
    ∀ n point, ((engineMachine site).next stmt scene).calls n = some point →
      WaitsOwn site ((engineMachine site).next stmt scene).shared point := by
  apply (engine site).points_next (WaitsOwn site) stmt scene
  case entered =>
    rintro n req input point rfl ahead exec askId rfl
    have step : Enters site input scene.shared req _ := enters req
    change (enterEngine site req input scene.shared).point = _ at ahead
    generalize enterEngine site req input scene.shared = stride at step ahead
    cases step with
    | _ => cases ahead
  case proceeded =>
    rintro n past input point rfl there _ ahead
    exact waits_own_of_proceeds uuids (asks past there) (proceeds past) ahead
  case kept =>
    intro point waits exec askId same
    exact own_next (waits exec askId same)
  case before => exact sound.waiting

theorem recorded_of_waiting {pg : Postgres} {now : Int} {runs : RunTable}
    (changed : RunTable.changed pg now runId (Execution.toWaiting askId) runs =
      .ok row) :
    row.checkpoint = .obj [("approval_id", .str askId), ("phase", .str "approval")] := by
  obtain ⟨old, checkpoint, _, _, _, written, _, _, rfl⟩ := RunTable.changed_ok changed
  obtain ⟨held, stored, rfl⟩ := optional_column_some written
  have order : ¬Json.KeyOrder ("phase", .str "approval") ("approval_id", .str askId) := by
    change ¬"phase" ≤ "approval_id"
    decide
  have sorted : Json.dumpsSorted (.obj [("phase", .str "approval"),
      ("approval_id", .str askId)]) =
        ⟨.obj [("approval_id", .str askId), ("phase", .str "approval")]⟩ := by
    simp [Json.dumpsSorted, Json.sortValues, Json.sortKeys, order]
  have first : holdText "approval_id" = some "approval_id" := by decide +kernel
  have second : holdText "phase" = some "phase" := by decide +kernel
  have third : holdText "approval" = some "approval" := by decide +kernel
  rw [sorted] at stored
  cases plain : holdText askId with
  | none => simp [Postgres.column, hold, holdMembers, first, second, plain] at stored
  | some text =>
    simp only [Postgres.column, hold, holdMembers, first, second, third, plain,
      Option.map_some, Option.bind_eq_bind, Option.bind_some, Option.pure_def,
      Except.ok.injEq] at stored
    rw [← stored, hold_text_eq plain]
    rfl

theorem recorded_next (inside : Inside stmt) (sound : WaitingSound site scene)
    (found : ((engineMachine site).next stmt scene).shared.runs.lookup runId = some row)
    (waiting : row.status = .waitingApproval) :
    ∃ askId, recordedApproval row.checkpoint = some askId ∧
      Own site ((engineMachine site).next stmt scene).shared askId runId := by
  have step : RunsStep site scene stmt _ _ := runs_step stmt scene
  have fate := row_fate runId sound.engine.runs.distinct step
  rw [found] at fate
  generalize before : scene.shared.runs.lookup runId = old at fate
  generalize marks runId _ = marked at fate
  cases fate with
  | kept =>
    obtain ⟨askId, recorded, own⟩ := sound.recorded runId row before waiting
    exact ⟨askId, recorded, own_next own⟩
  | inserted => cases waiting
  | written _ change now past _ _ writes changed =>
    have status : row.status = change.status := by
      obtain ⟨_, _, _, _, _, _, _, _, rfl⟩ := RunTable.changed_ok changed
      rfl
    rw [status] at waiting
    cases writes with
    | asked n req input _ _ asks =>
      cases asks with
      | transition => exact inside.elim
      | fenced => exact inside.elim
    | moved n point input exec _ next reached moves =>
      cases moves with
      | waiting askId =>
        have own := sound.waiting n _ reached exec askId rfl
        refine ⟨askId, ?_, own_next own⟩
        rw [recorded_of_waiting changed]
        rfl
      | _ => cases waiting
  | swept => cases waiting

theorem told_next (sound : BindingSound site events scene) {event : EngineEvent}
    (mem : event ∈ ((engineMachine site).answer stmt scene).getD [])
    (about : event.approval? = some (askId, runId)) :
    Own site scene.shared askId runId := by
  have happens := (engine site).machine_happens stmt scene
  change event ∈ ((engine site).machine stmt scene).2.getD [] at mem
  generalize (engine site).machine stmt scene = res at happens mem
  cases happens with
  | ignored => simp at mem
  | crashed => simp at mem
  | entered n req input free =>
    have step : Enters site input scene.shared req _ := enters req
    change event ∈ (enterEngine site req input scene.shared).said at mem
    generalize enterEngine site req input scene.shared = stride at step mem
    have silent : ∀ events : List EngineEvent, (∀ other ∈ events,
        ∃ err, other = EngineEvent.raised err) → event ∉ events := by
      intro events raises listed
      obtain ⟨err, rfl⟩ := raises event listed
      cases about
    cases step with
    | ended => exact absurd mem (silent _ (by simp))
    | conflicted => simp at mem
    | created =>
      rw [going_said, List.mem_singleton] at mem
      subst mem
      cases about
    | approved => simp at mem
    | decided _ _ _ _ raises => exact absurd mem (silent _ raises)
    | swept =>
      rw [ending_said, List.mem_singleton] at mem
      subst mem
      cases about
    | moved _ _ _ _ _ raises =>
      rcases List.mem_cons.mp mem with rfl | listed
      · cases about
      · exact absurd listed (silent _ raises)
  | proceeded n point input reached =>
    have step : Proceeds site input scene.shared point _ := proceeds point
    have bound := sound.points n point reached
    change event ∈ (proceedEngine site point input scene.shared).said at mem
    generalize proceedEngine site point input scene.shared = stride at step mem
    cases step with
    | ended _ leases said ends receipts =>
      rw [ending_said, List.mem_singleton] at mem
      subst mem
      cases event with
      | returned receipt =>
        rcases receipts receipt rfl with none | ⟨lease, rfl⟩
        · simp [EngineEvent.approval?, none] at about
        · exact bound.own askId runId about
      | called => exact ends.elim
      | _ => cases about
    | called | threw =>
      rw [going_said, List.mem_singleton] at mem
      subst mem
      exact bound.own askId runId about
    | moved =>
      rw [going_said, List.mem_singleton] at mem
      subst mem
      cases about
    | broken =>
      simp only [ending_said, List.mem_cons, List.not_mem_nil, or_false] at mem
      rcases mem with rfl | rfl
      · cases about
      · cases about
    | _ => simp at mem

theorem waiting_sound_next (uuids : UuidsRead site.postgres) (inside : Inside stmt)
    (asks : AsksOwn site stmt scene) (sound : WaitingSound site scene) :
    WaitingSound site ((engineMachine site).next stmt scene) :=
  { engine := engine_sound_next stmt scene sound.engine
    filed := approvals_filed_next uuids sound.engine sound.filed
    waiting := waits_own_next uuids asks sound
    recorded := fun _ _ found waiting => recorded_next inside sound found waiting }

theorem binding_sound_next (uuids : UuidsRead site.postgres) (inside : Inside stmt)
    (binds : BindsOwn site stmt scene) (sound : BindingSound site events scene) :
    BindingSound site (events ++ ((engineMachine site).answer stmt scene).getD [])
      ((engineMachine site).next stmt scene) := by
  constructor
  case waits => exact waiting_sound_next uuids inside binds.1 sound.waits
  case points => exact point_bound_next binds.2 sound
  case told =>
    intro event mem askId runId about
    rcases List.mem_append.mp mem with past | said
    · exact own_next (sound.told event past askId runId about)
    · exact own_next (told_next sound said about)

theorem waiting_sound_quiet : WaitingSound site (.quiet {}) :=
  { engine := engine_sound_quiet
    filed := fun id approval found => by simp at found
    waiting := fun n point reached => by simp at reached
    recorded := fun runId row found => by simp at found }

end binding

end Ois.Autonomy
