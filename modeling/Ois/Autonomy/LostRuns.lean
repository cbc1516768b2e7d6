import Ois.Autonomy.RunOutlooks

/-!
# Runs that are lost

A run whose key is claimed, which no call has in hand, for which no approval is granted and
which no sweep takes, stays as it is whatever calls come later.
-/

namespace Ois.Autonomy

open Ois.Library Ois.Kernel Ois.Infrastructure

def EnginePoint.Apart (runId : Uuid) (ident : RunIdentity) : EnginePoint → Prop
  | .conflicted _ _ _ | .created _ _ _ | .refused _ | .releasing _ _ => True
  | .approved call _ approval => approvedIdentity call.workflow approval ≠ ident
  | .claimed _ _ run | .found _ _ run | .owned _ _ run _ | .current _ _ run _ => run.runId ≠ runId
  | .leased exec | .requesting exec _ | .waiting exec _ | .running exec _
  | .failed exec _ _ _ | .returned exec _ => exec.run.runId ≠ runId

structure Lost (site : Deployment) (runId : Uuid) (row : DurableRunRow)
    (scene : EngineScene) : Prop where
  engine : EngineSound scene
  found : scene.shared.runs.lookup runId = some row
  claimed : scene.shared.claims.lookup row.idempotencyKey ≠ none
  unswept : ¬Sweepable site.sweeper row
  ungranted : ¬Resumable scene.shared.approvals row.identity
  apart : ∀ n point, scene.calls n = some point → point.Apart runId row.identity

section lost

variable {site : Deployment} {scene : EngineScene} {stmt : EngineStatement}
  {runId : Uuid} {row : DurableRunRow} {since : Int}

theorem inside_of_drives (drives : Drives since stmt) : Inside stmt := by
  cases stmt with
  | enter n req input =>
    cases req with
    | transition => exact drives.1.elim
    | fencedTransition => exact drives.1.elim
    | _ => trivial
  | proceed => trivial
  | crash => exact drives.elim

theorem pending_of_written {pg : Postgres} {req : ApprovalRequest} {of : Option Uuid}
    {approval : ApprovalRow}
    (written : ApprovalTable.approvalRow pg req of = .ok approval) :
    approval.decision = .pending := by
  obtain ⟨body, _, rest⟩ := bind_ok written
  obtain ⟨source, _, ended⟩ := bind_ok rest
  rw [← Except.ok.inj ended]

theorem resumable_before {ident : RunIdentity} (drives : Drives since stmt)
    (resumable : Resumable ((engineMachine site).next stmt scene).shared.approvals
      ident) : Resumable scene.shared.approvals ident := by
  obtain ⟨id, approval, found, granted, resumes⟩ := resumable_found_iff.mp resumable
  apply resumable_found_iff.mpr
  have fate : ApprovalFate site scene id stmt _ _ := approval_fate id stmt scene
  rw [found] at fate
  generalize before : scene.shared.approvals.lookup id = old at fate
  cases fate with
  | kept => exact ⟨id, approval, before, granted, resumes⟩
  | decided => exact drives.1.elim
  | filed n input exec reason _ reached asked written =>
    rw [pending_of_written written] at granted
    cases granted

theorem apart_of_moves {exec : Execution} {point : EnginePoint} {change : RunChange}
    {next : DurableWorkflowRun → EnginePoint} {ident : RunIdentity}
    (moves : Moves exec point change next) (apart : point.Apart runId ident) :
    exec.run.runId ≠ runId := by
  cases moves with
  | _ => exact apart

theorem lost_row (drives : Drives since stmt) (lost : Lost site runId row scene) :
    ((engineMachine site).next stmt scene).shared.runs.lookup runId = some row := by
  have step : RunsStep site scene stmt _ _ := runs_step stmt scene
  have fate := row_fate runId lost.engine.runs.distinct step
  rw [lost.found] at fate
  generalize ((engineMachine site).next stmt scene).shared.runs.lookup runId = new
    at fate ⊢
  generalize marks runId _ = marked at fate
  cases fate with
  | kept => rfl
  | written _ change now _ after _ writes =>
    cases writes with
    | asked n req input _ _ asks =>
      cases asks with
      | transition => exact drives.1.elim
      | fenced => exact drives.1.elim
    | moved n point input exec _ next reached moves =>
      exact absurd rfl (apart_of_moves moves (lost.apart n point reached))
  | swept n limit locked input old _ selected =>
    have stale := (WorkflowRecoverySweeper.mem_selected selected).2
    exact absurd ⟨stale.1, stale.2.2⟩ lost.unswept

theorem lost_claimed (drives : Drives since stmt) (lost : Lost site runId row scene) :
    ((engineMachine site).next stmt scene).shared.claims.lookup row.idempotencyKey ≠
      none := by
  have step : HoldStep site scene stmt _ _ := hold_step scene (inside_of_drives drives)
  generalize (engineMachine site).next stmt scene = after at step ⊢
  generalize ((engineMachine site).answer stmt scene).getD [] = said at step
  cases step with
  | kept _ _ _ _ _ claims | created _ _ _ _ _ _ _ _ _ _ claims
  | swept _ _ _ _ _ _ _ _ _ _ claims => exact claims ▸ lost.claimed
  | claimed n input call event run reached unclaimed =>
    change (scene.shared.claims.claim run).1.lookup row.idempotencyKey ≠ none
    rw [lookup_claimed _ unclaimed]
    split_ifs
    · simp
    · exact lost.claimed
  | called => exact lost.claimed
  | moved => exact lost.claimed

theorem apart_of_enters {req : EngineRequest} {input : EngineInput} {next : EnginePoint}
    {stride : EngineStride} (lost : Lost site runId row scene)
    (step : Enters site input scene.shared req stride)
    (ahead : stride.point = some next) : next.Apart runId row.identity := by
  cases step with
  | approved call askId approval read granted =>
    cases ahead
    intro same
    obtain ⟨id, held, _, there, tenant, workspace, flow, event, decision⟩ :=
      approval_of_get read
    apply lost.ungranted
    apply resumable_found_iff.mpr
    refine ⟨id, held, there, decision.symm.trans granted, ?_⟩
    rw [← same]
    exact ⟨tenant.symm, workspace.symm, flow.symm, event.symm⟩
  | conflicted => cases ahead; trivial
  | created => cases ahead; trivial
  | ended | decided | swept | moved => cases ahead

theorem apart_of_proceeds {n : Nat} {input : EngineInput} {point next : EnginePoint}
    {stride : EngineStride} (lost : Lost site runId row scene)
    (reached : scene.calls n = some point)
    (step : Proceeds site input scene.shared point stride)
    (ahead : stride.point = some next) : next.Apart runId row.identity := by
  have apart := lost.apart n point reached
  cases step with
  | ended => cases ahead
  | broken => cases ahead
  | claimed call event run unclaimed =>
    cases ahead
    intro same
    obtain ⟨held, there, _, key⟩ := lost.engine.known n _ reached run rfl
    rw [same, lost.found, Option.some.injEq] at there
    exact lost.claimed (by rw [there, key, unclaimed])
  | found call askId approval run read =>
    cases ahead
    intro same
    obtain ⟨⟨held, there, ident, _⟩, asked⟩ := read_ok lost.engine.runs read
    rw [same, lost.found, Option.some.injEq] at there
    exact apart (by rw [← asked, there, ident])
  | moved exec _ change following written run moves =>
    cases ahead
    cases moves with
    | running => exact apart
    | _ => trivial
  | conflicted => cases ahead; trivial
  | refused => cases ahead; trivial
  | _ => cases ahead; exact apart

theorem lost_next (drives : Drives since stmt) (lost : Lost site runId row scene) :
    Lost site runId row ((engineMachine site).next stmt scene) := by
  constructor
  case engine => exact engine_sound_next stmt scene lost.engine
  case found => exact lost_row drives lost
  case claimed => exact lost_claimed drives lost
  case unswept => exact lost.unswept
  case ungranted => exact fun resumable => lost.ungranted (resumable_before drives resumable)
  case apart =>
    apply (engine site).points_next (fun _ => EnginePoint.Apart runId row.identity)
      stmt scene
    case entered =>
      intro n req input point _ ahead
      exact apart_of_enters lost (enters req) ahead
    case proceeded =>
      intro n past input point _ reached _ ahead
      exact apart_of_proceeds lost reached (proceeds past) ahead
    case kept => exact fun point apart => apart
    case before => exact lost.apart

theorem lost_run {stmts : List EngineStatement} (lost : Lost site runId row scene)
    (drives : ∀ stmt ∈ stmts, Drives since stmt) :
    Lost site runId row ((engineMachine site).run stmts scene) := by
  induction stmts generalizing scene with
  | nil => exact lost
  | cons stmt later ih =>
    exact ih (lost_next (drives stmt List.mem_cons_self) lost)
      fun other mem => drives other (List.mem_cons_of_mem stmt mem)

theorem lost_unmoved (lost : Lost site runId row scene) :
    ¬MovesLater site scene runId row := by
  intro moves
  obtain ⟨later, drives, moved⟩ := moves 0
  exact moved (lost_run lost drives).found

theorem lost_unexecuted (lost : Lost site runId row scene) :
    ¬ExecutesLater site scene runId := by
  intro executes
  obtain ⟨later, drives, n, exec, reached, own⟩ := executes 0
  exact (lost_run lost drives).apart n _ reached own

theorem lost_unheld (lost : Lost site runId row scene) : ¬InHand scene runId := by
  rintro ⟨n, hold, held⟩
  obtain ⟨point, reached, about⟩ := held_by_some.mp held
  obtain ⟨run, of, own⟩ := run_of_hold about
  have apart := lost.apart n point reached
  cases point with
  | claimed | requesting | waiting | running | failed | returned =>
    cases of
    exact apart own
  | leased exec =>
    cases of
    exact apart own
  | _ => cases about

end lost

end Ois.Autonomy
