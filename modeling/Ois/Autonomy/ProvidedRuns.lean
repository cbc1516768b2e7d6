import Ois.Autonomy.RunOutlooks

/-!
# Statements that leave every run provided for

A call that crashes or fails before the first transition of its run, a decision that is no
approval and a sweep that takes the last recovery can each leave a run for which nothing is
provided.
-/

namespace Ois.Autonomy

open Ois.Library Ois.Kernel Ois.Infrastructure RunTable WorkflowRecoverySweeper ApprovalTable
open Execution

section conditions

variable (site : Deployment) (input : EngineInput) (tables : EngineTables)

def Accepted (exec : Execution) (change : RunChange) : Prop :=
  tables.leases.isCurrent input.now exec.lease = true ∧
    (changed site.postgres input.now exec.run.runId change tables.runs).isOk = true

instance (exec : Execution) (change : RunChange) :
    Decidable (Accepted site input tables exec change) :=
  inferInstanceAs (Decidable (_ ∧ _))

def BranchAccepted (exec : Execution) : PolicyOutcome → Option String → Prop
  | .deny, _ => Accepted site input tables exec toStopped
  | .approvalRequired, none => (tables.approvals.getByEvent site.double input.clock
      exec.run.identity.eventId).isOk = true
  | .approvalRequired, some _ => Accepted site input tables exec exec.toRunning
  | .allow, _ => Accepted site input tables exec exec.toRunning

instance (exec : Execution) (out : PolicyOutcome) (askId : Option String) :
    Decidable (BranchAccepted site input tables exec out askId) :=
  match out, askId with
  | .deny, _ => inferInstanceAs (Decidable (Accepted _ _ _ _ _))
  | .approvalRequired, none => inferInstanceAs (Decidable (_ = _))
  | .approvalRequired, some _ => inferInstanceAs (Decidable (Accepted _ _ _ _ _))
  | .allow, _ => inferInstanceAs (Decidable (Accepted _ _ _ _ _))

def Goes : EnginePoint → Prop
  | .claimed call _ run => ((tables.leases.claim site.ttl input.now input.workerNow
      run.runId call.workerId).toOption.bind (·.2)).isSome = true
  | .leased exec =>
    ∃ evaluation ∈ (exec.policy.judge site.reprFloat exec.event).toOption,
      BranchAccepted site input tables exec evaluation.outcome exec.approvalId
  | .requesting exec reason => (tables.approvals.create site.postgres
      (.forRun exec.run exec.event reason input.workerNow)
        (some exec.run.runId)).isOk = true
  | .waiting exec askId =>
    Accepted site input tables exec (toWaiting askId)
  | .failed exec attempt typeName msg =>
    Accepted site input tables exec (exec.toRecovering attempt typeName msg)
  | .returned exec res =>
    Accepted site input tables exec (exec.toCompleted res)
  | _ => True

instance : DecidablePred (Goes site input tables)
  | .claimed _ _ _ | .requesting _ _ => inferInstanceAs (Decidable (_ = _))
  | .leased _ => inferInstanceAs (Decidable (∃ evaluation ∈ _, _))
  | .waiting _ _ | .failed _ _ _ _ | .returned _ _ =>
    inferInstanceAs (Decidable (Accepted _ _ _ _ _))
  | .conflicted _ _ _ | .created _ _ _ | .refused _ | .approved _ _ _ | .found _ _ _
  | .owned _ _ _ _ | .current _ _ _ _ | .running _ _ | .releasing _ _ => .isTrue trivial

def LeavesProvided (point : EnginePoint) : Prop :=
  ∀ held ∈ point.hold?, ∀ row ∈ tables.runs.lookup held.1, Provided site tables row

instance : DecidablePred (LeavesProvided site tables) := fun _ =>
  inferInstanceAs (Decidable (∀ held ∈ _, ∀ row ∈ _, _))

def Decodes (runId : Uuid) : Prop :=
  ∀ row ∈ tables.runs.lookup runId, (row.run site.double runId).isOk = true

instance (runId : Uuid) : Decidable (Decodes site tables runId) :=
  inferInstanceAs (Decidable (∀ row ∈ _, _ = _))

def WritesProvided : EnginePoint → Prop
  | .leased exec => Decodes site tables exec.run.runId
  | .waiting exec askId =>
    Accepted site input tables exec (toWaiting askId) →
      Decodes site tables exec.run.runId ∧
        (Awaits site tables exec.run.identity askId ∨
          Resumable tables.approvals exec.run.identity)
  | .failed exec attempt typeName msg =>
    Accepted site input tables exec (exec.toRecovering attempt typeName msg) →
      Decodes site tables exec.run.runId ∧
        ((∀ row ∈ tables.runs.lookup exec.run.runId,
            row.recoveryCount < site.sweeper.maxRecoveries) ∨
          Resumable tables.approvals exec.run.identity)
  | _ => True

instance : DecidablePred (WritesProvided site input tables)
  | .leased _ => inferInstanceAs (Decidable (Decodes _ _ _))
  | .waiting _ _ => inferInstanceAs (Decidable (_ → _ ∧ (_ ∨ _)))
  | .failed _ _ _ _ => inferInstanceAs (Decidable (_ → _ ∧ ((∀ row ∈ _, _ < _) ∨ _)))
  | .conflicted _ _ _ | .created _ _ _ | .refused _ | .claimed _ _ _ | .approved _ _ _
  | .found _ _ _ | .owned _ _ _ _ | .current _ _ _ _ | .requesting _ _ | .running _ _
  | .returned _ _ | .releasing _ _ => .isTrue trivial

def DecidesProvided (askId : String) (decision : ApprovalDecision) : Prop :=
  ∀ id ∈ site.postgres.uuid askId, ∀ approval ∈ tables.approvals.lookup id,
    approval.decision = .pending →
      (input.workerNow < approval.expiresAt ∧ (decision = .approved ∨ decision = .pending)) ∨
        ∀ entry ∈ tables.runs, entry.2.status = .waitingApproval →
          (∃ recorded ∈ recordedApproval entry.2.checkpoint,
            site.postgres.uuid recorded = some id) →
              Resumable tables.approvals entry.2.identity

instance (askId : String) (decision : ApprovalDecision) :
    Decidable (DecidesProvided site input tables askId decision) :=
  inferInstanceAs (Decidable (∀ id ∈ _, ∀ approval ∈ _, _ → (_ ∧ (_ ∨ _)) ∨
    ∀ entry ∈ tables.runs, _ → (∃ recorded ∈ _, _ = _) → _))

variable (held : Uuid → Prop)

def SweepsProvided (limit : Int) (locked : List Uuid) : Prop :=
  ∀ entry ∈ site.sweeper.selected input.now limit.toNat locked tables.runs,
    entry.2.recoveryCount + 1 < site.sweeper.maxRecoveries ∨
      Resumable tables.approvals entry.2.identity ∨ held entry.1

instance [DecidablePred held] (limit : Int) (locked : List Uuid) :
    Decidable (SweepsProvided site input tables held limit locked) :=
  inferInstanceAs (Decidable (∀ entry ∈ site.sweeper.selected _ _ _ _, _ ∨ _ ∨ _))

def RepeatsProvided : EnginePoint → Prop
  | .refused run => ∀ row ∈ tables.runs.lookup run.runId, row.IsOver ∨
      Waits site tables row ∨ Resumable tables.approvals row.identity ∨ held run.runId
  | _ => True

instance [DecidablePred held] : DecidablePred (RepeatsProvided site tables held)
  | .refused _ => inferInstanceAs (Decidable (∀ row ∈ _, _ ∨ _ ∨ _ ∨ _))
  | .conflicted _ _ _ | .created _ _ _ | .claimed _ _ _ | .approved _ _ _ | .found _ _ _
  | .owned _ _ _ _ | .current _ _ _ _ | .leased _ | .requesting _ _ | .waiting _ _
  | .running _ _ | .failed _ _ _ _ | .returned _ _ | .releasing _ _ => .isTrue trivial

def EntersProvided : EngineRequest → Prop
  | .decide askId decision _ =>
    DecidesProvided site input tables askId decision
  | .sweep limit locked => SweepsProvided site input tables held limit locked
  | _ => True

instance [DecidablePred held] : DecidablePred (EntersProvided site input tables held)
  | .decide _ _ _ => inferInstanceAs (Decidable (DecidesProvided _ _ _ _ _))
  | .sweep _ _ => inferInstanceAs (Decidable (SweepsProvided _ _ _ _ _ _))
  | .start _ _ _ | .resumeApproval _ _ | .transition _ _ | .fencedTransition _ _ _ =>
    .isTrue trivial

end conditions

def ProvidesBut (site : Deployment) (held : EngineScene → Uuid → Prop) :
    EngineStatement → EngineScene → Prop
  | .enter n req input, scene => scene.calls n = none →
      EntersProvided site input scene.shared (held scene) req
  | .proceed n input, scene => ∀ point ∈ scene.calls n,
      (Goes site input scene.shared point ∨ LeavesProvided site scene.shared point) ∧
        WritesProvided site input scene.shared point ∧
          RepeatsProvided site scene.shared (held scene) point
  | .crash n, scene => ∀ point ∈ scene.calls n,
      LeavesProvided site scene.shared point

instance (site : Deployment) (held : EngineScene → Uuid → Prop)
    [∀ scene, DecidablePred (held scene)] (stmt : EngineStatement) (scene : EngineScene) :
    Decidable (ProvidesBut site held stmt scene) :=
  match stmt with
  | .enter _ _ _ => inferInstanceAs (Decidable (_ → _))
  | .proceed _ _ => inferInstanceAs (Decidable (∀ point ∈ _, (_ ∨ _) ∧ _ ∧ _))
  | .crash _ => inferInstanceAs (Decidable (∀ point ∈ _, _))

/-- The statement leaves no run for which nothing is provided and that no call has in hand. -/
abbrev Provides (site : Deployment) : EngineStatement → EngineScene → Prop :=
  ProvidesBut site InHand

section approvals

variable {site : Deployment} {scene : EngineScene} {stmt : EngineStatement}
  {ident : RunIdentity}

theorem resumes_decided {row : ApprovalRow} (decision : ApprovalDecision) (actor : String)
    (now : Int) (resumes : row.Resumes ident) :
    (decided decision actor now row).Resumes ident := by
  unfold decided
  split_ifs
  · exact resumes
  · exact resumes
  · exact resumes

theorem resumable_next (resumable : Resumable scene.shared.approvals ident) :
    Resumable ((engineMachine site).next stmt scene).shared.approvals ident := by
  obtain ⟨id, approval, found, granted, resumes⟩ := resumable_found_iff.mp resumable
  apply resumable_found_iff.mpr
  have fate : ApprovalFate site scene id stmt _ _ := approval_fate id stmt scene
  rw [found] at fate
  generalize there : ((engineMachine site).next stmt scene).shared.approvals.lookup id =
    new at fate
  cases fate with
  | kept => exact ⟨id, approval, there, granted, resumes⟩
  | decided n askId decision actor input =>
    have same : decided decision actor input.workerNow approval = approval := by
      simp [decided, granted]
    exact ⟨id, approval, same ▸ there, granted, resumes⟩

theorem waits_next {runId : Uuid} {row : DurableRunRow}
    (provides : Provides site stmt scene)
    (found : scene.shared.runs.lookup runId = some row)
    (waits : Waits site scene.shared row) :
    Waits site ((engineMachine site).next stmt scene).shared row ∨
      Resumable ((engineMachine site).next stmt scene).shared.approvals
      row.identity := by
  obtain ⟨waiting, askId, recorded, id, named, approval, held, pending, resumes⟩ := waits
  have fate : ApprovalFate site scene id stmt _ _ := approval_fate id stmt scene
  rw [held] at fate
  generalize there : ((engineMachine site).next stmt scene).shared.approvals.lookup id =
    new at fate
  cases fate with
  | kept =>
    exact Or.inl ⟨waiting, askId, recorded, id, named, approval, there, pending, resumes⟩
  | decided n text decision actor input free _ asked =>
    rcases provides free id asked approval held pending with ⟨timely, granted⟩ | others
    · have after : (decided decision actor input.workerNow approval).decision =
          decision := by simp [decided, pending, timely]
      have kept := resumes_decided decision actor input.workerNow resumes
      rcases granted with rfl | rfl
      · exact Or.inr (resumable_found_iff.mpr ⟨id, _, there, after, kept⟩)
      · exact Or.inl ⟨waiting, askId, recorded, id, named, _, there, after, kept⟩
    · exact Or.inr (resumable_next
        (others (runId, row) (Dict.mem_of_lookup found) waiting ⟨askId, recorded, named⟩))

theorem awaits_proceed {n : Nat} {input : EngineInput} {askId : String}
    (awaits : Awaits site scene.shared ident askId) :
    Awaits site ((engineMachine site).next (.proceed n input) scene).shared
      ident askId := by
  obtain ⟨id, named, approval, held, pending, resumes⟩ := awaits
  have fate : ApprovalFate site scene id (.proceed n input) _ _ :=
    approval_fate id (.proceed n input) scene
  rw [held] at fate
  generalize there : ((engineMachine site).next (.proceed n input)
    scene).shared.approvals.lookup id = new at fate
  cases fate with
  | kept => exact ⟨id, named, approval, there, pending, resumes⟩

theorem provided_next {runId : Uuid} {row : DurableRunRow}
    (provides : Provides site stmt scene)
    (found : scene.shared.runs.lookup runId = some row)
    (claims : scene.shared.claims.lookup row.idempotencyKey = none →
      ((engineMachine site).next stmt scene).shared.claims.lookup row.idempotencyKey =
      none)
    (provided : Provided site scene.shared row) :
    Provided site ((engineMachine site).next stmt scene).shared row := by
  rcases provided with finished | waits | resumable | startable | sweepable
  · exact Or.inl finished
  · rcases waits_next provides found waits with waits | resumable
    · exact Or.inr (Or.inl waits)
    · exact Or.inr (Or.inr (Or.inl resumable))
  · exact Or.inr (Or.inr (Or.inl (resumable_next resumable)))
  · exact Or.inr (Or.inr (Or.inr (Or.inl ⟨startable.1, claims startable.2⟩)))
  · exact Or.inr (Or.inr (Or.inr (Or.inr sweepable)))

end approvals

section going

variable {site : Deployment} {input : EngineInput} {tables : EngineTables}
  {exec : Execution} {change : RunChange}

theorem except_of_is_ok {Value : Type} {res : Except PyError Value}
    (succeeds : res.isOk = true) : ∃ value, res = .ok value := by
  cases res with
  | error err => simp [Except.isOk, Except.toBool] at succeeds
  | ok value => exact ⟨value, rfl⟩

theorem judged_of_answer {policy : AutomationPolicy} {event : EventEnvelope}
    {evaluation : PolicyEvaluation}
    (answered : evaluation ∈ (policy.judge site.reprFloat event).toOption) :
    policy.judge site.reprFloat event = .ok evaluation := by
  cases judged : policy.judge site.reprFloat event with
  | error err => simp [judged, Except.toOption] at answered
  | ok other =>
    have same : some other = some evaluation := by simpa [judged, Except.toOption] using answered
    rw [Option.some.inj same]

theorem changed_decodes {now : Int} {runId : Uuid} {row : DurableRunRow}
    (sound : RunsSound tables.runs) (decodes : Decodes site tables runId)
    (plain : change.result = none)
    (written : changed site.postgres now runId change tables.runs = .ok row) :
    ∃ run, row.run site.double runId = .ok run := by
  obtain ⟨old, checkpoint, res, err, found, _, second, _, same⟩ := changed_ok written
  obtain ⟨run, decoded⟩ := except_of_is_ok (decodes old found)
  have kept : row.result = old.result := by
    have none : res = none := by
      simpa [plain, given, FencedStore.optionalColumn] using second.symm
    rw [same, none]
    rfl
  have reads : decodeText site.double (row.result.getD .null) = .ok run.result :=
    kept ▸ (DurableRunRow.run_ok decoded).2.2.2.2.2.2.1
  obtain ⟨after, ok, _⟩ := run_of_sound
    (row_sound_changed found (sound.rows runId old found) written) reads
  exact ⟨after, ok⟩

theorem move_goes {next : DurableWorkflowRun → EnginePoint} (sound : RunsSound tables.runs)
    (accepted : Accepted site input tables exec change)
    (decodes : Decodes site tables exec.run.runId) (plain : change.result = none) :
    (exec.move site change next input tables).point ≠ none := by
  obtain ⟨row, written⟩ := except_of_is_ok accepted.2
  obtain ⟨run, decoded⟩ := changed_decodes sound decodes plain written
  rw [move_of_written accepted.1 written decoded]
  simp

theorem completion_goes {res : Json}
    (accepted : Accepted site input tables exec (exec.toCompleted res)) :
    ∃ row, (exec.move site (exec.toCompleted res) (exec.receipt none) input
      tables).shared.runs.lookup exec.run.runId = some row ∧ row.IsOver := by
  obtain ⟨row, written⟩ := except_of_is_ok accepted.2
  have completed : row.IsOver := by
    obtain ⟨_, _, _, _, _, _, _, _, rfl⟩ := changed_ok written
    exact Or.inl rfl
  refine ⟨row, ?_, completed⟩
  simp only [move, moving, attempting, fencedTransition,
    LeaseTable.assertCurrent, accepted.1, if_true, transition, written, bind, Except.bind,
    pure, Except.pure]
  cases row.run site.double exec.run.runId with
  | error err => simp
  | ok run => simp

theorem goes_on {point : EnginePoint} {runId : Uuid} {hold : Hold} (sound : RunsSound tables.runs)
    (held : point.hold? = some (runId, hold)) (goes : Goes site input tables point)
    (writes : WritesProvided site input tables point) :
    (proceedEngine site point input tables).point ≠ none ∨
      ∃ row, (proceedEngine site point input tables).shared.runs.lookup runId = some row ∧
      row.IsOver := by
  cases point with
  | claimed call event run =>
    obtain ⟨lease, owned⟩ := Option.isSome_iff_exists.mp goes
    obtain ⟨answer, claimed, leased⟩ := Option.bind_eq_some_iff.mp owned
    cases asked : tables.leases.claim site.ttl input.now input.workerNow run.runId
        call.workerId with
    | error err => simp [asked, Except.toOption] at claimed
    | ok both =>
      obtain ⟨leases, given⟩ := both
      rw [asked, Except.toOption, Option.some.injEq] at claimed
      subst claimed
      have granted : given = some lease := leased
      subst granted
      simp [proceedEngine, claiming, attempting, asked]
  | leased exec =>
    left
    obtain ⟨evaluation, answered, branch⟩ := goes
    have unapproved : exec.approvalId = none := by
      rw [EnginePoint.hold?] at held
      split_ifs at held with none
      exact none
    have judged := judged_of_answer answered
    simp only [proceedEngine, evaluate, attempting, judged]
    rw [unapproved] at branch ⊢
    cases out : evaluation.outcome with
    | deny =>
      rw [out] at branch
      exact move_goes sound branch writes rfl
    | approvalRequired =>
      rw [out] at branch
      obtain ⟨approval, read⟩ := except_of_is_ok branch
      simp only [ask, attempting, read]
      cases approval with
      | none => simp
      | some approval => simp
    | allow =>
      rw [out] at branch
      exact move_goes sound branch writes rfl
  | requesting exec reason =>
    obtain ⟨approvals, filed⟩ := except_of_is_ok goes
    simp [proceedEngine, attempting, filed]
  | waiting exec askId =>
    exact Or.inl (move_goes sound goes (writes goes).1 rfl)
  | running exec attempt => exact Or.inl (by simp [proceedEngine])
  | failed exec attempt typeName msg =>
    exact Or.inl (move_goes sound goes (writes goes).1 rfl)
  | returned exec res =>
    cases held
    exact Or.inr (completion_goes goes)
  | _ => cases held

end going

structure Cared (site : Deployment) (scene : EngineScene) : Prop where
  engine : EngineSound scene
  filed : ApprovalsFiled scene.shared
  readable : Readable site.double scene.shared.runs
  claimed : ∀ key claim, scene.shared.claims.lookup key = some claim →
    ∃ runId row, scene.shared.runs.lookup runId = some row ∧ row.idempotencyKey = key
  kept : ∀ runId row, scene.shared.runs.lookup runId = some row →
    Provided site scene.shared row ∨ InHand scene runId
  free : ∃ bound, ∀ n, bound ≤ n → scene.calls n = none

section caring

variable {site : Deployment} {scene : EngineScene} {stmt : EngineStatement}
  {runId : Uuid} {row : DurableRunRow}

theorem let_go {n : Nat} {hold : Hold} (sound : EngineSound scene)
    (provides : Provides site stmt scene)
    (held : heldBy scene n = some (runId, hold))
    (gone : ((engineMachine site).next stmt scene).calls n = none)
    (found : scene.shared.runs.lookup runId = some row) :
    Provided site scene.shared row ∨
      ∃ after, ((engineMachine site).next stmt scene).shared.runs.lookup runId =
      some after ∧ after.IsOver := by
  obtain ⟨point, reached, holds⟩ := held_by_some.mp held
  by_cases own : stmt.number = n
  · subst own
    cases stmt with
    | enter n req input =>
      have reached : scene.calls n = some point := reached
      simp [Machine.next, Program.machine, reached, Statement.number] at gone
    | proceed n input =>
      have reached : scene.calls n = some point := reached
      obtain ⟨goes | leaves, writes, _⟩ := provides point reached
      · have ahead : ((engineMachine site).next (.proceed n input) scene).calls
            n = (proceedEngine site point input scene.shared).point := by
          rw [(engine site).next_of_reached input reached, Scene.strode_calls, if_pos rfl]
          rfl
        rw [shared_of_reached input reached]
        rcases goes_on sound.runs holds goes writes with onward | ended
        · exact absurd (ahead.symm.trans gone) onward
        · exact Or.inr ended
      · exact Or.inl (leaves _ holds row found)
    | crash n => exact Or.inl (provides point reached _ holds row found)
  · rw [(engine site).calls_of_other stmt scene own, reached] at gone
    cases gone

theorem kept_same {after : EngineScene} (sound : Cared site scene)
    (provides : Provides site stmt scene)
    (made : (engineMachine site).next stmt scene = after)
    (found : scene.shared.runs.lookup runId = some row)
    (same : after.shared.runs.lookup runId = some row)
    (claims : scene.shared.claims.lookup row.idempotencyKey = none →
      after.shared.claims.lookup row.idempotencyKey = none)
    (hands : ∀ n hold, heldBy scene n = some (runId, hold) →
      (∃ next, heldBy after n = some (runId, next)) ∨ after.calls n = none) :
    Provided site after.shared row ∨ InHand after runId := by
  subst made
  rcases sound.kept runId row found with provided | ⟨n, hold, held⟩
  · exact Or.inl (provided_next provides found claims provided)
  · rcases hands n hold held with ⟨next, still⟩ | gone
    · exact Or.inr ⟨n, next, still⟩
    · rcases let_go sound.engine provides held gone found with provided | ⟨final, there, finished⟩
      · exact Or.inl (provided_next provides found claims provided)
      · rw [same, Option.some.injEq] at there
        exact Or.inl (Or.inl (there ▸ finished))

theorem kept_moved {n : Nat} {input : EngineInput} {exec : Execution}
    {point : EnginePoint} {change : RunChange} {next : DurableWorkflowRun → EnginePoint}
    {after : EngineScene} {ahead : Option EnginePoint}
    (sound : Cared site scene) (provides : Provides site (.proceed n input) scene)
    (made : (engineMachine site).next (.proceed n input) scene = after)
    (reached : scene.calls n = some point) (moves : Moves exec point change next)
    (cur : scene.shared.leases.isCurrent input.now exec.lease = true)
    (written : changed site.postgres input.now exec.run.runId change
      scene.shared.runs = .ok row)
    (calls : after.calls n = ahead)
    (onward : ∀ point, ahead = some point → ∃ run, point = next run)
    (undecoded : ahead = none → ∀ run, row.run site.double exec.run.runId ≠ .ok run) :
    Provided site after.shared row ∨ InHand after exec.run.runId := by
  have accepted : Accepted site input scene.shared exec change :=
    ⟨cur, by rw [written]; rfl⟩
  have writes := (provides point reached).2.1
  obtain ⟨old, found, ident, key⟩ :=
    sound.engine.known n point reached exec.run (moves_run moves)
  have same := changed_identity found written
  have counts : row.recoveryCount = old.recoveryCount ∧ row.status = change.status := by
    obtain ⟨held, _, _, _, here, _, _, _, rfl⟩ := changed_ok written
    rw [found, Option.some.injEq] at here
    subst here
    exact ⟨rfl, rfl⟩
  have granted : Resumable scene.shared.approvals exec.run.identity →
      Provided site after.shared row := by
    intro resumable
    have kept : Resumable ((engineMachine site).next (.proceed n input)
        scene).shared.approvals exec.run.identity := resumable_next resumable
    rw [made] at kept
    exact Or.inr (Or.inr (Or.inl (by rw [same.1, ident]; exact kept)))
  cases moves with
  | stopped => exact Or.inl (Or.inl (Or.inr (Or.inr counts.2)))
  | completed res => exact Or.inl (Or.inl (Or.inl counts.2))
  | running =>
    cases ahead with
    | some following =>
      obtain ⟨run, rfl⟩ := onward following rfl
      exact Or.inr ⟨n, .calling, held_by_some.mpr ⟨_, calls, rfl⟩⟩
    | none =>
      obtain ⟨run, decoded⟩ := changed_decodes sound.engine.runs writes rfl written
      exact absurd decoded (undecoded rfl run)
  | waiting askId =>
    left
    rcases (writes accepted).2 with awaits | resumable
    · have still : Awaits site ((engineMachine site).next (.proceed n input)
          scene).shared exec.run.identity askId := awaits_proceed awaits
      rw [made] at still
      exact Or.inr (Or.inl ⟨counts.2, askId, by rw [recorded_of_waiting written]; rfl,
        by rw [same.1, ident]; exact still⟩)
    · exact granted resumable
  | recovering attempt typeName msg =>
    left
    rcases (writes accepted).2 with few | resumable
    · exact Or.inr (Or.inr (Or.inr (Or.inr ⟨Or.inr counts.2, counts.1 ▸ few old found⟩)))
    · exact granted resumable

theorem unclaimed_of_fresh {key : String} (sound : Cared site scene)
    (unkeyed : ∀ entry ∈ scene.shared.runs, entry.2.idempotencyKey ≠ key) :
    scene.shared.claims.lookup key = none := by
  cases taken : scene.shared.claims.lookup key with
  | none => rfl
  | some claim =>
    obtain ⟨runId, row, found, same⟩ := sound.claimed key claim taken
    exact absurd same (unkeyed (runId, row) (Dict.mem_of_lookup found))

theorem kept_next (inside : Inside stmt) (provides : Provides site stmt scene)
    (sound : Cared site scene)
    (found : ((engineMachine site).next stmt scene).shared.runs.lookup runId =
      some row) :
    Provided site ((engineMachine site).next stmt scene).shared row ∨
      InHand ((engineMachine site).next stmt scene) runId := by
  have step : HoldStep site scene stmt _ _ := hold_step scene inside
  have unheld : ∀ {after : EngineScene}, (∀ n, heldBy after n = heldBy scene n) →
      ∀ n hold, heldBy scene n = some (runId, hold) →
        (∃ next, heldBy after n = some (runId, next)) ∨ after.calls n = none :=
    fun same n hold held => Or.inl ⟨hold, (same n).trans held⟩
  generalize made : (engineMachine site).next stmt scene = after at step found ⊢
  generalize ((engineMachine site).answer stmt scene).getD [] = said at step
  cases step with
  | kept _ _ _ held runs claims =>
    rw [runs] at found
    apply kept_same sound provides made found (runs ▸ found) (by rw [claims]; exact id)
    intro n hold there
    rcases held n with same | gone
    · exact Or.inl ⟨hold, same.trans there⟩
    · exact Or.inr gone
  | created n call event other input runs inserted _ same rows claims =>
    obtain ⟨checkpoint, _, missing, _, unkeyed, table⟩ := insert_ok inserted
    have there := found
    rw [rows, table, Dict.lookup_append_fresh missing] at there
    split_ifs at there with own
    · rw [← Option.some.inj there]
      exact Or.inl (Or.inr (Or.inr (Or.inr (Or.inl
        ⟨rfl, by rw [claims]; exact unclaimed_of_fresh sound unkeyed⟩))))
    · exact kept_same sound provides made there found (by rw [claims]; exact id) (unheld same)
  | swept n limit locked input runs recovered done _ same rows claims free =>
    obtain ⟨table, _⟩ := sweep_ok done
    have there := found
    rw [rows, table, lookup_swept] at there
    obtain ⟨old, before, now⟩ := Option.map_eq_some_iff.mp there
    split_ifs at now with selected
    · subst now
      have mem := mem_selected_of_key sound.engine.runs.distinct before selected
      rcases provides free (runId, old) mem with few | resumable | ⟨holder, hold, held⟩
      · exact Or.inl (Or.inr (Or.inr (Or.inr (Or.inr ⟨Or.inr rfl, few⟩))))
      · have kept : Resumable ((engineMachine site).next
            (.enter n (.sweep limit locked) input) scene).shared.approvals old.identity :=
          resumable_next resumable
        rw [made] at kept
        exact Or.inl (Or.inr (Or.inr (Or.inl kept)))
      · exact Or.inr ⟨holder, hold, (same holder).trans held⟩
    · subst now
      exact kept_same sound provides made before found (by rw [claims]; exact id) (unheld same)
  | claimed n input call event run reached unclaimed =>
    have there : scene.shared.runs.lookup runId = some row := found
    obtain ⟨held, here, _, key⟩ := sound.engine.known n _ reached run rfl
    by_cases own : run.runId = runId
    · exact Or.inr ⟨n, .starting, by rw [held_by_strode, if_pos rfl, ← own]; rfl⟩
    · apply kept_same sound provides made there found
      · intro free
        have different : row.idempotencyKey ≠ run.idempotencyKey := fun same =>
          own (sound.engine.runs.single _ _ held row here there (key.trans same.symm))
        exact (lookup_claimed row.idempotencyKey unclaimed).trans ((if_neg different).trans free)
      · intro other hold holds
        rw [held_by_strode]
        split_ifs with same
        · rw [same, held_by_reached reached] at holds
          cases holds
        · exact Or.inl ⟨hold, holds⟩
  | called n input exec attempt next hold reached ahead =>
    apply kept_same sound provides made found found id
    intro other past holds
    rw [held_by_strode]
    split_ifs with same
    · rw [same, held_by_reached reached] at holds
      cases holds
      exact Or.inl ⟨hold, ahead⟩
    · exact Or.inl ⟨past, holds⟩
  | moved n input exec point change next moved reached moves cur written ahead onward
      rest silent undecoded =>
      have there : (scene.shared.runs.set exec.run.runId moved).lookup runId = some row :=
        found
      rw [Dict.lookup_set] at there
      split_ifs at there with own
      · cases there
        rw [own]
        exact kept_moved sound provides made reached moves cur written
          (by rw [Scene.strode_calls, if_pos rfl]) onward undecoded
      · apply kept_same sound provides made there found id
        intro other hold holds
        rw [held_by_strode]
        split_ifs with same
        · rw [same] at holds
          obtain ⟨_, here, about⟩ := held_by_some.mp holds
          rw [reached, Option.some.injEq] at here
          subst here
          obtain ⟨run, of, whose⟩ := run_of_hold about
          rw [moves_run moves, Option.some.injEq] at of
          exact absurd (of ▸ whose).symm own
        · exact Or.inl ⟨hold, holds⟩

theorem readable_next (inside : Inside stmt) (provides : Provides site stmt scene)
    (sound : Cared site scene) :
    Readable site.double ((engineMachine site).next stmt scene).shared.runs := by
  intro runId row found unfinished
  have step : HoldStep site scene stmt _ _ := hold_step scene inside
  generalize (engineMachine site).next stmt scene = after at step found
  generalize ((engineMachine site).answer stmt scene).getD [] = said at step
  cases step with
  | kept _ _ _ _ runs => exact sound.readable runId row (runs ▸ found) unfinished
  | created n call event other input runs inserted _ _ rows =>
    obtain ⟨checkpoint, stored, missing, _, _, table⟩ := insert_ok inserted
    rw [rows, table, Dict.lookup_append_fresh missing] at found
    split_ifs at found with own
    · cases found
      obtain ⟨members, rfl⟩ := column_obj stored
      exact ⟨_, rfl⟩
    · exact sound.readable runId row found unfinished
  | swept n limit locked input runs recovered done _ _ rows =>
    obtain ⟨table, _⟩ := sweep_ok done
    rw [rows, table, lookup_swept] at found
    obtain ⟨old, before, now⟩ := Option.map_eq_some_iff.mp found
    split_ifs at now with selected
    · subst now
      have mem := mem_selected_of_key sound.engine.runs.distinct before selected
      have stale := (mem_selected mem).2
      obtain ⟨run, decoded⟩ := sound.readable runId old before (unfinished_of_stale stale)
      exact swept_decodes decoded
    · exact sound.readable runId row (now ▸ before) unfinished
  | claimed | called => exact sound.readable runId row found unfinished
  | moved n input exec point change next moved reached moves cur written =>
    have there : (scene.shared.runs.set exec.run.runId moved).lookup runId = some row :=
      found
    rw [Dict.lookup_set] at there
    split_ifs at there with own
    · cases there
      have accepted : Accepted site input scene.shared exec change :=
        ⟨cur, by rw [written]; rfl⟩
      have writes := (provides point reached).2.1
      have status : row.status = change.status := by
        obtain ⟨_, _, _, _, _, _, _, _, rfl⟩ := changed_ok written
        rfl
      rw [own]
      cases moves with
      | stopped => exact absurd (Or.inr (Or.inr status)) unfinished
      | completed => exact absurd (Or.inl status) unfinished
      | running => exact changed_decodes sound.engine.runs writes rfl written
      | waiting
      | recovering => exact changed_decodes sound.engine.runs (writes accepted).1 rfl written
    · exact sound.readable runId row there unfinished

theorem claimed_next (inside : Inside stmt) (sound : Cared site scene) {key : String}
    {claim : IdempotencyClaim}
    (taken : ((engineMachine site).next stmt scene).shared.claims.lookup key =
      some claim) :
    ∃ runId row, ((engineMachine site).next stmt scene).shared.runs.lookup runId =
      some row ∧ row.idempotencyKey = key := by
  have step : HoldStep site scene stmt _ _ := hold_step scene inside
  have rows : RunsStep site scene stmt _ _ := runs_step stmt scene
  have past : ∃ runId row, scene.shared.runs.lookup runId = some row ∧
      row.idempotencyKey = key := by
    generalize (engineMachine site).next stmt scene = after at step taken
    generalize ((engineMachine site).answer stmt scene).getD [] = said at step
    cases step with
    | kept _ _ _ _ _ claims | created _ _ _ _ _ _ _ _ _ _ claims
    | swept _ _ _ _ _ _ _ _ _ _ claims => exact sound.claimed key claim (claims ▸ taken)
    | claimed n input call event run reached unclaimed =>
      have there : ((scene.shared.claims.claim run).1).lookup key = some claim := taken
      by_cases own : key = run.idempotencyKey
      · obtain ⟨row, found, _, same⟩ := sound.engine.known n _ reached run rfl
        exact ⟨run.runId, row, found, same.trans own.symm⟩
      · rw [lookup_claimed key unclaimed, if_neg own] at there
        exact sound.claimed key claim there
    | called | moved => exact sound.claimed key claim taken
  obtain ⟨runId, row, found, same⟩ := past
  obtain ⟨after, there, _, kept⟩ := row_kept sound.engine.runs.distinct rows found
  exact ⟨runId, after, there, kept.trans same⟩

theorem free_next (free : ∃ bound, ∀ n, bound ≤ n → scene.calls n = none) :
    ∃ bound, ∀ n, bound ≤ n →
      ((engineMachine site).next stmt scene).calls n = none := by
  obtain ⟨bound, quiet⟩ := free
  refine ⟨max bound (stmt.number + 1), ?_⟩
  intro n large
  rw [(engine site).calls_of_other stmt scene (by omega)]
  exact quiet n (by omega)

theorem cared_next (uuids : UuidsRead site.postgres) (inside : Inside stmt)
    (provides : Provides site stmt scene) (sound : Cared site scene) :
    Cared site ((engineMachine site).next stmt scene) :=
  { engine := engine_sound_next stmt scene sound.engine
    filed := approvals_filed_next uuids sound.engine sound.filed
    readable := readable_next inside provides sound
    claimed := fun _ _ taken => claimed_next inside sound taken
    kept := fun _ _ found => kept_next inside provides sound found
    free := free_next sound.free }

theorem cared_quiet : Cared site (.quiet {}) :=
  { engine := engine_sound_quiet
    filed := fun id approval found => by simp at found
    readable := fun runId row found => by simp at found
    claimed := fun key claim taken => by simp at taken
    kept := fun runId row found => by simp at found
    free := ⟨0, fun n _ => rfl⟩ }

end caring

end Ois.Autonomy
