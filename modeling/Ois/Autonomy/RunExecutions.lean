import Ois.Autonomy.RunHolds

/-!
# How often a run is executed

A call that starts a run is let through by the claim on its key, once. A call that resumes it is
let through by the state of the approval and by the lease, and neither looks at the run.
-/

namespace Ois.Autonomy

open Ois.Library Ois.Kernel Ois.Infrastructure EnginePoint Machine EngineEvent

def EngineRequest.IsCall : EngineRequest → Prop
  | .start _ _ _ => True
  | .resumeApproval _ _ => True
  | .decide _ _ _ => True
  | _ => False

instance : DecidablePred EngineRequest.IsCall
  | .start _ _ _ | .resumeApproval _ _ | .decide _ _ _ => .isTrue trivial
  | .sweep _ _ | .transition _ _ | .fencedTransition _ _ _ => .isFalse id

def OfCalls : EngineStatement → Prop
  | .enter _ req _ => req.IsCall
  | _ => True

instance : DecidablePred OfCalls
  | .enter _ req _ => inferInstanceAs (Decidable req.IsCall)
  | .proceed _ _ | .crash _ => .isTrue trivial

theorem inside_of_calls {stmt : EngineStatement} (calls : OfCalls stmt) :
    Inside stmt := by
  cases stmt with
  | enter n req input =>
    cases req with
    | start | resumeApproval | decide => trivial
    | _ => exact calls.elim
  | _ => trivial

def FindsOpen (input : EngineInput) (scene : EngineScene) : EnginePoint → Prop
  | .leased exec =>
    exec.approvalId ≠ none → scene.shared.leases.isCurrent input.now exec.lease = true →
        statusOfRun exec.run.runId scene = some .waitingApproval ∨
          statusOfRun exec.run.runId scene = some .recovering
  | _ => True

instance (input : EngineInput) (scene : EngineScene) : DecidablePred (FindsOpen input scene)
  | .leased _ => inferInstanceAs (Decidable (_ → _ → _ ∨ _))
  | .conflicted _ _ _ | .created _ _ _ | .refused _ | .claimed _ _ _ | .approved _ _ _
  | .found _ _ _ | .owned _ _ _ _ | .current _ _ _ _ | .requesting _ _ | .waiting _ _
  | .running _ _ | .failed _ _ _ _ | .returned _ _ | .releasing _ _ => .isTrue trivial

def ResumesOpen : EngineStatement → EngineScene → Prop
  | .proceed n input, scene => ∀ point ∈ scene.calls n, FindsOpen input scene point
  | _, _ => True

instance (stmt : EngineStatement) (scene : EngineScene) :
    Decidable (ResumesOpen stmt scene) :=
  match stmt with
  | .proceed _ _ => inferInstanceAs (Decidable (∀ point ∈ _, _))
  | .enter _ _ _ | .crash _ => .isTrue trivial

/-- The callback returns at most once for each run, and a run that is completed or stopped
stays so. -/
structure ExecutesOnce (site : Deployment) (stmts : List EngineStatement) : Prop where
  once : ∀ runId, successes runId
    (eventsOf ((engineMachine site).answers stmts (.quiet {}))) ≤ 1
  final : ∀ past later runId status, stmts = past ++ later →
    status = .completed ∨ status = .stopped →
      statusOfRun runId ((engineMachine site).run past (.quiet {})) = some status →
        statusOfRun runId ((engineMachine site).run stmts (.quiet {})) = some status

structure RunConduct (events : List EngineEvent) (scene : EngineScene) (runId : Uuid)
    (row : DurableRunRow) : Prop where
  single : ∀ first second held other, heldBy scene first = some (runId, held) →
    heldBy scene second = some (runId, other) → first = second
  status : ∀ n held, heldBy scene n = some (runId, held) → row.status = held.status
  unclaimed : scene.shared.claims.lookup row.idempotencyKey = none →
    row.status = .received ∧ ∀ n held, heldBy scene n ≠ some (runId, held)
  successes : successes runId events = 0 ∨ successes runId events = 1 ∧
    (row.status = .completed ∨ row.status = .running ∧
      ∀ n held, heldBy scene n = some (runId, held) → held = .returned)

structure ConductSound (events : List EngineEvent) (scene : EngineScene) : Prop where
  engine : EngineSound scene
  rows : ∀ runId row, scene.shared.runs.lookup runId = some row → RunConduct events scene runId row
  missing : ∀ runId, scene.shared.runs.lookup runId = none → successes runId events = 0

section conduct

variable {site : Deployment} {scene after : EngineScene} {events said : List EngineEvent}
  {runId : Uuid} {row : DurableRunRow} {n : Nat}

theorem successes_append (runId : Uuid) (first second : List EngineEvent) :
    successes runId (first ++ second) = successes runId first + successes runId second :=
  List.countP_append

theorem conduct_kept (conduct : RunConduct events scene runId row)
    (held : ∀ n hold, heldBy after n = some (runId, hold) →
      heldBy scene n = some (runId, hold))
    (claims : after.shared.claims.lookup row.idempotencyKey = none →
      scene.shared.claims.lookup row.idempotencyKey = none)
    (silent : successes runId said = 0) : RunConduct (events ++ said) after runId row := by
  constructor
  case single =>
    intro first second hold other here there
    exact conduct.single first second hold other (held first hold here) (held second other there)
  case status =>
    intro n hold here
    exact conduct.status n hold (held n hold here)
  case unclaimed =>
    intro free
    obtain ⟨received, nobody⟩ := conduct.unclaimed (claims free)
    exact ⟨received, fun n hold here => nobody n hold (held n hold here)⟩
  case successes =>
    rw [successes_append, silent, Nat.add_zero]
    rcases conduct.successes with none | ⟨one, settled | ⟨running, holder⟩⟩
    · exact Or.inl none
    · exact Or.inr ⟨one, Or.inl settled⟩
    · exact Or.inr ⟨one, Or.inr ⟨running, fun n hold here =>
        holder n hold (held n hold here)⟩⟩

theorem held_of_kept (kept : ∀ n, heldBy after n = heldBy scene n ∨
      after.calls n = none) (n : Nat) (hold : Hold)
    (here : heldBy after n = some (runId, hold)) :
    heldBy scene n = some (runId, hold) := by
  rcases kept n with equal | gone
  · rw [← equal, here]
  · rw [held_by_free gone] at here
    exact absurd here (by simp)

variable {hold : Hold} {change : RunChange} {exec : Execution} {stride : EngineStride}
  {stmt : EngineStatement}

section

variable (conduct : RunConduct events scene runId row)

include conduct

theorem claimed_of_held
    (held : heldBy scene n = some (runId, hold)) :
    scene.shared.claims.lookup row.idempotencyKey ≠ none :=
  fun free => (conduct.unclaimed free).2 n hold held

theorem claimed_of_status
    (status : row.status ≠ .received) :
    scene.shared.claims.lookup row.idempotencyKey ≠ none :=
  fun free => status (conduct.unclaimed free).1

theorem no_success_of_status
    (running : row.status ≠ .running) (completed : row.status ≠ .completed) :
    successes runId events = 0 := by
  rcases conduct.successes with none | ⟨_, settled | ⟨runs, _⟩⟩
  · exact none
  · exact absurd settled completed
  · exact absurd runs running

theorem no_success_of_held
    (held : heldBy scene n = some (runId, hold)) (unreturned : hold ≠ .returned) :
    successes runId events = 0 := by
  rcases conduct.successes with none | ⟨_, settled | ⟨_, holder⟩⟩
  · exact none
  · have status := conduct.status n hold held
    rw [settled] at status
    cases hold <;> cases status
  · exact absurd (holder n hold held) unreturned

end

/-- The call that moves a run is the only one that holds it, and the run is not settled. -/
structure Admitted (events : List EngineEvent) (scene : EngineScene) (n : Nat)
    (runId : Uuid) (change : RunChange) (old : DurableRunRow) : Prop where
  alone : ∀ other hold, heldBy scene other = some (runId, hold) → other = n
  claimed : scene.shared.claims.lookup old.idempotencyKey ≠ none
  unsettled : old.status ≠ .completed ∧ old.status ≠ .stopped
  succeeds : change.status = .completed ∨ successes runId events = 0

theorem admitted_of_held (conduct : RunConduct events scene runId row)
    (held : heldBy scene n = some (runId, hold))
    (ret : hold = .returned → change.status = .completed) :
    Admitted events scene n runId change row := by
  have status := conduct.status n hold held
  constructor
  case alone => exact fun other there here => conduct.single other n there hold here held
  case claimed => exact claimed_of_held conduct held
  case unsettled => constructor <;> (rw [status]; cases hold <;> simp [Hold.status])
  case succeeds =>
    by_cases last : hold = .returned
    · exact Or.inl (ret last)
    · exact Or.inr (no_success_of_held conduct held last)

theorem admitted_of_open (conduct : RunConduct events scene runId row)
    (opened : row.status = .waitingApproval ∨ row.status = .recovering) :
    Admitted events scene n runId change row := by
  have apart : ∀ status, status = row.status → status ≠ .received ∧ status ≠ .running ∧
      status ≠ .completed ∧ status ≠ .stopped := by
    rintro status rfl
    rcases opened with waiting | recovering
    · simp [waiting]
    · simp [recovering]
  obtain ⟨unreceived, idle, uncompleted, unstopped⟩ := apart row.status rfl
  constructor
  case alone =>
    intro other hold held
    have status := conduct.status other hold held
    cases hold with
    | starting => exact absurd status unreceived
    | calling | failed | returned => exact absurd status idle
  case claimed => exact claimed_of_status conduct unreceived
  case unsettled => exact ⟨uncompleted, unstopped⟩
  case succeeds => exact Or.inr (no_success_of_status conduct idle uncompleted)

theorem admitted_of_moves {input : EngineInput} {point : EnginePoint}
    {next : DurableWorkflowRun → EnginePoint}
    (conduct : RunConduct events scene exec.run.runId row)
    (opens : ResumesOpen (.proceed n input) scene)
    (reached : scene.calls n = some point) (moves : Moves exec point change next)
    (cur : scene.shared.leases.isCurrent input.now exec.lease = true)
    (found : scene.shared.runs.lookup exec.run.runId = some row) :
    Admitted events scene n exec.run.runId change row := by
  have held := held_by_reached reached
  have entered : point = .leased exec →
      Admitted events scene n exec.run.runId change row := by
    rintro rfl
    cases started : exec.approvalId with
    | none =>
      rw [hold?, if_pos started] at held
      exact admitted_of_held conduct held (by simp)
    | some askId =>
      have opened := opens _ reached (by simp [started]) cur
      rw [statusOfRun, found] at opened
      exact admitted_of_open conduct (by simpa using opened)
  cases moves with
  | stopped => exact entered rfl
  | running => exact entered rfl
  | waiting | recovering => exact admitted_of_held conduct held (by simp)
  | completed => exact admitted_of_held conduct held (fun _ => rfl)

theorem hold_of_moves {point : EnginePoint} {next : DurableWorkflowRun → EnginePoint}
    (moves : Moves exec point change next) {run : DurableWorkflowRun}
    (held : (next run).hold? = some (runId, hold)) :
    runId = exec.run.runId ∧ hold = .calling ∧ change.status = .running := by
  cases moves with
  | running =>
    cases held
    exact ⟨rfl, rfl, rfl⟩
  | _ => cases held

theorem conduct_moved {written : DurableRunRow}
    (admitted : Admitted events scene n runId change row)
    (conduct : RunConduct events scene runId row)
    (key : written.idempotencyKey = row.idempotencyKey) (status : written.status = change.status)
    (claims : stride.shared.claims = scene.shared.claims)
    (ahead : ∀ hold, stride.point.bind hold? = some (runId, hold) →
      hold = .calling ∧ change.status = .running)
    (silent : successes runId said = 0) :
    RunConduct (events ++ said) (scene.strode n stride) runId written := by
  have own : ∀ other hold, heldBy (scene.strode n stride) other = some (runId, hold) →
      other = n ∧ hold = .calling ∧ change.status = .running := by
    intro other hold held
    rw [held_by_strode] at held
    split_ifs at held with same
    · exact ⟨same, ahead hold held⟩
    · exact absurd (admitted.alone other hold held) same
  constructor
  case single =>
    intro first second hold other here there
    rw [(own first hold here).1, (own second other there).1]
  case status =>
    intro other hold held
    obtain ⟨_, rfl, running⟩ := own other hold held
    rw [status, running]
    rfl
  case unclaimed =>
    intro free
    rw [key, Scene.strode_shared, claims] at free
    exact absurd free admitted.claimed
  case successes =>
    rw [successes_append, silent, Nat.add_zero, status]
    rcases conduct.successes with none | ⟨one, _⟩
    · exact Or.inl none
    · rcases admitted.succeeds with completed | none
      · exact Or.inr ⟨one, Or.inl completed⟩
      · exact Or.inl none

theorem conduct_claimed (conduct : RunConduct events scene runId row)
    (free : scene.shared.claims.lookup row.idempotencyKey = none)
    (claimed : stride.shared.claims.lookup row.idempotencyKey ≠ none)
    (ahead : stride.point.bind hold? = some (runId, .starting)) :
    RunConduct (events ++ []) (scene.strode n stride) runId row := by
  obtain ⟨received, nobody⟩ := conduct.unclaimed free
  have own : ∀ other hold, heldBy (scene.strode n stride) other = some (runId, hold) →
      other = n ∧ hold = .starting := by
    intro other hold held
    rw [held_by_strode] at held
    split_ifs at held with same
    · rw [ahead, Option.some.injEq, Prod.mk.injEq] at held
      exact ⟨same, held.2.symm⟩
    · exact absurd held (nobody other hold)
  constructor
  case single =>
    intro first second hold other here there
    rw [(own first hold here).1, (own second other there).1]
  case status =>
    intro other hold held
    rw [(own other hold held).2, received]
    rfl
  case unclaimed => exact fun still => absurd still claimed
  case successes =>
    rw [List.append_nil]
    exact Or.inl (no_success_of_status conduct (by simp [received]) (by simp [received]))

theorem conduct_called {out : CallbackOutcome}
    (conduct : RunConduct events scene exec.run.runId row)
    (held : heldBy scene n = some (exec.run.runId, .calling))
    (claims : stride.shared.claims = scene.shared.claims)
    (ahead : stride.point.bind hold? = some (exec.run.runId, hold))
    (ended : (∃ res, out = .returned res) ∧ hold = .returned ∨
      (∃ typeName msg, out = .raised typeName msg) ∧ hold = .failed) :
    RunConduct (events ++ [.called exec.run.runId exec.approvalId out])
      (scene.strode n stride) exec.run.runId row := by
  have running : row.status = .running := conduct.status n .calling held
  have own : ∀ other there, heldBy (scene.strode n stride) other =
      some (exec.run.runId, there) → other = n ∧ there = hold := by
    intro other there here
    rw [held_by_strode] at here
    split_ifs at here with same
    · rw [ahead, Option.some.injEq, Prod.mk.injEq] at here
      exact ⟨same, here.2.symm⟩
    · exact absurd (conduct.single other n there .calling here held) same
  constructor
  case single =>
    intro first second there other here away
    rw [(own first there here).1, (own second other away).1]
  case status =>
    intro other there here
    rw [(own other there here).2, running]
    rcases ended with ⟨_, rfl⟩ | ⟨_, rfl⟩
    · rfl
    · rfl
  case unclaimed =>
    intro free
    rw [Scene.strode_shared, claims] at free
    exact absurd free (claimed_of_held conduct held)
  case successes =>
    rw [successes_append, no_success_of_held conduct held (by simp), Nat.zero_add]
    rcases ended with ⟨⟨res, rfl⟩, rfl⟩ | ⟨⟨typeName, msg, rfl⟩, rfl⟩
    · exact Or.inr ⟨by simp [successes, isSuccess],
        Or.inr ⟨running, fun other there here => (own other there here).2⟩⟩
    · exact Or.inl (by simp [successes, isSuccess])

theorem held_elsewhere {own : Uuid}
    (ahead : ∀ other hold, stride.point.bind hold? = some (other, hold) → other = own)
    (elsewhere : runId ≠ own) (other : Nat) (hold : Hold)
    (held : heldBy (scene.strode n stride) other = some (runId, hold)) :
    heldBy scene other = some (runId, hold) := by
  rw [held_by_strode] at held
  split_ifs at held
  · exact absurd (ahead runId hold held) elsewhere
  · exact held

theorem conduct_created {pg : Postgres} {now : Int} {runs : RunTable}
    {ident : RunIdentity} {created : Uuid} (sound : ConductSound events scene)
    (inserted : scene.shared.runs.insert pg now (.new created ident) = .ok (some runs))
    (same : ∀ n, heldBy after n = heldBy scene n)
    (claims : after.shared.claims = scene.shared.claims)
    (found : runs.lookup runId = some row) :
    RunConduct (events ++ [.created created now]) after runId row := by
  obtain ⟨checkpoint, _, missing, _, _, rfl⟩ := RunTable.insert_ok inserted
  rw [Dict.lookup_append_fresh missing] at found
  split_ifs at found with own
  · have unheld : ∀ n hold, heldBy after n ≠ some (runId, hold) := by
      intro n hold held
      have before : heldBy scene n = some (runId, hold) := by rw [← same, held]
      obtain ⟨point, reached, holds⟩ := held_by_some.mp before
      obtain ⟨run, about, whose⟩ : ∃ run, point.run? = some run ∧ run.runId = runId :=
        run_of_hold holds
      obtain ⟨held, there, _⟩ := sound.engine.known n point reached run about
      rw [whose, own, missing] at there
      exact absurd there (by simp)
    cases found
    constructor
    case single => exact fun first second hold other here => absurd here (unheld first hold)
    case status => exact fun n hold held => absurd held (unheld n hold)
    case unclaimed => exact fun _ => ⟨rfl, unheld⟩
    case successes =>
      rw [successes_append, sound.missing runId (own ▸ missing)]
      exact Or.inl rfl
  · apply conduct_kept (sound.rows runId row found) (fun n hold here => by rw [← same, here])
    · rw [claims]
      exact id
    · rfl

theorem successes_of_other {out : CallbackOutcome} (other : runId ≠ exec.run.runId) :
    successes runId [.called exec.run.runId exec.approvalId out] = 0 := by
  cases out with
  | returned res => simp [successes, isSuccess, Ne.symm other]
  | raised typeName msg => rfl

theorem successes_of_moved {moved : Uuid} {status : DurableRunStatus} {now : Int}
    (silent : ∀ runId, successes runId said = 0) (runId : Uuid) :
    successes runId (.transitioned moved status now :: said) = 0 := by
  have none := silent runId
  simpa [successes, isSuccess] using none

theorem conduct_step (calls : OfCalls stmt) (sound : ConductSound events scene)
    (opens : ResumesOpen stmt scene) (step : HoldStep site scene stmt after said)
    (found : after.shared.runs.lookup runId = some row) :
    RunConduct (events ++ said) after runId row := by
  cases step with
  | kept _ _ _ held runs claims silent =>
    rw [runs] at found
    apply conduct_kept (sound.rows runId row found) (held_of_kept held)
    · rw [claims]
      exact id
    · exact silent runId
  | created n call event created input runs inserted _ same rows claims =>
    rw [rows] at found
    exact conduct_created sound inserted same claims found
  | swept => exact calls.elim
  | claimed n input call event run reached unclaimed =>
    have conduct := sound.rows runId row found
    by_cases own : runId = run.runId
    · obtain ⟨held, there, _, key⟩ := sound.engine.known n _ reached run rfl
      have present : scene.shared.runs.lookup runId = some row := found
      rw [← own, present, Option.some.injEq] at there
      subst there
      have claimed : (scene.shared.claims.claim run).1.lookup row.idempotencyKey ≠ none := by
        rw [lookup_claimed _ unclaimed, if_pos key]
        simp
      apply conduct_claimed conduct (by rw [key, unclaimed]) claimed
      rw [own]
      rfl
    · apply conduct_kept conduct
      · apply held_elsewhere _ own
        intro other hold held
        cases held
        rfl
      · intro free
        have free : (scene.shared.claims.claim run).1.lookup row.idempotencyKey = none := free
        rw [lookup_claimed _ unclaimed] at free
        split_ifs at free
        exact free
      · rfl
  | called n input exec attempt next held reached ahead out =>
    have conduct := sound.rows runId row found
    by_cases own : runId = exec.run.runId
    · subst own
      exact conduct_called conduct (held_by_reached reached) rfl ahead out
    · apply conduct_kept conduct
      · apply held_elsewhere _ own
        intro other hold holds
        rw [Stride.going_point, Option.bind_some, ahead] at holds
        cases holds
        rfl
      · exact id
      · exact successes_of_other own
  | moved n input exec point change next written reached moves cur changed ahead
      onward rest silent =>
      have goes : ∀ other hold, ahead.bind hold? = some (other, hold) →
          other = exec.run.runId ∧ hold = .calling ∧ change.status = .running := by
        intro other hold holds
        obtain ⟨point, there, held⟩ := Option.bind_eq_some_iff.mp holds
        obtain ⟨run, rfl⟩ := onward point there
        exact hold_of_moves moves held
      simp only [Scene.strode_shared, Dict.lookup_set] at found
      split_ifs at found with own
      · subst own
        cases found
        obtain ⟨old, _, _, _, before, _, _, _, same⟩ := RunTable.changed_ok changed
        have conduct := sound.rows exec.run.runId old before
        apply conduct_moved (admitted_of_moves conduct opens reached moves cur before) conduct
        · rw [same]
          rfl
        · rw [same]
          rfl
        · rfl
        · exact fun hold holds => (goes _ hold holds).2
        · exact successes_of_moved silent _
      · apply conduct_kept (sound.rows runId row found)
        · exact held_elsewhere (fun other hold holds => (goes other hold holds).1) own
        · exact id
        · exact successes_of_moved silent _

theorem missing_step (calls : OfCalls stmt) (sound : ConductSound events scene)
    (step : HoldStep site scene stmt after said)
    (absent : after.shared.runs.lookup runId = none) : successes runId (events ++ said) = 0 := by
  rw [successes_append]
  cases step with
  | kept _ _ _ _ runs _ silent =>
    rw [runs] at absent
    rw [sound.missing runId absent, silent]
  | created n call event created input runs inserted _ _ rows =>
    obtain ⟨checkpoint, _, missing, _, _, rfl⟩ := RunTable.insert_ok inserted
    rw [rows, Dict.lookup_append_fresh missing] at absent
    split_ifs at absent
    rw [sound.missing runId absent]
    rfl
  | swept => exact calls.elim
  | claimed => rw [sound.missing runId absent]; rfl
  | called n input exec attempt next held reached =>
    obtain ⟨row, there, _⟩ := sound.engine.known n _ reached exec.run rfl
    have other : runId ≠ exec.run.runId := by
      rintro rfl
      rw [Scene.strode_shared, Stride.going_shared, there] at absent
      exact absurd absent (by simp)
    rw [sound.missing runId absent, successes_of_other other]
  | moved n input exec point change next written reached moves cur changed ahead
      onward rest silent =>
      simp only [Scene.strode_shared, Dict.lookup_set] at absent
      split_ifs at absent
      rw [sound.missing runId absent, successes_of_moved silent]

theorem conduct_sound_next (calls : OfCalls stmt) (opens : ResumesOpen stmt scene)
    (sound : ConductSound events scene) :
    ConductSound (events ++ ((engineMachine site).answer stmt scene).getD [])
      ((engineMachine site).next stmt scene) := by
  have step : HoldStep site scene stmt _ _ := hold_step scene (inside_of_calls calls)
  exact { engine := engine_sound_next stmt scene sound.engine
          rows := fun runId row found => conduct_step calls sound opens step found
          missing := fun runId absent => missing_step calls sound step absent }

theorem settled_step (calls : OfCalls stmt) (sound : ConductSound events scene)
    (opens : ResumesOpen stmt scene) (step : HoldStep site scene stmt after said)
    (found : scene.shared.runs.lookup runId = some row)
    (settled : row.status = .completed ∨ row.status = .stopped) :
    after.shared.runs.lookup runId = some row := by
  cases step with
  | kept _ _ _ _ runs => rw [runs, found]
  | created n call event created input runs inserted _ _ rows =>
    obtain ⟨checkpoint, _, missing, _, _, rfl⟩ := RunTable.insert_ok inserted
    rw [rows, Dict.lookup_append, found, Option.some_or]
  | swept => exact calls.elim
  | claimed => exact found
  | called => exact found
  | moved n input exec point change next written reached moves cur =>
    simp only [Scene.strode_shared, Dict.lookup_set]
    split_ifs with own
    · subst own
      have admitted : Admitted events scene n exec.run.runId change row :=
        admitted_of_moves (sound.rows _ row found) opens reached moves cur found
      rcases settled with completed | stopped
      · exact absurd completed admitted.unsettled.1
      · exact absurd stopped admitted.unsettled.2
    · exact found

end conduct

section runs

variable {site : Deployment}

theorem conduct_sound_run {stmts : List EngineStatement}
    (calls : ∀ stmt ∈ stmts, OfCalls stmt)
    (opens : (engineMachine site).Throughout ResumesOpen stmts (.quiet {})) :
    ConductSound (eventsOf ((engineMachine site).answers stmts (.quiet {})))
      ((engineMachine site).run stmts (.quiet {})) := by
  induction stmts using List.reverseRecOn with
  | nil =>
    exact { engine := engine_sound_run []
            rows := fun runId row found => by simp [run] at found
            missing := fun runId absent => rfl }
  | append_singleton past stmt ih =>
    obtain ⟨before, here, _⟩ := throughout_append.mp opens
    have sound := ih (fun other mem => calls other (List.mem_append_left _ mem)) before
    rw [answers_concat, run_concat, events_of_concat]
    exact conduct_sound_next (calls stmt (by simp)) here sound

theorem settled_run {past later : List EngineStatement} {runId : Uuid} {row : DurableRunRow}
    (calls : ∀ stmt ∈ past ++ later, OfCalls stmt)
    (opens : (engineMachine site).Throughout ResumesOpen (past ++ later) (.quiet {}))
    (found : ((engineMachine site).run past (.quiet {})).shared.runs.lookup runId =
      some row) (settled : row.status = .completed ∨ row.status = .stopped) :
    ((engineMachine site).run (past ++ later) (.quiet {})).shared.runs.lookup runId =
      some row := by
  induction later using List.reverseRecOn with
  | nil => rw [List.append_nil, found]
  | append_singleton between stmt ih =>
    rw [← List.append_assoc] at calls opens ⊢
    obtain ⟨before, here, _⟩ := throughout_append.mp opens
    have past := fun other mem => calls other (List.mem_append_left _ mem)
    rw [run_concat]
    have last := calls stmt (by simp)
    exact settled_step last (conduct_sound_run past before) here
      (hold_step _ (inside_of_calls last)) (ih past before) settled

end runs

/-- Calls of any number of workers start and resume runs, crash between any two statements,
and their callbacks end in any way. As long as every call that resumes a run finds it
waiting or recovering, the callback returns at most once for each run, and a run that is
completed or stopped stays so. -/
theorem runs_execute_once (site : Deployment) (stmts : List EngineStatement)
    (calls : ∀ stmt ∈ stmts, OfCalls stmt)
    (opens : (engineMachine site).Throughout ResumesOpen stmts (.quiet {})) :
    ExecutesOnce site stmts := by
  constructor
  case once =>
    intro runId
    have sound := conduct_sound_run calls opens
    cases found : ((engineMachine site).run stmts (.quiet {})).shared.runs.lookup
        runId with
    | none => rw [sound.missing runId found]; exact Nat.zero_le 1
    | some row =>
      rcases (sound.rows runId row found).successes with none | ⟨one, _⟩
      · rw [none]; exact Nat.zero_le 1
      · rw [one]
  case final =>
    rintro past later runId status rfl settled reached
    obtain ⟨row, found, rfl⟩ := Option.map_eq_some_iff.mp reached
    rw [statusOfRun, settled_run calls opens found settled, Option.map_some]

def approvedRun : List EngineStatement :=
  starting 0 "tenant" true ⟨1⟩ 6 ++ deciding 1 ⟨1⟩ .approved (second 10) ::
    resuming 2 "tenant" ⟨1⟩ 8 (second 20)

/-- One resume is one execution. -/
theorem approved_run_executes_once :
    statusOfRun ⟨1⟩ ((engineMachine .exact).run approvedRun (.quiet {})) = some .completed ∧
      ExecutesOnce .exact approvedRun := by
  exact ⟨by decide +kernel,
    runs_execute_once .exact approvedRun (by decide +kernel) (by decide +kernel)⟩

/-- A second resume executes the completed run again. -/
theorem completed_run_resumed :
    statusOfRun ⟨1⟩ ((engineMachine .exact).run approvedRun (.quiet {})) = some .completed ∧
      statusOfRun ⟨1⟩ ((engineMachine .exact).run
      (approvedRun ++ resuming 3 "tenant" ⟨1⟩ 5 (second 30)) (.quiet {})) = some .running ∧
      successes ⟨1⟩ (eventsOf ((engineMachine .exact).answers
      (approvedRun ++ resuming 3 "tenant" ⟨1⟩ 8 (second 30)) (.quiet {}))) = 2 ∧
      ¬ExecutesOnce .exact (approvedRun ++ resuming 3 "tenant" ⟨1⟩ 8 (second 30)) := by
  have twice : successes ⟨1⟩ (eventsOf ((engineMachine .exact).answers
      (approvedRun ++ resuming 3 "tenant" ⟨1⟩ 8 (second 30)) (.quiet {}))) = 2 := by
    decide +kernel
  refine ⟨by decide +kernel, by decide +kernel, twice, fun executes => ?_⟩
  have once := executes.once ⟨1⟩
  rw [twice] at once
  exact absurd once (by decide)

end Ois.Autonomy
