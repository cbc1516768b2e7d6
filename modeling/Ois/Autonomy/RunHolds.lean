import Ois.Autonomy.EngineInvariants

/-!
# Which call holds a run

A call that may start a run holds it from the claim on its key to its first transition, and
a call whose callback is under way holds it to the transition after the callback. These
lemmas say what a statement does to the runs that are held.
-/

namespace Ois.Autonomy

open Ois.Library Ois.Kernel Ois.Infrastructure

inductive Hold where
  | starting | calling | failed | returned
  deriving DecidableEq, Repr

def Hold.status : Hold → DurableRunStatus
  | starting => .received
  | calling => .running
  | failed => .running
  | returned => .running

def EnginePoint.hold? : EnginePoint → Option (Uuid × Hold)
  | .claimed _ _ run => some (run.runId, .starting)
  | .leased exec =>
    if exec.approvalId = none then some (exec.run.runId, .starting) else none
  | .requesting exec _ => some (exec.run.runId, .starting)
  | .waiting exec _ => some (exec.run.runId, .starting)
  | .running exec _ => some (exec.run.runId, .calling)
  | .failed exec _ _ _ => some (exec.run.runId, .failed)
  | .returned exec _ => some (exec.run.runId, .returned)
  | _ => none

open EnginePoint

def heldBy (scene : EngineScene) (n : Nat) : Option (Uuid × Hold) :=
  (scene.calls n).bind hold?

def EngineEvent.isSuccess (runId : Uuid) : EngineEvent → Bool
  | .called other _ (.returned _) => other == runId
  | _ => false

/-- How often the callback has returned for the run. -/
def successes (runId : Uuid) (events : List EngineEvent) : Nat :=
  events.countP (EngineEvent.isSuccess runId)

inductive HoldStep (site : Deployment) (scene : EngineScene) :
    EngineStatement → EngineScene → List EngineEvent → Prop where
  | kept (stmt : EngineStatement) (after : EngineScene) (said : List EngineEvent)
      (held : ∀ n, heldBy after n = heldBy scene n ∨ after.calls n = none)
      (runs : after.shared.runs = scene.shared.runs)
      (claims : after.shared.claims = scene.shared.claims)
      (silent : ∀ runId, successes runId said = 0) :
      HoldStep site scene stmt after said
  | created (n : Nat) (call : EngineCall) (event : EventEnvelope) (runId : Uuid)
      (input : EngineInput) (runs : RunTable)
      (inserted : scene.shared.runs.insert site.postgres input.now
        (.new runId (runIdentity call.workflow event)) = .ok (some runs))
      (after : EngineScene) (same : ∀ n, heldBy after n = heldBy scene n)
      (rows : after.shared.runs = runs)
      (claims : after.shared.claims = scene.shared.claims) :
      HoldStep site scene (.enter n (.start call event runId) input) after
        [.created runId input.now]
  | swept (n : Nat) (limit : Int) (locked : List Uuid) (input : EngineInput)
      (runs : RunTable) (recovered : List DurableWorkflowRun)
      (done : site.sweeper.sweep site.double input.now limit locked
        scene.shared.runs = .ok (runs, recovered))
      (after : EngineScene) (same : ∀ n, heldBy after n = heldBy scene n)
      (rows : after.shared.runs = runs)
      (claims : after.shared.claims = scene.shared.claims) (free : scene.calls n = none) :
      HoldStep site scene (.enter n (.sweep limit locked) input) after
        [.swept (recovered.map (·.runId)) input.now]
  | claimed (n : Nat) (input : EngineInput) (call : EngineCall) (event : EventEnvelope)
      (run : DurableWorkflowRun) (reached : scene.calls n = some (.created call event run))
      (unclaimed : scene.shared.claims.lookup run.idempotencyKey = none) :
      HoldStep site scene (.proceed n input) (scene.strode n (.going
          { scene.shared with claims := (scene.shared.claims.claim run).1 }
          (.claimed call event run) ([] : List EngineEvent))) []
  | called (n : Nat) (input : EngineInput) (exec : Execution) (attempt : Int)
      (next : EnginePoint) (held : Hold)
      (reached : scene.calls n = some (.running exec attempt))
      (ahead : next.hold? = some (exec.run.runId, held))
      (out : (∃ res, input.outcome = .returned res) ∧ held = .returned ∨
        (∃ typeName msg, input.outcome = .raised typeName msg) ∧ held = .failed) :
      HoldStep site scene (.proceed n input)
        (scene.strode n (.going scene.shared next ([] : List EngineEvent)))
        [.called exec.run.runId exec.approvalId input.outcome]
  | moved (n : Nat) (input : EngineInput) (exec : Execution) (point : EnginePoint)
      (change : RunChange) (next : DurableWorkflowRun → EnginePoint) (row : DurableRunRow)
      (reached : scene.calls n = some point) (moves : Moves exec point change next)
      (cur : scene.shared.leases.isCurrent input.now exec.lease = true)
      (written : RunTable.changed site.postgres input.now exec.run.runId change
        scene.shared.runs = .ok row)
      (ahead : Option EnginePoint) (onward : ∀ point, ahead = some point → ∃ run, point = next run)
      (rest : List EngineEvent) (silent : ∀ runId, successes runId rest = 0)
      (undecoded : ahead = none → ∀ run, row.run site.double exec.run.runId ≠ .ok run) :
      HoldStep site scene (.proceed n input) (scene.strode n (⟨{ scene.shared with
          runs := scene.shared.runs.set exec.run.runId row }, ahead, []⟩ : EngineStride))
        (.transitioned exec.run.runId change.status input.now :: rest)

theorem run_of_hold {point : EnginePoint} {runId : Uuid} {hold : Hold}
    (held : point.hold? = some (runId, hold)) :
    ∃ run, point.run? = some run ∧ run.runId = runId := by
  cases point with
  | leased exec =>
    rw [hold?] at held
    split_ifs at held
    cases held
    exact ⟨_, rfl, rfl⟩
  | claimed | requesting | waiting | running | failed | returned =>
    cases held
    exact ⟨_, rfl, rfl⟩
  | _ => cases held

section holding

variable {site : Deployment} {scene : EngineScene}

variable {n : Nat} {stride : EngineStride}

theorem held_by_some {runId : Uuid} {held : Hold} :
    heldBy scene n = some (runId, held) ↔
      ∃ point, scene.calls n = some point ∧ point.hold? = some (runId, held) :=
  Option.bind_eq_some_iff

theorem held_by_reached {point : EnginePoint} (reached : scene.calls n = some point) :
    heldBy scene n = point.hold? := by
  simp [heldBy, reached]

theorem held_by_strode (n other : Nat) (stride : EngineStride) :
    heldBy (scene.strode n stride) other =
      if other = n then stride.point.bind hold? else heldBy scene other := by
  unfold heldBy
  rw [Scene.strode_calls]
  split_ifs
  · rfl
  · rfl

theorem held_by_free (free : scene.calls n = none) : heldBy scene n = none := by
  simp [heldBy, free]

theorem held_by_strode_same (same : stride.point.bind hold? = heldBy scene n)
    (other : Nat) : heldBy (scene.strode n stride) other = heldBy scene other := by
  rw [held_by_strode]
  split_ifs with own
  · rw [own, same]
  · rfl

theorem held_by_strode_kept
    (same : stride.point.bind hold? = heldBy scene n ∨ stride.point = none)
    (other : Nat) : heldBy (scene.strode n stride) other = heldBy scene other ∨
      (scene.strode n stride).calls other = none := by
  rcases same with same | gone
  · exact Or.inl (held_by_strode_same same other)
  · rw [held_by_strode, Scene.strode_calls]
    split_ifs
    · exact Or.inr gone
    · exact Or.inl rfl

theorem silent_of_ends {events : List EngineEvent} (ends : ∀ event ∈ events, event.IsEnd)
    (runId : Uuid) : successes runId events = 0 := by
  apply List.countP_eq_zero.mpr
  intro event mem
  have ended := ends event mem
  cases event with
  | called => exact ended.elim
  | _ => simp [EngineEvent.isSuccess]

theorem hold_kept {stmt : EngineStatement}
    (same : stride.point.bind hold? = heldBy scene n ∨ stride.point = none)
    (runs : stride.shared.runs = scene.shared.runs)
    (claims : stride.shared.claims = scene.shared.claims)
    (ends : ∀ event ∈ stride.said, event.IsEnd) :
    HoldStep site scene stmt (scene.strode n stride) stride.said :=
  .kept stmt _ stride.said (held_by_strode_kept same) runs claims (silent_of_ends ends)

theorem hold_entered (n : Nat) (req : EngineRequest) (input : EngineInput)
    (inside : req.IsInside) (free : scene.calls n = none) :
    HoldStep site scene (.enter n req input)
      (scene.strode n (enterEngine site req input scene.shared))
      (enterEngine site req input scene.shared).said := by
  have step : Enters site input scene.shared req _ := enters req
  have unheld := held_by_free free
  generalize enterEngine site req input scene.shared = stride at step ⊢
  cases step with
  | ended => exact hold_kept (Or.inr rfl) rfl rfl (by simp [EngineEvent.IsEnd])
  | conflicted => exact hold_kept (Or.inl unheld.symm) rfl rfl (by simp)
  | created made event runId runs fires inserted =>
    exact .created n made event runId input runs inserted _
      (held_by_strode_same unheld.symm) rfl rfl
  | approved => exact hold_kept (Or.inl unheld.symm) rfl rfl (by simp)
  | decided _ _ _ events raises =>
    apply hold_kept (Or.inr rfl) rfl rfl
    intro event mem
    obtain ⟨err, rfl⟩ := raises event mem
    trivial
  | swept limit locked runs recovered done =>
    exact .swept n limit locked input runs recovered done _
      (held_by_strode_same unheld.symm) rfl rfl free
  | moved _ _ _ _ _ _ asks =>
    cases asks with
    | transition => exact inside.elim
    | fenced => exact inside.elim

theorem hold_proceeded {point : EnginePoint} (input : EngineInput)
    (reached : scene.calls n = some point) :
    HoldStep site scene (.proceed n input)
      (scene.strode n (proceedEngine site point input scene.shared))
      (proceedEngine site point input scene.shared).said := by
  have step : Proceeds site input scene.shared point _ := proceeds point
  have held := held_by_reached reached
  generalize proceedEngine site point input scene.shared = stride at step ⊢
  cases step with
  | ended _ leases event ends => exact hold_kept (Or.inr rfl) rfl rfl (by simpa using ends)
  | conflicted => exact hold_kept (Or.inl held.symm) rfl rfl (by simp)
  | claimed call event run unclaimed =>
    exact .claimed n input call event run reached unclaimed
  | refused | leased | found | owned | current
  | resumed => exact hold_kept (Or.inl held.symm) rfl rfl (by simp)
  | asked exec approval started | unasked exec reason started =>
    rw [hold?, if_pos started] at held
    exact hold_kept (Or.inl held.symm) rfl rfl (by simp)
  | requested => exact hold_kept (Or.inl held.symm) rfl rfl (by simp)
  | called exec attempt res out =>
    exact .called n input exec attempt _ .returned reached rfl
      (Or.inl ⟨⟨res, out⟩, rfl⟩)
  | threw exec attempt typeName msg out =>
    exact .called n input exec attempt _ .failed reached rfl
      (Or.inr ⟨⟨typeName, msg, out⟩, rfl⟩)
  | moved exec _ change next row run moves cur written =>
    exact .moved n input exec point change next row reached moves cur written
      (some (next run)) (fun _ same => ⟨run, (Option.some.inj same).symm⟩) [] (fun _ => rfl)
      (by simp)
  | broken exec _ change next row err moves cur written undecoded =>
    exact .moved n input exec point change next row reached moves cur written
      none (by simp) [.raised err] (silent_of_ends (by simp [EngineEvent.IsEnd]))
      (by simp [undecoded])

theorem hold_step {stmt : EngineStatement} (scene : EngineScene)
    (inside : Inside stmt) :
    HoldStep site scene stmt ((engineMachine site).next stmt scene)
      (((engineMachine site).answer stmt scene).getD []) := by
  have happens := (engine site).machine_happens stmt scene
  change HoldStep site scene stmt ((engine site).machine stmt scene).1
    (((engine site).machine stmt scene).2.getD [])
  generalize (engine site).machine stmt scene = res at happens ⊢
  cases happens with
  | ignored => exact .kept _ _ _ (fun n => Or.inl rfl) rfl rfl (fun _ => rfl)
  | crashed call =>
    have held : ∀ n, heldBy (scene.dropped call) n = heldBy scene n ∨
        (scene.dropped call).calls n = none := by
      intro n
      rw [heldBy, Scene.dropped_calls]
      split_ifs
      · exact Or.inr rfl
      · exact Or.inl rfl
    exact .kept _ _ _ held rfl rfl (fun _ => rfl)
  | entered call req input free =>
    exact hold_entered call req input inside free
  | proceeded call point input reached => exact hold_proceeded input reached

end holding

end Ois.Autonomy
