import Ois.Kernel.Types
import Ois.Library.DateTime
import Ois.Library.Histories
import Ois.Library.PyObject

/-!
# The registry of evolution candidates

`platform/evolution.py`: candidates are proposed, evaluated, approved and promoted, each call on a
fresh copy of the record. The identifier and the time of a proposal are given with the call.
-/

namespace Ois.Platform

open Ois.Kernel Ois.Library Machine

inductive EvolutionState where
  | proposed | evaluated | approved | canary | promoted | rolledBack
  deriving DecidableEq, Repr

structure VersionRef where
  component : String
  version : String
  commit : Option String := none

structure EvolutionCandidate where
  candidateId : String
  component : VersionRef
  change : Dict String PyObject
  evidenceIds : List String
  evaluationPassed : Bool := false
  approvalGranted : Bool := false
  state : EvolutionState := .proposed
  createdAt : DateTime

abbrev EvolutionRegistry := Dict String EvolutionCandidate

inductive EvolutionCall where
  | propose (candidate : String) (createdAt : DateTime) (component : VersionRef)
      (change : Dict String PyObject) (evidenceIds : List String)
  | evaluate (candidate : String) (passed : Bool)
  | approve (candidate : String)
  | promote (candidate : String)

def withoutEvidence : PyError := ⟨.valueError, "evolution requires evidence"⟩

def notEvaluated : PyError :=
  ⟨.permissionError, "candidate must pass evaluation before approval"⟩

def notApproved : PyError := ⟨.permissionError, "candidate requires approval"⟩

def unknownCandidate (candidate : String) : PyError :=
  ⟨.other "KeyError", Kernel.reprStr candidate⟩

namespace EvolutionRegistry

abbrev Step := EvolutionRegistry × Except PyError EvolutionCandidate

def refuse (items : EvolutionRegistry) (err : PyError) : Step := (items, .error err)

def store (items : EvolutionRegistry) (candidate : String) (item : EvolutionCandidate) : Step :=
  (Dict.set candidate item items, .ok item)

def propose (candidate : String) (createdAt : DateTime) (component : VersionRef)
    (change : Dict String PyObject) (evidenceIds : List String) (items : EvolutionRegistry) :
    Step :=
  if evidenceIds = [] then items.refuse withoutEvidence
  else items.store candidate
    { candidateId := candidate, component := component, change := change
      evidenceIds := evidenceIds, createdAt := createdAt }

def evaluate (candidate : String) (passed : Bool) (items : EvolutionRegistry) : Step :=
  match items.lookup candidate with
  | none => items.refuse (unknownCandidate candidate)
  | some item => items.store candidate
      { item with evaluationPassed := passed, state := if passed then .evaluated else .proposed }

def approve (candidate : String) (items : EvolutionRegistry) : Step :=
  match items.lookup candidate with
  | none => items.refuse (unknownCandidate candidate)
  | some item =>
    if ¬item.evaluationPassed then items.refuse notEvaluated
    else items.store candidate
      { item with evaluationPassed := true, approvalGranted := true, state := .approved }

def promote (candidate : String) (items : EvolutionRegistry) : Step :=
  match items.lookup candidate with
  | none => items.refuse (unknownCandidate candidate)
  | some item =>
    if ¬item.approvalGranted then items.refuse notApproved
    else items.store candidate
      { item with evaluationPassed := true, approvalGranted := true, state := .promoted }

end EvolutionRegistry

def evolution : Machine EvolutionCall EvolutionRegistry (Except PyError EvolutionCandidate)
  | .propose candidate createdAt component change evidenceIds, items =>
    items.propose candidate createdAt component change evidenceIds
  | .evaluate candidate passed, items => items.evaluate candidate passed
  | .approve candidate, items => items.approve candidate
  | .promote candidate, items => items.promote candidate

/-- The call returns a candidate. -/
def EvolutionCall.Returns (call : EvolutionCall) (items : EvolutionRegistry) : Prop :=
  (evolution.answer call items).isOk = true

instance (call : EvolutionCall) (items : EvolutionRegistry) : Decidable (call.Returns items) :=
  inferInstanceAs (Decidable (_ = _))

def returned (calls : List EvolutionCall) : List EvolutionCall :=
  evolution.log (fun call items => if call.Returns items then some call else none) calls []

structure Standing where
  evaluation : Option Bool := none
  approvedSince : Bool := false

open Standing

def Standing.after (candidate : String) (standing : Standing) : EvolutionCall → Standing
  | .propose other _ _ _ _ => if other = candidate then {} else standing
  | .evaluate other passed => if other = candidate then ⟨some passed, false⟩ else standing
  | .approve other =>
    if other = candidate then { standing with approvedSince := true } else standing
  | .promote _ => standing

def standing (calls : List EvolutionCall) (candidate : String) : Standing :=
  (returned calls).foldl (after candidate) {}

/-- A promotion follows an approval of the last evaluation, which passed, and no candidate whose
last evaluation failed is approved or promoted. -/
def Guarded (before : List EvolutionCall) (call : EvolutionCall) : Prop :=
  ∀ candidate, (call = .promote candidate → call.Returns (evolution.run before []) →
      (standing before candidate).evaluation = some true ∧
        (standing before candidate).approvedSince = true) ∧
    (call = .approve candidate ∨ call = .promote candidate →
      (standing before candidate).evaluation = some false →
        ¬call.Returns (evolution.run before []))

/-- No evaluation has put the record of an approved candidate back when it is promoted. -/
def Unreturned : EvolutionCall → EvolutionRegistry → Prop
  | .promote candidate, items => ∀ item ∈ items.lookup candidate,
      item.approvalGranted = true → item.state ≠ .proposed ∧ item.state ≠ .evaluated
  | _, _ => True

/-- The record of a candidate goes with its standing. -/
structure EvolutionCandidate.Fits (item : EvolutionCandidate) (standing : Standing) : Prop where
  evaluated : item.evaluationPassed = true ↔ standing.evaluation = some true
  approved : standing.approvedSince = true ↔ item.state ≠ .proposed ∧ item.state ≠ .evaluated
  granted : standing.approvedSince = true → item.approvalGranted = true ∧
    standing.evaluation = some true

/-- The records go with what the calls say. -/
def Kept (before : List EvolutionCall) (items : EvolutionRegistry) : Prop :=
  ∀ candidate, ∀ item ∈ items.lookup candidate, item.Fits (standing before candidate)

section steps

variable {before : List EvolutionCall} {call : EvolutionCall}

theorem standing_concat (candidate : String) :
    standing (before ++ [call]) candidate = if call.Returns (evolution.run before []) then
      (standing before candidate).after candidate call
      else standing before candidate := by
  unfold standing returned
  rw [log_concat, List.foldl_append]
  by_cases returns : call.Returns (evolution.run before [])
  · rw [if_pos returns, if_pos returns]
    rfl
  · rw [if_neg returns, if_neg returns]
    rfl

theorem kept_of_refused {err : PyError} (kept : Kept before (evolution.run before []))
    (refused : evolution call (evolution.run before []) =
      (evolution.run before []).refuse err) :
    Kept (before ++ [call]) (evolution.next call (evolution.run before [])) := by
  have raises : ¬call.Returns (evolution.run before []) := by
    unfold EvolutionCall.Returns answer
    rw [refused]
    exact Bool.false_ne_true
  have same : evolution.next call (evolution.run before []) = evolution.run before [] := by
    unfold next
    rw [refused]
    rfl
  intro candidate item found
  rw [same] at found
  rw [standing_concat, if_neg raises]
  exact kept candidate item found

theorem kept_of_stored {candidate : String} {item : EvolutionCandidate}
    (kept : Kept before (evolution.run before []))
    (stored : evolution call (evolution.run before []) =
      (evolution.run before []).store candidate item)
    (others : ∀ other ≠ candidate, ∀ standing, after other standing call = standing)
    (fits : item.Fits ((standing before candidate).after candidate call)) :
    Kept (before ++ [call]) (evolution.next call (evolution.run before [])) := by
  have returns : call.Returns (evolution.run before []) := by
    unfold EvolutionCall.Returns answer
    rw [stored]
    rfl
  have after : evolution.next call (evolution.run before []) =
      Dict.set candidate item (evolution.run before []) := by
    unfold next
    rw [stored]
    rfl
  intro other held found
  rw [after, Dict.lookup_set] at found
  rw [standing_concat, if_pos returns]
  by_cases same : other = candidate
  · rw [if_pos same, Option.mem_some_iff] at found
    rw [same, ← found]
    exact fits
  · rw [if_neg same] at found
    rw [others other same]
    exact kept other held found

end steps

theorem kept_next (before : List EvolutionCall) (call : EvolutionCall)
    (kept : Kept before (evolution.run before []))
    (unreturned : Unreturned call (evolution.run before [])) :
    Kept (before ++ [call]) (evolution.next call (evolution.run before [])) := by
  cases call with
  | propose candidate createdAt component change evidenceIds =>
    by_cases without : evidenceIds = []
    · exact kept_of_refused kept (if_pos without)
    · apply kept_of_stored kept
      · rw [evolution, EvolutionRegistry.propose]
        exact if_neg without
      · intro other apart standing
        exact if_neg apart.symm
      · rw [after, if_pos rfl]
        constructor
        · simp
        · simp
        · simp
  | evaluate candidate passed =>
    cases found : (evolution.run before []).lookup candidate with
    | none =>
      apply kept_of_refused kept
      rw [evolution, EvolutionRegistry.evaluate, found]
    | some item =>
      apply kept_of_stored kept
      · rw [evolution, EvolutionRegistry.evaluate, found]
      · intro other apart standing
        exact if_neg apart.symm
      · rw [after, if_pos rfl]
        cases passed with
        | true | false => constructor <;> simp
  | approve candidate =>
    cases found : (evolution.run before []).lookup candidate with
    | none =>
      apply kept_of_refused kept
      rw [evolution, EvolutionRegistry.approve, found]
    | some item =>
      have fits := kept candidate item found
      by_cases failed : ¬item.evaluationPassed = true
      · apply kept_of_refused kept
        rw [evolution, EvolutionRegistry.approve, found]
        exact if_pos failed
      · have passed := fits.evaluated.mp (not_not.mp failed)
        apply kept_of_stored kept
        · rw [evolution, EvolutionRegistry.approve, found]
          exact if_neg failed
        · intro other apart standing
          exact if_neg apart.symm
        · rw [after, if_pos rfl]
          exact ⟨iff_of_true rfl passed, by simp, fun _ => ⟨rfl, passed⟩⟩
  | promote candidate =>
    cases found : (evolution.run before []).lookup candidate with
    | none =>
      apply kept_of_refused kept
      rw [evolution, EvolutionRegistry.promote, found]
    | some item =>
      have fits := kept candidate item found
      by_cases missing : ¬item.approvalGranted = true
      · apply kept_of_refused kept
        rw [evolution, EvolutionRegistry.promote, found]
        exact if_pos missing
      · have since := fits.approved.mpr (unreturned item found (not_not.mp missing))
        have passed := (fits.granted since).2
        apply kept_of_stored kept
        · rw [evolution, EvolutionRegistry.promote, found]
          exact if_neg missing
        · intro other _ standing
          rfl
        · exact ⟨iff_of_true rfl passed, by simp [after, since], fun _ => ⟨rfl, passed⟩⟩

theorem approve_guarded {before : List EvolutionCall} {candidate : String}
    (kept : Kept before (evolution.run before []))
    (failed : (standing before candidate).evaluation = some false) :
    ¬EvolutionCall.Returns (.approve candidate) (evolution.run before []) := by
  unfold EvolutionCall.Returns answer
  rw [evolution, EvolutionRegistry.approve]
  cases found : (evolution.run before []).lookup candidate with
  | none => exact Bool.false_ne_true
  | some item =>
    have fits := kept candidate item found
    have unpassed : ¬item.evaluationPassed = true := by
      intro passed
      rw [fits.evaluated.mp passed] at failed
      cases failed
    dsimp only
    rw [if_pos unpassed]
    exact Bool.false_ne_true

theorem promote_returns {items : EvolutionRegistry} {candidate : String} :
    EvolutionCall.Returns (.promote candidate) items ↔
      ∃ item ∈ items.lookup candidate, item.approvalGranted = true := by
  unfold EvolutionCall.Returns answer
  rw [evolution, EvolutionRegistry.promote]
  cases found : items.lookup candidate with
  | none => simp [EvolutionRegistry.refuse, Except.isOk, Except.toBool]
  | some item =>
    by_cases granted : item.approvalGranted = true
    · simp [granted, EvolutionRegistry.store, Except.isOk, Except.toBool]
    · simp [granted, EvolutionRegistry.refuse, Except.isOk, Except.toBool]

theorem guarded_iff (before : List EvolutionCall) (call : EvolutionCall)
    (kept : Kept before (evolution.run before [])) :
    Guarded before call ↔ Unreturned call (evolution.run before []) := by
  cases call with
  | propose candidate createdAt component change evidenceIds =>
    exact iff_of_true (by simp [Guarded]) trivial
  | evaluate candidate passed => exact iff_of_true (by simp [Guarded]) trivial
  | approve candidate =>
    apply iff_of_true _ trivial
    intro other
    constructor
    · intro same
      cases same
    · intro either
      cases either with
      | inl same =>
        cases same
        exact approve_guarded kept
      | inr same => cases same
  | promote candidate =>
    constructor
    · intro guarded item found granted
      have returns := promote_returns.mpr ⟨item, found, granted⟩
      exact (kept candidate item found).approved.mp ((guarded candidate).1 rfl returns).2
    · intro unreturned other
      have right
          (returns : EvolutionCall.Returns (.promote candidate) (evolution.run before [])) :
          (standing before candidate).evaluation = some true ∧
            (standing before candidate).approvedSince = true := by
        obtain ⟨item, found, granted⟩ := promote_returns.mp returns
        have fits := kept candidate item found
        have since := fits.approved.mpr (unreturned item found granted)
        exact ⟨(fits.granted since).2, since⟩
      constructor
      · intro same
        cases same
        exact right
      · intro either failed returns
        cases either with
        | inl same => cases same
        | inr same =>
          cases same
          rw [(right returns).1] at failed
          cases failed

/-- Every call of a run is guarded exactly when no candidate is promoted whose record an evaluation
has put back after its approval. -/
theorem promotions_guarded_iff (calls : List EvolutionCall) :
    Historically Guarded calls ↔ evolution.Throughout Unreturned calls [] := by
  apply historically_iff_throughout Kept kept_next
  · intro candidate item found
    cases found
  · exact guarded_iff

def evolutionStart : DateTime := ⟨2026, 1, 1, 0, 0, 0, 0, some 0, by decide⟩

/-- A candidate whose second evaluation fails is promoted on the approval of the first. -/
theorem stale_approval_promotes :
    let calls : List EvolutionCall :=
      [.propose "c" evolutionStart ⟨"prompt", "1", none⟩ [] ["e"], .evaluate "c" true, .approve "c",
        .evaluate "c" false]
    (standing calls "c").evaluation = some false ∧
      EvolutionCall.Returns (.promote "c") (evolution.run calls []) ∧
        ¬Historically Guarded (calls ++ [.promote "c"]) := by
  intro calls
  have failed : (standing calls "c").evaluation = some false := by decide
  have returns : EvolutionCall.Returns (.promote "c") (evolution.run calls []) := by decide
  apply And.intro failed
  apply And.intro returns
  intro guarded
  exact (guarded calls (.promote "c") [] rfl "c").2 (Or.inr rfl) failed returns

end Ois.Platform
