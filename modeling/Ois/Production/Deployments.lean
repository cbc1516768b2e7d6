import Ois.Kernel.Types
import Ois.Library.Dict
import Ois.Library.Histories

/-!
# The deployment controller

`DeploymentController` of `production/governance.py`. Deployments and rollbacks of all environments
are appended to one list of records, in which a rollback looks for its target. The identifier of a
record is given with the call.
-/

namespace Ois.Production

open Ois.Kernel Ois.Library

def governanceError (msg : String) : PyError := ⟨.other "GovernanceError", msg⟩

/-- An approval names someone. -/
def Approved (approvedBy : Option String) : Prop := approvedBy.getD "" ≠ ""

instance (approvedBy : Option String) : Decidable (Approved approvedBy) :=
  inferInstanceAs (Decidable (_ ≠ _))

inductive DeploymentState where
  | active | rolledBack
  deriving DecidableEq, Repr

structure DeploymentRecord where
  deploymentId : String
  version : String
  environment : String
  previousVersion : Option String
  state : DeploymentState
  approvedBy : Option String
  evidence : List String := []
  deriving DecidableEq, Repr

structure DeploymentController where
  active : Dict String String := []
  records : List DeploymentRecord := []

structure Change where
  environment : String
  deploymentId : String
  approvedBy : Option String := none
  evidence : List String := []

inductive DeploymentCall where
  | deploy (version : String) (change : Change)
  | rollback (change : Change)

def Change.Supported (change : Change) : Prop :=
  Approved change.approvedBy ∧ change.evidence ≠ []

instance (change : Change) : Decidable change.Supported := inferInstanceAs (Decidable (_ ∧ _))

def Change.check (name : String) (change : Change) : Except PyError Unit :=
  if ¬Approved change.approvedBy then
    .error (governanceError (name ++ " requires explicit approval"))
  else if change.evidence = [] then .error (governanceError (name ++ " requires evidence"))
  else .ok ()

namespace DeploymentController

variable (ctl : DeploymentController)

def current (environment : String) : Option String := ctl.active.lookup environment

def history (environment : String) : List DeploymentRecord :=
  ctl.records.filter fun record => record.environment = environment

/-- `_previous(environment)`. -/
def previous (environment : String) : Option String :=
  match (ctl.history environment).reverse with
  | [] => none
  | last :: past =>
    match past.find? fun record => record.version ≠ last.version with
    | some record => some record.version
    | none => last.previousVersion

def activate (version : String) (state : DeploymentState) (change : Change) :
    DeploymentController × Except PyError DeploymentRecord :=
  let record : DeploymentRecord :=
    { deploymentId := change.deploymentId, version := version, environment := change.environment
      previousVersion := ctl.current change.environment, state := state
      approvedBy := change.approvedBy, evidence := change.evidence }
  ({ active := Dict.set change.environment version ctl.active
     records := ctl.records ++ [record] }, .ok record)

def deploy (version : String) (change : Change) :
    DeploymentController × Except PyError DeploymentRecord :=
  match change.check "deployment" with
  | .error err => (ctl, .error err)
  | .ok () => ctl.activate version .active change

def rollback (change : Change) : DeploymentController × Except PyError DeploymentRecord :=
  match change.check "rollback" with
  | .error err => (ctl, .error err)
  | .ok () =>
    match ctl.previous change.environment with
    | none => (ctl, .error (governanceError "no rollback target exists"))
    | some version => ctl.activate version .rolledBack change

def recent (environment : String) : List DeploymentRecord :=
  (ctl.history environment).reverse

end DeploymentController

def deployments : Machine DeploymentCall DeploymentController (Except PyError DeploymentRecord)
  | .deploy version change, ctl => ctl.deploy version change
  | .rollback change, ctl => ctl.rollback change

/-- The versions that are left when the changes are undone one after another: a deployment of
another version adds one, and a rollback takes one away. The records come newest first. -/
def pathBack : List DeploymentRecord → List String
  | [] => []
  | record :: past =>
    match record.state with
    | .active =>
      if (pathBack past).head? = some record.version then pathBack past
      else record.version :: pathBack past
    | .rolledBack => (pathBack past).tail

def leftSince : List DeploymentRecord → List String
  | [] => []
  | record :: past =>
    match record.state with
    | .active => []
    | .rolledBack => record.previousVersion.toList ++ leftSince past

def WalksBack : List DeploymentRecord → Prop
  | [] => True
  | record :: past =>
    (record.state = .rolledBack → record.version ∉ leftSince (record :: past) ∧
      (pathBack (record :: past)).head? = some record.version) ∧ WalksBack past

/-- In every environment rollbacks walk back, and the last record has the current version. -/
def DeploymentController.Walked (ctl : DeploymentController) : Prop :=
  ∀ environment, WalksBack (ctl.recent environment) ∧
    ctl.current environment = (ctl.recent environment).head?.map (·.version)

def entered : List DeploymentRecord → Option DeploymentRecord
  | [] => none
  | record :: past =>
    if past.head?.map (·.version) = some record.version then entered past else some record

def Straight (recent : List DeploymentRecord) : Prop :=
  recent.length ≤ 1 ∨ (∀ last ∈ recent.head?,
        last.state = .active ∧ ∃ record ∈ recent, record.version ≠ last.version) ∧
      ∀ record ∈ entered recent, record.state = .active ∨
        record.previousVersion = (pathBack recent).tail.head?

/-- A supported rollback starts from a straight history. -/
def GoesStraight : DeploymentCall → DeploymentController → Prop
  | .rollback change, ctl =>
    change.Supported → Straight (ctl.recent change.environment)
  | .deploy _ _, _ => True

end Ois.Production
