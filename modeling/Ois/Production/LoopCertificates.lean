import Ois.Library.DateTime
import Ois.Kernel.Types
import Ois.Library.Separator
import Ois.Library.JsonText
import Ois.Library.RelatedLists

/-!
# Certificates of the production loop

`ProductionLoopProof` of `production_loop.py`. A certificate orders its artifacts by their stages
and identifiers, and digests one line for each of them. `sha256` is a parameter.
-/

namespace Ois.Production

open Ois.Library Ois.Kernel

inductive Stage where
  | source | evidence | intelligence | growth | outcome | learning
  deriving DecidableEq, Repr

open Stage

def Stage.value : Stage → String
  | source => "source"
  | evidence => "evidence"
  | intelligence => "intelligence"
  | growth => "growth"
  | outcome => "outcome"
  | learning => "learning"

/-- `STAGES`. -/
def Stage.all : List Stage := [.source, .evidence, .intelligence, .growth, .outcome, .learning]

instance : StrEnum Stage where
  members := all
  value := value
  complete := by intro mem; cases mem <;> decide
  distinct := by decide

structure LoopArtifact where
  stage : Stage
  artifactId : String
  tenantId : String
  occurredAt : DateTime
  payloadHash : String
  sourceRef : String
  executionId : String

inductive CertificateStatus where
  | productionVerified | rejected
  deriving DecidableEq, Repr

structure ProductionLoopCertificate where
  certificateId : String
  tenantId : String
  executionId : String
  generatedAt : DateTime
  artifacts : List LoopArtifact
  lineageHash : String
  status : CertificateStatus

/-- The arguments of `certify`, and what the clock shows. -/
structure CertifyCall where
  certificateId : String
  tenantId : String
  executionId : String
  artifacts : List LoopArtifact
  now : DateTime

open CertifyCall

def IdOrder (left right : LoopArtifact) : Prop := left.artifactId ≤ right.artifactId

instance : DecidableRel IdOrder := fun left right =>
  inferInstanceAs (Decidable (left.artifactId ≤ right.artifactId))

/-- `sorted(by_stage[stage], key=...)`. -/
def sortedStage (artifacts : List LoopArtifact) (stage : Stage) : List LoopArtifact :=
  (artifacts.filter fun artifact => artifact.stage = stage).insertionSort IdOrder

def orderedArtifacts (artifacts : List LoopArtifact) : List LoopArtifact :=
  all.flatMap (sortedStage artifacts)

def LoopArtifact.line (artifact : LoopArtifact) : String :=
  artifact.stage.value ++ ":" ++ artifact.artifactId ++ ":" ++ artifact.payloadHash ++ ":" ++
    artifact.sourceRef ++ ":" ++ artifact.executionId

def lineagePayload (ordered : List LoopArtifact) : String :=
  "|".intercalate (ordered.map LoopArtifact.line)

namespace CertifyCall

def refusal? (call : CertifyCall) (artifact : LoopArtifact) : Option PyError :=
  if artifact.tenantId ≠ call.tenantId ∨ artifact.executionId ≠ call.executionId then
    some ⟨.valueError, "loop artifacts must share tenant and execution identity"⟩
  else if artifact.payloadHash.length ≠ 64 then
    some ⟨.valueError, "invalid payload hash for " ++ artifact.artifactId⟩
  else none

def status (call : CertifyCall) : CertificateStatus :=
  if ∀ stage ∈ all, ∃ artifact ∈ call.artifacts, artifact.stage = stage then
    .productionVerified
  else .rejected

/-- `certify(...)`. -/
def certify (sha256 : String → String) (call : CertifyCall) :
    Except PyError ProductionLoopCertificate :=
  if call.tenantId = "" ∨ call.executionId = "" then
    .error ⟨.valueError, "tenant_id and execution_id are required"⟩
  else
    match call.artifacts.findSome? call.refusal? with
    | some err => .error err
    | none =>
      let ordered := orderedArtifacts call.artifacts
      .ok
        { certificateId := call.certificateId, tenantId := call.tenantId
          executionId := call.executionId, generatedAt := call.now, artifacts := ordered
          lineageHash := sha256 (lineagePayload ordered), status := call.status }

end CertifyCall

def LoopArtifact.traced (artifact : LoopArtifact) : Stage × String × String × String × String :=
  (artifact.stage, artifact.artifactId, artifact.payloadHash, artifact.sourceRef,
    artifact.executionId)

section certificates

variable (sha256 : String → String)

/-- The artifacts give the same certificate in any other order. -/
def OrderFree (call : CertifyCall) (cert : ProductionLoopCertificate) : Prop :=
  ∀ artifacts, artifacts.Perm call.artifacts →
    ∃ other, { call with artifacts := artifacts }.certify sha256 = .ok other ∧
      other.artifacts = cert.artifacts ∧ other.lineageHash = cert.lineageHash ∧
        other.status = cert.status

/-- Every certificate with the same lineage has the same artifacts, up to tenants and moments. -/
def Determined (cert : ProductionLoopCertificate) : Prop :=
  ∀ call other, certify sha256 call = .ok other →
    other.lineageHash = cert.lineageHash →
      other.artifacts.map LoopArtifact.traced = cert.artifacts.map LoopArtifact.traced

/-- The certificate does not depend on the order of the artifacts, its lineage tells the artifacts,
and it is verified exactly if every stage has one. -/
structure Canonical (call : CertifyCall) (cert : ProductionLoopCertificate) : Prop where
  orderFree : OrderFree sha256 call cert
  determined : Determined sha256 cert
  status : cert.status = .productionVerified ↔
    ∀ stage, ∃ artifact ∈ call.artifacts, artifact.stage = stage

end certificates

/-- Artifacts of one stage and identifier are the same. -/
def KeysDistinct (artifacts : List LoopArtifact) : Prop :=
  ∀ first ∈ artifacts, ∀ second ∈ artifacts, first.stage = second.stage →
    first.artifactId = second.artifactId → first = second

structure LoopArtifact.Legible (artifact : LoopArtifact) : Prop where
  source : ':' ∉ artifact.sourceRef.toList
  execution : ':' ∉ artifact.executionId.toList.dropLast
  hash : ∀ before between after : String,
    artifact.artifactId ++ ":" ++ artifact.payloadHash =
      before ++ ":" ++ between ++ ":" ++ after → between.length ≠ 64

/-- There is at most one line, and it can be read in one way. -/
def ReadsOneWay (artifacts : List LoopArtifact) : Prop :=
  artifacts.length ≤ 1 ∧ ∀ artifact ∈ artifacts, artifact.Legible

section acceptance

variable {sha256 : String → String} {call : CertifyCall} {cert : ProductionLoopCertificate}

/-- What `certify` asks of an artifact. -/
structure CertifyCall.Takes (call : CertifyCall) (artifact : LoopArtifact) : Prop where
  tenant : artifact.tenantId = call.tenantId
  execution : artifact.executionId = call.executionId
  hash : artifact.payloadHash.length = 64

theorem refusal_eq_none_iff {artifact : LoopArtifact} :
    call.refusal? artifact = none ↔ call.Takes artifact := by
  unfold refusal?
  constructor
  · intro accepted
    split_ifs at accepted with ident width
    rw [not_or, not_not, not_not] at ident
    exact ⟨ident.1, ident.2, not_not.mp width⟩
  · intro takes
    have ident : ¬(artifact.tenantId ≠ call.tenantId ∨
        artifact.executionId ≠ call.executionId) := by
      rw [not_or, not_not, not_not]
      exact ⟨takes.tenant, takes.execution⟩
    rw [if_neg ident, if_neg (not_not.mpr takes.hash)]

structure CertifyCall.Accepted (sha256 : String → String) (call : CertifyCall)
    (cert : ProductionLoopCertificate) : Prop where
  tenant : call.tenantId ≠ ""
  execution : call.executionId ≠ ""
  takes : ∀ artifact ∈ call.artifacts, call.Takes artifact
  artifacts : cert.artifacts = orderedArtifacts call.artifacts
  lineage : cert.lineageHash = sha256 (lineagePayload (orderedArtifacts call.artifacts))
  status : cert.status = call.status

theorem certify_ok (tenant : call.tenantId ≠ "") (exec : call.executionId ≠ "")
    (takes : ∀ artifact ∈ call.artifacts, call.Takes artifact) :
    ∃ cert, call.certify sha256 = .ok cert ∧
      call.Accepted sha256 cert := by
  have named : ¬(call.tenantId = "" ∨ call.executionId = "") := not_or.mpr ⟨tenant, exec⟩
  have unrefused : call.artifacts.findSome? call.refusal? = none := by
    rw [List.findSome?_eq_none_iff]
    intro artifact mem
    exact refusal_eq_none_iff.mpr (takes artifact mem)
  unfold certify
  rw [if_neg named, unrefused]
  exact ⟨_, rfl, tenant, exec, takes, rfl, rfl, rfl⟩

theorem accepted_of_certify (returns : call.certify sha256 = .ok cert) :
    call.Accepted sha256 cert := by
  unfold certify at returns
  split_ifs at returns with named
  rw [not_or] at named
  cases refused : call.artifacts.findSome? call.refusal? with
  | some err =>
    rw [refused] at returns
    cases returns
  | none =>
    rw [refused] at returns
    cases returns
    refine ⟨named.1, named.2, ?_, rfl, rfl, rfl⟩
    intro artifact mem
    exact refusal_eq_none_iff.mp (List.findSome?_eq_none_iff.mp refused artifact mem)

end acceptance

theorem mem_ordered_iff {artifacts : List LoopArtifact} {artifact : LoopArtifact} :
    artifact ∈ orderedArtifacts artifacts ↔ artifact ∈ artifacts := by
  have listed : artifact.stage ∈ all := by
    cases artifact.stage <;> decide
  simp [orderedArtifacts, sortedStage, listed]

instance : IsTrans LoopArtifact IdOrder := ⟨fun _ _ _ first second => le_trans first second⟩

instance : Std.Total (α := LoopArtifact) IdOrder := ⟨fun _ _ => le_total _ _⟩

theorem ordered_eq_of_perm {artifacts others : List LoopArtifact} (same : others.Perm artifacts)
    (distinct : KeysDistinct artifacts) :
    orderedArtifacts others = orderedArtifacts artifacts := by
  unfold orderedArtifacts
  apply congrArg all.flatMap
  funext stage
  have kept := same.filter fun artifact => artifact.stage = stage
  have sorted : (sortedStage others stage).Perm (sortedStage artifacts stage) :=
    (List.perm_insertionSort IdOrder _).trans
      (kept.trans (List.perm_insertionSort IdOrder _).symm)
  apply List.Perm.eq_of_pairwise _ (List.pairwise_insertionSort IdOrder _)
    (List.pairwise_insertionSort IdOrder _) sorted
  intro first second one two before after
  have present {artifact : LoopArtifact} (mem : artifact ∈ sortedStage artifacts stage) :
      artifact ∈ artifacts ∧ artifact.stage = stage := by
    simpa [sortedStage] using mem
  obtain ⟨firstListed, firstStage⟩ := present (sorted.mem_iff.mp one)
  obtain ⟨secondListed, secondStage⟩ := present two
  exact distinct first firstListed second secondListed (firstStage.trans secondStage.symm)
    (le_antisymm before after)

def hasKey (stage : Stage) (artifactId : String) (artifact : LoopArtifact) : Bool :=
  artifact.stage = stage ∧ artifact.artifactId = artifactId

theorem filter_sorted_stage (artifacts : List LoopArtifact) (stage other : Stage)
    (artifactId : String) :
    (sortedStage artifacts other).filter (hasKey stage artifactId) =
      if other = stage then artifacts.filter (hasKey stage artifactId) else [] := by
  have tied (first second : LoopArtifact) (one : hasKey stage artifactId first = true)
      (two : hasKey stage artifactId second = true) : IdOrder first second := by
    have same : first.artifactId = second.artifactId :=
      (of_decide_eq_true one).2.trans (of_decide_eq_true two).2.symm
    exact le_of_eq same
  rw [sortedStage, filter_insertion_sort tied, List.filter_filter]
  split_ifs with same
  · apply List.filter_congr
    intro artifact _
    rw [same]
    simp only [hasKey, Bool.decide_and]
    cases decide (artifact.stage = stage) <;> simp
  · rw [List.filter_eq_nil_iff]
    intro artifact _ both
    simp only [hasKey, Bool.and_eq_true, decide_eq_true_eq] at both
    exact same (both.2.symm.trans both.1.1)

theorem filter_ordered (artifacts : List LoopArtifact) (stage : Stage) (artifactId : String) :
    (orderedArtifacts artifacts).filter (hasKey stage artifactId) =
      artifacts.filter (hasKey stage artifactId) := by
  rw [orderedArtifacts, List.filter_flatMap]
  simp only [filter_sorted_stage]
  cases stage <;> simp [all]

theorem perm_two_front {Item : Type} {items : List Item} {first second : Item}
    (one : first ∈ items) (two : second ∈ items) (differ : first ≠ second) :
    ∃ rest, (first :: second :: rest).Perm items := by
  obtain ⟨before, after, split⟩ := List.append_of_mem one
  have among : second ∈ before ++ after := by
    rw [split] at two
    simpa [differ.symm] using two
  obtain ⟨front, back, others⟩ := List.append_of_mem among
  refine ⟨front ++ back, ?_⟩
  rw [split]
  apply List.Perm.trans _ List.perm_middle.symm
  rw [others]
  exact List.perm_middle.symm.cons first

section orders

variable {sha256 : String → String} {call : CertifyCall} {cert : ProductionLoopCertificate}

theorem order_free_iff (accepted : call.Accepted sha256 cert) :
    OrderFree sha256 call cert ↔ KeysDistinct call.artifacts := by
  constructor
  · intro free first one second two stages names
    by_contra differ
    obtain ⟨rest, front⟩ := perm_two_front one two differ
    obtain ⟨left, leftReturns, leftSame, _⟩ := free (first :: second :: rest) front
    obtain ⟨right, rightReturns, rightSame, _⟩ :=
      free (second :: first :: rest) ((List.Perm.swap first second rest).trans front)
    have orders := leftSame.trans rightSame.symm
    rw [(accepted_of_certify leftReturns).artifacts, (accepted_of_certify rightReturns).artifacts]
      at orders
    have kept := congrArg (List.filter (hasKey first.stage first.artifactId)) orders
    have keyed : hasKey first.stage first.artifactId first = true := by simp [hasKey]
    have other : hasKey first.stage first.artifactId second = true := by
      simp [hasKey, stages, names]
    rw [filter_ordered, filter_ordered] at kept
    simp only [List.filter_cons_of_pos keyed, List.filter_cons_of_pos other,
      List.cons.injEq] at kept
    exact differ kept.1
  · intro distinct artifacts same
    have takes : ∀ artifact ∈ artifacts,
        { call with artifacts := artifacts }.Takes artifact := by
      intro artifact mem
      have taken := accepted.takes artifact (same.mem_iff.mp mem)
      exact ⟨taken.tenant, taken.execution, taken.hash⟩
    obtain ⟨other, returns, known⟩ := @certify_ok sha256 { call with artifacts := artifacts }
      accepted.tenant accepted.execution takes
    have ordered := ordered_eq_of_perm same distinct
    have statuses : status { call with artifacts := artifacts } = call.status := by
      unfold status
      simp only [same.mem_iff]
    refine ⟨other, returns, ?_, ?_, ?_⟩
    · rw [known.artifacts, accepted.artifacts, ordered]
    · rw [known.lineage, accepted.lineage, ordered]
    · rw [known.status, accepted.status, statuses]

theorem status_iff (accepted : call.Accepted sha256 cert) :
    cert.status = .productionVerified ↔
      ∀ stage, ∃ artifact ∈ call.artifacts, artifact.stage = stage := by
  have listed (stage : Stage) : stage ∈ all := by cases stage <;> decide
  rw [accepted.status, status]
  split_ifs with every
  · exact iff_of_true rfl fun stage => every stage (listed stage)
  · apply iff_of_false (by decide)
    intro all
    exact every fun stage _ => all stage

end orders

namespace LoopArtifact

def fields (artifact : LoopArtifact) : List Char :=
  framed ':' artifact.artifactId.toList artifact.payloadHash.toList artifact.sourceRef.toList
    artifact.executionId.toList

variable (artifact : LoopArtifact)

theorem line_chars :
    artifact.line.toList = artifact.stage.value.toList ++ ':' :: artifact.fields := by
  simp [line, fields, framed]

theorem one_place_iff (width : artifact.payloadHash.length = 64) :
    OnePlace ':' artifact.artifactId.toList artifact.payloadHash.toList ↔
      ∀ before between after : String, artifact.artifactId ++ ":" ++ artifact.payloadHash =
        before ++ ":" ++ between ++ ":" ++ after → between.length ≠ 64 := by
  constructor
  · intro place before between after split
    have chars := congrArg String.toList split
    have other := place before.toList between.toList after.toList (by simpa using chars)
    rwa [String.length_toList, String.length_toList, width] at other
  · intro place before between after split
    have text : artifact.artifactId ++ ":" ++ artifact.payloadHash =
        String.ofList before ++ ":" ++ String.ofList between ++ ":" ++ String.ofList after := by
      apply String.toList_injective
      simpa using split
    have other := place _ _ _ text
    rwa [String.length_ofList, ← width, ← String.length_toList] at other

theorem legible_iff (width : artifact.payloadHash.length = 64) :
    artifact.Legible ↔
      OnePlace ':' artifact.artifactId.toList artifact.payloadHash.toList ∧
        ':' ∉ artifact.sourceRef.toList ∧ ':' ∉ artifact.executionId.toList.dropLast := by
  rw [one_place_iff artifact width]
  constructor
  · intro legible
    exact ⟨legible.hash, legible.source, legible.execution⟩
  · intro all
    exact ⟨all.2.1, all.2.2, all.1⟩

theorem stage_colonless (stage : Stage) : ':' ∉ stage.value.toList := by
  cases stage <;> decide

theorem traced_eq_iff (artifact other : LoopArtifact) :
    other.traced = artifact.traced ↔ other.stage = artifact.stage ∧
      other.artifactId.toList = artifact.artifactId.toList ∧
      other.payloadHash.toList = artifact.payloadHash.toList ∧
      other.sourceRef.toList = artifact.sourceRef.toList ∧
      other.executionId.toList = artifact.executionId.toList := by
  simp [traced, Prod.ext_iff, String.toList_inj]

theorem traced_of_line {artifact other : LoopArtifact} (legible : artifact.Legible)
    (width : artifact.payloadHash.length = 64) (same : other.payloadHash.length = 64)
    (exec : other.executionId ≠ "") (lines : other.line = artifact.line) :
    other.traced = artifact.traced := by
  have chars := congrArg String.toList lines
  rw [line_chars, line_chars] at chars
  obtain ⟨stages, fields⟩ := unmarked_inj (stage_colonless _) (stage_colonless _) chars
  obtain ⟨place, source, ended⟩ := (artifact.legible_iff width).mp legible
  have widths : other.payloadHash.toList.length = artifact.payloadHash.toList.length := by
    rw [String.length_toList, String.length_toList, same, width]
  have filled : other.executionId.toList ≠ [] := by
    intro empty
    exact exec (String.toList_injective empty)
  rw [traced_eq_iff]
  exact ⟨StrEnum.value_injective (String.toList_injective stages),
    framed_inj place source ended widths filled fields⟩

def executedBy (artifact : LoopArtifact) (execId : String) : LoopArtifact :=
  { artifact with executionId := execId }

end LoopArtifact

variable (artifact : LoopArtifact)

theorem payload_singleton :
    lineagePayload [artifact] = artifact.line := String.intercalate_singleton

theorem payload_merges (first second : LoopArtifact) (rest : List LoopArtifact) :
    lineagePayload (first :: second :: rest) =
      (first.executedBy (first.executionId ++ "|" ++ lineagePayload (second :: rest))).line := by
  unfold lineagePayload
  rw [List.map_cons, List.map_cons, String.intercalate_cons_cons]
  simp [LoopArtifact.line, LoopArtifact.executedBy, String.append_assoc]

theorem payload_is_line (first : LoopArtifact) (rest : List LoopArtifact) :
    ∃ more, lineagePayload (first :: rest) =
      (first.executedBy (first.executionId ++ more)).line := by
  cases rest with
  | nil =>
    refine ⟨"", ?_⟩
    rw [payload_singleton, LoopArtifact.executedBy, String.append_empty]
  | cons second others =>
    refine ⟨"|" ++ lineagePayload (second :: others), ?_⟩
    rw [payload_merges, ← String.append_assoc]

theorem line_ne_empty : artifact.line ≠ "" := by
  intro empty
  have chars := congrArg String.toList empty
  rw [artifact.line_chars] at chars
  simp at chars

theorem payload_ne_empty (first : LoopArtifact) (rest : List LoopArtifact) :
    lineagePayload (first :: rest) ≠ "" := by
  obtain ⟨more, line⟩ := payload_is_line first rest
  rw [line]
  exact line_ne_empty _

theorem colon_before_end {start : String} {first : LoopArtifact} (rest : List LoopArtifact)
    (exec : first.executionId ≠ "") :
    ':' ∈ (start ++ lineagePayload (first :: rest)).toList.dropLast := by
  obtain ⟨more, line⟩ := payload_is_line first rest
  have filled : (first.executionId ++ more).toList ≠ [] := by
    intro empty
    apply exec
    apply String.toList_injective
    simp only [String.toList_append, List.append_eq_nil_iff] at empty
    exact empty.1
  rw [line, mem_drop_last_iff]
  refine ⟨start.toList ++ (first.stage.value ++ ":" ++ first.artifactId ++ ":" ++
    first.payloadHash ++ ":" ++ first.sourceRef).toList, _, ?_, filled⟩
  simp [LoopArtifact.line, LoopArtifact.executedBy]

theorem ordered_length (artifacts : List LoopArtifact) :
    (orderedArtifacts artifacts).length = artifacts.length := by
  simp only [orderedArtifacts, all, sortedStage, List.flatMap_cons, List.flatMap_nil,
    List.length_append, List.length_insertionSort, List.length_nil]
  induction artifacts with
  | nil => rfl
  | cons artifact rest ih =>
    simp only [List.filter_cons, List.length_cons]
    cases artifact.stage <;> simp <;> omega

theorem ordered_singleton : orderedArtifacts [artifact] = [artifact] := by
  obtain ⟨only, single⟩ := List.length_eq_one_iff.mp (ordered_length [artifact])
  have mem : only ∈ orderedArtifacts [artifact] := by
    rw [single]
    exact List.mem_singleton_self only
  rw [single, List.mem_singleton.mp (mem_ordered_iff.mp mem)]

section readings

variable {sha256 : String → String} {call : CertifyCall} {cert : ProductionLoopCertificate}

theorem traced_of_determined (determined : Determined sha256 cert)
    (accepted : call.Accepted sha256 cert) {artifact : LoopArtifact}
    (tenant : artifact.tenantId ≠ "") (exec : artifact.executionId ≠ "")
    (width : artifact.payloadHash.length = 64)
    (line : artifact.line = lineagePayload (orderedArtifacts call.artifacts)) :
    [artifact.traced] = (orderedArtifacts call.artifacts).map LoopArtifact.traced := by
  let single : CertifyCall :=
    { certificateId := call.certificateId, tenantId := artifact.tenantId
      executionId := artifact.executionId, artifacts := [artifact], now := call.now }
  have takes : ∀ other ∈ single.artifacts, single.Takes other := by
    intro other mem
    rw [List.mem_singleton.mp mem]
    exact ⟨rfl, rfl, width⟩
  obtain ⟨other, returns, known⟩ := @certify_ok sha256 single tenant exec takes
  have lineage : other.lineageHash = cert.lineageHash := by
    rw [known.lineage, accepted.lineage, ← line, ordered_singleton, payload_singleton]
  have same := determined single other returns lineage
  rw [known.artifacts, accepted.artifacts, ordered_singleton] at same
  exact same

theorem reads_of_determined (determined : Determined sha256 cert)
    (accepted : call.Accepted sha256 cert) : ReadsOneWay call.artifacts := by
  have lengths := ordered_length call.artifacts
  have takes (artifact : LoopArtifact) (mem : artifact ∈ orderedArtifacts call.artifacts) :=
    accepted.takes artifact (mem_ordered_iff.mp mem)
  have tenants (artifact : LoopArtifact) (mem : artifact ∈ orderedArtifacts call.artifacts) :
      artifact.tenantId ≠ "" := by
    rw [(takes artifact mem).tenant]
    exact accepted.tenant
  have told {artifact : LoopArtifact} := @traced_of_determined _ _ _ determined accepted artifact
  unfold ReadsOneWay
  simp only [← @mem_ordered_iff call.artifacts, ← lengths]
  generalize orderedArtifacts call.artifacts = ordered at takes tenants told
  match ordered with
  | [] => simp
  | first :: second :: rest =>
    have taken := takes first (by simp)
    have same := @told
      (first.executedBy (first.executionId ++ "|" ++ lineagePayload (second :: rest)))
      (tenants first (by simp)) (by simp [LoopArtifact.executedBy]) taken.hash
      (payload_merges first second rest).symm
    simp at same
  | [artifact] =>
    have taken := takes artifact (by simp)
    refine ⟨by simp, ?_⟩
    intro only mem
    rw [List.mem_singleton.mp mem, LoopArtifact.legible_iff _ taken.hash]
    apply framed_readings
    intro other next between behind width filled same
    let reading : LoopArtifact :=
      { artifact with
        artifactId := String.ofList other, payloadHash := String.ofList next
        sourceRef := String.ofList between, executionId := String.ofList behind }
    have fields : reading.fields = artifact.fields := by
      simpa [LoopArtifact.fields, reading] using same
    have line : reading.line = lineagePayload [artifact] := by
      apply String.toList_injective
      rw [payload_singleton, LoopArtifact.line_chars, LoopArtifact.line_chars, fields]
    have exec : reading.executionId ≠ "" := by
      intro empty
      apply filled
      rw [← @String.toList_ofList behind]
      exact congrArg String.toList empty
    have hash : reading.payloadHash.length = 64 := by
      rw [String.length_ofList, width, String.length_toList, taken.hash]
    have traced := List.singleton_inj.mp
      (@told reading (tenants artifact (by simp)) exec hash line)
    have parts := (LoopArtifact.traced_eq_iff artifact reading).mp traced
    simpa [reading] using parts.2

theorem determined_of_reads (injective : Function.Injective sha256)
    (accepted : call.Accepted sha256 cert) (reads : ReadsOneWay call.artifacts) :
    Determined sha256 cert := by
  intro req other returns lineage
  have known := accepted_of_certify returns
  rw [known.lineage, accepted.lineage] at lineage
  have payloads := injective lineage
  have taken (artifact : LoopArtifact) (mem : artifact ∈ orderedArtifacts req.artifacts) :
      artifact.payloadHash.length = 64 ∧ artifact.executionId ≠ "" := by
    have takes := known.takes artifact (mem_ordered_iff.mp mem)
    exact ⟨takes.hash, by rw [takes.execution]; exact known.execution⟩
  rw [known.artifacts, accepted.artifacts]
  generalize orderedArtifacts req.artifacts = others at payloads taken
  match split : call.artifacts, reads with
  | [], _ =>
    have none : orderedArtifacts [] = [] := List.length_eq_zero_iff.mp (ordered_length [])
    rw [split, none] at payloads
    rw [none]
    cases others with
    | nil => simp
    | cons first rest => exact absurd payloads (payload_ne_empty first rest)
  | [artifact], reads =>
    have legible := reads.2 artifact (by simp)
    have width := (accepted.takes artifact (by simp [split])).hash
    rw [split, ordered_singleton, payload_singleton] at payloads
    rw [ordered_singleton]
    match others with
    | [] => exact absurd payloads.symm (line_ne_empty artifact)
    | [first] =>
      have known := taken first (by simp)
      rw [payload_singleton] at payloads
      simp [LoopArtifact.traced_of_line legible width known.1 known.2 payloads]
    | first :: second :: rest =>
      -- the execution of the one line would go on with a colon of the second
      rw [payload_merges] at payloads
      generalize merged : first.executedBy
        (first.executionId ++ "|" ++ lineagePayload (second :: rest)) = reading at payloads
      have hash : reading.payloadHash.length = 64 := by
        rw [← merged]
        exact (taken first (by simp)).1
      have filled : reading.executionId ≠ "" := by
        rw [← merged]
        simp [LoopArtifact.executedBy]
      have traced := LoopArtifact.traced_of_line legible width hash filled payloads
      have exec := ((LoopArtifact.traced_eq_iff artifact _).mp traced).2.2.2.2
      apply absurd legible.execution
      rw [not_not, ← exec, ← merged]
      exact colon_before_end rest (taken second (by simp)).2
  | _ :: _ :: _, reads =>
    exact absurd reads.1 (by simp)

theorem distinct_of_reads {artifacts : List LoopArtifact} (reads : ReadsOneWay artifacts) :
    KeysDistinct artifacts := by
  intro first one second two _ _
  match artifacts, reads with
  | [], _ => cases one
  | [only], _ => rw [List.mem_singleton.mp one, List.mem_singleton.mp two]
  | _ :: _ :: _, reads => exact absurd reads.1 (by simp)

/-- An accepted certificate is canonical exactly if its lineage has at most one line, which can be
read in one way. It does not depend on the order of its artifacts exactly if no two different ones
share their stage and identifier. -/
theorem canonical_iff_reads_one_way (injective : Function.Injective sha256)
    (returns : call.certify sha256 = .ok cert) :
    (Canonical sha256 call cert ↔ ReadsOneWay call.artifacts) ∧
      (OrderFree sha256 call cert ↔ KeysDistinct call.artifacts) := by
  have accepted := accepted_of_certify returns
  have orders := order_free_iff accepted
  refine ⟨?_, orders⟩
  constructor
  · intro canonical
    exact reads_of_determined canonical.determined accepted
  · intro reads
    exact ⟨orders.mpr (distinct_of_reads reads), determined_of_reads injective accepted reads,
      status_iff accepted⟩

end readings

theorem legible_of_colonless {artifact : LoopArtifact} (id : ':' ∉ artifact.artifactId.toList)
    (hash : ':' ∉ artifact.payloadHash.toList) (source : ':' ∉ artifact.sourceRef.toList)
    (exec : ':' ∉ artifact.executionId.toList) : artifact.Legible := by
  refine ⟨source, fun mem => exec ((List.dropLast_sublist _).mem mem), ?_⟩
  intro before between after split
  have counts := congrArg (fun text => text.toList.count ':') split
  simp only [String.toList_append, List.count_append, List.count_eq_zero.mpr id,
    List.count_eq_zero.mpr hash] at counts
  have colon : List.count ':' ":".toList = 1 := by decide
  omega

/-- The digest that writes every character in hexadecimal digits. -/
def codeDigest (text : String) : String := String.ofList (Json.writeCodes text.toList)

theorem code_digest_injective : Function.Injective codeDigest := by
  intro text other same
  exact String.toList_injective (Json.write_codes_injective (String.ofList_injective same))

def sampleArtifact (digit : Char) : LoopArtifact where
  stage := .growth
  artifactId := "post-1"
  tenantId := "tenant-a"
  occurredAt := DateTime.epoch
  payloadHash := String.ofList (List.replicate 64 digit)
  sourceRef := "live"
  executionId := "exec-1"

def sampleCall (digits : List Char) : CertifyCall where
  certificateId := "cert-1"
  tenantId := "tenant-a"
  executionId := "exec-1"
  artifacts := digits.map sampleArtifact
  now := DateTime.epoch

theorem sample_accepted (digits : List Char) :
    ∃ cert, (sampleCall digits).certify codeDigest = .ok cert ∧
      (sampleCall digits).Accepted codeDigest cert := by
  apply certify_ok
  · exact (by decide : "tenant-a" ≠ "")
  · exact (by decide : "exec-1" ≠ "")
  · intro artifact mem
    obtain ⟨digit, _, same⟩ := List.mem_map.mp mem
    rw [← same]
    exact ⟨rfl, rfl, by simp [sampleArtifact]⟩

theorem sample_canonical : ∃ cert,
    (sampleCall ['0']).certify codeDigest = .ok cert ∧
      Canonical codeDigest (sampleCall ['0']) cert := by
  obtain ⟨cert, returns, _⟩ := sample_accepted ['0']
  have legible : (sampleArtifact '0').Legible := by
    apply legible_of_colonless <;> decide
  have reads : ReadsOneWay (sampleCall ['0']).artifacts := by
    refine ⟨by decide, ?_⟩
    intro artifact mem
    rw [List.mem_singleton.mp mem]
    exact legible
  exact ⟨cert, returns,
    (canonical_iff_reads_one_way code_digest_injective returns).1.mpr reads⟩

/-- Two artifacts of one stage and identifier stay in the order in which they are given, and their
lineage is also that of one artifact with a long execution. -/
theorem twin_not_canonical : ∃ cert,
    (sampleCall ['0', '1']).certify codeDigest = .ok cert ∧
      ¬OrderFree codeDigest (sampleCall ['0', '1']) cert ∧
        ¬Determined codeDigest cert := by
  obtain ⟨cert, returns, accepted⟩ := sample_accepted ['0', '1']
  refine ⟨cert, returns, ?_, ?_⟩
  · rw [order_free_iff accepted]
    intro distinct
    have same := distinct (sampleArtifact '0') (by simp [sampleCall]) (sampleArtifact '1')
      (by simp [sampleCall]) rfl rfl
    have hashes := congrArg LoopArtifact.payloadHash same
    exact absurd hashes (by decide)
  · intro determined
    have reads := reads_of_determined determined accepted
    exact absurd reads.1 (by decide)

end Ois.Production
