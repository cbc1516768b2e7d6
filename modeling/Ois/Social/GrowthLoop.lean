import Ois.Library.PyText
import Ois.Production.LoopCertificates

/-!
# The production loop of the growth domain

`verify_production_loop` of `social_growth/production_loop.py`. Evidence is taken stage by stage,
whatever its order, and its lineage is a chain of digests. The stages are those of the production
loop, and `sha256` is a parameter.
-/

namespace Ois.Social

open Ois.Library Json DateTime
open Ois.Production (Stage)

/-- `StageEvidence`, with what `__post_init__` checks. -/
structure StageEvidence where
  stage : Stage
  evidenceId : String
  live : Bool
  recordedAt : DateTime
  sourceRefs : List String := []
  artifactHash : String := ""
  identified : PyText.strip evidenceId ≠ ""
  hashed : live = true → artifactHash ≠ ""
  aware : recordedAt.utcoffset ≠ none

inductive LoopStatus where
  | failed | productionVerified
  deriving DecidableEq, Repr

structure LoopCertificate where
  certificateId : String
  loopId : String
  platform : String
  generatedAt : DateTime
  status : LoopStatus
  stageEvidence : List StageEvidence
  lineageHash : String
  failures : List String

structure LoopCall where
  loopId : String
  platform : String
  stages : List StageEvidence
  certificateId : String
  verifiedAt : Option DateTime
  now : DateTime

def byStage : List StageEvidence → Dict Stage StageEvidence → Dict Stage StageEvidence × List String
  | [], held => (held, [])
  | item :: rest, held =>
    let later := byStage rest (held.set item.stage item)
    (later.1, (if (held.lookup item.stage).isSome
      then ["duplicate stage evidence: " ++ item.stage.value] else []) ++ later.2)

def requiredFailures (held : Dict Stage StageEvidence) (expected : Stage) : List String :=
  match held.lookup expected with
  | none => ["missing required stage: " ++ expected.value]
  | some item =>
    (if item.live then [] else [expected.value ++ " evidence is not marked live"]) ++
      if item.artifactHash = "" then [expected.value ++ " artifact_hash is empty"] else []

def referenceFailure (previous cur : StageEvidence) : Option String :=
  if previous.evidenceId ∈ cur.sourceRefs then none else
    some (cur.stage.value ++ " does not reference prior evidence " ++ previous.evidenceId)

def LoopCall.headFailures (call : LoopCall) : List String :=
  (if PyText.strip call.loopId = "" then ["loop_id is empty"] else []) ++
    (if PyText.strip call.platform = "" then ["platform is empty"] else []) ++
      match call.verifiedAt with
      | none => ["verified_at is required"]
      | some moment =>
        if moment.utcoffset = none then ["verified_at must be timezone-aware"] else []

def ordered (held : Dict Stage StageEvidence) : List StageEvidence :=
  Stage.all.filterMap fun stage => held.lookup stage

section verification

variable (sha256 : Json.Text → String)

def canonicalHash (value : Json) : String := sha256 (dumpsSorted value)

def material (item : StageEvidence) (previous : String) : Json :=
  .obj [("stage", .str item.stage.value), ("evidence_id", .str item.evidenceId),
    ("live", .bool item.live), ("recorded_at", .str item.recordedAt.isoformat),
    ("source_refs", .arr (item.sourceRefs.map .str)), ("artifact_hash", .str item.artifactHash),
    ("previous", .str previous)]

def lineageChain : List StageEvidence → String → List String
  | [], _ => []
  | item :: rest, previous =>
    let cur := canonicalHash sha256 (material item previous)
    cur :: lineageChain rest cur

def lineageHash (stages : List StageEvidence) : String :=
  canonicalHash sha256 (.arr ((lineageChain sha256 stages "").map .str))

/-- `verify_production_loop`. -/
def verifyProductionLoop (call : LoopCall) : LoopCertificate :=
  let (held, duplicates) := byStage call.stages []
  let evidence := ordered held
  let failures := call.headFailures ++ duplicates ++ Stage.all.flatMap (requiredFailures held) ++
    (evidence.zip evidence.tail).filterMap fun pair => referenceFailure pair.1 pair.2
  { certificateId := call.certificateId, loopId := call.loopId, platform := call.platform
    generatedAt := call.verifiedAt.getD call.now
    status := if failures = [] then .productionVerified else .failed
    stageEvidence := evidence, lineageHash := lineageHash sha256 evidence, failures }

end verification

/-- The loop, its platform and an aware time of verification are given. -/
def LoopCall.Given (call : LoopCall) : Prop :=
  PyText.strip call.loopId ≠ "" ∧ PyText.strip call.platform ≠ "" ∧
    ∃ moment, call.verifiedAt = some moment ∧ moment.utcoffset ≠ none

def Precedes (past later : Stage) : Prop := (past, later) ∈ Stage.all.zip Stage.all.tail

/-- Each stage occurs once, live and with its artifact, and refers to the one before. -/
structure ProvesLoop (stages : List StageEvidence) : Prop where
  once : ∀ stage, stages.countP (fun item => item.stage = stage) = 1
  live : ∀ item ∈ stages, item.live = true ∧ item.artifactHash ≠ ""
  refers : ∀ past ∈ stages, ∀ later ∈ stages, Precedes past.stage later.stage →
    past.evidenceId ∈ later.sourceRefs

theorem head_failures_iff (call : LoopCall) : call.headFailures = [] ↔ call.Given := by
  unfold LoopCall.headFailures LoopCall.Given
  cases call.verifiedAt with
  | none => simp
  | some moment => simp

theorem duplicates_iff (stages : List StageEvidence) (held : Dict Stage StageEvidence) :
    (byStage stages held).2 = [] ↔
      (stages.map (·.stage)).Nodup ∧ ∀ item ∈ stages, held.lookup item.stage = none := by
  induction stages generalizing held with
  | nil => simp [byStage]
  | cons item rest ih =>
    simp only [byStage, List.append_eq_nil_iff, ih, Dict.lookup_set, List.map_cons,
      List.nodup_cons, List.forall_mem_cons, List.mem_map, ite_eq_right_iff, List.cons_ne_nil,
      imp_false, Bool.not_eq_true, Option.isSome_eq_false_iff, Option.isNone_iff_eq_none]
    constructor
    · rintro ⟨free, distinct, others⟩
      refine ⟨⟨?_, distinct⟩, free, ?_⟩
      · rintro ⟨other, mem, same⟩
        simpa [same] using others other mem
      · intro other mem
        have fresh := others other mem
        split_ifs at fresh
        exact fresh
    · rintro ⟨⟨apart, distinct⟩, free, others⟩
      refine ⟨free, distinct, fun other mem => ?_⟩
      rw [if_neg fun same => apart ⟨other, mem, same⟩]
      exact others other mem

theorem held_iff {stages : List StageEvidence} (distinct : (stages.map (·.stage)).Nodup)
    {held : Dict Stage StageEvidence} (fresh : ∀ item ∈ stages, held.lookup item.stage = none)
    {stage : Stage} {item : StageEvidence} : (byStage stages held).1.lookup stage = some item ↔
      (item ∈ stages ∧ item.stage = stage) ∨ held.lookup stage = some item := by
  induction stages generalizing held with
  | nil => simp [byStage]
  | cons first rest ih =>
    rw [List.map_cons, List.nodup_cons] at distinct
    rw [List.forall_mem_cons] at fresh
    have apart : ∀ other ∈ rest, other.stage ≠ first.stage := fun other mem same =>
      distinct.1 (List.mem_map.mpr ⟨other, mem, same⟩)
    rw [byStage, ih distinct.2 fun other mem => by
      rw [Dict.lookup_set, if_neg (apart other mem)]
      exact fresh.2 other mem]
    rw [Dict.lookup_set, List.mem_cons]
    by_cases here : stage = first.stage
    · rw [if_pos here, here, fresh.1, Option.some.injEq]
      constructor
      · rintro (later | rfl)
        · exact Or.inl ⟨Or.inr later.1, later.2⟩
        · exact Or.inl ⟨Or.inl rfl, rfl⟩
      · rintro (⟨rfl | later, same⟩ | none_)
        · exact Or.inr rfl
        · exact Or.inl ⟨later, same⟩
        · cases none_
    · rw [if_neg here]
      apply or_congr_left
      constructor
      · exact fun later => ⟨Or.inr later.1, later.2⟩
      · rintro ⟨rfl | later, same⟩
        · exact absurd same.symm here
        · exact ⟨later, same⟩

section proofs

variable {stages : List StageEvidence} {held : Dict Stage StageEvidence}

theorem required_iff : Stage.all.flatMap (requiredFailures held) = [] ↔
    ∀ stage, ∃ item, held.lookup stage = some item ∧ item.live = true ∧ item.artifactHash ≠ "" := by
  rw [List.flatMap_eq_nil_iff]
  apply forall_congr'
  intro stage
  have listed : stage ∈ Stage.all := by cases stage <;> decide
  rw [imp_iff_right listed, requiredFailures]
  cases held.lookup stage with
  | none => simp
  | some item => simp

theorem references_iff {item : Stage → StageEvidence}
    (all : ∀ stage, held.lookup stage = some (item stage)) :
    ((ordered held).zip (ordered held).tail).filterMap
      (fun pair => referenceFailure pair.1 pair.2) = [] ↔
      ∀ past later, Precedes past later →
      (item past).evidenceId ∈ (item later).sourceRefs := by
  have row : ordered held = Stage.all.map item := by
    rw [ordered, ← List.filterMap_eq_map]
    exact List.filterMap_congr fun stage _ => all stage
  rw [row, ← List.map_tail, List.zip_map, List.filterMap_map, List.filterMap_eq_nil_iff]
  simp only [Prod.forall, Precedes, Function.comp_apply, Prod.map_apply, referenceFailure,
    ite_eq_left_iff, reduceCtorEq, imp_false, not_not]

theorem once_iff : (∀ stage, stages.countP (fun item => item.stage = stage) = 1) ↔
    (stages.map (·.stage)).Nodup ∧ ∀ stage, ∃ item ∈ stages, item.stage = stage := by
  have counted (stage : Stage) : (stages.map (·.stage)).count stage =
      stages.countP fun item => item.stage = stage := by
    rw [List.count, List.countP_map]
    rfl
  simp only [← counted, List.nodup_iff_count_le_one, ← List.mem_map, ← List.count_pos_iff]
  constructor
  · exact fun once => ⟨fun stage => (once stage).le, fun stage => by rw [once stage]; decide⟩
  · exact fun both stage => le_antisymm (both.1 stage) (both.2 stage)

theorem no_failures_iff (sha256 : Json.Text → String) (call : LoopCall) :
    (verifyProductionLoop sha256 call).failures = [] ↔ call.Given ∧ ProvesLoop call.stages := by
  rw [verifyProductionLoop, List.append_eq_nil_iff, List.append_eq_nil_iff,
    List.append_eq_nil_iff, head_failures_iff, duplicates_iff, required_iff]
  simp only [List.lookup_nil, implies_true, and_true, and_assoc]
  apply and_congr_right
  intro _
  constructor
  · rintro ⟨distinct, complete, references⟩
    have holds {stage : Stage} {item : StageEvidence} :
        (byStage call.stages []).1.lookup stage = some item ↔
          item ∈ call.stages ∧ item.stage = stage := by
      simpa using @held_iff _ distinct [] (by simp)
    choose item found live using complete
    have same : ∀ other ∈ call.stages, other = item other.stage := fun other mem =>
      Option.some.inj ((holds.mpr ⟨mem, rfl⟩).symm.trans (found _))
    refine ⟨once_iff.mpr ⟨distinct, fun stage => ⟨item stage, holds.mp (found stage)⟩⟩,
      fun other mem => same other mem ▸ live _, ?_⟩
    intro past first later second precedes
    rw [same past first, same later second]
    exact (references_iff found).mp references _ _ precedes
  · rintro ⟨once, live, refers⟩
    obtain ⟨distinct, all⟩ := once_iff.mp once
    have holds {stage : Stage} {item : StageEvidence} :
        (byStage call.stages []).1.lookup stage = some item ↔
          item ∈ call.stages ∧ item.stage = stage := by
      simpa using @held_iff _ distinct [] (by simp)
    choose item mem named using all
    have found : ∀ stage, (byStage call.stages []).1.lookup stage = some (item stage) :=
      fun stage => holds.mpr ⟨mem stage, named stage⟩
    refine ⟨distinct, fun stage => ⟨item stage, found stage, live _ (mem stage)⟩,
      (references_iff found).mpr fun past later precedes => ?_⟩
    exact refers _ (mem past) _ (mem later) (by rwa [named, named])

theorem verified_in_any_order (sha256 : Json.Text → String) (call : LoopCall)
    {others : List StageEvidence} (reordered : others.Perm call.stages)
    (distinct : (call.stages.map (·.stage)).Nodup) :
    verifyProductionLoop sha256 { call with stages := others } =
      verifyProductionLoop sha256 call := by
  have otherDistinct := (reordered.map (·.stage)).nodup_iff.mpr distinct
  have lookups : ∀ stage, (byStage others []).1.lookup stage =
      (byStage call.stages []).1.lookup stage := by
    intro stage
    apply Option.ext
    intro item
    rw [held_iff otherDistinct (by simp), held_iff distinct (by simp), reordered.mem_iff]
  have evidence : ordered (byStage others []).1 = ordered (byStage call.stages []).1 :=
    List.filterMap_congr fun stage _ => lookups stage
  have required : requiredFailures (byStage others []).1 =
      requiredFailures (byStage call.stages []).1 := by
    funext stage
    rw [requiredFailures, requiredFailures, lookups]
  have duplicates (given : List StageEvidence) (once : (given.map (·.stage)).Nodup) :
      (byStage given []).2 = [] := (duplicates_iff given []).mpr ⟨once, by simp⟩
  simp only [verifyProductionLoop, evidence, required, duplicates _ distinct,
    duplicates _ otherDistinct, LoopCall.headFailures]

variable {sha256 : Json.Text → String}

theorem canonical_hash_inj (injective : Function.Injective sha256) {value other : Json}
    (same : canonicalHash sha256 value = canonicalHash sha256 other) :
    value.sortKeys = other.sortKeys := congrArg Json.Text.document (injective same)

theorem lineage_chain_inj (injective : Function.Injective sha256) {others : List StageEvidence}
    {previous before : String}
    (same : lineageChain sha256 stages previous = lineageChain sha256 others before) :
    stages = others := by
  induction stages generalizing others previous before with
  | nil =>
    cases others with
    | nil => rfl
    | cons other rest => cases same
  | cons item rest ih =>
    cases others with
    | nil => cases same
    | cons other tail =>
      obtain ⟨digest, later⟩ := List.cons.inj same
      have read := lookup_of_sorted (canonical_hash_inj injective digest)
      have stage := read "stage"
      have evidenceId := read "evidence_id"
      have live := read "live"
      have recordedAt := read "recorded_at"
      have sourceRefs := read "source_refs"
      have artifactHash := read "artifact_hash"
      simp only [List.lookup_cons, String.reduceBEq, Option.map_some, Option.some.injEq]
        at stage evidenceId live recordedAt sourceRefs artifactHash
      simp only [sortKeys, str.injEq, bool.injEq] at stage evidenceId live recordedAt artifactHash
      rw [sort_keys_arr, sort_keys_arr, arr.injEq, List.map_map, List.map_map] at sourceRefs
      have texts : Function.Injective (sortKeys ∘ str) := by
        intro text other equal
        simpa using equal
      have equal : item = other := by
        cases item
        cases other
        simp only [StageEvidence.mk.injEq]
        exact ⟨StrEnum.value_injective stage, evidenceId, live,
          isoformat_injective recordedAt, List.map_injective_iff.mpr texts sourceRefs,
          artifactHash⟩
      rw [equal, ih later]

theorem lineage_hash_inj (injective : Function.Injective sha256) {others : List StageEvidence}
    (same : lineageHash sha256 stages = lineageHash sha256 others) : stages = others := by
  have chains := canonical_hash_inj injective same
  rw [sort_keys_arr, sort_keys_arr, arr.injEq, List.map_map, List.map_map] at chains
  have texts : Function.Injective (sortKeys ∘ str) := by
    intro text other equal
    simpa using equal
  exact lineage_chain_inj injective (List.map_injective_iff.mpr texts chains)

end proofs

/-- A loop is verified exactly if its evidence proves it, in whichever order that comes, and the
lineage of a certificate tells its evidence. -/
theorem growth_loop_verified_exactly (sha256 : Json.Text → String)
    (injective : Function.Injective sha256) :
    (∀ call, (verifyProductionLoop sha256 call).status = .productionVerified ↔
      call.Given ∧ ProvesLoop call.stages) ∧
    (∀ call : LoopCall, ∀ others : List StageEvidence, others.Perm call.stages →
      (call.stages.map (·.stage)).Nodup →
      verifyProductionLoop sha256 { call with stages := others } =
      verifyProductionLoop sha256 call) ∧
    ∀ call other, (verifyProductionLoop sha256 call).lineageHash =
      (verifyProductionLoop sha256 other).lineageHash →
      (verifyProductionLoop sha256 call).stageEvidence =
      (verifyProductionLoop sha256 other).stageEvidence := by
  refine ⟨fun call => ?_, fun call others => verified_in_any_order sha256 call, ?_⟩
  · rw [← no_failures_iff sha256 call]
    simp only [verifyProductionLoop, ite_eq_left_iff, reduceCtorEq, imp_false, not_not]
  · exact fun call other same => lineage_hash_inj injective same

def provenStage (stage : Stage) : StageEvidence where
  stage := stage
  evidenceId := stage.value
  live := true
  recordedAt := epoch
  sourceRefs := Stage.all.map Stage.value
  artifactHash := "digest of " ++ stage.value
  identified := by cases stage <;> decide +kernel
  hashed _ := by cases stage <;> decide
  aware := by decide

def provenLoop : LoopCall where
  loopId := "loop-1"
  platform := "youtube"
  stages := Stage.all.reverse.map provenStage
  certificateId := "certificate-1"
  verifiedAt := some epoch
  now := epoch

theorem proven_loop_verified :
    (verifyProductionLoop Json.Text.coded provenLoop).status = .productionVerified := by
  refine ((growth_loop_verified_exactly Json.Text.coded Json.Text.coded_injective).1
    provenLoop).mpr ⟨⟨by decide +kernel, by decide +kernel, epoch, rfl, by decide⟩, ?_⟩
  refine ⟨fun stage => by cases stage <;> decide, ?_, ?_⟩
  · intro item mem
    obtain ⟨stage, _, rfl⟩ := List.mem_map.mp mem
    exact ⟨rfl, (provenStage stage).hashed rfl⟩
  · intro past first later second _
    obtain ⟨stage, _, rfl⟩ := List.mem_map.mp first
    obtain ⟨next, _, rfl⟩ := List.mem_map.mp second
    exact List.mem_map.mpr ⟨stage, by cases stage <;> decide, rfl⟩

end Ois.Social
