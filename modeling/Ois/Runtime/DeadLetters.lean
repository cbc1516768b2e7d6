import Ois.Library.Histories
import Ois.Sources.Gateway

/-!
# The dead letters of a run

`SourceIntelligencePipeline.process` of `runtime/source_pipeline.py` with the recovery and the
dead letters of `runtime/source_recovery.py` and the policies of
`control_plane/source_policies.py`.
-/

namespace Ois.Runtime

open Ois.Kernel Ois.Library
open Ois.Sources (CanonicalSourceEvent)

structure SourcePolicy where
  tenantId : String
  workspaceId : String
  sourceId : String
  enabled : Bool := true
  allowedEventTypes : List String := []
  allowedOperations : List String := ["ingest"]
  requireCredential : Bool := true
  deriving DecidableEq, Repr

/-- `allows(operation, event_type)`. -/
def SourcePolicy.allows (policy : SourcePolicy) (operation kind : String) : Bool :=
  if policy.enabled = false ∨ operation ∉ policy.allowedOperations then false
  else decide (policy.allowedEventTypes = [] ∨ kind ∈ policy.allowedEventTypes)

abbrev SourcePolicyStore := Dict (String × String × String) SourcePolicy

def policyMissing (source : String) : PyError :=
  ⟨.other "KeyError", "source policy not configured: " ++ source⟩

def credentialRequired : PyError :=
  ⟨.permissionError, "source policy requires a credential"⟩

def operationDenied : PyError :=
  ⟨.permissionError, "source operation denied by control-plane policy"⟩

/-- `authorize(...)`. The message of an error is its first argument. -/
def SourcePolicyStore.authorize (policies : SourcePolicyStore)
    (tenant spaceId source : String) (operation kind : String)
    (credentialPresent : Bool) : Except PyError SourcePolicy :=
  match policies.lookup (tenant, spaceId, source) with
  | none => .error (policyMissing source)
  | some policy =>
    if policy.requireCredential = true ∧ credentialPresent = false then .error credentialRequired
    else if policy.allows operation kind = false then .error operationDenied
    else .ok policy

structure DeadLetter where
  event : CanonicalSourceEvent
  reason : String
  attempts : Nat
  failedAt : DateTime
  deriving DecidableEq, Repr

abbrev DeadLetterStore := Dict String DeadLetter

namespace DeadLetterStore

variable (items : DeadLetterStore)

/-- `put(item)`: the item that is there stays. -/
def put (item : DeadLetter) : DeadLetterStore := Dict.setdefault item.event.eventId item items

/-- `list(tenant_id, workspace_id)`. -/
def list (tenant spaceId : String) : List DeadLetter :=
  (items.map Prod.snd).filter fun item =>
    (item.event.tenantId, item.event.workspaceId) = (tenant, spaceId)

end DeadLetterStore

/-- How a call of a handler ends: it returns, raises an `Exception` with this text, or ends with an
error that is no `Exception`. -/
inductive Attempt where
  | returned
  | raised (msg : String)
  | interrupted (err : PyError)
  deriving DecidableEq, Repr

structure SourceRecovery where
  maxAttempts : Nat := 3
  positive : 1 ≤ maxAttempts := by decide

inductive Delivery where
  | accepted
  | exhausted (reason : String)
  | interrupted (err : PyError)
  deriving DecidableEq, Repr

def deliver (attempts : Nat → Attempt) : Nat → Nat → String → Delivery
  | 0, _, lastError => .exhausted lastError
  | left + 1, next, _ =>
    match attempts next with
    | .returned => .accepted
    | .raised msg => deliver attempts left (next + 1) msg
    | .interrupted err => .interrupted err

def SourceRecovery.deliver (recovery : SourceRecovery) (attempts : Nat → Attempt) : Delivery :=
  Runtime.deliver attempts recovery.maxAttempts 1 "unknown failure"

structure PipelineResult where
  eventId : String
  accepted : Bool
  deadLettered : Bool := false
  reason : Option String := none
  deriving DecidableEq, Repr

/-- A call of `process`, with the attempts of its handler if there is one. -/
structure ProcessCall where
  event : CanonicalSourceEvent
  attempts : Option (Nat → Attempt)
  credentialVerified : Bool := false
  failedAt : DateTime

inductive PipelineCall where
  | put (policy : SourcePolicy)
  | process (call : ProcessCall)

structure SourcePipeline where
  policies : SourcePolicyStore := []
  deadLetters : DeadLetterStore := []

namespace SourcePipeline

variable (recovery : SourceRecovery) (pipeline : SourcePipeline)

def authorize (call : ProcessCall) : Except PyError SourcePolicy :=
  pipeline.policies.authorize call.event.tenantId call.event.workspaceId call.event.sourceId
    "ingest" call.event.eventType call.credentialVerified

/-- The event is filed unless it is there. -/
def file (call : ProcessCall) (reason : String) : SourcePipeline :=
  { pipeline with
    deadLetters := pipeline.deadLetters.put
      { event := call.event, reason := reason, attempts := recovery.maxAttempts
        failedAt := call.failedAt } }

def isDeadLettered (event : CanonicalSourceEvent) : Bool :=
  (pipeline.deadLetters.list event.tenantId event.workspaceId).any (·.event.eventId = event.eventId)

def result (event : CanonicalSourceEvent) (accepted : Bool) : PipelineResult where
  eventId := event.eventId
  accepted := accepted
  deadLettered := pipeline.isDeadLettered event
  reason := if accepted then none else some "processing_failed"

def process (call : ProcessCall) : SourcePipeline × Except PyError PipelineResult :=
  match pipeline.authorize call with
  | .error err => (pipeline, .ok ⟨call.event.eventId, false, false, some err.message⟩)
  | .ok _ =>
    match call.attempts with
    | none => (pipeline,
        .ok ⟨call.event.eventId, false, false, some "intelligence_handler_not_configured"⟩)
    | some attempts =>
      match recovery.deliver attempts with
      | .accepted => (pipeline, .ok (pipeline.result call.event true))
      | .exhausted reason =>
        let filed := pipeline.file recovery call reason
        (filed, .ok (filed.result call.event false))
      | .interrupted err => (pipeline, .error err)

end SourcePipeline

def sourcePipeline (recovery : SourceRecovery) :
    Machine PipelineCall SourcePipeline (Option (Except PyError PipelineResult))
  | .put policy, pipeline =>
    ({ pipeline with
        policies := Dict.set (policy.tenantId, policy.workspaceId, policy.sourceId) policy
          pipeline.policies }, none)
  | .process call, pipeline =>
    let processed := pipeline.process recovery call
    (processed.1, some processed.2)

open Machine

def scopeOf (event : CanonicalSourceEvent) : String × String := (event.tenantId, event.workspaceId)

def SameEvent (event other : CanonicalSourceEvent) : Prop :=
  event.eventId = other.eventId ∧ scopeOf event = scopeOf other

instance (event other : CanonicalSourceEvent) : Decidable (SameEvent event other) :=
  inferInstanceAs (Decidable (_ ∧ _))

def DeadLetterStore.filed (items : DeadLetterStore) (event : CanonicalSourceEvent) : Nat :=
  ((items.list event.tenantId event.workspaceId).filter (·.event.eventId = event.eventId)).length

open DeadLetterStore

section pipeline

variable (recovery : SourceRecovery)

def settled : PipelineCall → SourcePipeline → Option (CanonicalSourceEvent × Bool)
  | .put _, _ => none
  | .process call, pipeline =>
    match pipeline.authorize call, call.attempts.map recovery.deliver with
    | .ok _, some .accepted => some (call.event, true)
    | .ok _, some (.exhausted _) => some (call.event, false)
    | _, _ => none

def pipelineAfter (policies : SourcePolicyStore) (calls : List PipelineCall) : SourcePipeline :=
  (sourcePipeline recovery).run calls { policies := policies }

def latest (policies : SourcePolicyStore) (calls : List PipelineCall)
    (event : CanonicalSourceEvent) : Option Bool :=
  (((sourcePipeline recovery).log (settled recovery) calls { policies := policies }).filter
    fun entry => SameEvent entry.1 event).getLast?.map Prod.snd

structure Consistent (policies : SourcePolicyStore) (calls : List PipelineCall) : Prop where
  succeeded : ∀ event, latest recovery policies calls event = some true →
    (pipelineAfter recovery policies calls).deadLetters.filed event = 0
  failed : ∀ event, latest recovery policies calls event = some false →
    (pipelineAfter recovery policies calls).deadLetters.filed event = 1

/-- What the pipeline promises of a call after the calls before it. -/
structure DeliversOnce (policies : SourcePolicyStore) (before : List PipelineCall)
    (call : PipelineCall) : Prop where
  consistent : Consistent recovery policies (before ++ [call])
  exclusive : ∀ result,
    (sourcePipeline recovery).answer call (pipelineAfter recovery policies before) =
        some (.ok result) →
      ¬(result.accepted = true ∧ result.deadLettered = true)

/-- An event that succeeds has no dead letter, and none in another scope has the identifier of an
event that finally fails. -/
def Orderly : PipelineCall → SourcePipeline → Prop
  | .put _, _ => True
  | .process call, pipeline => (pipeline.authorize call).isOk = true → ∀ attempts ∈ call.attempts,
        match recovery.deliver attempts with
        | .accepted => ∀ item ∈ pipeline.deadLetters.lookup call.event.eventId,
            scopeOf item.event ≠ scopeOf call.event
        | .exhausted _ => ∀ item ∈ pipeline.deadLetters.lookup call.event.eventId,
            scopeOf item.event = scopeOf call.event
        | .interrupted _ => True

/-- Each identifier has one dead letter at most, under its own identifier. -/
structure DeadLetterStore.Sound (items : DeadLetterStore) : Prop where
  distinct : (Dict.keys items).Nodup
  keyed : ∀ entry ∈ items, entry.2.event.eventId = entry.1

end pipeline

section stores

variable {items : DeadLetterStore}

theorem filed_eq (sound : items.Sound) (event : CanonicalSourceEvent) :
    items.filed event = ((items.lookup event.eventId).filter fun item =>
      scopeOf item.event = scopeOf event).toList.length := by
  rw [← Dict.filter_of_distinct sound.distinct, List.length_map]
  unfold filed list
  rw [List.filter_filter, List.filter_map, List.length_map]
  apply congrArg List.length
  apply List.filter_congr
  intro entry mem
  have key := sound.keyed entry mem
  simp only [Function.comp_apply, key]
  rfl

theorem filed_eq_zero_iff (sound : items.Sound) (event : CanonicalSourceEvent) :
    items.filed event = 0 ↔ ∀ item ∈ items.lookup event.eventId,
      scopeOf item.event ≠ scopeOf event := by
  rw [filed_eq sound]
  cases items.lookup event.eventId with
  | none => simp
  | some item =>
    by_cases own : scopeOf item.event = scopeOf event
    · simp [Option.filter, own]
    · simp [Option.filter, own]

theorem filed_eq_one_iff (sound : items.Sound) (event : CanonicalSourceEvent) :
    items.filed event = 1 ↔ ∃ item ∈ items.lookup event.eventId,
      scopeOf item.event = scopeOf event := by
  rw [filed_eq sound]
  cases items.lookup event.eventId with
  | none => simp
  | some item =>
    by_cases own : scopeOf item.event = scopeOf event
    · simp [Option.filter, own]
    · simp [Option.filter, own]

theorem sound_put (sound : items.Sound) (item : DeadLetter) : (items.put item).Sound := by
  unfold put Dict.setdefault
  cases found : items.lookup item.event.eventId with
  | some there => exact sound
  | none =>
    constructor
    · exact Dict.nodup_keys_append_fresh sound.distinct found
    · intro entry mem
      rcases List.mem_append.mp mem with there | new
      · exact sound.keyed entry there
      · rw [List.mem_singleton] at new
        rw [new]

theorem lookup_put (item : DeadLetter) (eventId : String) :
    (items.put item).lookup eventId = (items.lookup eventId).or
      (if eventId = item.event.eventId then some item else none) :=
  Dict.lookup_setdefault _ _ _ _

theorem filed_put_of_other (sound : items.Sound) {item : DeadLetter} {event : CanonicalSourceEvent}
    (other : ¬SameEvent item.event event) : (items.put item).filed event = items.filed event := by
  rw [filed_eq (sound_put sound item), filed_eq sound, lookup_put]
  cases items.lookup event.eventId with
  | some there => rfl
  | none =>
    rw [Option.none_or]
    by_cases same : event.eventId = item.event.eventId
    · have apart : scopeOf item.event ≠ scopeOf event := fun equal => other ⟨same.symm, equal⟩
      simp [same, Option.filter, apart]
    · simp [same]

theorem filed_put_iff (sound : items.Sound) (item : DeadLetter) :
    (items.put item).filed item.event = 1 ↔ ∀ held ∈ items.lookup item.event.eventId,
      scopeOf held.event = scopeOf item.event := by
  rw [filed_eq_one_iff (sound_put sound item), lookup_put]
  cases items.lookup item.event.eventId with
  | some there => simp
  | none => simp

theorem filed_of_same {event other : CanonicalSourceEvent} (sound : items.Sound)
    (same : SameEvent event other) : items.filed other = items.filed event := by
  rw [filed_eq sound, filed_eq sound, same.1, same.2]

end stores

theorem dead_lettered_iff (pipeline : SourcePipeline) (event : CanonicalSourceEvent) :
    pipeline.isDeadLettered event = true ↔ pipeline.deadLetters.filed event ≠ 0 := by
  unfold SourcePipeline.isDeadLettered filed
  rw [List.any_eq_true, ← Nat.pos_iff_ne_zero, List.length_filter_pos_iff]

section steps

variable {recovery : SourceRecovery} {pipeline : SourcePipeline}

theorem pipeline_cases (recovery : SourceRecovery) (call : PipelineCall)
    (pipeline : SourcePipeline) :
    (settled recovery call pipeline = none ∧
      ((sourcePipeline recovery).next call pipeline).deadLetters = pipeline.deadLetters ∧
      (∀ result, (sourcePipeline recovery).answer call pipeline = some (.ok result) →
      result.accepted = false) ∧ Orderly recovery call pipeline) ∨
    (∃ event, settled recovery call pipeline = some (event, true) ∧
      (sourcePipeline recovery) call pipeline =
      (pipeline, some (.ok (pipeline.result event true))) ∧
      (Orderly recovery call pipeline ↔ ∀ item ∈ pipeline.deadLetters.lookup event.eventId,
      scopeOf item.event ≠ scopeOf event)) ∨
    ∃ item : DeadLetter, settled recovery call pipeline = some (item.event, false) ∧
      ((sourcePipeline recovery).next call pipeline).deadLetters = pipeline.deadLetters.put item ∧
      (∀ result, (sourcePipeline recovery).answer call pipeline = some (.ok result) →
      result.accepted = false) ∧
      (Orderly recovery call pipeline ↔ ∀ held ∈ pipeline.deadLetters.lookup item.event.eventId,
      scopeOf held.event = scopeOf item.event) := by
  cases call with
  | put policy =>
    apply Or.inl
    refine ⟨rfl, rfl, ?_, trivial⟩
    intro result none
    cases none
  | process call =>
    unfold next answer settled Orderly
    simp only [sourcePipeline]
    unfold SourcePipeline.process
    cases pipeline.authorize call with
    | error err =>
      apply Or.inl
      refine ⟨rfl, rfl, ?_, ?_⟩
      · intro result same
        cases same
        rfl
      · intro refused
        cases refused
    | ok policy =>
      cases call.attempts with
      | none =>
        apply Or.inl
        refine ⟨rfl, rfl, ?_, ?_⟩
        · intro result same
          cases same
          rfl
        · intro _ attempts none
          cases none
      | some attempts =>
        simp only [Option.map_some, Option.mem_def, Option.some.injEq, forall_eq']
        cases recovery.deliver attempts with
        | accepted =>
          apply Or.inr
          apply Or.inl
          refine ⟨call.event, rfl, rfl, ?_⟩
          exact forall_prop_of_true rfl
        | exhausted reason =>
          apply Or.inr
          apply Or.inr
          refine ⟨⟨call.event, reason, recovery.maxAttempts, call.failedAt⟩, rfl, rfl, ?_, ?_⟩
          · intro result same
            cases same
            rfl
          · exact forall_prop_of_true rfl
        | interrupted err =>
          apply Or.inl
          refine ⟨rfl, rfl, ?_, fun _ => trivial⟩
          intro result same
          cases same

theorem sound_next (call : PipelineCall) (sound : pipeline.deadLetters.Sound) :
    ((sourcePipeline recovery).next call pipeline).deadLetters.Sound := by
  rcases pipeline_cases recovery call pipeline with idle | succeeds | fails
  · rw [idle.2.1]
    exact sound
  · obtain ⟨event, _, runs, _⟩ := succeeds
    unfold next
    rw [runs]
    exact sound
  · obtain ⟨item, _, filed, _⟩ := fails
    rw [filed]
    exact sound_put sound item

variable {policies : SourcePolicyStore} {before : List PipelineCall} {call : PipelineCall}

theorem pipeline_concat :
    pipelineAfter recovery policies (before ++ [call]) =
      (sourcePipeline recovery).next call (pipelineAfter recovery policies before) :=
  run_concat _ _ _ _

theorem latest_of_idle
    (idle : settled recovery call (pipelineAfter recovery policies before) = none)
    (event : CanonicalSourceEvent) :
    latest recovery policies (before ++ [call]) event = latest recovery policies before event := by
  unfold latest
  unfold pipelineAfter at idle
  rw [log_concat, idle, Option.toList_none, List.append_nil]

theorem latest_of_settled {own : CanonicalSourceEvent} {accepted : Bool}
    (settles :
      settled recovery call (pipelineAfter recovery policies before) = some (own, accepted))
    (event : CanonicalSourceEvent) :
    latest recovery policies (before ++ [call]) event =
      if SameEvent own event then some accepted else latest recovery policies before event := by
  unfold latest
  unfold pipelineAfter at settles
  rw [log_concat, settles, Option.toList_some, List.filter_append]
  by_cases same : SameEvent own event
  · rw [if_pos same, List.filter_cons_of_pos (by simpa using same), List.filter_nil,
      List.getLast?_concat]
    rfl
  · rw [if_neg same, List.filter_cons_of_neg (by simpa using same), List.filter_nil,
      List.append_nil]

theorem same_event_refl (event : CanonicalSourceEvent) : SameEvent event event := ⟨rfl, rfl⟩

theorem consistent_of_idle (consistent : Consistent recovery policies before)
    (idle : settled recovery call (pipelineAfter recovery policies before) = none)
    (same : ((sourcePipeline recovery).next call
      (pipelineAfter recovery policies before)).deadLetters =
      (pipelineAfter recovery policies before).deadLetters) :
    Consistent recovery policies (before ++ [call]) := by
  constructor
  · intro event last
    rw [latest_of_idle idle] at last
    rw [pipeline_concat, same]
    exact consistent.succeeded event last
  · intro event last
    rw [latest_of_idle idle] at last
    rw [pipeline_concat, same]
    exact consistent.failed event last

theorem consistent_of_settled {own : CanonicalSourceEvent} {accepted : Bool}
    (consistent : Consistent recovery policies before)
    (settles :
      settled recovery call (pipelineAfter recovery policies before) = some (own, accepted))
    (mine : ∀ event, SameEvent own event →
      (pipelineAfter recovery policies (before ++ [call])).deadLetters.filed event =
      if accepted then 0 else 1)
    (others : ∀ event, ¬SameEvent own event →
      (pipelineAfter recovery policies (before ++ [call])).deadLetters.filed event =
      (pipelineAfter recovery policies before).deadLetters.filed event) :
    Consistent recovery policies (before ++ [call]) := by
  constructor
  · intro event last
    rw [latest_of_settled settles] at last
    by_cases same : SameEvent own event
    · rw [if_pos same, Option.some.injEq] at last
      rw [mine event same, if_pos last]
    · rw [if_neg same] at last
      rw [others event same]
      exact consistent.succeeded event last
  · intro event last
    rw [latest_of_settled settles] at last
    by_cases same : SameEvent own event
    · rw [if_pos same, Option.some.injEq] at last
      rw [mine event same, if_neg (Bool.eq_false_iff.mp last)]
    · rw [if_neg same] at last
      rw [others event same]
      exact consistent.failed event last

theorem delivers_once_iff (sound : (pipelineAfter recovery policies before).deadLetters.Sound)
    (consistent : Consistent recovery policies before) :
    DeliversOnce recovery policies before call ↔
      Orderly recovery call (pipelineAfter recovery policies before) := by
  rcases pipeline_cases recovery call (pipelineAfter recovery policies before) with
    idle | succeeds | fails
  · obtain ⟨settles, same, rejects, orderly⟩ := idle
    apply iff_of_true _ orderly
    constructor
    · exact consistent_of_idle consistent settles same
    · intro result answers both
      rw [rejects result answers] at both
      cases both.1
  · obtain ⟨own, settles, runs, orderly⟩ := succeeds
    have after : pipelineAfter recovery policies (before ++ [call]) =
        pipelineAfter recovery policies before := by
      rw [pipeline_concat]
      exact congrArg Prod.fst runs
    rw [orderly, ← filed_eq_zero_iff sound]
    constructor
    · intro once
      have none := once.consistent.succeeded own
      rw [latest_of_settled settles, if_pos (same_event_refl own), after] at none
      exact none rfl
    · intro none
      constructor
      · apply consistent_of_settled consistent settles
        · intro event same
          rw [after, filed_of_same sound same]
          exact none
        · intro event _
          rw [after]
      · intro result answers both
        have same : (sourcePipeline recovery).answer call (pipelineAfter recovery policies before) =
            _ := congrArg Prod.snd runs
        rw [same, Option.some.injEq, Except.ok.injEq] at answers
        rw [← answers] at both
        exact (dead_lettered_iff _ own).mp both.2 none
  · obtain ⟨item, settles, filed, rejects, orderly⟩ := fails
    have after : (pipelineAfter recovery policies (before ++ [call])).deadLetters =
        (pipelineAfter recovery policies before).deadLetters.put item := by
      rw [pipeline_concat, filed]
    rw [orderly, ← filed_put_iff sound]
    constructor
    · intro once
      have one := once.consistent.failed item.event
      rw [latest_of_settled settles, if_pos (same_event_refl item.event), after] at one
      exact one rfl
    · intro one
      constructor
      · apply consistent_of_settled consistent settles
        · intro event same
          rw [after, filed_of_same (sound_put sound item) same]
          exact one
        · intro event other
          rw [after]
          exact filed_put_of_other sound other
      · intro result answers both
        rw [rejects result answers] at both
        cases both.1

end steps

/-- The dead letters are consistent in every run exactly when every call of it is orderly. -/
theorem delivers_once_run_iff (recovery : SourceRecovery) (policies : SourcePolicyStore)
    (calls : List PipelineCall) :
    Historically (DeliversOnce recovery policies) calls ↔
      (sourcePipeline recovery).Throughout (Orderly recovery) calls { policies := policies } := by
  apply historically_iff_throughout fun before pipeline =>
    pipeline.deadLetters.Sound ∧ Consistent recovery policies before
  · intro before call held orderly
    exact ⟨sound_next call held.1, ((delivers_once_iff held.1 held.2).mpr orderly).consistent⟩
  · constructor
    · exact ⟨List.nodup_nil, by simp⟩
    · exact ⟨by simp [latest, log], by simp [latest, log]⟩
  · intro before call held
    exact delivers_once_iff held.1 held.2

def retriedEvent : CanonicalSourceEvent where
  eventId := "evt-1"
  tenantId := "t"
  workspaceId := "w"
  sourceId := "s"
  sourceRecordId := "r"
  eventType := "source.raw_evidence.created"
  payload := .null
  payloadHash := "h"
  observedAt := .epoch

def retriedCall (attempt : Attempt) : PipelineCall :=
  .process { event := retriedEvent, attempts := some fun _ => attempt, failedAt := .epoch }

/-- An event that fails and succeeds when it is processed again is accepted and dead-lettered. -/
theorem accepted_event_stays_dead_lettered :
    let policies : SourcePolicyStore :=
      [(("t", "w", "s"), { tenantId := "t", workspaceId := "w", sourceId := "s"
                           requireCredential := false })]
    let pipeline := pipelineAfter {} policies [retriedCall (.raised "down")]
    (sourcePipeline {}).answer (retriedCall .returned) pipeline =
        some (.ok ⟨"evt-1", true, true, none⟩) ∧
      ¬DeliversOnce {} policies [retriedCall (.raised "down")] (retriedCall .returned) := by
  intro policies pipeline
  have answers : (sourcePipeline {}).answer (retriedCall .returned) pipeline =
      some (.ok ⟨"evt-1", true, true, none⟩) := by decide +kernel
  apply And.intro answers
  intro once
  exact once.exclusive _ answers ⟨rfl, rfl⟩

end Ois.Runtime
