import Ois.Library.Machine
import Ois.Sources.Gateway

/-!
# The source ledger and the idempotency store

`SQLiteSourceLedger` of `infrastructure/source_gateway/ledger.py` and `SQLiteIdempotencyStore`
of `idempotency.py`, with methods that run to their ends, and the gateway over them. What a
ledger stores as a text reads back with sorted keys.
-/

namespace Ois.Sources

open Ois.Library Ois.Kernel Command

namespace RawEvidence

/-- The columns that are unique together. -/
def observation (evidence : RawEvidence) : String × String × String × String × String :=
  (evidence.tenantId, evidence.workspaceId, evidence.sourceId, evidence.sourceRecordId,
    evidence.payloadHash)

def row (evidence : RawEvidence) : RawEvidence :=
  { evidence with payload := Json.sortKeys evidence.payload }

end RawEvidence

theorem RawEvidence.no_observations :
    (([] : List RawEvidence).map (·.observation)).Nodup := List.nodup_nil

structure SourceLedger where
  evidence : List RawEvidence := []
  distinct : (evidence.map (·.evidenceId)).Nodup := by first | exact List.nodup_nil | decide
  unique : (evidence.map (·.observation)).Nodup := by
    first | exact RawEvidence.no_observations | decide
  outbox : Outbox := {}
  deriving DecidableEq, Repr

def hashMismatch : PyError :=
  ⟨.valueError, "payload_hash does not match canonical payload"⟩

def scopesDiffer : PyError :=
  ⟨.other "PermissionError", "evidence and outbox event scopes differ"⟩

namespace SourceLedger

def Holds (evidence : RawEvidence) (ledger : SourceLedger) : Prop :=
  evidence.evidenceId ∈ ledger.evidence.map (·.evidenceId) ∨
    evidence.observation ∈ ledger.evidence.map (·.observation)

instance (evidence : RawEvidence) (ledger : SourceLedger) : Decidable (ledger.Holds evidence) :=
  inferInstanceAs (Decidable (_ ∨ _))

/-- `INSERT INTO raw_evidence`. -/
def insertEvidence (evidence : RawEvidence) (ledger : SourceLedger)
    (absent : ¬ledger.Holds evidence) : SourceLedger :=
  { ledger with
    evidence := ledger.evidence ++ [evidence.row]
    distinct := nodup_map_concat ledger.distinct fun held => absent (Or.inl held)
    unique := nodup_map_concat ledger.unique fun held => absent (Or.inr held) }

variable (sha : Hashing)

/-- `commit_ingest(evidence, event)`. -/
def commitIngest (evidence : RawEvidence) (event : OutboxEvent) (ledger : SourceLedger) :
    SourceLedger × Except PyError Bool :=
  if canonicalHash sha evidence.payload ≠ evidence.payloadHash then
    (ledger, .error hashMismatch)
  else if evidence.tenantId ≠ event.tenantId ∨ evidence.workspaceId ≠ event.workspaceId then
    (ledger, .error scopesDiffer)
  else if held : ledger.Holds evidence then (ledger, .ok false)
  else if event.eventId ∈ ledger.outbox.eventIds then (ledger, .ok false)
  else
    ({ ledger.insertEvidence evidence held with outbox := (ledger.outbox.append event).1 },
      .ok true)

variable {sha} {evidence : RawEvidence} {event : OutboxEvent} {ledger after : SourceLedger}

theorem duplicate_of_commit
    (commit : commitIngest sha evidence event ledger = (after, .ok false)) :
    after = ledger ∧ (ledger.Holds evidence ∨ event.eventId ∈ ledger.outbox.eventIds) := by
  unfold commitIngest at commit
  split_ifs at commit with mismatch scopes held taken
  · simp at commit
  · simp at commit
  · exact ⟨(Prod.mk.inj commit).1.symm, Or.inl held⟩
  · exact ⟨(Prod.mk.inj commit).1.symm, Or.inr taken⟩
  · simp at commit

theorem stored_of_commit
    (commit : commitIngest sha evidence event ledger = (after, .ok true)) :
    after.evidence = ledger.evidence ++ [evidence.row] ∧
      after.outbox.rows = ledger.outbox.rows ++ [Outbox.rowOf event] ∧
      ¬ledger.Holds evidence ∧ event.eventId ∉ ledger.outbox.eventIds := by
  unfold commitIngest at commit
  split_ifs at commit with mismatch scopes held taken
  · simp at commit
  · simp at commit
  · simp at commit
  · simp at commit
  · rw [← (Prod.mk.inj commit).1]
    apply And.intro rfl
    apply And.intro _ ⟨held, taken⟩
    change ((Outbox.append event ledger.outbox).1).rows = _
    rw [Outbox.append, dif_neg taken]

theorem unchanged_of_commit {err : PyError}
    (commit : commitIngest sha evidence event ledger = (after, .error err)) :
    after = ledger := by
  unfold commitIngest at commit
  split_ifs at commit with mismatch scopes held taken
  · exact (Prod.mk.inj commit).1.symm
  · exact (Prod.mk.inj commit).1.symm
  · simp at commit
  · simp at commit
  · simp at commit

/-- `mark_published(event_id)` at `now`. -/
def markPublished (eventId : String) (now : DateTime) (ledger : SourceLedger) : SourceLedger :=
  { ledger with outbox := ledger.outbox.markPublished eventId now }

end SourceLedger

/-- The rows of `source_idempotency`: the event of a claim, and when it was made. -/
abbrev IdempotencyClaims := Dict ClaimKey (String × DateTime)

namespace IdempotencyClaims

/-- `claim(...)` at `now`. -/
def claim (key : ClaimKey) (eventId : String) (now : DateTime) (claims : IdempotencyClaims) :
    IdempotencyClaims × Bool :=
  if (claims.lookup key).isSome then (claims, false)
  else (claims ++ [(key, eventId, now)], true)

/-- `release(...)`. -/
def release (key : ClaimKey) (eventId : String) (claims : IdempotencyClaims) :
    IdempotencyClaims × Bool :=
  let kept := claims.filter fun entry => ¬(entry.1 = key ∧ entry.2.1 = eventId)
  (kept, claims.length == kept.length + 1)

theorem release_of_claim {key : ClaimKey} {claims : IdempotencyClaims} (eventId : String)
    (now : DateTime) (free : claims.lookup key = none) :
    (release key eventId (claims ++ [(key, eventId, now)])).1 = claims := by
  have others : claims.filter (fun entry => ¬(entry.1 = key ∧ entry.2.1 = eventId)) = claims := by
    rw [List.filter_eq_self]
    intro entry mem
    simp only [decide_eq_true_eq, not_and]
    intro same
    have unlike := List.lookup_eq_none_iff.mp free entry mem
    simp [same] at unlike
  rw [release, List.filter_append, others]
  simp

end IdempotencyClaims

structure LedgerMethods (Ledger : Type) where
  commitIngest : RawEvidence → OutboxEvent → Ledger → Ledger × Except PyError Bool
  pending : Int → Ledger → Except PyError (List OutboxEvent)
  markPublished : String → DateTime → Ledger → Ledger × Except PyError Unit

def sqliteSourceLedger (sha : Hashing) : LedgerMethods SourceLedger :=
  { commitIngest := SourceLedger.commitIngest sha
    pending := fun limit ledger => .ok (ledger.outbox.pending limit)
    markPublished := fun eventId now ledger => (ledger.markPublished eventId now, .ok ()) }

structure GatewayState (Ledger : Type) where
  ledger : Ledger
  claims : IdempotencyClaims := []
  processed : List CanonicalSourceEvent := []

structure GatewayBuild where
  idempotent : Bool
  pipeline : Bool
  deriving DecidableEq, Repr

/-- A call of `ingest`, with what it meets. -/
structure IngestCall where
  request : SourceRequest
  admission : Admission := .admitted false
  stamps : Stamps
  result : Except PyError PipelineResult := .ok { accepted := true }

open IngestCall

/-- An admitted request with an empty payload. -/
def ingestOf (tenant spaceId : String) (key : Option String := none) : IngestCall :=
  { request := SourceRequest.postInit
      { tenantId := tenant, workspaceId := spaceId, sourceType := "rss"
        sourceRecordId := "1", idempotencyKey := key }
    stamps := .epoch }

inductive GatewayCall where
  | ingest (call : IngestCall)
  | pending (limit : Int)
  | markPublished (eventId : String) (now : DateTime)

inductive GatewayAnswer where
  | response (res : Except PyError SourceResponse)
  | events (events : Except PyError (List OutboxEvent))
  | marked (res : Except PyError Unit)
  deriving DecidableEq, Repr

section gateway

variable {Ledger : Type} (sha : Hashing) (methods : LedgerMethods Ledger) (build : GatewayBuild)

def commitOn (evidence : RawEvidence) (event : OutboxEvent) :
    Command PyError (GatewayState Ledger) Bool := do
  let (ledger, accepted) := methods.commitIngest evidence event (← get).ledger
  modify fun state => { state with ledger := ledger }
  MonadExcept.ofExcept accepted

def claimsOn (now : DateTime) : IdempotencyParts (GatewayState Ledger) :=
  { claim := fun key eventId => modifyGet fun state =>
      let (claims, claimed) := state.claims.claim key eventId now
      (claimed, { state with claims := claims })
    get := fun key => return ((← get).claims.lookup key).map (·.1)
    release := fun key eventId => modifyGet fun state =>
      let (claims, released) := state.claims.release key eventId
      (released, { state with claims := claims }) }

def processOn (res : Except PyError PipelineResult) (event : CanonicalSourceEvent) :
    Command PyError (GatewayState Ledger) PipelineResult := do
  modify fun state => { state with processed := state.processed ++ [event] }
  MonadExcept.ofExcept res

def partsOn (call : IngestCall) : GatewayParts (GatewayState Ledger) :=
  { idempotency := if build.idempotent then some (claimsOn call.stamps.claimedAt) else none
    persistence := .ledger (commitOn methods)
    process := if build.pipeline then some fun event _ => processOn call.result event else none }

def ingestOn (call : IngestCall) : Command PyError (GatewayState Ledger) SourceResponse :=
  gatewayIngest sha (partsOn methods build call) call.stamps call.request call.admission

def IngestCall.key (call : IngestCall) : Option ClaimKey :=
  if build.idempotent then
    (call.request.idempotencyKey.filter (· ≠ "")).map call.request.claimKey
  else none

/-- What is answered once the ledger accepted the request. -/
def IngestCall.processed (call : IngestCall) : Except PyError SourceResponse :=
  if build.pipeline then
    call.result.map fun res =>
      call.request.response sha true (if res.accepted then none else res.reason)
  else .ok (call.request.response sha true none)

def IngestCall.acceptedState (call : IngestCall) (ledger : Ledger) (state : GatewayState Ledger) :
    GatewayState Ledger :=
  { ledger := ledger
    claims := state.claims ++ ((call.key build).map fun key =>
        (key, call.request.eventId sha, call.stamps.claimedAt)).toList
    processed := state.processed ++
      if build.pipeline then [call.request.canonicalEvent sha call.stamps.observedAt] else [] }

def IngestCall.commit (call : IngestCall) (ledger : Ledger) : Ledger × Except PyError Bool :=
  methods.commitIngest (call.request.evidence sha call.stamps.collectedAt call.stamps.runId)
    (call.request.event sha call.stamps.provenanceAt call.stamps.createdAt) ledger

variable (call : IngestCall)

theorem IngestCall.commit_ne_error {ledger after : SourceLedger}
    {err : PyError} :
    call.commit sha (sqliteSourceLedger sha) ledger ≠ (after, .error err) := by
  intro commit
  change SourceLedger.commitIngest sha _ _ ledger = _ at commit
  unfold SourceLedger.commitIngest at commit
  split_ifs at commit with mismatch scopes held taken
  · exact mismatch rfl
  · exact scopes.elim (· rfl) (· rfl)
  · simp at commit
  · simp at commit
  · simp at commit

/-- What `ingest` answers and leaves. -/
inductive Ingested (call : IngestCall) (state : GatewayState Ledger) :
    Except PyError SourceResponse → GatewayState Ledger → Prop where
  | raised (err : PyError) (met : call.admission = .raised err) :
      Ingested call state (.error err) state
  | refused (refusal : Refusal) (met : call.admission = .refused refusal) :
      Ingested call state (.ok ⟨false, "", "", "", some refusal.reason⟩) state
  | claimed (verified : Bool) (key : ClaimKey) (claim : String × DateTime)
      (met : call.admission = .admitted verified) (own : call.key build = some key)
      (held : state.claims.lookup key = some claim) :
      Ingested call state (.ok (claimedBefore sha call.request (some claim.1))) state
  | failed (verified : Bool) (ledger : Ledger) (err : PyError)
      (met : call.admission = .admitted verified)
      (free : ∀ key ∈ call.key build, state.claims.lookup key = none)
      (commit : call.commit sha methods state.ledger = (ledger, .error err)) :
      Ingested call state (.error err) { state with ledger := ledger }
  | duplicate (verified : Bool) (ledger : Ledger) (met : call.admission = .admitted verified)
      (free : ∀ key ∈ call.key build, state.claims.lookup key = none)
      (commit : call.commit sha methods state.ledger = (ledger, .ok false)) :
      Ingested call state (.ok (call.request.response sha false (some "duplicate_evidence")))
        { state with ledger := ledger }
  | accepted (verified : Bool) (ledger : Ledger) (met : call.admission = .admitted verified)
      (free : ∀ key ∈ call.key build, state.claims.lookup key = none)
      (commit : call.commit sha methods state.ledger = (ledger, .ok true)) :
      Ingested call state (call.processed sha build)
        (call.acceptedState sha build ledger state)

def sourceGateway : Machine GatewayCall (GatewayState Ledger) GatewayAnswer
  | .ingest call, state =>
    ((ingestOn sha methods build call).stateAfter state,
      .response ((ingestOn sha methods build call).outcome state))
  | .pending limit, state => (state, .events (methods.pending limit state.ledger))
  | .markPublished eventId now, state =>
    let (ledger, res) := methods.markPublished eventId now state.ledger
    ({ state with ledger := ledger }, .marked res)

theorem claimed_of_key {State : Type} {parts : GatewayParts State} {store : IdempotencyParts State}
    (built : parts.idempotency = if build.idempotent then some store else none)
    (call : IngestCall) :
    claimed parts call.request = (call.key build).map fun key => (key, store) := by
  unfold claimed key
  rw [built]
  cases build.idempotent with
  | false => cases call.request.idempotencyKey <;> rfl
  | true =>
    cases call.request.idempotencyKey with
    | none => rfl
    | some key =>
      by_cases empty : key = ""
      · simp [empty]
      · simp [empty, Option.filter]

theorem commit_and_process_ends (verified : Bool)
    {release : Command PyError (GatewayState Ledger) Unit}
    (unclaim : GatewayState Ledger → GatewayState Ledger)
    (gives : ∀ state, release state = .ok () (unclaim state))
    (law : Except PyError SourceResponse → GatewayState Ledger → Prop)
    (state : GatewayState Ledger)
    (failed : ∀ ledger err, call.commit sha methods state.ledger = (ledger, .error err) →
      law (.error err) (unclaim { state with ledger := ledger }))
    (duplicate : ∀ ledger, call.commit sha methods state.ledger = (ledger, .ok false) →
      law (.ok (call.request.response sha false (some "duplicate_evidence")))
      (unclaim { state with ledger := ledger }))
    (accepted : ∀ ledger, call.commit sha methods state.ledger = (ledger, .ok true) →
      law (call.processed sha build)
      { state with
      ledger := ledger
      processed := state.processed ++ if build.pipeline then
      [call.request.canonicalEvent sha call.stamps.observedAt] else [] }) :
    Command.Ends (commitAndProcess sha (partsOn methods build call) call.stamps call.request
      release verified)
      (fun value => law (.ok value)) (fun err => law (.error err)) state := by
  have released : ∀ (ret : Unit → GatewayState Ledger → Prop)
      (raised : PyError → GatewayState Ledger → Prop) other,
      Command.Ends release ret raised other ↔ ret () (unclaim other) := by
    intro ret raised other
    rw [Command.Ends, gives]
  cases commit : call.commit sha methods state.ledger with
  | mk ledger out =>
    have committed : methods.commitIngest
        (call.request.evidence sha call.stamps.collectedAt call.stamps.runId)
        (call.request.event sha call.stamps.provenanceAt call.stamps.createdAt)
        state.ledger = (ledger, out) := commit
    unfold commitAndProcess
    simp only [partsOn, Persistence.persist, commitOn, ends_bind,
      ends_try_catch, ends_get, committed, ends_modify]
    cases out with
    | error err =>
      simp only [ends_of_error, ends_bind, released, ends_throw]
      exact failed ledger err commit
    | ok taken =>
      simp only [ends_of_ok]
      cases taken with
      | false =>
        simp only [Bool.false_eq_true, if_false, ends_bind, released, ends_pure]
        exact duplicate ledger commit
      | true =>
        have law_holds := accepted ledger commit
        unfold processed at law_holds
        simp only [if_true, processAccepted]
        cases piped : build.pipeline with
        | false =>
          simp only [piped, Bool.false_eq_true, if_false, List.append_nil] at law_holds ⊢
          exact law_holds
        | true =>
          simp only [piped, if_true, processOn, ends_bind, ends_modify] at law_holds ⊢
          cases res : call.result with
          | error err =>
            rw [res] at law_holds
            exact law_holds
          | ok answer =>
            rw [res] at law_holds
            simp only [ends_of_ok]
            split_ifs with took
            · simp only [Except.map, took, if_true] at law_holds
              exact law_holds
            · simp only [Except.map, if_neg took] at law_holds
              exact law_holds

theorem ingest_ingested (state : GatewayState Ledger) :
    Ingested sha methods build call state ((ingestOn sha methods build call).outcome state)
      ((ingestOn sha methods build call).stateAfter state) := by
  apply Command.Ends.outcome (fun out after =>
    Ingested sha methods build call state out after)
  unfold ingestOn gatewayIngest
  cases met : call.admission with
  | raised err => exact .raised err met
  | refused refusal => exact .refused refusal met
  | admitted verified =>
    have claims : (partsOn methods build call).idempotency =
        if build.idempotent then some (claimsOn call.stamps.claimedAt) else none := rfl
    simp only [claimed_of_key build claims]
    cases own : call.key build with
    | none =>
      have free : ∀ key ∈ call.key build, state.claims.lookup key = none := by simp [own]
      apply commit_and_process_ends sha methods build call verified id (fun _ => rfl)
        (fun out after => Ingested sha methods build call state out after)
      · exact fun ledger err commit => .failed verified ledger err met free commit
      · exact fun ledger commit => .duplicate verified ledger met free commit
      · intro ledger commit
        have done : Ingested sha methods build call state _ _ :=
          .accepted verified ledger met free commit
        simpa [acceptedState, own] using done
    | some key =>
      rw [Option.map_some]
      simp only [claimsOn, ends_bind, ends_modify_get]
      cases held : state.claims.lookup key with
      | some claim =>
        simp only [IdempotencyClaims.claim, held, Option.isSome_some, if_true,
          Bool.false_eq_true, if_false, ends_bind, ends_get,
          ends_pure, Option.map_some]
        exact .claimed verified key claim met own held
      | none =>
        have free : ∀ other ∈ call.key build, state.claims.lookup other = none := by
          simpa [own] using held
        simp only [IdempotencyClaims.claim, held, Option.isSome_none, Bool.false_eq_true,
          if_false, if_true]
        have back := IdempotencyClaims.release_of_claim (call.request.eventId sha)
          call.stamps.claimedAt held
        apply commit_and_process_ends sha methods build call verified (fun after => { after with
            claims := (after.claims.release key (call.request.eventId sha)).1 })
          (fun _ => rfl)
          (fun out after => Ingested sha methods build call state out after)
        · intro ledger err commit
          simp only [back]
          exact .failed verified ledger err met free commit
        · intro ledger commit
          simp only [back]
          exact .duplicate verified ledger met free commit
        · intro ledger commit
          have done : Ingested sha methods build call state _ _ :=
            .accepted verified ledger met free commit
          simpa [acceptedState, own] using done

def IngestCall.holder (call : IngestCall) (claims : IdempotencyClaims) :
    Option (String × DateTime) :=
  (call.key build).bind fun key => claims.lookup key

/-- What `ingest` comes to, in terms of its commit. -/
def IngestCall.settled (call : IngestCall) (state : GatewayState Ledger) :
    Except PyError SourceResponse × GatewayState Ledger :=
  match call.admission with
  | .raised err => (.error err, state)
  | .refused refusal => (.ok ⟨false, "", "", "", some refusal.reason⟩, state)
  | .admitted _ =>
    match call.holder build state.claims with
    | some claim => (.ok (claimedBefore sha call.request (some claim.1)), state)
    | none =>
      match call.commit sha methods state.ledger with
      | (ledger, .error err) => (.error err, { state with ledger := ledger })
      | (ledger, .ok false) =>
        (.ok (call.request.response sha false (some "duplicate_evidence")),
          { state with ledger := ledger })
      | (ledger, .ok true) =>
        (call.processed sha build, call.acceptedState sha build ledger state)

theorem holder_of_free {call : IngestCall} {claims : IdempotencyClaims}
    (free : ∀ key ∈ call.key build, claims.lookup key = none) :
    call.holder build claims = none := by
  unfold holder
  cases own : call.key build with
  | none => rfl
  | some key => exact free key own

theorem holder_of_held {call : IngestCall} {claims : IdempotencyClaims} {key : ClaimKey}
    {claim : String × DateTime} (own : call.key build = some key)
    (held : claims.lookup key = some claim) : call.holder build claims = some claim := by
  rw [holder, own]
  exact held

theorem ingest_settled (state : GatewayState Ledger) :
    ((ingestOn sha methods build call).outcome state,
      (ingestOn sha methods build call).stateAfter state) =
      call.settled sha methods build state := by
  have ingested := ingest_ingested sha methods build call state
  generalize (ingestOn sha methods build call).outcome state = out at *
  generalize (ingestOn sha methods build call).stateAfter state = after at *
  unfold settled
  cases ingested with
  | raised err met => simp only [met]
  | refused refusal met => simp only [met]
  | claimed verified key claim met own held => simp only [met, holder_of_held build own held]
  | failed verified ledger err met free commit | duplicate verified ledger met free commit
  | accepted verified ledger met free commit =>
    simp only [met, holder_of_free build free, commit]

end gateway

end Ois.Sources
