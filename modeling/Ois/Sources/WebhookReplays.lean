import Ois.Library.Histories
import Ois.Library.JsonScan
import Ois.Sources.Ledger
import Ois.Sources.PollingAdapter

/-!
# Signed webhooks that are sent again

`WebhookSecurity` of `source_gateway/webhook_security.py` and `WebhookGateway` of
`source_adapters/webhook_gateway.py`, before the source gateway. The replay store is missing, a
store of its own, or the idempotency store of the gateway.
-/

namespace Ois.Sources

open Ois.Library Ois.Kernel

structure WebhookPrimitives (Real : Type) where
  /-- `float(text)`; `none` is its `ValueError`. -/
  float : String → Option Real
  sub : Real → Real → Real
  abs : Real → Real
  exceeds : Real → Int → Bool
  /-- `hmac.new(secret, signed, hashlib.sha256).hexdigest()`. -/
  hexdigest : List UInt8 → List UInt8 → String
  double : List Char → UInt64
  reprFloat : UInt64 → String

structure WebhookSecurityPolicy where
  secret : List UInt8
  maxAgeSeconds : Int := 300
  algorithm : String := "sha256"
  signaturePrefix : String := "sha256="
  valid : secret ≠ [] ∧ algorithm = "sha256" ∧ 0 < maxAgeSeconds

structure WebhookRequest where
  tenantId : String
  workspaceId : String
  sourceId : String
  recordId : String
  body : List UInt8
  signature : String
  timestamp : String
  idempotencyKey : String
  filled : tenantId ≠ "" ∧ workspaceId ≠ "" ∧ sourceId ≠ "" ∧ recordId ≠ "" ∧ idempotencyKey ≠ ""

inductive ReplayStore where
  | missing
  | separate
  | shared
  deriving DecidableEq, Repr

structure WebhookGateway where
  policy : WebhookSecurityPolicy
  replayStore : ReplayStore
  build : GatewayBuild
  maxBodyBytes : Nat := 1048576
  positive : 0 < maxBodyBytes := by decide

structure WebhookState where
  gateway : GatewayState SourceLedger
  replays : IdempotencyClaims := []

def WebhookState.start : WebhookState := { gateway := { ledger := {} } }

structure WebhookCall (Real : Type) where
  request : WebhookRequest
  clock : Real
  reservedAt : DateTime := .epoch
  admission : Admission := .admitted false
  unleased : admission ≠ .refused .invalidRateLimitLease := by decide
  stamps : Stamps := .epoch
  commitFault : Option PyError := none
  result : Except PyError PipelineResult := .ok { accepted := true }

def faultyLedger (sha : Hashing) (fault : Option PyError) : LedgerMethods SourceLedger :=
  { sqliteSourceLedger sha with
    commitIngest := fun evidence event ledger =>
      match fault with
      | some err => (ledger, .error err)
      | none => SourceLedger.commitIngest sha evidence event ledger }

/-- `text.removeprefix(start)`. -/
def removeprefix (start text : String) : String :=
  if start.toList.isPrefixOf text.toList then String.ofList (text.toList.drop start.length)
  else text

/-- `hmac.compare_digest(left, right)` of two texts. -/
def compareDigest (left right : String) : Except PyError Bool :=
  if (left ++ right).toList.all fun char => decide (char.toNat < 128) then .ok (left == right)
  else .error ⟨.other "TypeError", "comparing strings with non-ASCII characters is not supported"⟩

def WebhookRequest.claimKey (req : WebhookRequest) : ClaimKey :=
  (req.tenantId, req.workspaceId, req.idempotencyKey)

section hooks

variable {Real : Type} (sha : Hashing) (prims : WebhookPrimitives Real)
  (hooks : WebhookGateway)

/-- `verify(...)`, up to the replay store. -/
def authentic (policy : WebhookSecurityPolicy) (clock : Real) (req : WebhookRequest) :
    Except PyError Bool :=
  match prims.float req.timestamp with
  | none => .ok false
  | some observed =>
    if prims.exceeds (prims.abs (prims.sub clock observed))
        policy.maxAgeSeconds then .ok false
    else
      let signed := (req.timestamp ++ ".").toUTF8.toList ++ req.body
      compareDigest
        ( removeprefix policy.signaturePrefix req.signature)
        (prims.hexdigest policy.secret signed)

namespace WebhookGateway

def reservations (state : WebhookState) : IdempotencyClaims :=
  match hooks.replayStore with
  | .missing => []
  | .separate => state.replays
  | .shared => state.gateway.claims

/-- `replay_store.claim(...)`, or no store. -/
def reserve (req : WebhookRequest) (now : DateTime) (state : WebhookState) :
    WebhookState × Bool :=
  match hooks.replayStore with
  | .missing => (state, true)
  | .separate =>
    let (replays, claimed) := state.replays.claim req.claimKey req.idempotencyKey now
    ({ state with replays := replays }, claimed)
  | .shared =>
    let (claims, claimed) :=
      state.gateway.claims.claim req.claimKey req.idempotencyKey now
    ({ state with gateway := { state.gateway with claims := claims } }, claimed)

/-- `release(...)`. -/
def release (req : WebhookRequest) (state : WebhookState) : WebhookState :=
  match hooks.replayStore with
  | .missing => state
  | .separate =>
    { state with
      replays := (state.replays.release req.claimKey req.idempotencyKey).1 }
  | .shared =>
    { state with
      gateway := { state.gateway with
        claims := (state.gateway.claims.release req.claimKey req.idempotencyKey).1 } }

def verify (call : WebhookCall Real) (state : WebhookState) : WebhookState × Except PyError Bool :=
  match authentic prims hooks.policy call.clock call.request with
  | .error err => (state, .error err)
  | .ok false => (state, .ok false)
  | .ok true =>
    let (state, claimed) := hooks.reserve call.request call.reservedAt state
    (state, .ok claimed)

end WebhookGateway

def readBody (body : List UInt8) : Except PyError Members :=
  match (String.fromUTF8? ⟨body.toArray⟩).bind (JsonScan.loads? prims.double) with
  | none => .error ⟨.valueError, "webhook payload must be valid JSON"⟩
  | some (.obj payload) => .ok payload
  | some _ => .error ⟨.valueError, "webhook payload must be a JSON object"⟩

def WebhookRequest.sourceRequest (req : WebhookRequest) (payload : Members) : SourceRequest :=
  SourceRequest.postInit
    { tenantId := req.tenantId
      workspaceId := req.workspaceId
      sourceId := req.sourceId
      sourceRecordId := req.recordId
      payload := some payload
      connectorVersion := "webhook-v2"
      schemaVersion := "source.event.v1"
      idempotencyKey := some req.idempotencyKey
      eventType := strOf prims.reprFloat
        ((payload.lookup "type").getD (.str "source.webhook")) }

def WebhookCall.ingestCall (call : WebhookCall Real) (payload : Members) : IngestCall :=
  { request := call.request.sourceRequest prims payload
    admission := call.admission
    stamps := call.stamps
    result := call.result }

def adapterResult (source : String) (response : SourceResponse) : AdapterResult :=
  { sourceId := source
    records := if response.accepted then 1 else 0
    evidenceIds := if response.accepted then [response.evidenceId] else []
    eventIds := if response.accepted then [response.eventId] else []
    payloadHashes := if response.accepted then [response.payloadHash] else [] }

namespace WebhookGateway

/-- `gateway.ingest(...)`, and the release of the replay key where it raises. -/
def deliver (call : WebhookCall Real) (payload : Members) (state : WebhookState) :
    WebhookState × Except PyError AdapterResult :=
  let ingest := ingestOn sha (faultyLedger sha call.commitFault) hooks.build
    (call.ingestCall prims payload)
  let after := { state with gateway := ingest.stateAfter state.gateway }
  match ingest.outcome state.gateway with
  | .error err => (hooks.release call.request after, .error err)
  | .ok response => (after, .ok (adapterResult call.request.sourceId response))

def receive : Machine (WebhookCall Real) WebhookState (Except PyError AdapterResult) :=
  fun call state =>
    if hooks.maxBodyBytes < call.request.body.length then
      (state, .error ⟨.valueError, "webhook payload exceeds configured size limit"⟩)
    else
      match hooks.verify prims call state with
      | (state, .error err) => (state, .error err)
      | (state, .ok false) =>
        (state, .error ⟨.permissionError, "invalid or replayed webhook"⟩)
      | (state, .ok true) =>
        match readBody prims call.request.body with
        | .error err => (state, .error err)
        | .ok payload => hooks.deliver sha prims call payload state

end WebhookGateway

end hooks

open IdempotencyClaims IngestCall SourceLedger Machine

section deliveries

variable {Real : Type} (sha : Hashing) (prims : WebhookPrimitives Real)
  (hooks : WebhookGateway)

def EvidenceHeld (req : SourceRequest) (ledger : SourceLedger) : Prop :=
  req.evidenceId sha ∈ ledger.evidence.map (·.evidenceId) ∨
    (req.tenantId, req.workspaceId, req.sourceId, req.sourceRecordId,
      req.payloadHash sha) ∈ ledger.evidence.map (·.observation) ∨
    req.eventId sha ∈ ledger.outbox.eventIds

instance (req : SourceRequest) (ledger : SourceLedger) :
    Decidable (EvidenceHeld sha req ledger) :=
  inferInstanceAs (Decidable (_ ∨ _ ∨ _))

def TakesIn (req : SourceRequest) (ledger after : SourceLedger) : Prop :=
  (∃ evidence, after.evidence = ledger.evidence ++ [evidence] ∧
    evidence.evidenceId = req.evidenceId sha ∧
      evidence.observation = (req.tenantId, req.workspaceId, req.sourceId,
        req.sourceRecordId, req.payloadHash sha)) ∧
    after.outbox.eventIds = ledger.outbox.eventIds ++ [req.eventId sha]

theorem ne_of_takes_in {req : SourceRequest} {ledger after : SourceLedger}
    (grown : TakesIn sha req ledger after) : after ≠ ledger := by
  intro same
  have events := congrArg List.length grown.2
  rw [same, List.length_append] at events
  simp at events

def ClaimHeld (req : WebhookRequest) (claims : IdempotencyClaims) : Prop :=
  hooks.build.idempotent = true ∧ (claims.lookup req.claimKey).isSome

instance (req : WebhookRequest) (claims : IdempotencyClaims) :
    Decidable (ClaimHeld hooks req claims) :=
  inferInstanceAs (Decidable (_ ∧ _))

/-- What is left once `ingest` is over: where it raises, the replay key is released. -/
def WebhookGateway.leave (req : WebhookRequest) (answer : Except PyError AdapterResult)
    (state : WebhookState) : WebhookState :=
  match answer with
  | .ok _ => state
  | .error _ => hooks.release req state

inductive Delivered (call : WebhookCall Real) (payload : Members) (state : WebhookState) :
    WebhookState → Except PyError AdapterResult → Prop where
  | raised (err : PyError) (met : call.admission = .raised err) :
      Delivered call payload state (hooks.release call.request state) (.error err)
  | refused (refusal : Refusal) (res : AdapterResult)
      (met : call.admission = .refused refusal) (empty : res.records = 0) :
      Delivered call payload state state (.ok res)
  | claimed (verified : Bool) (res : AdapterResult) (met : call.admission = .admitted verified)
      (held : ClaimHeld hooks call.request state.gateway.claims) (empty : res.records = 0) :
      Delivered call payload state state (.ok res)
  | failed (verified : Bool) (err : PyError) (met : call.admission = .admitted verified)
      (free : ¬ClaimHeld hooks call.request state.gateway.claims)
      (fault : call.commitFault = some err) :
      Delivered call payload state (hooks.release call.request state) (.error err)
  | duplicate (verified : Bool) (res : AdapterResult) (met : call.admission = .admitted verified)
      (free : ¬ClaimHeld hooks call.request state.gateway.claims)
      (clear : call.commitFault = none)
      (held : EvidenceHeld sha (call.request.sourceRequest prims payload)
        state.gateway.ledger) (empty : res.records = 0) :
      Delivered call payload state state (.ok res)
  | stored (verified : Bool) (ledger : SourceLedger) (answer : Except PyError AdapterResult)
      (met : call.admission = .admitted verified)
      (free : ¬ClaimHeld hooks call.request state.gateway.claims)
      (clear : call.commitFault = none)
      (fresh : ¬EvidenceHeld sha (call.request.sourceRequest prims payload)
        state.gateway.ledger)
      (grown : TakesIn sha (call.request.sourceRequest prims payload)
        state.gateway.ledger ledger)
      (processed : answer = ((call.ingestCall prims payload).processed sha
        hooks.build).map (adapterResult call.request.sourceId)) :
      Delivered call payload state (hooks.leave call.request answer { state with
          gateway := (call.ingestCall prims payload).acceptedState sha hooks.build
            ledger state.gateway })
        answer

variable (call : WebhookCall Real) (payload : Members) (state : WebhookState)

section commits

variable {sha prims hooks call payload}

theorem key_of_webhook :
    (call.ingestCall prims payload).key hooks.build =
      if hooks.build.idempotent then some call.request.claimKey else none := by
  have named := call.request.filled.2.2.2.2
  unfold key
  cases hooks.build.idempotent with
  | false => rfl
  | true => simp [WebhookCall.ingestCall, WebhookRequest.sourceRequest, SourceRequest.postInit,
      SourceRequest.claimKey, WebhookRequest.claimKey, Option.filter, named]

theorem holder_iff (prims : WebhookPrimitives Real) (call : WebhookCall Real)
    (payload : Members) (claims : IdempotencyClaims) :
    ((call.ingestCall prims payload).holder hooks.build claims).isSome ↔
      ClaimHeld hooks call.request claims := by
  unfold holder ClaimHeld
  rw [key_of_webhook]
  cases hooks.build.idempotent with
  | false => simp
  | true => simp

theorem holds_evidence_iff (req : SourceRequest) (stamps : Stamps) (ledger : SourceLedger) :
    (ledger.Holds (req.evidence sha stamps.collectedAt stamps.runId) ∨
      req.eventId sha ∈ ledger.outbox.eventIds) ↔
      EvidenceHeld sha req ledger := by
  unfold SourceLedger.Holds EvidenceHeld
  rw [or_assoc]
  rfl

theorem takes_in_of_commit (req : SourceRequest) (stamps : Stamps) {ledger after : SourceLedger}
    (commit : commitIngest sha (req.evidence sha stamps.collectedAt stamps.runId)
      (req.event sha stamps.provenanceAt stamps.createdAt) ledger = (after, .ok true)) :
    TakesIn sha req ledger after ∧ ¬EvidenceHeld sha req ledger := by
  obtain ⟨rows, events, absent, unused⟩ := stored_of_commit commit
  constructor
  · constructor
    · exact ⟨_, rows, rfl, rfl⟩
    · rw [Outbox.eventIds, events, List.map_append]
      rfl
  · rw [← holds_evidence_iff req stamps]
    intro held
    exact held.elim absent unused

end commits

theorem deliver_eq :
    hooks.deliver sha prims call payload state =
      match (call.ingestCall prims payload).settled sha
      (faultyLedger sha call.commitFault) hooks.build state.gateway with
      | (.error err, gateway) =>
      (hooks.release call.request { state with gateway := gateway }, .error err)
      | (.ok response, gateway) =>
      ({ state with gateway := gateway },
      .ok (adapterResult call.request.sourceId response)) := by
  rw [← ingest_settled]
  unfold WebhookGateway.deliver
  dsimp only
  cases (ingestOn sha (faultyLedger sha call.commitFault) hooks.build
    (call.ingestCall prims payload)).outcome state.gateway <;> rfl

theorem commit_delivered (verified : Bool) (met : call.admission = .admitted verified)
    (free : ¬ClaimHeld hooks call.request state.gateway.claims)
    (holder : (call.ingestCall prims payload).holder hooks.build state.gateway.claims =
      none) :
    Delivered sha prims hooks call payload state
      (hooks.deliver sha prims call payload state).1
      (hooks.deliver sha prims call payload state).2 := by
  have admission : (call.ingestCall prims payload).admission = .admitted verified := met
  rw [deliver_eq]
  unfold settled
  simp only [admission, holder]
  cases fault : call.commitFault with
  | some err => exact .failed verified err met free fault
  | none =>
    have plain : (call.ingestCall prims payload).commit sha
        (faultyLedger sha none) state.gateway.ledger = commitIngest sha
            ((call.request.sourceRequest prims payload).evidence sha
              call.stamps.collectedAt call.stamps.runId)
            ((call.request.sourceRequest prims payload).event sha
              call.stamps.provenanceAt call.stamps.createdAt) state.gateway.ledger := rfl
    rw [plain]
    cases commit : commitIngest sha
        ((call.request.sourceRequest prims payload).evidence sha
          call.stamps.collectedAt call.stamps.runId)
        ((call.request.sourceRequest prims payload).event sha
          call.stamps.provenanceAt call.stamps.createdAt) state.gateway.ledger with
    | mk ledger out =>
      cases out with
      | error err =>
        exact absurd commit (commit_ne_error sha (call.ingestCall prims payload))
      | ok taken =>
        cases taken with
        | false =>
          obtain ⟨same, held⟩ := duplicate_of_commit commit
          rw [same]
          exact .duplicate verified _ met free fault
            ((holds_evidence_iff _ call.stamps _).mp held) rfl
        | true =>
          obtain ⟨grown, fresh⟩ := takes_in_of_commit _ call.stamps commit
          cases processed : (call.ingestCall prims payload).processed sha
              hooks.build with
          | error err =>
            exact .stored verified ledger (.error err) met free fault fresh grown
              (by rw [processed]; rfl)
          | ok response =>
            exact .stored verified ledger (.ok _) met free fault fresh grown
              (by rw [processed]; rfl)

theorem deliver_delivered :
    Delivered sha prims hooks call payload state
      (hooks.deliver sha prims call payload state).1
      (hooks.deliver sha prims call payload state).2 := by
  have admission : (call.ingestCall prims payload).admission = call.admission := rfl
  cases met : call.admission with
  | raised err =>
    rw [deliver_eq]
    unfold settled
    simp only [admission, met]
    exact .raised err met
  | refused refusal =>
    rw [deliver_eq]
    unfold settled
    simp only [admission, met]
    exact .refused refusal _ met rfl
  | admitted verified =>
    have exactly : _ ↔ ClaimHeld hooks call.request state.gateway.claims :=
      holder_iff prims call payload state.gateway.claims
    cases holder : (call.ingestCall prims payload).holder hooks.build
        state.gateway.claims with
    | some claim =>
      rw [holder] at exactly
      rw [deliver_eq]
      unfold settled
      simp only [admission, met, holder]
      exact .claimed verified _ met (exactly.mp rfl) rfl
    | none =>
      apply commit_delivered sha prims hooks call payload state verified met _ holder
      intro held
      have found := exactly.mpr held
      rw [holder] at found
      cases found

end deliveries

/-- What a signature covers, in the scope of its request. -/
abbrev SignedBody := String × String × String × List UInt8

def WebhookRequest.signed (req : WebhookRequest) : SignedBody :=
  (req.tenantId, req.workspaceId, req.timestamp, req.body)

section resending

variable {Real : Type} (sha : Hashing) (prims : WebhookPrimitives Real)
  (hooks : WebhookGateway)

namespace WebhookGateway

def Reserved (req : WebhookRequest) (state : WebhookState) : Prop :=
  ((hooks.reservations state).lookup req.claimKey).isSome

instance (req : WebhookRequest) (state : WebhookState) :
    Decidable (hooks.Reserved req state) :=
  inferInstanceAs (Decidable (_ = true))

def Verified (call : WebhookCall Real) (state : WebhookState) : Prop :=
  call.request.body.length ≤ hooks.maxBodyBytes ∧
    authentic prims hooks.policy call.clock call.request = .ok true ∧
      ¬hooks.Reserved call.request state

def reserved (call : WebhookCall Real) (state : WebhookState) : WebhookState :=
  (hooks.reserve call.request call.reservedAt state).1

variable {sha prims hooks} {call : WebhookCall Real} {state : WebhookState}

theorem reserve_of_free (free : ¬hooks.Reserved call.request state) :
    hooks.reserve call.request call.reservedAt state = (hooks.reserved call state, true) := by
  unfold Reserved reservations at free
  unfold reserved reserve
  cases store : hooks.replayStore with
  | missing => rfl
  | separate | shared =>
    simp only [store] at free
    simp only [claim, if_neg free]

theorem reserve_of_held (held : hooks.Reserved call.request state) :
    hooks.reserve call.request call.reservedAt state = (state, false) := by
  unfold Reserved reservations at held
  unfold reserve
  cases store : hooks.replayStore with
  | missing => simp [store] at held
  | separate | shared =>
    simp only [store] at held
    simp only [claim, if_pos held]

theorem receive_of_verified (verified : hooks.Verified prims call state) :
    hooks.receive sha prims call state =
      match readBody prims call.request.body with
      | .error err => (hooks.reserved call state, .error err)
      | .ok payload =>
      hooks.deliver sha prims call payload (hooks.reserved call state) := by
  obtain ⟨sized, authenticated, free⟩ := verified
  have passes : hooks.verify prims call state =
      (hooks.reserved call state, .ok true) := by
    unfold verify
    simp only [authenticated, reserve_of_free free]
  unfold receive
  rw [if_neg (Nat.not_lt.mpr sized)]
  generalize hooks.verify prims call state = res at passes ⊢
  subst passes
  rfl

variable (sha) in
theorem receive_of_unverified (unverified : ¬hooks.Verified prims call state) :
    ∃ err, hooks.receive sha prims call state = (state, .error err) := by
  unfold receive verify
  by_cases sized : hooks.maxBodyBytes < call.request.body.length
  · exact ⟨_, if_pos sized⟩
  · rw [if_neg sized]
    cases authenticated : authentic prims hooks.policy call.clock call.request with
    | error err => exact ⟨_, rfl⟩
    | ok passed =>
      cases passed with
      | false => exact ⟨_, rfl⟩
      | true =>
        by_cases held : hooks.Reserved call.request state
        · dsimp only
          rw [reserve_of_held held]
          exact ⟨_, rfl⟩
        · exact absurd ⟨Nat.not_lt.mp sized, authenticated, held⟩ unverified

theorem reserved_ledger : (hooks.reserved call state).gateway.ledger = state.gateway.ledger := by
  unfold reserved reserve
  cases hooks.replayStore <;> rfl

theorem claim_held_reserved (free : ¬hooks.Reserved call.request state) :
    ClaimHeld hooks call.request (hooks.reserved call state).gateway.claims ↔
      ClaimHeld hooks call.request state.gateway.claims ∨
      (hooks.replayStore = .shared ∧ hooks.build.idempotent = true) := by
  unfold Reserved reservations at free
  unfold reserved reserve ClaimHeld
  cases store : hooks.replayStore with
  | missing => simp
  | separate => simp
  | shared =>
    simp only [store] at free
    simp only [claim, if_neg free, List.lookup_append]
    cases hooks.build.idempotent with
    | false => simp
    | true => simp

theorem release_ledger (req : WebhookRequest) :
    (hooks.release req state).gateway.ledger = state.gateway.ledger := by
  unfold release
  cases hooks.replayStore <;> rfl

theorem leave_ledger (req : WebhookRequest) (answer : Except PyError AdapterResult) :
    (hooks.leave req answer state).gateway.ledger = state.gateway.ledger := by
  unfold leave
  cases answer with
  | ok res => rfl
  | error err => exact release_ledger req

variable (sha prims hooks) (call state)

def Ingests : Prop :=
  (next (hooks.receive sha prims) call state).gateway.ledger ≠ state.gateway.ledger

instance : Decidable (hooks.Ingests sha prims call state) :=
  inferInstanceAs (Decidable (_ ≠ _))

/-- Nothing but the evidence of the payload decides whether it is taken. -/
def Reaches : Prop :=
  hooks.Verified prims call state ∧ (∃ verified, call.admission = .admitted verified) ∧
    call.commitFault = none ∧ ¬ClaimHeld hooks call.request state.gateway.claims ∧
      ¬(hooks.replayStore = .shared ∧ hooks.build.idempotent = true)

theorem ingests_iff :
    hooks.Ingests sha prims call state ↔ hooks.Reaches prims call state ∧
      ∃ payload, readBody prims call.request.body = .ok payload ∧
      ¬EvidenceHeld sha (call.request.sourceRequest prims payload)
      state.gateway.ledger := by
  unfold Ingests next Reaches
  by_cases verified : hooks.Verified prims call state
  · rw [receive_of_verified verified]
    have claims := claim_held_reserved verified.2.2
    cases read : readBody prims call.request.body with
    | error err => simp [reserved_ledger]
    | ok payload =>
      have delivered := deliver_delivered sha prims hooks call payload
        (hooks.reserved call state)
      dsimp only
      generalize (hooks.deliver sha prims call payload
        (hooks.reserved call state)).2 = answer at delivered
      generalize (hooks.deliver sha prims call payload
        (hooks.reserved call state)).1 = after at delivered
      cases delivered with
      | raised err met => simp [release_ledger, reserved_ledger, met]
      | refused refusal res met empty => simp [reserved_ledger, met]
      | claimed admitted res met held empty =>
        rw [reserved_ledger]
        have known := claims.mp held
        apply iff_of_false (fun changed => changed rfl)
        intro both
        exact known.elim both.1.2.2.2.1 both.1.2.2.2.2
      | failed admitted err met free fault => simp [release_ledger, reserved_ledger, fault]
      | duplicate admitted res met free clear held empty =>
        rw [reserved_ledger] at *
        apply iff_of_false (fun changed => changed rfl)
        intro both
        obtain ⟨_, other, same, fresh⟩ := both
        cases same
        exact fresh held
      | stored admitted ledger answer met free clear fresh grown processed =>
        rw [reserved_ledger] at *
        rw [leave_ledger]
        apply iff_of_true (ne_of_takes_in sha grown)
        rw [claims, not_or] at free
        exact ⟨⟨verified, ⟨admitted, met⟩, clear, free⟩, payload, rfl, fresh⟩
  · obtain ⟨err, same⟩ := receive_of_unverified sha verified
    rw [same]
    apply iff_of_false (fun changed => changed rfl)
    exact fun both => verified both.1.1

def ingestedBodies (calls : List (WebhookCall Real)) : List SignedBody :=
  log (hooks.receive sha prims) (fun call state =>
      if hooks.Ingests sha prims call state then some call.request.signed else none)
    calls .start

/-- What stops a delivery: it is not authentic, it is not admitted, the ledger fails, or its key
or its evidence is still known. -/
def Stopped : Prop :=
  authentic prims hooks.policy call.clock call.request ≠ .ok true ∨
    (∀ verified, call.admission ≠ .admitted verified) ∨ call.commitFault ≠ none ∨
      hooks.Reserved call.request state ∨ ClaimHeld hooks call.request state.gateway.claims ∨
          ∀ payload, readBody prims call.request.body = .ok payload →
            EvidenceHeld sha (call.request.sourceRequest prims payload)
              state.gateway.ledger

def Ingestible (body : List UInt8) : Prop :=
  body.length ≤ hooks.maxBodyBytes ∧ (∃ payload, readBody prims body = .ok payload) ∧
    ¬(hooks.replayStore = .shared ∧ hooks.build.idempotent = true)

theorem ingestible_of_ingested (calls : List (WebhookCall Real)) :
    ∀ signed ∈ hooks.ingestedBodies sha prims calls,
      hooks.Ingestible prims signed.2.2.2 := by
  apply forall_mem_log
  intro call state signed entered
  rw [Option.mem_def, Option.ite_none_right_eq_some] at entered
  obtain ⟨ingests, same⟩ := entered
  obtain ⟨reaches, payload, read, _⟩ :=
    (ingests_iff sha prims hooks call state).mp ingests
  rw [← Option.some.inj same]
  exact ⟨reaches.1.1, ⟨payload, read⟩, reaches.2.2.2.2⟩

theorem ingests_iff_not_stopped (ingestible : hooks.Ingestible prims call.request.body) :
    hooks.Ingests sha prims call state ↔
      ¬hooks.Stopped sha prims call state := by
  obtain ⟨sized, ⟨payload, read⟩, apart⟩ := ingestible
  rw [ingests_iff]
  unfold Reaches Verified Stopped
  simp only [sized, apart, read, not_or, not_not, true_and, not_false_eq_true, and_true,
    Except.ok.injEq, not_forall, exists_prop, exists_eq_left']
  constructor
  · intro both
    obtain ⟨⟨⟨authenticated, free⟩, admitted, clear, unclaimed⟩, fresh⟩ := both
    exact ⟨authenticated, admitted, clear, free, unclaimed, fresh⟩
  · intro all
    obtain ⟨authenticated, admitted, clear, free, unclaimed, fresh⟩ := all
    exact ⟨⟨⟨authenticated, free⟩, admitted, clear, unclaimed⟩, fresh⟩

/-- No signed body is ingested twice exactly if each delivery of one that was ingested before is
stopped. -/
theorem accepted_once_iff (calls : List (WebhookCall Real)) :
    (hooks.ingestedBodies sha prims calls).Nodup ↔ Historically (fun before call =>
      call.request.signed ∈ hooks.ingestedBodies sha prims before →
      hooks.Stopped sha prims call
      (run (hooks.receive sha prims) before .start)) calls := by
  unfold ingestedBodies
  rw [log_nodup_iff]
  apply historically_congr (fun _ => True) (fun _ _ _ _ => trivial) trivial
  intro before call _
  constructor
  · intro entersNew known
    have ingestible := ingestible_of_ingested sha prims hooks before _ known
    by_contra spared
    have ingests := (ingests_iff_not_stopped sha prims hooks call _ ingestible).mpr
      spared
    exact entersNew _ (by rw [if_pos ingests]; rfl) known
  · intro stops item entered known
    rw [Option.mem_def, Option.ite_none_right_eq_some] at entered
    obtain ⟨ingests, same⟩ := entered
    rw [← Option.some.inj same] at known
    have ingestible := ingestible_of_ingested sha prims hooks before _ known
    exact (ingests_iff_not_stopped sha prims hooks call _ ingestible).mp ingests
      (stops known)

end WebhookGateway

end resending

/-- Whole seconds, and a digest that writes out what it is given. -/
def WebhookPrimitives.plain : WebhookPrimitives Int :=
  { float := fun text =>
      if text.toList.all Char.isDigit then
        some (text.toList.foldl (fun value digit => 10 * value + (digit.toNat - 48 : Nat)) 0)
      else none
    sub := (· - ·)
    abs := fun value => value.natAbs
    exceeds := fun age bound => decide (bound < age)
    hexdigest := fun secret signed => String.ofList
      ((secret ++ signed).flatMap fun byte => (Nat.toDigits 16 (256 + byte.toNat)).tail)
    double := fun _ => 0
    reprFloat := fun _ => "0.0" }

def plainWebhooks (store : ReplayStore) (idempotent : Bool) : WebhookGateway :=
  { policy := { secret := [7], valid := by decide }
    replayStore := store
    build := ⟨idempotent, false⟩ }

/-- A body signed at `100`, delivered for a record under a key. -/
def signedDelivery (recordId key : String) (filled : recordId ≠ "" ∧ key ≠ "") :
    WebhookCall Int :=
  { request :=
      { tenantId := "t1", workspaceId := "w1", sourceId := "github", recordId := recordId
        body := "\x7b\"id\": 1\x7d".toUTF8.toList
        signature := "sha256=073130302e7b226964223a20317d"
        timestamp := "100"
        idempotencyKey := key
        filled := ⟨by decide, by decide, by decide, filled⟩ }
    clock := 100 }

/-- A signed body is sent again with another record and another key. -/
theorem resent_body_ingested_again :
    ¬((plainWebhooks .separate true).ingestedBodies Hashing.plain WebhookPrimitives.plain
      [signedDelivery "evt-1" "delivery-1" (by decide),
      signedDelivery "evt-2" "delivery-2" (by decide)]).Nodup := by
  decide +kernel

end Ois.Sources
