import Ois.Library.Histories
import Ois.Library.Separator
import Ois.Sources.Ledger

/-!
# What a duplicate answer names

Evidence and events are named after their observation and payload. An ingest whose key is claimed
is answered out of the claim, which holds the name of an event.
-/

namespace Ois.Sources

open Ois.Library Ois.Kernel Machine Hashing SourceLedger

namespace SourceRequest

/-- The tenant, the workspace, the source, the record and the payload, up to the order of its
members. -/
def observation (req : SourceRequest) : String × String × String × String × Json.Text :=
  (req.tenantId, req.workspaceId, req.sourceId, req.sourceRecordId,
    Json.dumpsSorted req.document)

def joined (req : SourceRequest) : String :=
  req.tenantId ++ ":" ++ req.workspaceId ++ ":" ++ req.sourceId ++ ":" ++
    req.sourceRecordId

/-- Two observations that differ have different payloads, or read differently when their other
components are joined. -/
def ToldApart (first second : SourceRequest) : Prop :=
  first.observation ≠ second.observation →
    Json.dumpsSorted first.document ≠ Json.dumpsSorted second.document ∨
      first.joined ≠ second.joined

instance (first second : SourceRequest) : Decidable (ToldApart first second) :=
  inferInstanceAs (Decidable (_ → _))

section ident

variable {sha : Hashing}

theorem evidence_id_inj (uuid5 : Function.Injective sha.uuid5)
    (sha256 : Function.Injective sha.sha256)
    (colonless : ∀ text, ':' ∉ (sha.sha256 text).toList) (first second : SourceRequest) :
    first.evidenceId sha = second.evidenceId sha ↔ first.joined = second.joined ∧
      Json.dumpsSorted first.document = Json.dumpsSorted second.document := by
  have none : ∀ text, marks ':' (sha.sha256 text) = 0 :=
    fun text => List.count_eq_zero.mpr (colonless text)
  have counts : marks ':' (first.payloadHash sha) = marks ':' (second.payloadHash sha) :=
    (none _).trans (none _).symm
  rw [← sha256.eq_iff]
  exact uuid5.eq_iff.trans (append_colon_inj counts)

theorem event_id_inj (uuid5 : Function.Injective sha.uuid5) (first second : SourceRequest) :
    first.eventId sha = second.eventId sha ↔
      first.evidenceId sha = second.evidenceId sha := by
  rw [eventId, eventId, uuid5.eq_iff, String.append_right_inj]

end ident

end SourceRequest

section runs

variable (sha : Hashing) (build : GatewayBuild)

def IngestCall.Accepts (call : IngestCall) (state : GatewayState SourceLedger) : Prop :=
  let machine := sourceGateway sha (sqliteSourceLedger sha) build
  let stored (state : GatewayState SourceLedger) :=
    state.ledger.evidence.map (·.evidenceId)
  call.request.evidenceId sha ∉ stored state ∧
    call.request.evidenceId sha ∈ stored (machine.next (.ingest call) state) ∧
      machine.answer (.ingest call) state = .response (call.processed sha build)

/-- The request was accepted in one of the calls, that are made on empty stores. -/
def AcceptedIn (calls : List GatewayCall) (req : SourceRequest) : Prop :=
  ∃ before call after, calls = before ++ .ingest call :: after ∧ call.request = req ∧
    call.Accepts sha build
      ((sourceGateway sha (sqliteSourceLedger sha) build).run before { ledger := {} })

/-- A request is answered as duplicate evidence only after one with the same observation was
accepted. -/
def NoFalseDuplicates (calls : List GatewayCall) : Prop :=
  let machine := sourceGateway sha (sqliteSourceLedger sha) build
  ∀ before call after, calls = before ++ .ingest call :: after →
    ∀ response, machine.answer (.ingest call) (machine.run before { ledger := {} }) =
        .response (.ok response) →
      response.accepted = false → response.reason = some "duplicate_evidence" →
        ∃ req, AcceptedIn sha build before req ∧
          req.observation = call.request.observation

def requests (calls : List GatewayCall) : List SourceRequest :=
  calls.filterMap fun call => match call with
    | .ingest call => some call.request
    | _ => none

variable {sha build}

variable {calls : List GatewayCall}

theorem AcceptedIn.concat {req : SourceRequest}
    (accepted : AcceptedIn sha build calls req) (call : GatewayCall) :
    AcceptedIn sha build (calls ++ [call]) req := by
  obtain ⟨before, past, after, split, same, accepts⟩ := accepted
  apply Exists.intro before
  apply Exists.intro past
  apply Exists.intro (after ++ [call])
  rw [split, List.append_assoc, List.cons_append]
  exact ⟨rfl, same, accepts⟩

theorem AcceptedIn.mem {req : SourceRequest}
    (accepted : AcceptedIn sha build calls req) : req ∈ requests calls := by
  obtain ⟨before, call, after, rfl, rfl, _⟩ := accepted
  simp [requests]

variable (sha build) in
structure Traced (calls : List GatewayCall) (state : GatewayState SourceLedger) : Prop where
  evidence : ∀ row ∈ state.ledger.evidence, ∃ req, AcceptedIn sha build calls req ∧
    row.evidenceId = req.evidenceId sha ∧
      row.observation = (req.tenantId, req.workspaceId, req.sourceId,
        req.sourceRecordId, req.payloadHash sha)
  outbox : ∀ eventId ∈ state.ledger.outbox.eventIds, ∃ req,
    AcceptedIn sha build calls req ∧ eventId = req.eventId sha

theorem Traced.of_same {before after : GatewayState SourceLedger}
    (traced : Traced sha build calls before)
    (evidence : after.ledger.evidence = before.ledger.evidence)
    (eventIds : after.ledger.outbox.eventIds = before.ledger.outbox.eventIds)
    (call : GatewayCall) : Traced sha build (calls ++ [call]) after := by
  constructor
  · intro row mem
    rw [evidence] at mem
    obtain ⟨req, accepted, same⟩ := traced.evidence row mem
    exact ⟨req, accepted.concat call, same⟩
  · intro eventId mem
    rw [eventIds] at mem
    obtain ⟨req, accepted, same⟩ := traced.outbox eventId mem
    exact ⟨req, accepted.concat call, same⟩

variable (sha build) in
theorem traced_run (calls : List GatewayCall) :
    Traced sha build calls
      ((sourceGateway sha (sqliteSourceLedger sha) build).run calls { ledger := {} }) := by
  induction calls using List.reverseRecOn with
  | nil => exact ⟨by simp [run], by simp [run, Outbox.eventIds]⟩
  | append_singleton past call ih =>
    rw [run_concat]
    cases call with
    | pending limit => exact ih.of_same rfl rfl _
    | markPublished eventId now =>
      apply ih.of_same
      · rfl
      · exact Outbox.event_ids_mark_published eventId now _
    | ingest call =>
      have accepts : call.Accepts sha build
          ((sourceGateway sha (sqliteSourceLedger sha) build).run past
            { ledger := {} }) → AcceptedIn sha build (past ++ [.ingest call]) call.request :=
        fun accepts => ⟨past, call, [], rfl, rfl, accepts⟩
      unfold IngestCall.Accepts at accepts
      simp only [next, answer, sourceGateway] at accepts ⊢
      generalize run _ past _ = state at *
      have ingested := ingest_ingested sha (sqliteSourceLedger sha) build call state
      generalize (ingestOn sha (sqliteSourceLedger sha) build call).outcome state =
        out at *
      generalize (ingestOn sha (sqliteSourceLedger sha) build call).stateAfter state =
        after at *
      cases ingested with
      | raised | refused | claimed => exact ih.of_same rfl rfl _
      | failed verified ledger err met free commit =>
        rw [unchanged_of_commit commit]
        exact ih.of_same rfl rfl _
      | duplicate verified ledger met free commit =>
        rw [(duplicate_of_commit commit).1]
        exact ih.of_same rfl rfl _
      | accepted verified ledger met free commit =>
        obtain ⟨evidence, rows, absent, _⟩ := stored_of_commit commit
        have own := accepts ⟨fun held => absent (Or.inl held), by
          simp [IngestCall.acceptedState, evidence, SourceRequest.evidence, RawEvidence.row], rfl⟩
        constructor
        · intro row mem
          change row ∈ ledger.evidence at mem
          rw [evidence] at mem
          rcases List.mem_append.mp mem with before | new
          · obtain ⟨req, accepted, same⟩ := ih.evidence row before
            exact ⟨req, accepted.concat _, same⟩
          · rw [List.mem_singleton.mp new]
            exact ⟨call.request, own, rfl, rfl⟩
        · intro eventId mem
          change eventId ∈ ledger.outbox.rows.map (·.event.eventId) at mem
          rw [rows, List.map_append] at mem
          rcases List.mem_append.mp mem with before | new
          · obtain ⟨req, accepted, same⟩ := ih.outbox eventId before
            exact ⟨req, accepted.concat _, same⟩
          · exact ⟨call.request, own, List.mem_singleton.mp new⟩

theorem accepted_of_duplicate {call : IngestCall}
    {response : SourceResponse} (uuid5 : Function.Injective sha.uuid5)
    (answered : (sourceGateway sha (sqliteSourceLedger sha) build).answer (.ingest call)
      ((sourceGateway sha (sqliteSourceLedger sha) build).run calls { ledger := {} }) =
      .response (.ok response))
    (rejected : response.accepted = false)
    (reason : response.reason = some "duplicate_evidence") :
    ∃ req, AcceptedIn sha build calls req ∧
      req.evidenceId sha = call.request.evidenceId sha := by
  have traced := traced_run sha build calls
  simp only [answer, sourceGateway, GatewayAnswer.response.injEq] at answered
  generalize run _ calls _ = state at *
  have ingested := ingest_ingested sha (sqliteSourceLedger sha) build call state
  generalize (ingestOn sha (sqliteSourceLedger sha) build call).outcome state = out at *
  generalize (ingestOn sha (sqliteSourceLedger sha) build call).stateAfter state =
    after at *
  cases ingested with
  | raised | failed => cases answered
  | refused refusal met =>
    cases answered
    cases refusal <;> simp [Refusal.reason] at reason
  | claimed verified key claim met own held =>
    cases answered
    simp [claimedBefore] at reason
  | accepted verified ledger met free commit =>
    unfold IngestCall.processed at answered
    split_ifs at answered with piped
    · cases res : call.result with
      | error err =>
        rw [res] at answered
        cases answered
      | ok result' =>
        rw [res] at answered
        cases answered
        cases rejected
    · cases answered
      cases rejected
  | duplicate verified ledger met free commit =>
    rcases (duplicate_of_commit commit).2 with (held | held) | taken
    · obtain ⟨row, mem, same⟩ := List.mem_map.mp held
      obtain ⟨req, accepted, named, _⟩ := traced.evidence row mem
      exact ⟨req, accepted, named.symm.trans same⟩
    · obtain ⟨row, mem, same⟩ := List.mem_map.mp held
      obtain ⟨req, accepted, _, observed⟩ := traced.evidence row mem
      have equal := observed.symm.trans same
      simp only [RawEvidence.observation, SourceRequest.evidence, Prod.mk.injEq] at equal
      obtain ⟨tenant, workspace, source, record, hash⟩ := equal
      apply Exists.intro req
      apply And.intro accepted
      rw [SourceRequest.evidenceId, tenant, workspace, source, record, hash]
      rfl
    · obtain ⟨req, accepted, same⟩ := traced.outbox _ taken
      exact ⟨req, accepted, ((SourceRequest.event_id_inj uuid5 _ _).mp same).symm⟩

end runs

/-- Names tell two requests apart exactly when their joined components or their payloads do,
unless they observe the same. In a run of requests that are told apart, duplicate evidence is
of a request with the same observation that was accepted. -/
theorem observations_told_apart (sha : Hashing) (uuid5 : Function.Injective sha.uuid5)
    (sha256 : Function.Injective sha.sha256)
    (colonless : ∀ text, ':' ∉ (sha.sha256 text).toList) :
    (∀ first second : SourceRequest, (first.observation ≠ second.observation →
      first.evidenceId sha ≠ second.evidenceId sha ∧
      first.eventId sha ≠ second.eventId sha ∧
      canonicalEventId sha first.tenantId first.workspaceId first.sourceId
      first.sourceRecordId first.document ≠
      canonicalEventId sha second.tenantId second.workspaceId second.sourceId
      second.sourceRecordId second.document) ↔
      first.ToldApart second) ∧
    ∀ (build : GatewayBuild) (calls : List GatewayCall),
      (∀ first ∈ requests calls, ∀ second ∈ requests calls, first.ToldApart second) →
      NoFalseDuplicates sha build calls := by
  have named := SourceRequest.evidence_id_inj uuid5 sha256 colonless
  constructor
  · intro first second
    rw [ne_eq (first.eventId sha), SourceRequest.event_id_inj uuid5,
      ← SourceRequest.evidence_id_eq, ← SourceRequest.evidence_id_eq]
    constructor
    · intro apart differ
      by_contra same
      rw [not_or, not_not, not_not] at same
      exact (apart differ).1 ((named first second).mpr same.symm)
    · intro apart differ
      have unlike : first.evidenceId sha ≠ second.evidenceId sha := by
        intro same
        obtain ⟨joins, payloads⟩ := (named first second).mp same
        exact (apart differ).elim (· payloads) (· joins)
      exact ⟨unlike, unlike, unlike⟩
  · intro build calls apart before call after split response answered rejected reason
    obtain ⟨req, accepted, same⟩ := accepted_of_duplicate uuid5 answered rejected reason
    obtain ⟨joins, payloads⟩ := (named req call.request).mp same
    apply Exists.intro req
    apply And.intro accepted
    by_contra differ
    have past : req ∈ requests calls := by
      rw [split, requests, List.filterMap_append]
      exact List.mem_append_left _ accepted.mem
    have own : call.request ∈ requests calls := by simp [split, requests]
    exact (apart req past call.request own differ).elim (· payloads) (· joins)

theorem plain_told_apart :
    NoFalseDuplicates plain ⟨true, true⟩
      [.ingest (ingestOf "a" "b"), .ingest (ingestOf "a" "c"), .ingest (ingestOf "a" "b")] := by
  apply (observations_told_apart plain Function.injective_id Json.Text.coded_injective _).2
  · decide +kernel
  · intro text mem
    obtain ⟨digit, bound, colon⟩ := Json.Text.mem_coded mem
    revert digit
    decide

/-- The workspace `c` of the tenant `a:b`, and the workspace `b:c` of the tenant `a`. -/
theorem tenants_share_names :
    let first := ingestOf "a:b" "c"
    let second := ingestOf "a" "b:c"
    (first.request.observation ≠ second.request.observation ∧
      first.request.evidenceId plain = second.request.evidenceId plain) ∧
    ¬NoFalseDuplicates plain ⟨true, true⟩ [.ingest first, .ingest second] := by
  intro first second
  constructor
  · decide +kernel
  · intro holds
    obtain ⟨req, accepted, same⟩ := holds [.ingest first] second [] rfl
      (second.request.response plain false (some "duplicate_evidence"))
      (by decide +kernel) rfl rfl
    have named : req = first.request := by simpa [requests] using accepted.mem
    rw [named] at same
    revert same
    decide +kernel

section answers

variable (sha : Hashing) (build : GatewayBuild)

abbrev ledgerGateway : Machine GatewayCall (GatewayState SourceLedger) GatewayAnswer :=
  sourceGateway sha (sqliteSourceLedger sha) build

def stateAfter (calls : List GatewayCall) : GatewayState SourceLedger :=
  (ledgerGateway sha build).run calls { ledger := {} }

def HeldBy (calls : List GatewayCall) (key : ClaimKey) (original : IngestCall) : Prop :=
  Since (fun before call (held : IngestCall) => call = .ingest held ∧
    held.key build = some key ∧ held.Accepts sha build (stateAfter sha build before))
    (fun _ _ => False) calls original

/-- The answer names the evidence and the event of the call that holds the key, and the ledger
finds the evidence under its name. -/
def AnswersOriginal (calls : List GatewayCall) : Prop :=
  Historically (fun before call => ∀ req, call = .ingest req → ∀ response,
    (ledgerGateway sha build).answer (.ingest req) (stateAfter sha build before) =
      .response (.ok response) → response.accepted = false →
        response.reason = some "duplicate_idempotency" →
          ∃ key original, req.key build = some key ∧ HeldBy sha build before key original ∧
            response.evidenceId = original.request.evidenceId sha ∧
            response.eventId = original.request.eventId sha ∧
            ∃ evidence ∈ (stateAfter sha build before).ledger.evidence,
              evidence.evidenceId = response.evidenceId) calls

/-- No call that is admitted repeats the key of an accepted one, unless the evidence of that one
has the name of its event. -/
def RepeatsNoKey (calls : List GatewayCall) : Prop :=
  Historically (fun before call => ∀ req, call = .ingest req →
    ∀ verified, req.admission = .admitted verified → ∀ key, req.key build = some key →
      ∀ original, HeldBy sha build before key original →
        original.request.eventId sha = original.request.evidenceId sha) calls

inductive Claims (before after : GatewayState SourceLedger) : GatewayCall → Prop where
  | nothing (call : GatewayCall) (claims : after.claims = before.claims)
      (evidence : after.ledger.evidence = before.ledger.evidence) : Claims before after call
  | accepts (req : IngestCall) (row : RawEvidence)
      (free : ∀ key ∈ req.key build, before.claims.lookup key = none)
      (claims : after.claims = before.claims ++ ((req.key build).map fun key =>
        (key, req.request.eventId sha, req.stamps.claimedAt)).toList)
      (evidence : after.ledger.evidence = before.ledger.evidence ++ [row])
      (named : row.evidenceId = req.request.evidenceId sha)
      (accepted : req.Accepts sha build before) : Claims before after (.ingest req)

variable {sha build}

theorem ingest_claims (req : IngestCall) (state : GatewayState SourceLedger) :
    Claims sha build state ((ledgerGateway sha build).next (.ingest req) state)
      (.ingest req) := by
  have accepts : req.request.evidenceId sha ∉ state.ledger.evidence.map (·.evidenceId) →
      req.request.evidenceId sha ∈ ((ledgerGateway sha build).next
        (.ingest req) state).ledger.evidence.map (·.evidenceId) →
      (ledgerGateway sha build).answer (.ingest req) state =
        .response (req.processed sha build) → req.Accepts sha build state :=
    fun absent stored answered => ⟨absent, stored, answered⟩
  simp only [Machine.next, Machine.answer, ledgerGateway, sourceGateway,
    GatewayAnswer.response.injEq] at accepts ⊢
  have ingested := ingest_ingested sha (sqliteSourceLedger sha) build req state
  generalize (ingestOn sha (sqliteSourceLedger sha) build req).outcome state =
    out at *
  generalize (ingestOn sha (sqliteSourceLedger sha) build req).stateAfter state =
    after at *
  cases ingested with
  | raised | refused | claimed => exact .nothing _ rfl rfl
  | failed verified ledger err met free commit =>
    rw [SourceLedger.unchanged_of_commit commit]
    exact .nothing _ rfl rfl
  | duplicate verified ledger met free commit =>
    rw [(SourceLedger.duplicate_of_commit commit).1]
    exact .nothing _ rfl rfl
  | accepted verified ledger met free commit =>
    obtain ⟨evidence, rows, absent, _⟩ := SourceLedger.stored_of_commit commit
    apply Claims.accepts req _ free rfl evidence rfl
    apply accepts _ _ rfl
    · exact fun held => absent (Or.inl held)
    · simp [IngestCall.acceptedState, evidence, SourceRequest.evidence, RawEvidence.row]

theorem gateway_claims (call : GatewayCall) (state : GatewayState SourceLedger) :
    Claims sha build state ((ledgerGateway sha build).next call state) call := by
  cases call with
  | ingest req => exact ingest_claims req state
  | pending | markPublished => exact .nothing _ rfl rfl

theorem state_after_concat (calls : List GatewayCall) (call : GatewayCall) :
    stateAfter sha build (calls ++ [call]) =
      (ledgerGateway sha build).next call (stateAfter sha build calls) :=
  Machine.run_concat _ calls call _

variable {calls : List GatewayCall} {key : ClaimKey} {original : IngestCall}
  {state : GatewayState SourceLedger}

theorem held_by_concat {call : GatewayCall} :
    HeldBy sha build (calls ++ [call]) key original ↔ HeldBy sha build calls key original ∨
      (call = .ingest original ∧ original.key build = some key ∧
      original.Accepts sha build (stateAfter sha build calls)) := by
  rw [HeldBy, since_concat, not_false_eq_true, and_true]
  rfl

theorem not_accepts
    (same : ((ledgerGateway sha build).next (.ingest original) state).ledger.evidence =
      state.ledger.evidence) : ¬original.Accepts sha build state := by
  intro accepts
  obtain ⟨absent, stored, _⟩ := accepts
  change _ ∈ ((ledgerGateway sha build).next (.ingest original) state).ledger.evidence.map _
    at stored
  rw [same] at stored
  exact absent stored

theorem claim_of_held (held : HeldBy sha build calls key original) :
    (∃ moment, (stateAfter sha build calls).claims.lookup key =
      some (original.request.eventId sha, moment)) ∧
      ∃ evidence ∈ (stateAfter sha build calls).ledger.evidence,
      evidence.evidenceId = original.request.evidenceId sha := by
  induction calls using List.reverseRecOn with
  | nil => exact absurd held (since_nil _ _ original)
  | append_singleton past call ih =>
    rw [state_after_concat]
    have moved := @gateway_claims sha build call (stateAfter sha build past)
    cases held_by_concat.mp held with
    | inl before =>
      obtain ⟨⟨moment, claimed⟩, evidence, stored, named⟩ := ih before
      cases moved with
      | nothing _ claims same =>
        rw [claims, same]
        exact ⟨⟨moment, claimed⟩, evidence, stored, named⟩
      | accepts req row free claims grown _ _ =>
        rw [claims, grown, List.lookup_append, claimed]
        exact ⟨⟨moment, rfl⟩, evidence, List.mem_append_left _ stored, named⟩
    | inr last =>
      obtain ⟨rfl, own, accepted⟩ := last
      cases moved with
      | nothing _ claims same => exact absurd accepted (not_accepts same)
      | accepts req row free claims grown named _ =>
        rw [claims, grown, List.lookup_append, free key own, own]
        constructor
        · exact ⟨original.stamps.claimedAt, by simp⟩
        · exact ⟨row, by simp, named⟩

theorem held_of_claim {claim : String × DateTime}
    (claimed : (stateAfter sha build calls).claims.lookup key = some claim) :
    ∃ original, HeldBy sha build calls key original ∧
      claim.1 = original.request.eventId sha := by
  induction calls using List.reverseRecOn with
  | nil => cases claimed
  | append_singleton past call ih =>
    rw [state_after_concat] at claimed
    have moved := @gateway_claims sha build call (stateAfter sha build past)
    have before (found : (stateAfter sha build past).claims.lookup key = some claim) :
        ∃ original, HeldBy sha build (past ++ [call]) key original ∧
          claim.1 = original.request.eventId sha := by
      obtain ⟨original, held, same⟩ := ih found
      exact ⟨original, held_by_concat.mpr (Or.inl held), same⟩
    cases moved with
    | nothing _ claims same =>
      rw [claims] at claimed
      exact before claimed
    | accepts req row free claims grown named accepted =>
      rw [claims, List.lookup_append] at claimed
      cases found : (stateAfter sha build past).claims.lookup key with
      | some held =>
        rw [found, Option.some_or] at claimed
        exact before (found.trans claimed)
      | none =>
        rw [found, Option.none_or] at claimed
        cases own : req.key build with
        | none =>
          rw [own] at claimed
          cases claimed
        | some held =>
          rw [own, Option.map_some, Option.toList_some, List.lookup_cons] at claimed
          cases same : key == held with
          | false => simp [same] at claimed
          | true =>
            simp only [same, Option.some.injEq] at claimed
            rw [← claimed]
            have named : held = key := (beq_iff_eq.mp same).symm
            exact ⟨req, held_by_concat.mpr (Or.inr ⟨rfl, named ▸ own, accepted⟩), rfl⟩

theorem held_once {original other : IngestCall} (held : HeldBy sha build calls key original)
    (also : HeldBy sha build calls key other) : original = other := by
  induction calls using List.reverseRecOn with
  | nil => exact absurd held (since_nil _ _ original)
  | append_singleton past call ih =>
    have fresh (last : IngestCall) (made : call = .ingest last) (own : last.key build = some key)
        (accepted : last.Accepts sha build (stateAfter sha build past)) :
        ∀ holder, ¬HeldBy sha build past key holder := by
      intro holder before
      obtain ⟨⟨moment, claimed⟩, _⟩ := claim_of_held before
      have moved := @gateway_claims sha build call (stateAfter sha build past)
      cases moved with
      | nothing _ claims same =>
        rw [made] at same
        exact not_accepts same accepted
      | accepts req row free =>
        cases made
        rw [free key own] at claimed
        cases claimed
    cases held_by_concat.mp held with
    | inl before =>
      cases held_by_concat.mp also with
      | inl too => exact ih before too
      | inr last => exact absurd before (fresh other last.1 last.2.1 last.2.2 original)
    | inr first =>
      cases held_by_concat.mp also with
      | inl too => exact absurd too (fresh original first.1 first.2.1 first.2.2 other)
      | inr last => exact GatewayCall.ingest.inj (first.1.symm.trans last.1)

theorem answer_of_claim {req : IngestCall} {verified : Bool} {claim : String × DateTime}
    (met : req.admission = .admitted verified) (own : req.key build = some key)
    (claimed : state.claims.lookup key = some claim) :
    (ledgerGateway sha build).answer (.ingest req) state =
      .response (.ok (claimedBefore sha req.request (some claim.1))) := by
  have settled := ingest_settled sha (sqliteSourceLedger sha) build req state
  rw [IngestCall.settled, met, holder_of_held build own claimed] at settled
  exact congrArg GatewayAnswer.response (congrArg Prod.fst settled)

theorem claim_of_answer {req : IngestCall} {response : SourceResponse}
    (answered : (ledgerGateway sha build).answer (.ingest req) state =
      .response (.ok response))
    (rejected : response.accepted = false)
    (reason : response.reason = some "duplicate_idempotency") :
    ∃ verified key claim, req.admission = .admitted verified ∧ req.key build = some key ∧
      state.claims.lookup key = some claim ∧
      response = claimedBefore sha req.request (some claim.1) := by
  simp only [Machine.answer, sourceGateway, GatewayAnswer.response.injEq] at answered
  have ingested := ingest_ingested sha (sqliteSourceLedger sha) build req state
  generalize (ingestOn sha (sqliteSourceLedger sha) build req).outcome state =
    out at *
  generalize (ingestOn sha (sqliteSourceLedger sha) build req).stateAfter state =
    after at *
  cases ingested with
  | raised | failed => cases answered
  | refused refusal met =>
    cases answered
    cases refusal <;> simp [Refusal.reason] at reason
  | duplicate verified ledger met free commit =>
    cases answered
    simp [SourceRequest.response] at reason
  | accepted verified ledger met free commit =>
    unfold IngestCall.processed at answered
    split_ifs at answered with piped
    · cases res : req.result with
      | error err =>
        rw [res] at answered
        cases answered
      | ok result' =>
        rw [res] at answered
        cases answered
        cases rejected
    · cases answered
      cases rejected
  | claimed verified key claim met own held =>
    exact ⟨verified, key, claim, met, own, held, (Except.ok.inj answered).symm⟩

variable (sha build) in
/-- Every duplicate answer names its original exactly if no accepted key is repeated. -/
theorem answers_original_iff (calls : List GatewayCall) :
    AnswersOriginal sha build calls ↔ RepeatsNoKey sha build calls := by
  constructor
  · intro answers before call after split req made verified met key own original held
    obtain ⟨⟨moment, claimed⟩, _⟩ := claim_of_held held
    obtain ⟨same, first, names, holds, evidenceId, _, _⟩ := answers before call after split
      req made _ (answer_of_claim met own claimed) rfl rfl
    rw [own, Option.some.injEq] at names
    rw [← names] at holds
    rw [held_once held holds] at claimed evidenceId ⊢
    exact evidenceId
  · intro fresh before call after split req made response answered rejected reason
    obtain ⟨verified, key, claim, met, own, claimed, rfl⟩ :=
      claim_of_answer answered rejected reason
    obtain ⟨original, held, named⟩ := held_of_claim claimed
    have same := fresh before call after split req made verified met key own original held
    obtain ⟨_, evidence, stored, found⟩ := claim_of_held held
    refine ⟨key, original, own, held, named.trans same, named, evidence, stored, ?_⟩
    exact found.trans (same.symm.trans named.symm)

end answers

/-- The answer to an ingest that is repeated under its key leads to no evidence. -/
theorem repeated_key_misnamed :
    let call := ingestOf "tenant" "workspace" (some "key")
    ¬AnswersOriginal plain ⟨true, false⟩ [.ingest call, .ingest call] := by
  intro call answers
  have answered : (ledgerGateway plain ⟨true, false⟩).answer (.ingest call)
      (stateAfter plain ⟨true, false⟩ [.ingest call]) =
        .response (.ok (claimedBefore plain call.request (some (call.request.eventId plain)))) := by
    decide +kernel
  obtain ⟨_, _, _, _, _, _, evidence, stored, named⟩ :=
    answers [.ingest call] (.ingest call) [] rfl call rfl _ answered rfl rfl
  have misnamed : ∀ evidence ∈ (stateAfter plain ⟨true, false⟩ [.ingest call]).ledger.evidence,
        evidence.evidenceId ≠ call.request.eventId plain := by
    decide +kernel
  exact misnamed evidence stored named

end Ois.Sources
