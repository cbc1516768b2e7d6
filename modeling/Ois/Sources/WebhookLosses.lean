import Ois.Sources.WebhookReplays

/-!
# Webhooks that are lost

A delivery takes its key twice: `verify` reserves it as a replay key, and the gateway claims it
before the commit. Only an exception of `ingest` gives the first one back.
-/

namespace Ois.Sources

open Ois.Library Ois.Kernel WebhookPrimitives IdempotencyClaims Machine SourceRequest Hashing
open WebhookState

theorem IdempotencyClaims.is_some_concat {claims : IdempotencyClaims} {key own : ClaimKey}
    {claim : String × DateTime}
    (found : (List.lookup key (claims ++ [(own, claim)])).isSome = true) :
    (claims.lookup key).isSome = true ∨ own = key := by
  by_cases same : own = key
  · exact Or.inr same
  · left
    have other : (key == own) = false := beq_eq_false_iff_ne.mpr (Ne.symm same)
    rw [List.lookup_append, List.lookup_cons, other] at found
    simpa using found

namespace WebhookGateway

variable {Real : Type} (sha : Hashing) (prims : WebhookPrimitives Real)
  (hooks : WebhookGateway)

/-- A delivery that `verify` lets pass unless its key is reserved, and that is read as a payload. -/
def Valid (call : WebhookCall Real) (body : Members) : Prop :=
  call.request.body.length ≤ hooks.maxBodyBytes ∧
    authentic prims hooks.policy call.clock call.request = .ok true ∧
      readBody prims call.request.body = .ok body

/-- Nothing raises and no rate limit refuses. -/
def Unobstructed (call : WebhookCall Real) : Prop :=
  (∃ verified, call.admission = .admitted verified) ∧ call.commitFault = none ∧
    (hooks.build.pipeline = true → ∃ res, call.result = .ok res)

/-- The event of a delivery, as `ingest` names it. -/
def eventOf (call : WebhookCall Real) (body : Members) : String :=
  (call.request.sourceRequest prims body).eventId sha

variable (call : WebhookCall Real) (state : WebhookState)

def answered : Except PyError AdapterResult :=
  answer (hooks.receive sha prims) call state

def Accepts : Prop :=
  ∃ res, hooks.answered sha prims call state = .ok res ∧ res.records = 1

def Settles : Prop :=
  (∃ res, hooks.answered sha prims call state = .ok res) ∧
    ∀ refusal, call.admission ≠ .refused refusal

def Unsettled (key : ClaimKey) (calls : List (WebhookCall Real)) : Prop :=
  Machine.Throughout (hooks.receive sha prims)
    (fun call state => hooks.Settles sha prims call state →
      call.request.claimKey ≠ key) calls .start

def Unaccepted (event : String) (calls : List (WebhookCall Real)) : Prop :=
  Machine.Throughout (hooks.receive sha prims)
    (fun call state => hooks.Accepts sha prims call state →
      ∀ body, readBody prims call.request.body = .ok body →
        eventOf sha prims call body ≠ event) calls .start

/-- A valid delivery of an event that was not accepted yet, under a key that met nothing but
exceptions and rate limits, is accepted unless it meets one itself. -/
def NotLost (before : List (WebhookCall Real)) (call : WebhookCall Real) : Prop :=
  ∀ body, hooks.Valid prims call body → hooks.Unobstructed call →
    hooks.Unsettled sha prims call.request.claimKey before →
      hooks.Unaccepted sha prims (eventOf sha prims call body) before →
        hooks.Accepts sha prims call
          (run (hooks.receive sha prims) before .start)

/-- A verified delivery leaves no key behind without need: the stores are apart, what is reserved is
read and not refused, and the pipeline does not raise on evidence that the ledger just took. -/
def Spares : Prop :=
  hooks.Verified prims call state →
    ¬(hooks.replayStore = .shared ∧ hooks.build.idempotent = true) ∧
      (hooks.replayStore ≠ .missing →
        (∃ body, readBody prims call.request.body = .ok body) ∧
          ∀ refusal, call.admission ≠ .refused refusal) ∧
        (hooks.build.pipeline = true → ∀ err, call.result = .error err →
          ∀ body, readBody prims call.request.body = .ok body →
            hooks.Reaches prims call state →
              EvidenceHeld sha (call.request.sourceRequest prims body)
                state.gateway.ledger)

def KeyKnown (key : ClaimKey) : Prop :=
  ((hooks.reservations state).lookup key).isSome = true ∨
    (hooks.build.idempotent = true ∧ (state.gateway.claims.lookup key).isSome = true)

inductive Spared : WebhookState → Except PyError AdapterResult → Prop where
  | unchanged (answer : Except PyError AdapterResult)
      (rejected : ∀ res, answer = .ok res → res.records = 0) :
      Spared state answer
  | known (res : AdapterResult) (settled : ∀ refusal, call.admission ≠ .refused refusal)
      (free : ¬hooks.Reserved call.request state) (empty : res.records = 0) :
      Spared (hooks.reserved call state) (.ok res)
  | stored (body : Members) (ledger : SourceLedger) (res : AdapterResult)
      (read : readBody prims call.request.body = .ok body)
      (settled : ∀ refusal, call.admission ≠ .refused refusal)
      (free : ¬hooks.Reserved call.request state) (counted : res.records = 1)
      (grown : TakesIn sha (call.request.sourceRequest prims body)
        state.gateway.ledger ledger) :
      Spared { hooks.reserved call state with
          gateway := (call.ingestCall prims body).acceptedState sha hooks.build
            ledger (hooks.reserved call state).gateway }
        (.ok res)

variable {sha prims hooks call state}

theorem release_reserved (free : ¬hooks.Reserved call.request state) :
    hooks.release call.request (hooks.reserved call state) = state := by
  unfold Reserved reservations at free
  unfold reserved reserve release
  cases store : hooks.replayStore with
  | missing => rfl
  | separate | shared =>
    simp only [store, Option.not_isSome_iff_eq_none] at free
    have back := release_of_claim call.request.idempotencyKey call.reservedAt free
    simp only [claim, free, Option.isSome_none, Bool.false_eq_true, if_false, back]

theorem reserved_of_missing (missing : hooks.replayStore = .missing) :
    hooks.reserved call state = state := by
  unfold reserved reserve
  rw [missing]

variable {body : Members}

theorem records_of_processed {answer : Except PyError AdapterResult}
    (piped : hooks.build.pipeline = true → ∃ res, call.result = .ok res)
    (processed : answer = ((call.ingestCall prims body).processed sha
      hooks.build).map (adapterResult call.request.sourceId)) :
    ∃ res, answer = .ok res ∧ res.records = 1 := by
  unfold IngestCall.processed at processed
  cases pipeline : hooks.build.pipeline with
  | false =>
    rw [pipeline] at processed
    exact ⟨_, processed, rfl⟩
  | true =>
    obtain ⟨res, same⟩ := piped pipeline
    have given : (call.ingestCall prims body).result = .ok res := same
    rw [pipeline, given] at processed
    exact ⟨_, processed, rfl⟩

theorem deliver_spared (verified : hooks.Verified prims call state)
    (read : readBody prims call.request.body = .ok body)
    (spares : hooks.Spares sha prims call state) :
    Spared sha prims hooks call state
      (hooks.deliver sha prims call body (hooks.reserved call state)).1
      (hooks.deliver sha prims call body (hooks.reserved call state)).2 := by
  obtain ⟨apart, unrefused, piped⟩ := spares verified
  have free := verified.2.2
  have delivered := deliver_delivered sha prims hooks call body
    (hooks.reserved call state)
  generalize (hooks.deliver sha prims call body
    (hooks.reserved call state)).2 = answer at delivered ⊢
  generalize (hooks.deliver sha prims call body
    (hooks.reserved call state)).1 = after at delivered ⊢
  cases delivered with
  | raised err met =>
    rw [release_reserved free]
    exact .unchanged _ (by simp)
  | refused refusal res met empty =>
    have missing : hooks.replayStore = .missing := by
      by_contra present
      exact (unrefused present).2 refusal met
    rw [reserved_of_missing missing]
    exact .unchanged _ (by simp [empty])
  | claimed admitted res met held empty => exact .known res (by simp [met]) free empty
  | failed admitted err met unclaimed fault =>
    rw [release_reserved free]
    exact .unchanged _ (by simp)
  | duplicate admitted res met unclaimed clear held empty =>
    exact .known res (by simp [met]) free empty
  | stored admitted ledger answer met unclaimed clear fresh grown processed =>
    rw [claim_held_reserved free, not_or] at unclaimed
    rw [reserved_ledger] at fresh grown
    have ends : hooks.build.pipeline = true → ∃ res, call.result = .ok res := by
      intro pipeline
      cases res : call.result with
      | ok value => exact ⟨value, rfl⟩
      | error err =>
        exact absurd (piped pipeline err res body read
          ⟨verified, ⟨admitted, met⟩, clear, unclaimed⟩) fresh
    obtain ⟨res, same, counted⟩ := records_of_processed ends processed
    rw [same]
    exact .stored body ledger res read (by simp [met]) free counted grown

theorem receive_spared (spares : hooks.Spares sha prims call state) :
    Spared sha prims hooks call state
      (next (hooks.receive sha prims) call state)
      (hooks.answered sha prims call state) := by
  unfold next answered answer
  by_cases verified : hooks.Verified prims call state
  · rw [receive_of_verified verified]
    cases read : readBody prims call.request.body with
    | error err =>
      have missing : hooks.replayStore = .missing := by
        by_contra present
        obtain ⟨body, same⟩ := ((spares verified).2.1 present).1
        rw [read] at same
        cases same
      dsimp only
      rw [reserved_of_missing missing]
      exact .unchanged _ (by simp)
    | ok body => exact deliver_spared verified read spares
  · obtain ⟨err, same⟩ := receive_of_unverified sha verified
    rw [same]
    exact .unchanged _ (by simp)

theorem known_reserved {key : ClaimKey} (free : ¬hooks.Reserved call.request state)
    (known : hooks.KeyKnown (hooks.reserved call state) key) :
    hooks.KeyKnown state key ∨ call.request.claimKey = key := by
  unfold Reserved reservations at free
  unfold KeyKnown reservations reserved reserve at *
  cases store : hooks.replayStore with
  | missing =>
    simp only [store] at known
    exact Or.inl known
  | separate =>
    simp only [store] at free
    simp only [store, claim, if_neg free] at known
    cases known with
    | inl held => exact (is_some_concat held).imp_left Or.inl
    | inr claimed => exact Or.inl (Or.inr claimed)
  | shared =>
    simp only [store] at free
    simp only [store, claim, if_neg free] at known
    cases known with
    | inl held => exact (is_some_concat held).imp_left Or.inl
    | inr claimed =>
      apply (is_some_concat claimed.2).imp_left
      exact fun found => Or.inr ⟨claimed.1, found⟩

theorem known_accepted {key : ClaimKey} {body : Members} {ledger : SourceLedger}
    (known : hooks.KeyKnown { state with
      gateway := (call.ingestCall prims body).acceptedState sha hooks.build ledger
        state.gateway } key) :
    hooks.KeyKnown state key ∨ call.request.claimKey = key := by
  unfold KeyKnown reservations IngestCall.acceptedState at *
  rw [key_of_webhook] at known
  cases idempotent : hooks.build.idempotent with
  | false =>
    simp only [idempotent, Bool.false_eq_true, if_false, Option.map_none, Option.toList_none,
      List.append_nil] at known
    cases known with
    | inl held => exact Or.inl (Or.inl held)
    | inr claimed => exact claimed.1.elim
  | true =>
    simp only [idempotent, if_true, Option.map_some, Option.toList_some] at known
    cases known with
    | inr claimed =>
      apply (is_some_concat claimed.2).imp_left
      exact fun found => Or.inr ⟨rfl, found⟩
    | inl held =>
      cases store : hooks.replayStore with
      | missing => simp [store] at held
      | separate =>
        simp only [store] at held
        exact Or.inl (Or.inl held)
      | shared =>
        simp only [store] at held
        exact (is_some_concat held).imp_left Or.inl

theorem held_of_takes_in {req other : SourceRequest} {ledger after : SourceLedger}
    (grown : TakesIn sha req ledger after) (held : EvidenceHeld sha other after) :
    EvidenceHeld sha other ledger ∨ req.eventId sha = other.eventId sha := by
  obtain ⟨⟨evidence, rows, named, observed⟩, events⟩ := grown
  unfold EvidenceHeld at held ⊢
  rw [rows, events, List.map_append, List.map_append, List.mem_append, List.mem_append,
    List.mem_append] at held
  cases held with
  | inl byName =>
    cases byName with
    | inl past => exact Or.inl (Or.inl past)
    | inr last =>
      right
      rw [List.map_singleton, List.mem_singleton, named] at last
      rw [eventId, eventId, last]
  | inr other =>
    cases other with
    | inl byRow =>
      cases byRow with
      | inl past => exact Or.inl (Or.inr (Or.inl past))
      | inr last =>
        right
        rw [List.map_singleton, List.mem_singleton, observed] at last
        simp only [Prod.mk.injEq] at last
        obtain ⟨tenant, workspace, source, record, hash⟩ := last
        rw [eventId, eventId, evidenceId, evidenceId, tenant, workspace, source, record, hash]
    | inr byEvent =>
      cases byEvent with
      | inl past => exact Or.inl (Or.inr (Or.inr past))
      | inr last =>
        right
        exact (List.mem_singleton.mp last).symm

variable (sha prims hooks) in
/-- The keys that are known were settled, and what the ledger holds was accepted. -/
def Kept (calls : List (WebhookCall Real)) (state : WebhookState) : Prop :=
  (∀ key, hooks.Unsettled sha prims key calls → ¬hooks.KeyKnown state key) ∧
    ∀ req : SourceRequest,
      hooks.Unaccepted sha prims (req.eventId sha) calls →
        ¬EvidenceHeld sha req state.gateway.ledger

theorem kept_start : hooks.Kept sha prims [] .start := by
  constructor
  · intro key _ known
    unfold KeyKnown reservations start at known
    cases store : hooks.replayStore <;> simp [store] at known
  · intro req _ held
    simp [EvidenceHeld, start, Outbox.eventIds] at held

theorem kept_next {calls : List (WebhookCall Real)} (kept : hooks.Kept sha prims calls
      (run (hooks.receive sha prims) calls .start))
    (spares : hooks.Spares sha prims call
      (run (hooks.receive sha prims) calls .start)) :
    hooks.Kept sha prims (calls ++ [call])
      (next (hooks.receive sha prims) call
        (run (hooks.receive sha prims) calls .start)) := by
  have spared := receive_spared spares
  unfold Kept Unsettled Unaccepted
  simp only [throughout_append, Machine.Throughout, and_true]
  generalize run (hooks.receive sha prims) calls .start = state at *
  unfold Settles Accepts
  generalize next (hooks.receive sha prims) call state = after at *
  generalize hooks.answered sha prims call state = answer at *
  cases spared with
  | unchanged answer rejected =>
    constructor
    · exact fun key unsettled => kept.1 key unsettled.1
    · exact fun req unaccepted => kept.2 req unaccepted.1
  | known res settled free empty =>
    constructor
    · intro key unsettled known
      cases known_reserved free known with
      | inl before => exact kept.1 key unsettled.1 before
      | inr own => exact unsettled.2 ⟨⟨res, rfl⟩, settled⟩ own
    · intro req unaccepted
      rw [reserved_ledger]
      exact kept.2 req unaccepted.1
  | stored body ledger res read settled free counted grown =>
    constructor
    · intro key unsettled known
      have own := unsettled.2 ⟨⟨res, rfl⟩, settled⟩
      cases known_accepted known with
      | inl reserved =>
        cases known_reserved free reserved with
        | inl before => exact kept.1 key unsettled.1 before
        | inr same => exact own same
      | inr same => exact own same
    · intro req unaccepted held
      have other := unaccepted.2 ⟨res, rfl, counted⟩ body read
      cases held_of_takes_in grown held with
      | inl before => exact kept.2 req unaccepted.1 before
      | inr same => exact other same

theorem kept_run {calls : List (WebhookCall Real)}
    (throughout : Machine.Throughout (hooks.receive sha prims)
      (hooks.Spares sha prims) calls .start) :
    hooks.Kept sha prims calls
      (run (hooks.receive sha prims) calls .start) := by
  induction calls using List.reverseRecOn with
  | nil => exact kept_start
  | append_singleton past call ih =>
    obtain ⟨before, here, _⟩ := throughout_append.mp throughout
    rw [run_concat]
    exact kept_next (ih before) here

theorem accepts_of_fresh (valid : hooks.Valid prims call body)
    (unobstructed : hooks.Unobstructed call)
    (apart : ¬(hooks.replayStore = .shared ∧ hooks.build.idempotent = true))
    (unknown : ¬hooks.KeyKnown state call.request.claimKey)
    (fresh : ¬EvidenceHeld sha (call.request.sourceRequest prims body)
      state.gateway.ledger) :
    hooks.Accepts sha prims call state := by
  obtain ⟨sized, authenticated, read⟩ := valid
  obtain ⟨⟨admitted, met⟩, clear, piped⟩ := unobstructed
  rw [KeyKnown, not_or] at unknown
  have verified : hooks.Verified prims call state := ⟨sized, authenticated, unknown.1⟩
  unfold Accepts answered answer
  rw [receive_of_verified verified, read]
  dsimp only
  have delivered := deliver_delivered sha prims hooks call body
    (hooks.reserved call state)
  generalize (hooks.deliver sha prims call body
    (hooks.reserved call state)).2 = answer at delivered ⊢
  generalize (hooks.deliver sha prims call body
    (hooks.reserved call state)).1 = after at delivered
  cases delivered with
  | raised err raised =>
    rw [met] at raised
    cases raised
  | refused refusal res refused empty =>
    rw [met] at refused
    cases refused
  | claimed other res _ held empty =>
    rw [claim_held_reserved verified.2.2] at held
    exact absurd held (not_or.mpr ⟨unknown.2, apart⟩)
  | failed other err _ unclaimed fault =>
    rw [clear] at fault
    cases fault
  | duplicate other res _ unclaimed _ held empty =>
    rw [reserved_ledger] at held
    exact absurd held fresh
  | stored other ledger answer _ unclaimed _ _ grown processed =>
    exact records_of_processed piped processed

variable (sha prims hooks)

/-- No delivery is lost in a run that spares the keys. -/
theorem webhooks_not_lost {calls : List (WebhookCall Real)}
    (throughout : Machine.Throughout (hooks.receive sha prims)
      (hooks.Spares sha prims) calls .start) :
    Historically (hooks.NotLost sha prims) calls := by
  intro before call after split body valid unobstructed unsettled unaccepted
  rw [split] at throughout
  obtain ⟨past, here, _⟩ := throughout_append.mp throughout
  have kept := kept_run past
  have unknown := kept.1 call.request.claimKey unsettled
  have verified : hooks.Verified prims call
      (run (hooks.receive sha prims) before .start) :=
    ⟨valid.1, valid.2.1, fun reserved => unknown (Or.inl reserved)⟩
  exact accepts_of_fresh valid unobstructed (here verified).1 unknown
    (kept.2 (call.request.sourceRequest prims body) unaccepted)

/-- A delivery of the same signed body that meets something. -/
def firstDelivery (admission : Admission)
    (unleased : admission ≠ .refused .invalidRateLimitLease) (commitFault : Option PyError) :
    WebhookCall Int :=
  { signedDelivery "evt-1" "delivery-1" (by decide) with
    admission := admission
    unleased := unleased
    commitFault := commitFault }

def secondDelivery : WebhookCall Int := signedDelivery "evt-1" "delivery-1" (by decide)

def signedPayload : Members := [("id", .int 1)]

theorem second_valid (store : ReplayStore) :
    (plainWebhooks store true).Valid plain secondDelivery signedPayload := by
  constructor
  · change secondDelivery.request.body.length ≤ 1048576
    decide +kernel
  · constructor
    · change authentic plain (plainWebhooks .missing true).policy
        secondDelivery.clock secondDelivery.request = .ok true
      decide +kernel
    · decide +kernel

theorem second_unobstructed (store : ReplayStore) :
    (plainWebhooks store true).Unobstructed secondDelivery :=
  ⟨⟨false, rfl⟩, rfl, fun pipeline => by cases pipeline⟩

/-- A delivery whose commit fails is delivered again. -/
theorem failed_webhook_not_lost :
    Historically ((plainWebhooks .separate true).NotLost plain plain)
      [firstDelivery (.admitted false) (by decide)
          (some ⟨.other "OperationalError", "database is locked"⟩),
        secondDelivery] := by
  apply webhooks_not_lost
  have spares (call : WebhookCall Int) (state : WebhookState)
      (read : readBody plain call.request.body = .ok signedPayload)
      (admitted : call.admission = .admitted false) :
      (plainWebhooks .separate true).Spares plain plain call state := by
    intro _
    refine ⟨by decide, fun _ => ⟨⟨signedPayload, read⟩, by simp [admitted]⟩, ?_⟩
    intro pipeline
    cases pipeline
  exact ⟨spares _ _ (by decide +kernel) rfl, spares _ _ (by decide +kernel) rfl, trivial⟩

/-- A rate-limited delivery is refused when it is delivered again; in a shared store, the first one
already is taken for a duplicate. -/
theorem webhooks_lost :
    ¬Historically ((plainWebhooks .separate true).NotLost plain plain)
        [firstDelivery (.refused .rateLimited) (by decide) none, secondDelivery] ∧
      ¬Historically ((plainWebhooks .shared true).NotLost plain plain) [secondDelivery] := by
  constructor
  · intro kept
    have accepted := kept [firstDelivery (.refused .rateLimited) (by decide) none] secondDelivery
      [] rfl signedPayload (second_valid _) (second_unobstructed _)
    have refused : (plainWebhooks .separate true).answered plain plain
        (firstDelivery (.refused .rateLimited) (by decide) none) .start =
          .ok ⟨"github", 0, [], [], []⟩ := by decide +kernel
    have again : (plainWebhooks .separate true).answered plain plain secondDelivery (run
          ((plainWebhooks .separate true).receive plain plain)
            [firstDelivery (.refused .rateLimited) (by decide) none] .start) =
          .error ⟨.permissionError, "invalid or replayed webhook"⟩ := by decide +kernel
    have rejected : ¬(plainWebhooks .separate true).Accepts plain plain
        (firstDelivery (.refused .rateLimited) (by decide) none) .start := by
      intro counted
      obtain ⟨res, same, one⟩ := counted
      rw [refused] at same
      cases same
      cases one
    obtain ⟨res, same, _⟩ := accepted
      ⟨fun settled => absurd rfl (settled.2 .rateLimited), trivial⟩
      ⟨fun counted => absurd counted rejected, trivial⟩
    rw [again] at same
    cases same
  · intro kept
    have first : (plainWebhooks .shared true).answered plain plain
        secondDelivery .start = .ok ⟨"github", 0, [], [], []⟩ := by decide +kernel
    obtain ⟨res, same, one⟩ := kept [] secondDelivery [] rfl signedPayload (second_valid _)
      (second_unobstructed _) trivial trivial
    rw [show run _ [] start = start from rfl, first] at same
    cases same
    cases one

end WebhookGateway

end Ois.Sources
