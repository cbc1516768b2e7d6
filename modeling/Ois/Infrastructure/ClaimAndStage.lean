import Ois.Infrastructure.Tables

/-!
# The claim-and-stage protocol

Workers claim an invocation and stage its effect in one call, and complete or release the claim
later. A run is any list of such calls on any invocations, from empty tables.
-/

namespace Ois.Infrastructure

open Ois.Library Ois.Kernel Machine Dict

inductive StagingCall where
  | claimAndStage (now : Int) (claim : InvocationClaim) (effect : StagedEffect)
  | complete (callId : String) (res : Members)
  | release (callId : String)
  deriving DecidableEq, Repr

inductive StagingAnswer where
  | claimed (first : Bool)
  | done
  deriving DecidableEq, Repr

namespace ClaimAndStage

open PostgresExecutionStore

variable (pg : Postgres)

/-- The store. A call that raises is rolled back. -/
def store : Machine StagingCall Database (Except PyError StagingAnswer)
  | .claimAndStage now claim effect, db =>
    match claimAndStageOutbox pg now claim effect db with
    | .ok (after, first) => (after, .ok (.claimed first))
    | .error err => (db, .error err)
  | .complete callId res, db =>
    match completeIdempotency pg callId res db with
    | .ok after => (after, .ok .done)
    | .error err => (db, .error err)
  | .release callId, db => (releaseIdempotency callId db, .ok .done)

def granted (claim : InvocationClaim) (effect : StagedEffect) (execId : Uuid)
    (row : OutboxRow) (db : Database) : Database :=
  { db with
    idempotency :=
      db.idempotency.setdefault claim.invocationId (pendingRow execId claim)
    outbox := db.outbox ++ [(effect.effectId, row)] }

structure Acceptable (claim : InvocationClaim) (effect : StagedEffect) (db : Database) :
    Prop where
  readable : (pg.uuid claim.executionId).isSome
  held : ∃ doc, pg.column (Json.dumpsSorted (.obj effect.request)) = .ok doc
  unused : ∀ entry ∈ db.outbox, entry.2.invocationId ≠ claim.invocationId →
    entry.1 ≠ effect.effectId ∧ entry.2.idempotencyKey ≠ effect.idempotencyKey

inductive Granted (claim : InvocationClaim) (effect : StagedEffect) (db : Database) :
    Database → Prop where
  | intro (execId : Uuid) (row : OutboxRow)
      (free : db.idempotency.lookup claim.invocationId = none)
      (acceptable : Acceptable pg claim effect db)
      (fresh : ∀ entry ∈ db.outbox, entry.2.invocationId ≠ claim.invocationId)
      (named : row.invocationId = claim.invocationId)
      (keyed : row.idempotencyKey = effect.idempotencyKey) :
      Granted claim effect db (granted claim effect execId row db)

inductive Moves (call : StagingCall) (db : Database) : Database → Prop where
  | kept : Moves call db db
  | claims (claim : InvocationClaim) (effect : StagedEffect) (after : Database)
      (grants : Granted pg claim effect db after) : Moves call db after
  | completes (callId : String) (row : IdempotencyRow) (doc : Json)
      (pending : db.idempotency.lookup callId = some row) :
      Moves call db { db with
        idempotency := db.idempotency.set callId
          { row with status := .completed, result := doc } }
  | releases (callId : String) (made : call = .release callId) :
      Moves call db (releaseIdempotency callId db)

variable {pg} {now : Int} {claim : InvocationClaim} {effect : StagedEffect}
  {db after : Database} {first : Bool}

theorem insert_outbox_ok {effectId : String} {row : OutboxRow}
    (done : db.insertOutbox effectId row = .ok after) :
    (∀ entry ∈ db.outbox, entry.1 ≠ effectId ∧
      entry.2.invocationId ≠ row.invocationId ∧ entry.2.idempotencyKey ≠ row.idempotencyKey) ∧
      after = { db with outbox := db.outbox ++ [(effectId, row)] } := by
  unfold Database.insertOutbox at done
  split_ifs at done with taken staged keyTaken
  refine ⟨?_, (Except.ok.inj done).symm⟩
  intro entry mem
  simp only [Bool.not_eq_true, Option.isSome_eq_false_iff, Option.isNone_iff_eq_none] at taken
  simp only [Database.staged, List.any_eq_true, beq_iff_eq, not_exists, not_and] at staged
  simp only [List.any_eq_true, beq_iff_eq, not_exists, not_and] at keyTaken
  refine ⟨?_, staged entry mem, keyTaken entry mem⟩
  intro same
  rw [List.lookup_eq_none_iff] at taken
  simpa [same] using taken entry mem

theorem claim_and_stage_ok
    (done : claimAndStageOutbox pg now claim effect db = .ok (after, first)) :
    (first = true ∧ Granted pg claim effect db after) ∨
      (first = false ∧ after = db ∧ ∃ row,
      db.idempotency.lookup claim.invocationId = some row ∧
      row.requestFingerprint = some claim.requestFingerprint) := by
  obtain ⟨⟨middle, granted⟩, claims, rest⟩ := bind_ok done
  rcases claim_ok claims with ⟨rfl, execId, reads, free, rfl⟩ | ⟨rfl, rfl, row, found, same⟩
  · obtain ⟨staged, stages, ended⟩ := bind_ok rest
    cases ended
    obtain ⟨again, _, rows⟩ := bind_ok stages
    obtain ⟨row, made, inserts⟩ := bind_ok rows
    obtain ⟨doc, columns, fields⟩ := bind_ok made
    have built := Except.ok.inj fields
    obtain ⟨unused, left⟩ := insert_outbox_ok inserts
    subst left
    subst built
    refine Or.inl ⟨rfl, ?_⟩
    refine .intro execId _ free ⟨by rw [reads]; rfl, ⟨doc, columns⟩, ?_⟩ ?_ rfl rfl
    · intro entry mem _
      exact ⟨(unused entry mem).1, (unused entry mem).2.2⟩
    · intro entry mem
      exact (unused entry mem).2.1
  · cases rest
    exact Or.inr ⟨rfl, rfl, row, found, same⟩

theorem next_moves (call : StagingCall) (db : Database) :
    Moves pg call db ((store pg).next call db) := by
  cases call with
  | claimAndStage now claim effect =>
    cases done : claimAndStageOutbox pg now claim effect db with
    | error err =>
      simp only [next, store, done]
      exact .kept
    | ok both =>
      obtain ⟨after, first⟩ := both
      simp only [next, store, done]
      rcases claim_and_stage_ok done with ⟨_, grants⟩ | ⟨_, rfl, _⟩
      · exact .claims claim effect after grants
      · exact .kept
  | complete callId res =>
    cases done : completeIdempotency pg callId res db with
    | error err =>
      simp only [next, store, done]
      exact .kept
    | ok after =>
      simp only [next, store, done]
      obtain ⟨row, doc, found, _, rfl⟩ := complete_ok done
      exact .completes callId row doc found
  | release callId => exact .releases callId rfl

/-- The call releases the pending claim of the invocation. -/
def Releases (callId : String) (call : StagingCall) (db : Database) : Prop :=
  call = .release callId ∧ ∃ row,
    db.idempotency.lookup callId = some row ∧ row.status = .pending

variable (pg) in
def Grants (callId : String) (call : StagingCall) (db : Database) : Prop :=
  (∃ now claim effect, call = .claimAndStage now claim effect ∧ claim.invocationId = callId) ∧
    (store pg).answer call db = .ok (.claimed true)

variable (pg) in
/-- Between two callers that are granted the claim it is released. -/
def AtMostOneHolder (callId : String) (calls : List StagingCall) : Prop :=
  ∀ before first between second after, calls = before ++ first :: between ++ second :: after →
    Grants pg callId first ((store pg).run before {}) →
    Grants pg callId second ((store pg).run (before ++ first :: between) {}) →
    ∃ past call later, between = past ++ call :: later ∧
      Releases callId call ((store pg).run (before ++ first :: past) {})

variable (pg) in
/-- A caller with another fingerprint than the stored one gets an error and leaves the
tables as they are. -/
def OthersRefused (callId : String) (calls : List StagingCall) : Prop :=
  ∀ before now claim effect after row, calls = before ++ .claimAndStage now claim effect :: after →
    claim.invocationId = callId →
    ((store pg).run before {}).idempotency.lookup callId = some row →
    row.requestFingerprint ≠ some claim.requestFingerprint →
    ∃ err, store pg (.claimAndStage now claim effect)
      ((store pg).run before {}) = ((store pg).run before {}, .error err)

def stagedRows (callId : String) (db : Database) : Dict String OutboxRow :=
  db.outbox.filter fun entry => entry.2.invocationId == callId

variable (pg) in
/-- While a released invocation is free, whoever asks with acceptable arguments gets it
and leaves exactly one staged effect. -/
def ClaimableAgain (callId : String) (calls : List StagingCall) : Prop :=
  ∀ before after, calls = before ++ after → StagingCall.release callId ∈ before →
    ((store pg).run before {}).idempotency.lookup callId = none →
    ∀ now claim effect, claim.invocationId = callId →
      Acceptable pg claim effect ((store pg).run before {}) →
      ∃ later, store pg (.claimAndStage now claim effect)
        ((store pg).run before {}) = (later, .ok (.claimed true)) ∧
          (stagedRows callId later).length = 1

variable {callId : String} {call : StagingCall}

def HasRow (callId : String) (db : Database) : Prop :=
  ∃ row, db.idempotency.lookup callId = some row

theorem row_stays (held : HasRow callId db)
    (unreleased : ¬Releases callId call db)
    (moves : Moves pg call db after) : HasRow callId after := by
  obtain ⟨row, found⟩ := held
  cases moves with
  | kept => exact ⟨row, found⟩
  | claims claim effect _ grants =>
    obtain ⟨execId, staged, free, acceptable, fresh, named, keyed⟩ := grants
    refine ⟨row, ?_⟩
    simp [granted, lookup_setdefault, found]
  | completes completed cur doc pending =>
    by_cases same : callId = completed
    · exact ⟨_, by rw [same, lookup_set_same]⟩
    · exact ⟨row, by rw [lookup_set, if_neg same, found]⟩
  | releases released made =>
    refine ⟨row, lookup_filter_of_kept found ?_⟩
    simp only [Bool.not_eq_true', Bool.and_eq_false_iff, beq_eq_false_iff_ne]
    by_contra pending
    simp only [not_or, not_not] at pending
    exact unreleased ⟨by rw [made, pending.1], row, found, pending.2⟩

theorem keyed_moves (keyed : (keys db.idempotency).Nodup)
    (moves : Moves pg call db after) :
    (keys after.idempotency).Nodup := by
  cases moves with
  | kept => exact keyed
  | claims claim effect _ grants =>
    obtain ⟨execId, row, free, acceptable, fresh, named, keys⟩ := grants
    simp only [granted, setdefault, free]
    exact nodup_keys_append_fresh keyed free
  | completes completed cur doc pending => exact nodup_keys_set keyed
  | releases released made => exact nodup_keys_filter keyed

variable (pg) in
def Staged (callId : String) (db : Database) : Prop :=
  ∃ claim effect, claim.invocationId = callId ∧ Acceptable pg claim effect db ∧
    ∃ entry ∈ db.outbox, entry.1 = effect.effectId ∧
      entry.2.idempotencyKey = effect.idempotencyKey ∧ entry.2.invocationId = callId

theorem staged_of_same_outbox (same : after.outbox = db.outbox)
    (staged : Staged pg callId db) :
    Staged pg callId after := by
  obtain ⟨claim, effect, named, allowed, there⟩ := staged
  refine ⟨claim, effect, named, ⟨allowed.readable, allowed.held, ?_⟩, ?_⟩
  · rw [same]
    exact allowed.unused
  · rw [same]
    exact there

theorem staged_moves (staged : Staged pg callId db)
    (moves : Moves pg call db after) : Staged pg callId after := by
  cases moves with
  | kept => exact staged
  | claims other new _ grants =>
    obtain ⟨execId, row, free, acceptable, fresh, named, keyed⟩ := grants
    obtain ⟨claim, effect, same, allowed, entry, mem, effectId, key, own⟩ := staged
    have distinct : entry.2.invocationId ≠ other.invocationId := fresh entry mem
    obtain ⟨otherEffect, otherKey⟩ := acceptable.unused entry mem distinct
    refine ⟨claim, effect, same, ⟨allowed.readable, allowed.held, ?_⟩, entry,
      List.mem_append_left _ mem, effectId, key, own⟩
    intro candidate present foreign
    rcases List.mem_append.mp present with old | added
    · exact allowed.unused candidate old foreign
    · rw [List.mem_singleton] at added
      rw [added]
      constructor
      · exact fun same => otherEffect (effectId.trans same.symm)
      · rw [keyed]
        exact fun same => otherKey (key.trans same.symm)
  | completes | releases =>
    apply staged_of_same_outbox _ staged
    rfl

variable (pg) in
def ClaimsStaged (db : Database) : Prop :=
  (keys db.idempotency).Nodup ∧ ∀ callId row,
    db.idempotency.lookup callId = some row → Staged pg callId db

theorem claims_staged_next (call : StagingCall) (db : Database)
    (holds : ClaimsStaged pg db) :
    ClaimsStaged pg ((store pg).next call db) := by
  have moves : Moves pg call db _ := next_moves call db
  refine ⟨keyed_moves holds.1 moves, ?_⟩
  intro callId row found
  cases before : db.idempotency.lookup callId with
  | some cur => exact staged_moves (holds.2 callId cur before) moves
  | none =>
    generalize (store pg).next call db = after at moves found
    cases moves with
    | kept => exact holds.2 callId row found
    | claims claim effect _ grants =>
      obtain ⟨execId, staged, free, acceptable, fresh, named, keyed⟩ := grants
      have same : callId = claim.invocationId := by
        by_contra different
        simp [granted, lookup_setdefault, before, different] at found
      refine ⟨claim, effect, same.symm, ⟨acceptable.readable, acceptable.held, ?_⟩,
        (effect.effectId, staged), List.mem_append_right _ (List.mem_singleton.mpr rfl),
        rfl, keyed, named.trans same.symm⟩
      intro entry mem foreign
      rcases List.mem_append.mp mem with old | added
      · exact acceptable.unused entry old foreign
      · rw [List.mem_singleton.mp added] at foreign
        exact absurd named foreign
    | completes completed cur doc pending =>
      rw [lookup_set] at found
      split_ifs at found with same
      · rw [same, pending] at before
        cases before
      · rw [before] at found
        cases found
    | releases released made =>
      rw [releaseIdempotency, lookup_filter _ _ holds.1, before] at found
      cases found

variable (calls : List StagingCall)

theorem run_claims_staged :
    ClaimsStaged pg ((store pg).run calls {}) := by
  apply run_invariant claims_staged_next calls
  refine ⟨List.nodup_nil, ?_⟩
  intro callId row found
  cases found

theorem released_row (keyed : (keys db.idempotency).Nodup)
    (releases : Releases callId call db) :
    ((store pg).next call db).idempotency.lookup callId = none := by
  obtain ⟨rfl, row, found, pending⟩ := releases
  simp only [next, store, releaseIdempotency]
  rw [lookup_filter _ _ keyed, found]
  simp [Option.filter, pending]

theorem grants_of_free (claim : InvocationClaim) (effect : StagedEffect) (now : Int)
    (free : db.idempotency.lookup claim.invocationId = none)
    (unstaged : ∀ entry ∈ db.outbox, entry.2.invocationId ≠ claim.invocationId)
    (acceptable : Acceptable pg claim effect db) :
    ∃ execId row, row.invocationId = claim.invocationId ∧
      claimAndStageOutbox pg now claim effect db =
      .ok (granted claim effect execId row db, true) := by
  obtain ⟨execId, reads⟩ := Option.isSome_iff_exists.mp acceptable.readable
  obtain ⟨doc, columns⟩ := acceptable.held
  have effectFree : (db.outbox.lookup effect.effectId).isSome = false := by
    rw [Option.isSome_eq_false_iff, Option.isNone_iff_eq_none, List.lookup_eq_none_iff]
    intro entry mem
    have different := (acceptable.unused entry mem (unstaged entry mem)).1
    simpa using fun same => different same.symm
  have invocationFree : (db.outbox.any
      fun entry => entry.2.invocationId == claim.invocationId) = false := by
    simp only [List.any_eq_false, beq_iff_eq]
    exact unstaged
  have keyFree : (db.outbox.any
      fun entry => entry.2.idempotencyKey == effect.idempotencyKey) = false := by
    simp only [List.any_eq_false, beq_iff_eq]
    intro entry mem
    exact (acceptable.unused entry mem (unstaged entry mem)).2
  let row : OutboxRow :=
    { tenantId := claim.tenantId, executionId := execId
      invocationId := claim.invocationId, capabilityId := claim.capabilityId
      idempotencyKey := effect.idempotencyKey, request := doc
      createdAt := now, updatedAt := now }
  refine ⟨execId, row, rfl, ?_⟩
  simp only [claimAndStageOutbox, claimIdempotency, stageSideEffect, uuidColumn, reads, free,
    bind, Except.bind, pure, Except.pure, Postgres.outboxRow, columns, if_true,
    Database.insertOutbox, Database.insertIdempotency, Database.staged, effectFree,
    invocationFree, keyFree, Bool.false_eq_true, if_false]
  rfl

theorem free_of_grants (grants : Grants pg callId call db) :
    db.idempotency.lookup callId = none ∧
      HasRow callId ((store pg).next call db) := by
  obtain ⟨⟨now, claim, effect, rfl, rfl⟩, answered⟩ := grants
  cases done : claimAndStageOutbox pg now claim effect db with
  | error err => simp [answer, store, done] at answered
  | ok both =>
    obtain ⟨after, first⟩ := both
    simp only [answer, store, done, Except.ok.injEq, StagingAnswer.claimed.injEq] at answered
    rcases claim_and_stage_ok done with ⟨_, grants⟩ | ⟨replayed, _⟩
    · simp only [next, store, done]
      obtain ⟨execId, row, free, acceptable, fresh, named, keyed⟩ := grants
      refine ⟨free, pendingRow execId claim, ?_⟩
      simp [granted, lookup_setdefault, free]
    · rw [answered] at replayed
      cases replayed

theorem at_most_one_holder :
    AtMostOneHolder pg callId calls := by
  intro before first between second after split grantsFirst grantsSecond
  have held := (free_of_grants grantsFirst).2
  have free := (free_of_grants grantsSecond).1
  rw [run_append] at free
  have broken : ¬HasRow callId ((store pg).run between
      ((store pg).next first ((store pg).run before {}))) := by
    intro ⟨row, found⟩
    exact Option.some_ne_none row (found.symm.trans free)
  obtain ⟨past, call, later, parts, there, lost⟩ := run_breaks held broken
  refine ⟨past, call, later, parts, ?_⟩
  by_contra unreleased
  rw [run_append] at unreleased
  exact lost (row_stays there unreleased (next_moves call _))

theorem others_refused :
    OthersRefused pg callId calls := by
  intro before now claim effect after row split same found different
  subst same
  have refused : ∃ err, claimAndStageOutbox pg now claim effect
      ((store pg).run before {}) = .error err := by
    cases done : claimAndStageOutbox pg now claim effect ((store pg).run before {}) with
    | error err => exact ⟨err, rfl⟩
    | ok both =>
      exfalso
      obtain ⟨later, first⟩ := both
      rcases claim_and_stage_ok done with ⟨_, grants⟩ | ⟨_, _, stored, there, equal⟩
      · obtain ⟨execId, staged, free, _⟩ := grants
        rw [free] at found
        cases found
      · rw [found, Option.some.injEq] at there
        exact different (there ▸ equal)
  obtain ⟨err, failed⟩ := refused
  exact ⟨err, by simp only [store, failed]⟩

def FreeUnstaged (callId : String) (db : Database) : Prop :=
  db.idempotency.lookup callId = none →
    ∀ entry ∈ db.outbox, entry.2.invocationId ≠ callId

theorem free_unstaged_next (call : StagingCall) (db : Database)
    (unreleased : ¬Releases callId call db)
    (holds : FreeUnstaged callId db) :
    FreeUnstaged callId ((store pg).next call db) := by
  have moves : Moves pg call db _ := next_moves call db
  intro missing
  have absent : db.idempotency.lookup callId = none := by
    cases found : db.idempotency.lookup callId with
    | none => rfl
    | some row =>
      obtain ⟨next, there⟩ := row_stays ⟨row, found⟩ unreleased moves
      rw [missing] at there
      cases there
  have unstaged := holds absent
  generalize (store pg).next call db = after at moves missing
  cases moves with
  | kept => exact unstaged
  | claims claim effect _ grants =>
    obtain ⟨execId, row, free, acceptable, fresh, named, keyed⟩ := grants
    have different : callId ≠ claim.invocationId := by
      intro same
      simp [granted, lookup_setdefault, same] at missing
    intro entry mem
    rcases List.mem_append.mp mem with old | added
    · exact unstaged entry old
    · rw [List.mem_singleton.mp added, named]
      exact different.symm
  | completes | releases => exact unstaged

theorem claimable_again_of_unreleased {calls : List StagingCall}
    (unreleased : (store pg).Throughout
      (fun call db => ¬Releases callId call db) calls {}) :
    ClaimableAgain pg callId calls := by
  intro before after split released missing now claim effect same acceptable
  subst same
  rw [split, throughout_append] at unreleased
  have unstaged : FreeUnstaged claim.invocationId ((store pg).run before {}) := by
    apply run_keeps free_unstaged_next unreleased.1
    intro _ entry mem
    cases mem
  obtain ⟨execId, row, named, done⟩ :=
    grants_of_free claim effect now missing (unstaged missing) acceptable
  refine ⟨_, by simp only [store, done]; rfl, ?_⟩
  have none : (((store pg).run before {}).outbox.filter fun entry =>
      entry.2.invocationId == claim.invocationId) = [] := by
    rw [List.filter_eq_nil_iff]
    intro entry mem
    simpa using unstaged missing entry mem
  simp [stagedRows, granted, none, named]

theorem unreleased_of_claimable_again {calls : List StagingCall}
    (again : ClaimableAgain pg callId calls) :
    (store pg).Throughout
      (fun call db => ¬Releases callId call db) calls {} := by
  rw [throughout_iff]
  intro before call after split releases
  have holds : ClaimsStaged pg ((store pg).run before {}) :=
    run_claims_staged before
  have missing : ((store pg).next call _).idempotency.lookup callId = none :=
    released_row holds.1 releases
  obtain ⟨made, row, found, _⟩ := releases
  have staged := staged_moves (holds.2 callId row found) (next_moves call _)
  rw [← run_concat] at missing staged
  obtain ⟨claim, effect, same, acceptable, entry, mem, _, _, own⟩ := staged
  obtain ⟨later, granted, _⟩ := again (before ++ [call]) after (by simp [split])
    (by simp [made]) missing 0 claim effect same acceptable
  cases done : claimAndStageOutbox pg 0 claim effect
      ((store pg).run (before ++ [call]) {}) with
  | error err => simp [store, done] at granted
  | ok both =>
    obtain ⟨last, first⟩ := both
    rcases claim_and_stage_ok done with ⟨_, grants⟩ | ⟨_, _, stored, there, _⟩
    · obtain ⟨execId, staged, free, acceptable, fresh, named, keys⟩ := grants
      exact fresh entry mem (own.trans same.symm)
    · rw [same, missing] at there
      cases there

end ClaimAndStage

open ClaimAndStage

/-- For every interleaving of the calls, at most one caller at a time holds an
invocation, other fingerprints are refused, and a released invocation can be claimed and
staged again, exactly when no release ever takes a pending claim of it away. -/
theorem claim_and_stage_iff (pg : Postgres) (callId : String)
    (calls : List StagingCall) :
    (AtMostOneHolder pg callId calls ∧ OthersRefused pg callId calls ∧
      ClaimableAgain pg callId calls) ↔
      (store pg).Throughout
      (fun call db => ¬Releases callId call db) calls {} := by
  constructor
  · intro protocol
    exact unreleased_of_claimable_again protocol.2.2
  · intro unreleased
    exact ⟨at_most_one_holder calls, others_refused calls, claimable_again_of_unreleased unreleased⟩

/-- A worker claims and stages, releases its claim after a failure, and asks again with
the same arguments. -/
def retriedClaim : StagingCall :=
  .claimAndStage 0
    { invocationId := "invocation", executionId := (Uuid.mk 1).str, tenantId := "tenant"
      capabilityId := "capability", requestFingerprint := "fingerprint" }
    { effectId := "effect", idempotencyKey := "key", request := [] }

theorem released_invocation_stays_taken :
    store .exact retriedClaim ((store .exact).run [retriedClaim, .release "invocation"] {}) =
      ((store .exact).run [retriedClaim, .release "invocation"] {},
      .error Database.effectTaken) ∧
      ¬(ClaimAndStage.AtMostOneHolder .exact "invocation"
      [retriedClaim, .release "invocation", retriedClaim] ∧
      ClaimAndStage.OthersRefused .exact "invocation"
      [retriedClaim, .release "invocation", retriedClaim] ∧
      ClaimAndStage.ClaimableAgain .exact "invocation"
      [retriedClaim, .release "invocation", retriedClaim]) := by
  refine ⟨by decide +kernel, ?_⟩
  intro protocol
  have unreleased := (unreleased_of_claimable_again protocol.2.2).2.1
  apply unreleased
  have present : (((store .exact).next retriedClaim {}).idempotency.lookup
      "invocation").map (·.status) = some .pending := by decide +kernel
  obtain ⟨row, found, pending⟩ := Option.map_eq_some_iff.mp present
  exact ⟨rfl, row, found, pending⟩

end Ois.Infrastructure
