import Ois.Kernel.PyValues
import Ois.Library.Histories
import Ois.Runtime.EvidenceCore

/-!
# The evidence runtime

`EvidenceRuntimeV1` of `runtime/evidence/runtime.py`: evidence is ingested under a digest of its
content, an action is decided on and authorized, and `execute` calls the executor.
-/

namespace Ois.Runtime

open Ois.Library Ois.Kernel Machine DateTime Json Dict

def SameMembers (members other : Members) : Prop :=
  sortKeys (.obj members) = sortKeys (.obj other)

structure EvidenceRuntimeV1 where
  ledger : List LedgerEvent := []
  evidence : Dict String EvidenceEnvelope := []
  authorizations : Dict String SingleUseAuthorization := []
  deriving DecidableEq, Repr

structure IngestCall where
  runId : Uuid
  observation : Observation
  clock : Nat → DateTime

/-- `tooOld` says of an age in microseconds whether it exceeds `max_age_seconds`. -/
structure AdmissibleCall where
  runId : Uuid
  action : Members
  evidenceIds : List String
  policy : Members
  authorizationRoot : Members
  tooOld : Option (Int → Bool) := none
  uuid : Uuid
  clock : Nat → DateTime

structure AuthorizeCall where
  runId : Uuid
  decision : AdmissibilityDecision
  action : Members
  evidenceIds : List String
  policy : Members
  ttlSeconds : Int := 60
  uuid : Uuid
  clock : Nat → DateTime

structure ExecuteCall where
  runId : Uuid
  authorization : SingleUseAuthorization
  action : Members
  tool : String
  executor : Members → Except PyError (Option Json)
  evidenceIds : List String
  uuid : Uuid
  clock : Nat → DateTime

inductive RuntimeCall where
  | ingest (call : IngestCall)
  | admissible (call : AdmissibleCall)
  | authorize (call : AuthorizeCall)
  | execute (call : ExecuteCall)

inductive RuntimeAnswer where
  | ingested (evidence : EvidenceEnvelope)
  | decided (decision : Except PyError AdmissibilityDecision)
  | authorized (auth : Except PyError SingleUseAuthorization)
  | executed (called : Bool) (res : Except PyError (ExecutionReceipt × Json))

open RuntimeAnswer

def RuntimeAnswer.called : RuntimeAnswer → Bool
  | .executed called _ => called
  | _ => false

namespace EvidenceRuntimeV1

section authorizations

variable (sha256 : Json.Text → String) (rt : EvidenceRuntimeV1)

def denied (msg : String) : PyError := ⟨.permissionError, msg⟩

/-- `self.ledger.append`. -/
def record (runId : Uuid) (kind : String) (body : Members) (now : DateTime) :
    EvidenceRuntimeV1 :=
  { rt with ledger :=
      (EvidenceLedgerV1.append sha256).next ⟨runId, kind, body, now⟩ rt.ledger }

def ingest (call : IngestCall) : EvidenceRuntimeV1 × EvidenceEnvelope :=
  let evidence := EvidenceEnvelope.create sha256 call.runId call.observation (call.clock 0)
  let kept := { rt with evidence := rt.evidence.set evidence.evidenceId evidence }
  (kept.record sha256 call.runId "EVIDENCE_RECEIVED" evidence.asRecord (call.clock 1), evidence)

/-- `any((now - item.observed_at).total_seconds() > max_age_seconds for item in evidence)`. -/
def anyTooOld (now : DateTime) (tooOld : Int → Bool) :
    List EvidenceEnvelope → Except PyError Bool
  | [] => .ok false
  | item :: rest =>
    match item.observedAt.utcoffset with
    | none => .error ⟨.other "TypeError", "can't subtract offset-naive and offset-aware datetimes"⟩
    | some _ =>
      if tooOld (now.instant - item.observedAt.instant) then .ok true
      else anyTooOld now tooOld rest

def isMapping : Json → Bool
  | .obj _ => true
  | _ => false

def found (call : AdmissibleCall) : List EvidenceEnvelope :=
  call.evidenceIds.filterMap fun id => rt.evidence.lookup id

def stale (call : AdmissibleCall) : Except PyError Bool :=
  match call.tooOld with
  | none => .ok false
  | some tooOld => anyTooOld (call.clock 0) tooOld (rt.found call)

def reasons (call : AdmissibleCall) : Except PyError (List String) := do
  let missing := call.evidenceIds.filter fun id => (rt.evidence.lookup id).isNone
  let rootActions ← iterate ((call.authorizationRoot.lookup "allowed_actions").getD (.arr []))
  let allowedActionDigests := (rootActions.filter isMapping).map (canonicalDigest sha256)
  let stale ← rt.stale call
  return (if missing.isEmpty then [] else ["missing_evidence"]) ++
    (if canonicalDigest sha256 (.obj call.action) ∈ allowedActionDigests then []
      else ["authorization_root_mismatch"]) ++
    (if stale then ["stale_evidence"] else []) ++
    (if truthy ((call.policy.lookup "deny").getD (.bool false)) then ["policy_denied"] else [])

def decision (call : AdmissibleCall) (reasons : List String) : AdmissibilityDecision where
  allowed := reasons.isEmpty
  decisionId := "DEC-" ++ hexOf call.uuid
  actionDigest := canonicalDigest sha256 (.obj call.action)
  evidenceDigest := evidenceDigest sha256 call.evidenceIds
  policyDigest := canonicalDigest sha256 (.obj call.policy)
  reasonCodes := reasons

def admissible (call : AdmissibleCall) :
    EvidenceRuntimeV1 × Except PyError AdmissibilityDecision :=
  match rt.reasons sha256 call with
  | .error err => (rt, .error err)
  | .ok reasons =>
    let made := decision sha256 call reasons
    (rt.record sha256 call.runId "ACTION_ADMISSIBILITY_EVALUATED"
      [("decision", .bool made.allowed), ("decision_id", .str made.decisionId),
        ("reasons", .arr (reasons.map .str))] (call.clock 1), .ok made)

/-- The checks of `authorize`, and the authorization that it issues. -/
def issue (call : AuthorizeCall) : Except PyError SingleUseAuthorization :=
  if !call.decision.allowed then .error (denied "action_not_admissible")
  else if canonicalDigest sha256 (.obj call.action) ≠ call.decision.actionDigest then
    .error (denied "decision_action_mismatch")
  else if evidenceDigest sha256 call.evidenceIds ≠ call.decision.evidenceDigest then
    .error (denied "decision_evidence_mismatch")
  else
    authorizationFor sha256 call.runId call.action call.evidenceIds call.policy
      call.ttlSeconds (call.clock 0) call.uuid

def authorize (call : AuthorizeCall) :
    EvidenceRuntimeV1 × Except PyError SingleUseAuthorization :=
  match issue sha256 call with
  | .error err => (rt, .error err)
  | .ok auth =>
    let kept := { rt with authorizations :=
      rt.authorizations.set auth.authorizationId auth }
    (kept.record sha256 call.runId "ACTION_AUTHORIZED"
      [("authorization_id", .str auth.authorizationId),
        ("action_digest", .str call.decision.actionDigest)] (call.clock 1), .ok auth)

/-- The checks of `execute`, and the authorization after its use. -/
def consumed (call : ExecuteCall) : Except PyError SingleUseAuthorization :=
  match rt.authorizations.lookup call.authorization.authorizationId with
  | none => .error (denied "unknown_authorization")
  | some cur =>
    if canonicalDigest sha256 (.obj call.action) ≠ cur.actionDigest then
      .error (denied "action_digest_mismatch")
    else if evidenceDigest sha256 call.evidenceIds ≠ cur.evidenceDigest then
      .error (denied "evidence_digest_mismatch")
    else cur.consume (call.clock 0)

def execute (call : ExecuteCall) :
    EvidenceRuntimeV1 × Bool × Except PyError (ExecutionReceipt × Json) :=
  match rt.consumed sha256 call with
  | .error err => (rt, false, .error err)
  | .ok consumed =>
    let used := { rt with authorizations :=
      rt.authorizations.set consumed.authorizationId consumed }
    let started := used.record sha256 call.runId "ACTION_EXECUTION_STARTED"
      [("tool", .str call.tool)] (call.clock 2)
    match call.executor call.action with
    | .error err =>
      (started.record sha256 call.runId "ACTION_EXECUTION_FAILED"
        [("error_type", .str err.kind.name)] (call.clock 3), true, .error err)
    | .ok none => (started, true, .error ⟨.other "TypeError", "Object is not JSON serializable"⟩)
    | .ok (some output) =>
      let receipt : ExecutionReceipt :=
        { executionId := "EXEC-" ++ hexOf call.uuid
          authorizationId := consumed.authorizationId
          actionDigest := consumed.actionDigest
          tool := call.tool
          status := "succeeded"
          outputDigest := canonicalDigest sha256 output
          startedAt := call.clock 1
          completedAt := call.clock 3
          evidenceIds := call.evidenceIds }
      (started.record sha256 call.runId "ACTION_EXECUTED"
        [("execution_id", .str receipt.executionId),
          ("output_digest", .str receipt.outputDigest)] (call.clock 4),
        true, .ok (receipt, output))

def gate : Machine RuntimeCall EvidenceRuntimeV1 RuntimeAnswer := fun call rt =>
  match call with
  | .ingest call =>
    let (after, evidence) := rt.ingest sha256 call
    (after, .ingested evidence)
  | .admissible call =>
    let (after, decision) := rt.admissible sha256 call
    (after, .decided decision)
  | .authorize call =>
    let (after, auth) := rt.authorize sha256 call
    (after, .authorized auth)
  | .execute call =>
    let (after, called, res) := rt.execute sha256 call
    (after, .executed called res)

def runtimeAfter (calls : List RuntimeCall) : EvidenceRuntimeV1 := (gate sha256).run calls {}

def Ingests (before : List RuntimeCall) (call : IngestCall) (evidence : EvidenceEnvelope) : Prop :=
  (gate sha256).answer (.ingest call) (runtimeAfter sha256 before) = .ingested evidence

def Decides (before : List RuntimeCall) (call : AdmissibleCall)
    (decision : AdmissibilityDecision) : Prop :=
  (gate sha256).answer (.admissible call) (runtimeAfter sha256 before) = .decided (.ok decision)

def Issues (before : List RuntimeCall) (call : AuthorizeCall)
    (auth : SingleUseAuthorization) : Prop :=
  (gate sha256).answer (.authorize call) (runtimeAfter sha256 before) =
    .authorized (.ok auth)

def CallsExecutor (before : List RuntimeCall) (call : ExecuteCall) : Prop :=
  ((gate sha256).answer (.execute call) (runtimeAfter sha256 before)).called = true

structure Justified (before : List RuntimeCall) (call : ExecuteCall) : Prop where
  authorized : ∃ first authorize second auth,
    before = first ++ .authorize authorize :: second ∧
    Issues sha256 first authorize auth ∧
    auth.authorizationId = call.authorization.authorizationId ∧
    auth.runId = call.runId ∧ (call.clock 0).instant < auth.expiresAt ∧
    ∃ early admissible late decision, first = early ++ .admissible admissible :: late ∧
      Decides sha256 early admissible decision ∧ decision.allowed = true ∧
      admissible.runId = call.runId ∧ SameMembers admissible.action call.action ∧
      admissible.evidenceIds.Perm call.evidenceIds ∧
      SameMembers admissible.policy authorize.policy
  ingested : ∀ evidenceId ∈ call.evidenceIds, ∃ first ingest second evidence,
    before = first ++ .ingest ingest :: second ∧ Ingests sha256 first ingest evidence ∧
    ingest.runId = call.runId ∧ evidence.evidenceId = evidenceId
  unused : ∀ first past second, before = first ++ .execute past :: second →
    CallsExecutor sha256 first past →
      past.authorization.authorizationId ≠ call.authorization.authorizationId

def Gated (calls : List RuntimeCall) : Prop :=
  ∀ before call after, calls = before ++ .execute call :: after →
    CallsExecutor sha256 before call → Justified sha256 before call

def Bound (before : List RuntimeCall) : RuntimeCall → Prop
  | .ingest _ => True
  | .admissible call => ∀ decision, Decides sha256 before call decision →
      decision.allowed = true → ∀ evidenceId ∈ call.evidenceIds, ∀ evidence,
        (runtimeAfter sha256 before).evidence.lookup evidenceId = some evidence →
          evidence.runId = call.runId
  | .authorize call => ∀ auth, Issues sha256 before call auth →
      (∃ early admissible late, before = early ++ .admissible admissible :: late ∧
        Decides sha256 early admissible call.decision ∧ admissible.runId = call.runId ∧
        SameMembers admissible.policy call.policy) ∧
      (runtimeAfter sha256 before).authorizations.lookup auth.authorizationId = none
  | .execute call => CallsExecutor sha256 before call → ∀ cur,
      (runtimeAfter sha256 before).authorizations.lookup call.authorization.authorizationId =
        some cur → cur.runId = call.runId

def AllBound (calls : List RuntimeCall) : Prop := Historically (Bound sha256) calls

section calls

variable {sha256}

/-- The authorization under which `execute` calls the executor. -/
structure Admits (sha256 : Json.Text → String) (call : ExecuteCall)
    (rt : EvidenceRuntimeV1) (cur : SingleUseAuthorization) : Prop where
  known : rt.authorizations.lookup call.authorization.authorizationId = some cur
  action : canonicalDigest sha256 (.obj call.action) = cur.actionDigest
  evidence : evidenceDigest sha256 call.evidenceIds = cur.evidenceDigest
  unused : cur.consumed = false
  unexpired : (call.clock 0).instant < cur.expiresAt

variable {call : ExecuteCall} {rt : EvidenceRuntimeV1} {auth : SingleUseAuthorization}
  {before : List RuntimeCall}

theorem consumed_ok_iff {used : SingleUseAuthorization} :
    rt.consumed sha256 call = .ok used ↔
      ∃ cur, Admits sha256 call rt cur ∧ used = { cur with consumed := true } := by
  unfold consumed
  cases known : rt.authorizations.lookup call.authorization.authorizationId with
  | none =>
    constructor
    · exact nofun
    · rintro ⟨cur, admits, _⟩
      rw [admits.known] at known
      cases known
  | some cur =>
    dsimp only
    split_ifs with action evidence
    · constructor
      · exact nofun
      · rintro ⟨other, admits, _⟩
        cases known.symm.trans admits.known
        exact absurd admits.action action
    · constructor
      · exact nofun
      · rintro ⟨other, admits, _⟩
        cases known.symm.trans admits.known
        exact absurd admits.evidence evidence
    · simp only [not_not] at action evidence
      unfold SingleUseAuthorization.consume
      split_ifs with replayed expired
      · constructor
        · exact nofun
        · rintro ⟨other, admits, _⟩
          cases known.symm.trans admits.known
          exact absurd replayed (by simp [admits.unused])
      · constructor
        · exact nofun
        · rintro ⟨other, admits, _⟩
          cases known.symm.trans admits.known
          exact absurd admits.unexpired (by omega)
      · constructor
        · rintro ⟨rfl⟩
          exact ⟨cur, ⟨known, action, evidence, by simpa using replayed, by omega⟩, rfl⟩
        · rintro ⟨other, admits, rfl⟩
          cases known.symm.trans admits.known
          rfl

theorem execute_called_iff :
    ((gate sha256).answer (.execute call) rt).called = true ↔
      ∃ cur, Admits sha256 call rt cur := by
  have read : (∃ cur, Admits sha256 call rt cur) ↔
      ∃ used, rt.consumed sha256 call = .ok used := by
    constructor
    · rintro ⟨cur, admits⟩
      exact ⟨_, consumed_ok_iff.mpr ⟨cur, admits, rfl⟩⟩
    · rintro ⟨used, done⟩
      obtain ⟨cur, admits, _⟩ := consumed_ok_iff.mp done
      exact ⟨cur, admits⟩
  rw [read]
  simp only [answer, gate, execute]
  cases rt.consumed sha256 call with
  | error err => simp [called]
  | ok used =>
    cases call.executor call.action with
    | error err => simp [called]
    | ok output => cases output <;> simp [called]

/-- What `authorize` has checked of what it issues. -/
structure Checked (sha256 : Json.Text → String) (call : AuthorizeCall)
    (auth : SingleUseAuthorization) : Prop where
  allowed : call.decision.allowed = true
  decidedAction : canonicalDigest sha256 (.obj call.action) = call.decision.actionDigest
  decidedEvidence : evidenceDigest sha256 call.evidenceIds = call.decision.evidenceDigest
  action : auth.actionDigest = canonicalDigest sha256 (.obj call.action)
  evidence : auth.evidenceDigest = evidenceDigest sha256 call.evidenceIds
  run : auth.runId = call.runId

theorem issue_checked {call : AuthorizeCall} (issued : issue sha256 call = .ok auth) :
    Checked sha256 call auth := by
  unfold issue authorizationFor at issued
  split_ifs at issued with refused action evidence
  simp only [not_not] at action evidence
  cases expires : expiry (call.clock 0) call.ttlSeconds with
  | error err => simp [expires, bind, Except.bind] at issued
  | ok expiresAt =>
    rw [expires] at issued
    cases issued
    exact ⟨by simpa using refused, action, evidence, rfl, rfl, rfl⟩

theorem issues_iff {call : AuthorizeCall} :
    Issues sha256 before call auth ↔ issue sha256 call = .ok auth := by
  simp only [Issues, answer, gate, authorize]
  cases issue sha256 call with
  | error err => simp
  | ok issued => simp

theorem found_of_no_reason {call : AdmissibleCall} (none : rt.reasons sha256 call = .ok [])
    {evidenceId : String} (mem : evidenceId ∈ call.evidenceIds) :
    (rt.evidence.lookup evidenceId).isSome = true := by
  have missing : (call.evidenceIds.filter fun id =>
      (rt.evidence.lookup id).isNone).isEmpty = true := by
    unfold reasons at none
    cases root : iterate ((call.authorizationRoot.lookup "allowed_actions").getD (.arr [])) with
    | error err => simp [root, bind, Except.bind] at none
    | ok rootActions =>
      cases old : rt.stale call with
      | error err => simp [root, old, bind, Except.bind] at none
      | ok stale =>
        by_contra some
        simp [root, old, some, bind, Except.bind, pure, Except.pure] at none
  rw [List.isEmpty_iff, List.filter_eq_nil_iff] at missing
  simpa using missing evidenceId mem

theorem decides_allowed {call : AdmissibleCall} {made : AdmissibilityDecision}
    (decides : Decides sha256 before call made) :
    made.actionDigest = canonicalDigest sha256 (.obj call.action) ∧
      made.evidenceDigest = evidenceDigest sha256 call.evidenceIds ∧
      (made.allowed = true → ∀ evidenceId ∈ call.evidenceIds,
      ((runtimeAfter sha256 before).evidence.lookup evidenceId).isSome = true) := by
  simp only [Decides, answer, gate, admissible] at decides
  cases evaluated : (runtimeAfter sha256 before).reasons sha256 call with
  | error err => simp [evaluated] at decides
  | ok given =>
    simp only [evaluated, decided.injEq, Except.ok.injEq] at decides
    subst decides
    refine ⟨rfl, rfl, ?_⟩
    intro allowed evidenceId mem
    have none : given = [] := by simpa [decision] using allowed
    subst none
    exact found_of_no_reason evaluated mem

theorem authorizations_of_issue {call : AuthorizeCall}
    (checked : issue sha256 call = .ok auth) :
    ((gate sha256).next (.authorize call) rt).authorizations =
      rt.authorizations.set auth.authorizationId auth := by
  simp only [next, gate, authorize, checked]
  rfl

inductive AuthorizationMoves (sha256 : Json.Text → String) (call : RuntimeCall)
    (rt : EvidenceRuntimeV1) : Dict String SingleUseAuthorization → Prop where
  | kept : AuthorizationMoves sha256 call rt rt.authorizations
  | issued (req auth) (made : call = .authorize req)
      (checked : issue sha256 req = .ok auth) :
      AuthorizationMoves sha256 call rt
        (rt.authorizations.set auth.authorizationId auth)
  | used (req cur) (made : call = .execute req)
      (admits : Admits sha256 req rt cur) :
      AuthorizationMoves sha256 call rt (rt.authorizations.set
        cur.authorizationId { cur with consumed := true })

theorem authorization_moves (call : RuntimeCall) (rt : EvidenceRuntimeV1) :
    AuthorizationMoves sha256 call rt ((gate sha256).next call rt).authorizations := by
  simp only [next, gate]
  cases call with
  | ingest req => exact .kept
  | admissible req =>
    simp only [admissible]
    cases rt.reasons sha256 req with
    | error | ok => exact .kept
  | authorize req =>
    simp only [authorize]
    cases checked : issue sha256 req with
    | error err => exact .kept
    | ok auth => exact .issued req auth rfl checked
  | execute req =>
    simp only [execute]
    cases done : rt.consumed sha256 req with
    | error err => exact .kept
    | ok used =>
      obtain ⟨cur, admits, rfl⟩ := consumed_ok_iff.mp done
      cases req.executor req.action with
      | error err => exact .used req cur rfl admits
      | ok output => cases output <;> exact .used req cur rfl admits

theorem evidence_next (call : RuntimeCall) (rt : EvidenceRuntimeV1) :
    ((gate sha256).next call rt).evidence = rt.evidence ∨
      ∃ req, call = .ingest req ∧
      ((gate sha256).next call rt).evidence =
      rt.evidence.set (rt.ingest sha256 req).2.evidenceId
      (rt.ingest sha256 req).2 := by
  simp only [next, gate]
  cases call with
  | ingest req => exact Or.inr ⟨req, rfl, rfl⟩
  | admissible req =>
    left
    simp only [admissible]
    cases rt.reasons sha256 req <;> rfl
  | authorize req =>
    left
    simp only [authorize]
    cases issue sha256 req <;> rfl
  | execute req =>
    left
    simp only [execute]
    cases rt.consumed sha256 req with
    | error err => rfl
    | ok used =>
      cases req.executor req.action with
      | error err => rfl
      | ok output => cases output <;> rfl

theorem runtime_after_concat (calls : List RuntimeCall) (call : RuntimeCall) :
    runtimeAfter sha256 (calls ++ [call]) = (gate sha256).next call (runtimeAfter sha256 calls) :=
  (gate sha256).run_concat calls call {}

theorem ingested_of_lookup {evidenceId : String} {evidence : EvidenceEnvelope}
    (held : (runtimeAfter sha256 before).evidence.lookup evidenceId = some evidence) :
    ∃ first ingest second, before = first ++ .ingest ingest :: second ∧
      Ingests sha256 first ingest evidence ∧ ingest.runId = evidence.runId ∧
      evidence.evidenceId = evidenceId := by
  induction before using List.reverseRecOn with
  | nil => cases held
  | append_singleton past call ih =>
    have longer (known : (runtimeAfter sha256 past).evidence.lookup evidenceId =
        some evidence) : ∃ first ingest second,
        past ++ [call] = first ++ .ingest ingest :: second ∧
          Ingests sha256 first ingest evidence ∧ ingest.runId = evidence.runId ∧
            evidence.evidenceId = evidenceId := by
      obtain ⟨first, ingest, second, split, rest⟩ := ih known
      exact ⟨first, ingest, second ++ [call], by simp [split], rest⟩
    rw [runtime_after_concat] at held
    rcases evidence_next call (runtimeAfter sha256 past) with same | ⟨req, rfl, added⟩
    · rw [same] at held
      exact longer held
    · rw [added, lookup_set] at held
      split_ifs at held with new
      · cases held
        exact ⟨past, req, [], rfl, rfl, rfl, new.symm⟩
      · exact longer held

theorem named_after (before : List RuntimeCall) :
    ∀ authorizationId cur,
      (runtimeAfter sha256 before).authorizations.lookup authorizationId = some cur →
      cur.authorizationId = authorizationId := by
  induction before using List.reverseRecOn with
  | nil => exact nofun
  | append_singleton past call ih =>
    intro authorizationId cur held
    rw [runtime_after_concat] at held
    have moves := @authorization_moves sha256 call (runtimeAfter sha256 past)
    generalize ((gate sha256).next call (runtimeAfter sha256 past)).authorizations = after
      at moves held
    cases moves with
    | kept => exact ih authorizationId cur held
    | issued req issued made checked =>
      rw [lookup_set] at held
      split_ifs at held with new
      · cases held
        exact new.symm
      · exact ih authorizationId cur held
    | used req known made admits =>
      rw [lookup_set] at held
      split_ifs at held with same
      · cases held
        exact same.symm
      · exact ih authorizationId cur held

theorem issued_of_lookup {authorizationId : String} {cur : SingleUseAuthorization}
    (held : (runtimeAfter sha256 before).authorizations.lookup authorizationId = some cur) :
    ∃ first authorize second issued, before = first ++ .authorize authorize :: second ∧
      Issues sha256 first authorize issued ∧
      (cur = issued ∨ cur = { issued with consumed := true }) := by
  induction before using List.reverseRecOn generalizing cur with
  | nil => cases held
  | append_singleton past call ih =>
    rw [runtime_after_concat] at held
    have moves := @authorization_moves sha256 call (runtimeAfter sha256 past)
    generalize ((gate sha256).next call (runtimeAfter sha256 past)).authorizations = after
      at moves held
    have longer {known : SingleUseAuthorization}
        (lookup : (runtimeAfter sha256 past).authorizations.lookup authorizationId =
          some known) : ∃ first authorize second issued,
          past ++ [call] = first ++ .authorize authorize :: second ∧
            Issues sha256 first authorize issued ∧
              (known = issued ∨ known = { issued with consumed := true }) := by
      obtain ⟨first, authorize, second, issued, split, rest⟩ := ih lookup
      exact ⟨first, authorize, second ++ [call], issued, by simp [split], rest⟩
    cases moves with
    | kept => exact longer held
    | issued req issued made checked =>
      rw [lookup_set] at held
      split_ifs at held
      · cases held
        exact ⟨past, req, [], cur, by rw [made], issues_iff.mpr checked, Or.inl rfl⟩
      · exact longer held
    | used req known made admits =>
      rw [lookup_set] at held
      split_ifs at held with same
      · cases held
        have lookup := admits.known
        rw [← named_after past _ known lookup, ← same] at lookup
        obtain ⟨first, authorize, second, issued, split, issues, since⟩ := longer lookup
        refine ⟨first, authorize, second, issued, split, issues, Or.inr ?_⟩
        rcases since with rfl | rfl
        · rfl
        · rfl
      · exact longer held

def Used (authorizationId : String) (rt : EvidenceRuntimeV1) : Prop :=
  ∃ cur, rt.authorizations.lookup authorizationId = some cur ∧ cur.consumed = true

/-- What is issued is issued under a new identifier. -/
def Fresh (sha256 : Json.Text → String) (call : RuntimeCall) (rt : EvidenceRuntimeV1) : Prop :=
  ∀ req auth, call = .authorize req → issue sha256 req = .ok auth →
      rt.authorizations.lookup auth.authorizationId = none

theorem Used.next {authorizationId : String} (call : RuntimeCall) (rt : EvidenceRuntimeV1)
    (fresh : Fresh sha256 call rt) (used : Used authorizationId rt) :
    Used authorizationId ((gate sha256).next call rt) := by
  obtain ⟨cur, held, consumed⟩ := used
  have moves := @authorization_moves sha256 call rt
  unfold Used
  generalize ((gate sha256).next call rt).authorizations = after at moves ⊢
  cases moves with
  | kept => exact ⟨cur, held, consumed⟩
  | issued req auth made checked =>
    have unknown := fresh req auth made checked
    have different : authorizationId ≠ auth.authorizationId := by
      rintro rfl
      rw [unknown] at held
      cases held
    rw [lookup_set, if_neg different]
    exact ⟨cur, held, consumed⟩
  | used req known made admits =>
    rw [lookup_set]
    split_ifs
    · exact ⟨_, rfl, rfl⟩
    · exact ⟨cur, held, consumed⟩

theorem used_by_execute (called : CallsExecutor sha256 before call) :
    Used call.authorization.authorizationId
      ((gate sha256).next (.execute call) (runtimeAfter sha256 before)) := by
  obtain ⟨cur, admits⟩ := execute_called_iff.mp called
  have done := consumed_ok_iff.mpr ⟨cur, admits, rfl⟩
  have named := named_after before _ cur admits.known
  have stored : ((gate sha256).next (.execute call) (runtimeAfter sha256 before)).authorizations =
        (runtimeAfter sha256 before).authorizations.set cur.authorizationId
          { cur with consumed := true } := by
    simp only [next, gate, execute, done]
    cases call.executor call.action with
    | error err => rfl
    | ok output => cases output <;> rfl
  refine ⟨{ cur with consumed := true }, ?_, rfl⟩
  rw [stored, named, lookup_set_same]

theorem runtime_after_append (first second : List RuntimeCall) :
    runtimeAfter sha256 (first ++ second) = (gate sha256).run second (runtimeAfter sha256 first) :=
  (gate sha256).run_append first second {}

theorem fresh_of_bound {call : RuntimeCall} (bound : Bound sha256 before call) :
    Fresh sha256 call (runtimeAfter sha256 before) := by
  rintro req auth rfl checked
  exact (bound auth (issues_iff.mpr checked)).2

theorem used_along {first second third : List RuntimeCall}
    (bound : AllBound sha256 (first ++ .execute call :: second ++ third))
    (called : CallsExecutor sha256 first call) :
    Used call.authorization.authorizationId
      (runtimeAfter sha256 (first ++ .execute call :: second)) := by
  rw [runtime_after_append, run]
  have fresh : (gate sha256).Throughout (Fresh sha256) second
      ((gate sha256).next (.execute call) (runtimeAfter sha256 first)) := by
    rw [throughout_iff]
    rintro before other after rfl
    have here := fresh_of_bound
      (bound (first ++ .execute call :: before) other (after ++ third) (by simp))
    rw [runtime_after_append] at here
    exact here
  exact run_keeps Used.next fresh (used_by_execute called)

end calls

section gated

variable {sha256}
  (injective : ∀ value other, canonicalDigest sha256 value = canonicalDigest sha256 other →
    sortKeys value = sortKeys other)

include injective

theorem perm_of_evidence_digest {evidenceIds others : List String}
    (same : evidenceDigest sha256 evidenceIds = evidenceDigest sha256 others) :
    evidenceIds.Perm others := by
  have sorted := injective _ _ same
  rw [sort_keys_arr, sort_keys_arr, arr.injEq, List.map_map, List.map_map] at sorted
  have texts : Function.Injective (sortKeys ∘ str) := by
    intro text other equal
    simpa using equal
  have equal := List.map_injective_iff.mpr texts sorted
  exact (List.perm_insertionSort _ evidenceIds).symm.trans
    (equal ▸ List.perm_insertionSort _ others)

theorem justified_of_bound {before : List RuntimeCall} {call : ExecuteCall}
    {after : List RuntimeCall} (bound : AllBound sha256 (before ++ .execute call :: after))
    (called : CallsExecutor sha256 before call) : Justified sha256 before call := by
  obtain ⟨cur, admits⟩ := execute_called_iff.mp called
  obtain ⟨first, authorize, second, issued, rfl, issues, since⟩ := issued_of_lookup admits.known
  have unchanged : cur = issued := by
    rcases since with same | rfl
    · exact same
    · exact absurd admits.unused (by simp)
  subst unchanged
  have checked := issue_checked (issues_iff.mp issues)
  have named := named_after _ _ cur admits.known
  have run : cur.runId = call.runId :=
    bound _ (.execute call) after rfl called cur admits.known
  obtain ⟨⟨early, admissible, late, rfl, decides, sameRun, samePolicy⟩, _⟩ :=
    bound first (.authorize authorize) (second ++ .execute call :: after) (by simp) cur issues
  obtain ⟨action, evidence, found⟩ := decides_allowed decides
  have sameAction : canonicalDigest sha256 (.obj admissible.action) =
      canonicalDigest sha256 (.obj call.action) := by
    rw [← action, ← checked.decidedAction, ← checked.action, admits.action]
  have sameEvidence : evidenceDigest sha256 admissible.evidenceIds =
      evidenceDigest sha256 call.evidenceIds := by
    rw [← evidence, ← checked.decidedEvidence, ← checked.evidence, admits.evidence]
  have perm := perm_of_evidence_digest injective sameEvidence
  have runs : admissible.runId = call.runId := sameRun.trans (checked.run.symm.trans run)
  refine ⟨⟨early ++ .admissible admissible :: late, authorize, second, cur, rfl, issues, named,
    run, admits.unexpired, early, admissible, late, authorize.decision, rfl, decides,
    checked.allowed, runs, injective _ _ sameAction, perm, samePolicy⟩, ?_, ?_⟩
  · intro evidenceId mem
    have decided := perm.mem_iff.mpr mem
    obtain ⟨held, lookup⟩ := Option.isSome_iff_exists.mp (found checked.allowed evidenceId decided)
    have own := bound early (.admissible admissible)
      (late ++ .authorize authorize :: second ++ .execute call :: after) (by simp)
      authorize.decision decides checked.allowed evidenceId decided held lookup
    obtain ⟨start, ingest, rest, split, ingests, same, id⟩ := ingested_of_lookup lookup
    exact ⟨start, ingest, rest ++ .admissible admissible :: late ++ .authorize authorize :: second,
      held, by simp [split], ingests, same.trans (own.trans runs), id⟩
  · intro start past rest split earlierCalled again
    rw [split] at bound admits
    obtain ⟨known, lookup, consumed⟩ := used_along bound earlierCalled
    rw [again, admits.known] at lookup
    cases lookup
    rw [admits.unused] at consumed
    cases consumed

/-- Where callers bind decisions, policies, evidence and runs as the runtime does not,
every call of an executor is justified. -/
theorem gated_of_all_bound (calls : List RuntimeCall) (bound : AllBound sha256 calls) :
    Gated sha256 calls := by
  rintro before call after rfl called
  exact justified_of_bound injective bound called

end gated

section replay

def replayRun : Uuid := ⟨1⟩

def replayClock : Nat → DateTime := fun _ => epoch

def replayAction : Members := [("capability", .str "read")]

def replayIngest : IngestCall where
  runId := replayRun
  observation := { evidenceType := "observation", sourceId := "test", payload := .obj [] }
  clock := replayClock

def replayEvidence : EvidenceEnvelope :=
  EvidenceEnvelope.create Json.Text.plain replayRun replayIngest.observation epoch

def replayAdmissible : AdmissibleCall where
  runId := replayRun
  action := replayAction
  evidenceIds := [replayEvidence.evidenceId]
  policy := [("deny", .bool false)]
  authorizationRoot := [("allowed_actions", .arr [.obj replayAction])]
  uuid := ⟨2⟩
  clock := replayClock

def replayAuthorize (policy : Members) : AuthorizeCall where
  runId := replayRun
  decision := decision Json.Text.plain replayAdmissible []
  action := replayAction
  evidenceIds := [replayEvidence.evidenceId]
  policy := policy
  uuid := ⟨3⟩
  clock := replayClock

def replayAuthorization (policy : Members) : SingleUseAuthorization where
  authorizationId := "AUTH-" ++ hexOf ⟨3⟩
  runId := replayRun
  actionDigest := canonicalDigest Json.Text.plain (.obj replayAction)
  evidenceDigest := evidenceDigest Json.Text.plain [replayEvidence.evidenceId]
  policyDigest := canonicalDigest Json.Text.plain (.obj policy)
  issuedAt := epoch
  expiresAt := epoch.instant + 60000000

def replayExecute (policy : Members) : ExecuteCall where
  runId := replayRun
  authorization := replayAuthorization policy
  action := replayAction
  tool := "test"
  executor := fun _ => .ok (some (.obj []))
  evidenceIds := [replayEvidence.evidenceId]
  uuid := ⟨4⟩
  clock := replayClock

def beforeReplay (policy : Members) : List RuntimeCall :=
  [.ingest replayIngest, .admissible replayAdmissible, .authorize (replayAuthorize policy)]

theorem replay_decides : Decides Json.Text.plain [.ingest replayIngest] replayAdmissible
    (decision Json.Text.plain replayAdmissible []) := by
  have evidence : (runtimeAfter Json.Text.plain [.ingest replayIngest]).evidence =
      [(replayEvidence.evidenceId, replayEvidence)] := rfl
  have reasons : (runtimeAfter Json.Text.plain [.ingest replayIngest]).reasons Json.Text.plain
      replayAdmissible = .ok [] := by
    simp [reasons, stale, evidence, replayAdmissible, iterate, isMapping, truthy,
      List.lookup_cons, bind, Except.bind, pure, Except.pure]
  simp only [Decides, answer, gate, admissible, reasons]

variable (policy : Members)

theorem replay_issues :
    issue Json.Text.plain (replayAuthorize policy) = .ok (replayAuthorization policy) := by
  have expires : expiry epoch 60 = .ok (epoch.instant + 60000000) := by
    decide +kernel
  simp [issue, replayAuthorize, decision, replayAdmissible, authorizationFor, replayClock,
    expires, bind, Except.bind, pure, Except.pure, replayAuthorization]

theorem replay_unauthorized : (runtimeAfter Json.Text.plain
    ([.ingest replayIngest] ++ [.admissible replayAdmissible])).authorizations = [] := by
  rw [runtime_after_concat]
  simp only [next, gate, admissible]
  cases reasons Json.Text.plain (runtimeAfter Json.Text.plain [.ingest replayIngest])
    replayAdmissible <;> rfl

theorem replay_authorizations :
    (runtimeAfter Json.Text.plain (beforeReplay policy)).authorizations =
      [((replayAuthorization policy).authorizationId, replayAuthorization policy)] := by
  have split : beforeReplay policy = ([.ingest replayIngest] ++ [.admissible replayAdmissible]) ++
      [.authorize (replayAuthorize policy)] := rfl
  rw [split, runtime_after_concat, authorizations_of_issue (replay_issues policy),
    replay_unauthorized]
  rfl

theorem replay_called :
    CallsExecutor Json.Text.plain (beforeReplay policy) (replayExecute policy) := by
  refine execute_called_iff.mpr ⟨replayAuthorization policy, ?_, ?_, ?_, rfl, ?_⟩
  · rw [replay_authorizations, replayExecute, List.lookup_cons_self]
  · simp only [replayExecute, replayAuthorization]
  · simp only [replayExecute, replayAuthorization]
  · simp [replayExecute, replayClock, replayAuthorization]

/-- The action was found admissible under a policy that does not deny, and is authorized under
one that denies. -/
theorem other_policy_not_gated :
    CallsExecutor Json.Text.plain (beforeReplay [("deny", .bool true)])
      (replayExecute [("deny", .bool true)]) ∧
      ¬Gated Json.Text.plain (beforeReplay [("deny", .bool true)] ++
      [.execute (replayExecute [("deny", .bool true)])]) := by
  refine ⟨replay_called _, ?_⟩
  intro gated
  obtain ⟨first, authorize, second, auth, split, _, _, _, _, early, admissible, late,
    decision, before, _, _, _, _, _, policy⟩ := (gated _ _ [] rfl (replay_called _)).authorized
  have authorizes : RuntimeCall.authorize authorize ∈ beforeReplay [("deny", .bool true)] := by
    rw [split]
    simp
  have admits : RuntimeCall.admissible admissible ∈ beforeReplay [("deny", .bool true)] := by
    rw [split, before]
    simp
  simp only [beforeReplay, List.mem_cons, reduceCtorEq, RuntimeCall.authorize.injEq,
    RuntimeCall.admissible.injEq, List.not_mem_nil, or_false, false_or] at authorizes admits
  rw [authorizes, admits] at policy
  revert policy
  unfold SameMembers
  decide +kernel

theorem replay_all_bound : AllBound Json.Text.plain (beforeReplay [("deny", .bool false)] ++
      [.execute (replayExecute [("deny", .bool false)])]) := by
  refine historically_concat.mpr ⟨historically_concat.mpr ⟨historically_concat.mpr
    ⟨historically_concat.mpr ⟨historically_nil _, trivial⟩, ?_⟩, ?_⟩, ?_⟩
  · intro made decides allowed evidenceId mem evidence lookup
    have own : evidenceId = replayEvidence.evidenceId := by simpa [replayAdmissible] using mem
    have held : (runtimeAfter Json.Text.plain [.ingest replayIngest]).evidence =
      [(replayEvidence.evidenceId, replayEvidence)] := rfl
    rw [List.nil_append, held, own, List.lookup_cons_self] at lookup
    rw [← Option.some.inj lookup]
    rfl
  · intro auth issues
    refine ⟨⟨[.ingest replayIngest], replayAdmissible, [], rfl, replay_decides, rfl, rfl⟩, ?_⟩
    rw [List.nil_append, replay_unauthorized]
    rfl
  · intro called cur known
    rw [replay_authorizations, replayExecute, List.lookup_cons_self] at known
    rw [← Option.some.inj known]
    rfl

theorem replay_gated :
    AllBound Json.Text.plain (beforeReplay [("deny", .bool false)] ++
      [.execute (replayExecute [("deny", .bool false)])]) ∧
      Gated Json.Text.plain (beforeReplay [("deny", .bool false)] ++
      [.execute (replayExecute [("deny", .bool false)])]) := by
  refine ⟨replay_all_bound, gated_of_all_bound ?_ _ replay_all_bound⟩
  intro value other same
  exact congrArg Json.Text.document (Json.Text.plain_injective same)

end replay

end authorizations

section addresses

variable (sha256 : Json.Text → String)

def envelopeOf (call : IngestCall) : EvidenceEnvelope :=
  EvidenceEnvelope.create sha256 call.runId call.observation (call.clock 0)

/-- Evidence that was admitted is not replaced by another envelope. -/
def ContentAddressed (calls : List RuntimeCall) : Prop :=
  Historically (fun before call => ∀ req, call = .ingest req → ∀ held,
    (runtimeAfter sha256 before).evidence.lookup (envelopeOf sha256 req).evidenceId =
      some held → held = envelopeOf sha256 req) calls

structure SameSubject (call other : IngestCall) : Prop where
  runId : call.runId = other.runId
  evidenceType : call.observation.evidenceType = other.observation.evidenceType
  sourceId : call.observation.sourceId = other.observation.sourceId
  observedAt : call.observation.observedAt.getD (call.clock 0) =
    other.observation.observedAt.getD (other.clock 0)
  payload : canonicalDigest sha256 call.observation.payload =
    canonicalDigest sha256 other.observation.payload
  parents : call.observation.parentEvidenceIds = other.observation.parentEvidenceIds

def SameTrust (call other : IngestCall) : Prop :=
  call.observation.trustClass = other.observation.trustClass ∧
    call.observation.provenance.getD [] = other.observation.provenance.getD []

/-- Ingests of one subject agree on its trust and its provenance. -/
def OneTrust (calls : List RuntimeCall) : Prop :=
  Historically (fun before call => ∀ req, call = .ingest req → ∀ past,
    .ingest past ∈ before → SameSubject sha256 past req → SameTrust past req) calls

variable {sha256}

theorem envelope_eq_iff {call other : IngestCall} (same : SameSubject sha256 call other) :
    envelopeOf sha256 call = envelopeOf sha256 other ↔ SameTrust call other := by
  obtain ⟨runId, evidenceType, source, observedAt, body, parents⟩ := same
  unfold envelopeOf EvidenceEnvelope.create SameTrust
  simp only [runId, evidenceType, source, observedAt, body, parents,
    EvidenceEnvelope.mk.injEq, true_and, and_true]
  exact And.comm

def identity (sha256 : Json.Text → String) (call : IngestCall) : Members :=
  [("run_id", .str call.runId.str), ("evidence_type", .str call.observation.evidenceType),
    ("source_id", .str call.observation.sourceId),
    ("observed_at", .str (call.observation.observedAt.getD (call.clock 0)).isoformat),
    ("payload_digest", .str (canonicalDigest sha256 call.observation.payload)),
    ("parent_evidence_ids", .arr (call.observation.parentEvidenceIds.map .str))]

theorem evidence_id_eq (call : IngestCall) :
    (envelopeOf sha256 call).evidenceId = canonicalDigest sha256 (.obj (identity sha256 call)) :=
  rfl

theorem evidence_kept {call : RuntimeCall} (other : ∀ req, call ≠ .ingest req)
    (rt : EvidenceRuntimeV1) :
    ((gate sha256).next call rt).evidence = rt.evidence := by
  cases evidence_next call rt with
  | inl same => exact same
  | inr changed =>
    obtain ⟨req, made, _⟩ := changed
    exact absurd made (other req)

variable (injective : ∀ value other, canonicalDigest sha256 value = canonicalDigest sha256 other →
  sortKeys value = sortKeys other)

include injective

theorem evidence_id_eq_iff {call other : IngestCall} :
    (envelopeOf sha256 call).evidenceId = (envelopeOf sha256 other).evidenceId ↔
      SameSubject sha256 call other := by
  constructor
  · intro same
    rw [evidence_id_eq, evidence_id_eq] at same
    have read := lookup_of_sorted (injective _ _ same)
    have runId := read "run_id"
    have evidenceType := read "evidence_type"
    have source := read "source_id"
    have observedAt := read "observed_at"
    have body := read "payload_digest"
    have parents := read "parent_evidence_ids"
    simp only [identity, List.lookup_cons, String.reduceBEq, Option.map_some, Option.some.injEq]
      at runId evidenceType source observedAt body parents
    simp only [sortKeys, str.injEq] at runId evidenceType source observedAt body
    rw [sort_keys_arr, sort_keys_arr, arr.injEq, List.map_map, List.map_map] at parents
    have texts : Function.Injective (sortKeys ∘ str) := by
      intro text other equal
      simpa using equal
    exact ⟨Uuid.str_injective runId, evidenceType, source,
      DateTime.isoformat_injective observedAt, body, List.map_injective_iff.mpr texts parents⟩
  · intro same
    obtain ⟨runId, evidenceType, source, observedAt, body, parents⟩ := same
    unfold envelopeOf EvidenceEnvelope.create
    simp only [runId, evidenceType, source, observedAt, body, parents]

theorem stored_next {calls : List RuntimeCall} {call : RuntimeCall}
    (stored : ∀ past, .ingest past ∈ calls →
      (runtimeAfter sha256 calls).evidence.lookup (envelopeOf sha256 past).evidenceId =
      some (envelopeOf sha256 past))
    (agrees : ∀ req, call = .ingest req → ∀ past, .ingest past ∈ calls →
      SameSubject sha256 past req → SameTrust past req) :
    ∀ past, .ingest past ∈ calls ++ [call] →
      (runtimeAfter sha256 (calls ++ [call])).evidence.lookup
      (envelopeOf sha256 past).evidenceId = some (envelopeOf sha256 past) := by
  intro past mem
  rw [runtime_after_concat]
  cases call with
  | ingest req =>
    change (Dict.set (envelopeOf sha256 req).evidenceId (envelopeOf sha256 req)
      (runtimeAfter sha256 calls).evidence).lookup _ = _
    rw [Dict.lookup_set]
    by_cases same : (envelopeOf sha256 past).evidenceId = (envelopeOf sha256 req).evidenceId
    · rw [if_pos same]
      cases List.mem_append.mp mem with
      | inl before =>
        have subject := (evidence_id_eq_iff injective).mp same
        rw [(envelope_eq_iff subject).mpr (agrees req rfl past before subject)]
      | inr last =>
        cases List.mem_singleton.mp last
        rfl
    · rw [if_neg same]
      cases List.mem_append.mp mem with
      | inl before => exact stored past before
      | inr last =>
        cases List.mem_singleton.mp last
        exact absurd rfl same
  | admissible req | authorize req | execute req =>
    rw [evidence_kept fun _ => RuntimeCall.noConfusion]
    exact stored past (by simpa using mem)

/-- Identifiers determine the evidence stored under them exactly if the ingests of one subject agree
on its trust and its provenance. -/
theorem content_addressed_iff (calls : List RuntimeCall) :
    ContentAddressed sha256 calls ↔ OneTrust sha256 calls := by
  apply historically_congr fun calls => ∀ past, .ingest past ∈ calls →
    (runtimeAfter sha256 calls).evidence.lookup (envelopeOf sha256 past).evidenceId =
      some (envelopeOf sha256 past)
  · exact fun before call stored agrees => stored_next injective stored agrees
  · intro past mem
    cases mem
  · intro before call stored
    constructor
    · intro kept req made past mem subject
      have same := (evidence_id_eq_iff injective).mpr subject
      have held := stored past mem
      rw [same] at held
      exact (envelope_eq_iff subject).mp (kept req made _ held)
    · intro agrees req made held found
      obtain ⟨first, past, second, split, ingests, _, named⟩ := ingested_of_lookup found
      have envelope : envelopeOf sha256 past = held := RuntimeAnswer.ingested.inj ingests
      rw [← envelope] at named
      have subject := (evidence_id_eq_iff injective).mp named
      rw [← envelope]
      exact (envelope_eq_iff subject).mpr (agrees req made past (by simp [split]) subject)

end addresses

def trustedIngest (source trustClass : String) : IngestCall where
  runId := ⟨1⟩
  observation :=
    { evidenceType := "observation", sourceId := source, payload := .obj []
      trustClass := trustClass }
  clock := fun _ => DateTime.epoch

/-- Two sources of different trust, of which the first is ingested again. -/
def consistentIngests : List RuntimeCall :=
  [.ingest (trustedIngest "test" "observation"), .ingest (trustedIngest "audit" "verified"),
    .ingest (trustedIngest "test" "observation")]

theorem consistent_ingests_addressed : ContentAddressed Json.Text.plain consistentIngests := by
  have injective : ∀ value other, canonicalDigest Json.Text.plain value =
      canonicalDigest Json.Text.plain other → sortKeys value = sortKeys other := by
    intro value other same
    exact congrArg Json.Text.document (Json.Text.plain_injective same)
  apply (content_addressed_iff injective _).mpr
  intro before call after split req made past mem subject
  have known (other : IngestCall) (among : .ingest other ∈ consistentIngests) :
      other = trustedIngest "test" "observation" ∨ other = trustedIngest "audit" "verified" := by
    simpa [consistentIngests, or_comm, or_left_comm] using among
  have first := known past (split ▸ by simp [mem])
  have second := known req (split ▸ by simp [made])
  rcases first with rfl | rfl <;> rcases second with rfl | rfl
  · exact ⟨rfl, rfl⟩
  · exact absurd subject.sourceId (by decide)
  · exact absurd subject.sourceId (by decide)
  · exact ⟨rfl, rfl⟩

theorem trust_replaced :
    ¬ContentAddressed Json.Text.plain
      [.ingest (trustedIngest "test" "observation"),
        .ingest (trustedIngest "test" "verified")] := by
  intro addressed
  have held :
      (runtimeAfter Json.Text.plain [.ingest (trustedIngest "test" "observation")]).evidence.lookup
          (envelopeOf Json.Text.plain (trustedIngest "test" "verified")).evidenceId =
        some (envelopeOf Json.Text.plain (trustedIngest "test" "observation")) :=
    Dict.lookup_set_same _ _ []
  have same := addressed [.ingest (trustedIngest "test" "observation")] _ [] rfl
    (trustedIngest "test" "verified") rfl _ held
  exact absurd (congrArg EvidenceEnvelope.trustClass same) (by decide)

end EvidenceRuntimeV1

end Ois.Runtime
