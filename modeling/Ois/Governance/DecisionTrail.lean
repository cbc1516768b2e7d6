import Mathlib.Algebra.Order.Ring.Rat
import Mathlib.Data.List.Count
import Ois.Kernel.Types
import Ois.Library.DateTime
import Ois.Library.Dict
import Ois.Library.Machine

/-!
# What an authorization needs and what it leaves behind

`governance/engine.py` over the store of `governance/stores.py`, with the records of
`governance/models.py`. Costs are exact numbers.
-/

namespace Ois.Governance

open Ois.Kernel Ois.Library

structure AgentIdentity where
  agentId : String
  tenantId : String
  enabled : Bool := true

structure CapabilityGrant where
  capabilityId : String
  tenantId : String
  agentId : String
  allowedActions : List String := []
  expiresAt : Option DateTime := none

structure PolicyVersion where
  policyId : String
  version : String
  tenantId : String
  active : Bool := true

structure ActionBudget where
  tenantId : String
  budgetId : String
  maxCost : ℚ
  spentCost : ℚ := 0

structure ActionLimit where
  tenantId : String
  action : String
  maxCount : Int
  windowSeconds : Int := 3600

structure DecisionProvenance where
  decisionId : String
  tenantId : String
  workspaceId : String
  executionId : String
  actorId : String
  action : String
  outcome : String
  policyId : Option String
  policyVersion : Option String
  capabilityId : String
  inputsDigest : String
  rationale : String
  createdAt : DateTime

structure AuditEvent where
  eventId : String
  tenantId : String
  actorId : String
  action : String
  resource : String
  outcome : String
  executionId : String
  metadata : Dict String String
  createdAt : DateTime

structure GovernanceStore where
  agents : Dict (String × String) AgentIdentity := []
  grants : Dict (String × String × String) CapabilityGrant := []
  policies : Dict (String × String × String) PolicyVersion := []
  decisions : List DecisionProvenance := []
  audit : List AuditEvent := []
  budgets : Dict (String × String) ActionBudget := []
  limits : Dict (String × String) ActionLimit := []
  actionCounts : Dict (String × String) Nat := []

structure Digesting (Inputs : Type) where
  dumps : Inputs → Except PyError String
  sha256 : String → String

/-- The identifiers and the clock readings of a call. -/
structure Draws where
  decisionId : String
  eventId : String
  now : DateTime
  decidedAt : DateTime
  auditedAt : DateTime

structure AuthorizeCall (Inputs : Type) where
  tenantId : String
  workspaceId : String
  executionId : String
  agentId : String
  action : String
  capabilityId : String
  inputs : Inputs
  estimatedCost : ℚ := 0
  policyId : Option String := none
  policyVersion : Option String := none
  draws : Draws

structure GovernanceDecision where
  allowed : Bool
  reason : String
  decisionId : String
  deriving DecidableEq, Repr

structure Verdict where
  allowed : Bool := true
  reason : String := "authorized"
  deriving DecidableEq, Repr

def Verdict.deny (reason : String) : Verdict := ⟨false, reason⟩

def mixedDateTimes : PyError :=
  ⟨.other "TypeError", "can't compare offset-naive and offset-aware datetimes"⟩

/-- `active(now)`. -/
def CapabilityGrant.active (grant : CapabilityGrant) (now : DateTime) : Except PyError Bool :=
  match grant.expiresAt with
  | none => .ok true
  | some expiry =>
    if expiry.utcoffset.isSome = now.utcoffset.isSome then
      .ok (decide (now.instant < expiry.instant))
    else .error mixedDateTimes

/-- `can_spend(amount)`. -/
def ActionBudget.canSpend (budget : ActionBudget) (amount : ℚ) : Bool :=
  decide (0 ≤ amount ∧ budget.spentCost + amount ≤ budget.maxCost)

namespace GovernanceStore

variable (store : GovernanceStore)

def actionCount (key : String × String) : Nat := (store.actionCounts.lookup key).getD 0

def recordDecision (decision : DecisionProvenance) : GovernanceStore :=
  { store with decisions := store.decisions ++ [decision] }

def recordAudit (event : AuditEvent) : GovernanceStore :=
  { store with audit := store.audit ++ [event] }

/-- `count_action(tenant_id, action)`. -/
def countAction (tenant action : String) : GovernanceStore :=
  { store with
    actionCounts := Dict.set (tenant, action) (store.actionCount (tenant, action) + 1)
      store.actionCounts }

def budgetsOf (tenant : String) : List ActionBudget :=
  (store.budgets.filter fun entry => entry.1.1 = tenant).map Prod.snd

end GovernanceStore

section authorize

variable {Inputs : Type} (sha : Digesting Inputs) (call : AuthorizeCall Inputs)
  (store : GovernanceStore)

def policyVerdict : Verdict :=
  match call.policyId with
  | none => {}
  | some policyId =>
    match store.policies.lookup (call.tenantId, policyId, call.policyVersion.getD "") with
    | none => .deny "policy version is missing or inactive"
    | some policy => if policy.active then {} else .deny "policy version is missing or inactive"

def limitVerdict (verdict : Verdict) : Verdict :=
  match store.limits.lookup (call.tenantId, call.action) with
  | none => verdict
  | some limit =>
    if limit.maxCount ≤ store.actionCount (call.tenantId, call.action) then
      .deny "autonomous action limit exceeded"
    else verdict

def budgetVerdict (verdict : Verdict) : Verdict :=
  if verdict.allowed ∧ call.estimatedCost ≠ 0 then
    let budgets := store.budgetsOf call.tenantId
    if budgets = [] ∨ ¬budgets.any (·.canSpend call.estimatedCost) then
      .deny "action budget exceeded"
    else verdict
  else verdict

def grantVerdict (verdict : Verdict) : Except PyError Verdict :=
  match store.grants.lookup (call.tenantId, call.agentId, call.capabilityId) with
  | none => .ok (.deny "capability grant is missing or expired")
  | some grant => do
    let active ← grant.active call.draws.now
    return if ¬active then .deny "capability grant is missing or expired"
      else if grant.allowedActions ≠ [] ∧ call.action ∉ grant.allowedActions then
        .deny "action is not granted"
      else budgetVerdict call store (limitVerdict call store verdict)

def verdict : Except PyError Verdict :=
  match store.agents.lookup (call.tenantId, call.agentId) with
  | none => .ok (.deny "agent identity is not active")
  | some ident =>
    if ¬ident.enabled then .ok (.deny "agent identity is not active")
    else grantVerdict call store (policyVerdict call store)

def judged : Except PyError (Verdict × String) := do
  let verdict ← verdict call store
  let text ← sha.dumps call.inputs
  return (verdict, sha.sha256 text)

def provenance (verdict : Verdict) (digest : String) : DecisionProvenance where
  decisionId := call.draws.decisionId
  tenantId := call.tenantId
  workspaceId := call.workspaceId
  executionId := call.executionId
  actorId := call.agentId
  action := call.action
  outcome := if verdict.allowed then "allow" else "deny"
  policyId := call.policyId
  policyVersion := call.policyVersion
  capabilityId := call.capabilityId
  inputsDigest := digest
  rationale := verdict.reason
  createdAt := call.draws.decidedAt

def auditEvent (verdict : Verdict) : AuditEvent where
  eventId := call.draws.eventId
  tenantId := call.tenantId
  actorId := call.agentId
  action := call.action
  resource := call.capabilityId
  outcome := if verdict.allowed then "allowed" else "denied"
  executionId := call.executionId
  metadata := [("decision_id", call.draws.decisionId), ("reason", verdict.reason)]
  createdAt := call.draws.auditedAt

end authorize

/-- `GovernanceEngine.authorize(...)`. -/
def authorize {Inputs : Type} (sha : Digesting Inputs) :
    Machine (AuthorizeCall Inputs) GovernanceStore (Except PyError GovernanceDecision) :=
  fun call store =>
    match judged sha call store with
    | .error err => (store, .error err)
    | .ok (verdict, digest) =>
      let recorded := (store.recordDecision (provenance call verdict digest)).recordAudit
        (auditEvent call verdict)
      (if verdict.allowed then recorded.countAction call.tenantId call.action else recorded,
        .ok ⟨verdict.allowed, verdict.reason, call.draws.decisionId⟩)

open Machine Verdict

def CapabilityGrant.Unexpired (grant : CapabilityGrant) (now : DateTime) : Prop :=
  ∀ expiry ∈ grant.expiresAt,
    expiry.utcoffset.isSome = now.utcoffset.isSome ∧ now.instant < expiry.instant

theorem active_iff (grant : CapabilityGrant) (now : DateTime) :
    grant.active now = .ok true ↔ grant.Unexpired now := by
  unfold CapabilityGrant.active CapabilityGrant.Unexpired
  cases grant.expiresAt with
  | none => simp
  | some expiry =>
    by_cases compared : expiry.utcoffset.isSome = now.utcoffset.isSome
    · simp [compared]
    · simp [compared]

section conditions

variable {Inputs : Type} (store : GovernanceStore) (call : AuthorizeCall Inputs)

/-- The conditions on an allowed call, with the number of calls that were allowed before for its
tenant and action. -/
structure Permitted (allowedBefore : Nat) : Prop where
  identity : ∃ identity ∈ store.agents.lookup (call.tenantId, call.agentId), identity.enabled = true
  policy : ∀ policyId ∈ call.policyId,
    ∃ policy ∈ store.policies.lookup (call.tenantId, policyId, call.policyVersion.getD ""),
      policy.active = true
  grant : ∃ grant ∈ store.grants.lookup (call.tenantId, call.agentId, call.capabilityId),
    grant.Unexpired call.draws.now ∧
      (grant.allowedActions = [] ∨ call.action ∈ grant.allowedActions)
  limit : ∀ limit ∈ store.limits.lookup (call.tenantId, call.action),
    (allowedBefore : Int) < limit.maxCount

def Affords : Prop :=
  call.estimatedCost ≠ 0 →
    ∃ budget ∈ store.budgetsOf call.tenantId, budget.canSpend call.estimatedCost = true

variable {store} {call}

theorem policy_allowed_iff :
    (policyVerdict call store).allowed = true ↔ ∀ policyId ∈ call.policyId,
      ∃ policy ∈ store.policies.lookup (call.tenantId, policyId, call.policyVersion.getD ""),
      policy.active = true := by
  unfold policyVerdict
  cases call.policyId with
  | none => simp
  | some policyId =>
    simp only [Option.mem_def, Option.some.injEq, forall_eq']
    cases store.policies.lookup (call.tenantId, policyId, call.policyVersion.getD "") with
    | none => simp [deny]
    | some policy =>
      by_cases active : policy.active = true
      · simp [active]
      · simp [active, deny]

theorem limit_allowed_iff (verdict : Verdict) :
    (limitVerdict call store verdict).allowed = true ↔ verdict.allowed = true ∧
      ∀ limit ∈ store.limits.lookup (call.tenantId, call.action),
      (store.actionCount (call.tenantId, call.action) : Int) < limit.maxCount := by
  unfold limitVerdict
  cases store.limits.lookup (call.tenantId, call.action) with
  | none => simp
  | some limit =>
    by_cases reached : limit.maxCount ≤ store.actionCount (call.tenantId, call.action)
    · simp [reached, deny]
    · simp [reached, not_le.mp reached]

theorem budget_allowed_iff (verdict : Verdict) :
    (budgetVerdict call store verdict).allowed = true ↔
      verdict.allowed = true ∧ Affords store call := by
  unfold budgetVerdict Affords
  by_cases asked : verdict.allowed = true ∧ call.estimatedCost ≠ 0
  · rw [if_pos asked]
    dsimp only
    by_cases borne : ∃ budget ∈ store.budgetsOf call.tenantId,
        budget.canSpend call.estimatedCost = true
    · have some : ¬(store.budgetsOf call.tenantId = [] ∨
          ¬(store.budgetsOf call.tenantId).any (·.canSpend call.estimatedCost)) := by
        obtain ⟨budget, mem, bears⟩ := borne
        rw [not_or, not_not, List.any_eq_true]
        exact ⟨List.ne_nil_of_mem mem, budget, mem, bears⟩
      rw [if_neg some]
      exact iff_of_true asked.1 ⟨asked.1, fun _ => borne⟩
    · have none : store.budgetsOf call.tenantId = [] ∨
          ¬(store.budgetsOf call.tenantId).any (·.canSpend call.estimatedCost) := by
        rw [List.any_eq_true]
        exact Or.inr borne
      rw [if_pos none]
      exact iff_of_false Bool.false_ne_true fun both => borne (both.2 asked.2)
  · rw [if_neg asked]
    constructor
    · intro allowed
      exact ⟨allowed, fun costs => absurd ⟨allowed, costs⟩ asked⟩
    · exact And.left

variable (store) (call) in
def Covered : Prop :=
  ∃ grant ∈ store.grants.lookup (call.tenantId, call.agentId, call.capabilityId),
    grant.Unexpired call.draws.now ∧
      (grant.allowedActions = [] ∨ call.action ∈ grant.allowedActions)

theorem grant_of_covered (verdict : Verdict) (covered : Covered store call) :
    grantVerdict call store verdict =
      .ok (budgetVerdict call store (limitVerdict call store verdict)) := by
  obtain ⟨grant, found, unexpired, granted⟩ := covered
  have inside : ¬(grant.allowedActions ≠ [] ∧ call.action ∉ grant.allowedActions) := by
    rw [not_and_or, not_not, not_not]
    exact granted
  unfold grantVerdict
  rw [Option.mem_def.mp found]
  simp [(active_iff grant _).mpr unexpired, if_neg inside, bind, Except.bind, pure, Except.pure]

theorem denied_of_uncovered {verdict judged : Verdict} (uncovered : ¬Covered store call)
    (returns : grantVerdict call store verdict = .ok judged) :
    judged = .deny "capability grant is missing or expired" ∨
      judged = .deny "action is not granted" := by
  unfold grantVerdict at returns
  cases found : store.grants.lookup (call.tenantId, call.agentId, call.capabilityId) with
  | none =>
    rw [found] at returns
    exact .inl (Except.ok.inj returns).symm
  | some grant =>
    rw [found] at returns
    dsimp only at returns
    cases read : grant.active call.draws.now with
    | error err =>
      rw [read] at returns
      cases returns
    | ok live =>
      simp only [read, bind, Except.bind, pure, Except.pure, Except.ok.injEq] at returns
      split_ifs at returns with unexpired outside
      · exact .inr returns.symm
      · rw [not_and_or, not_not, not_not] at outside
        rw [unexpired] at read
        exact absurd ⟨grant, found, (active_iff grant _).mp read, outside⟩ uncovered
      · exact .inl returns.symm

theorem grant_allowed_iff (verdict : Verdict) :
    (∃ judged, grantVerdict call store verdict = .ok judged ∧ judged.allowed = true) ↔
      Covered store call ∧
      (budgetVerdict call store (limitVerdict call store verdict)).allowed = true := by
  by_cases covered : Covered store call
  · simp [grant_of_covered verdict covered, covered]
  · apply iff_of_false
    · intro passed
      obtain ⟨judged, returns, allowed⟩ := passed
      cases denied_of_uncovered covered returns with
      | inl expired => simp [expired, deny] at allowed
      | inr outside => simp [outside, deny] at allowed
    · exact fun both => covered both.1

theorem verdict_allowed_iff :
    (∃ judged, verdict call store = .ok judged ∧ judged.allowed = true) ↔
      Permitted store call (store.actionCount (call.tenantId, call.action)) ∧
      Affords store call := by
  have rest := @grant_allowed_iff _ store call (policyVerdict call store)
  rw [budget_allowed_iff, limit_allowed_iff, policy_allowed_iff] at rest
  have both : (∃ judged, verdict call store = .ok judged ∧ judged.allowed = true) ↔
      (∃ ident ∈ store.agents.lookup (call.tenantId, call.agentId), ident.enabled = true) ∧
        ∃ judged, grantVerdict call store (policyVerdict call store) = .ok judged ∧
          judged.allowed = true := by
    unfold verdict
    cases store.agents.lookup (call.tenantId, call.agentId) with
    | none => simp [deny]
    | some ident =>
      by_cases enabled : ident.enabled = true
      · simp [enabled]
      · simp [enabled, deny]
  rw [both, rest]
  constructor
  · intro all
    exact ⟨⟨all.1, all.2.2.1.1, all.2.1, all.2.2.1.2⟩, all.2.2.2⟩
  · intro all
    exact ⟨all.1.identity, all.1.grant, ⟨all.1.policy, all.1.limit⟩, all.2⟩

end conditions

section trail

variable {Inputs : Type} (sha : Digesting Inputs)

def allowedAction (call : AuthorizeCall Inputs) (store : GovernanceStore) :
    Option (String × String) :=
  match (authorize sha).answer call store with
  | .ok decision => if decision.allowed then some (call.tenantId, call.action) else none
  | .error _ => none

def allowedActions (calls : List (AuthorizeCall Inputs)) (store : GovernanceStore) :
    List (String × String) :=
  (authorize sha).log (allowedAction sha) calls store

variable {sha} {call : AuthorizeCall Inputs} {store : GovernanceStore}

theorem judged_ok_iff {judged : Verdict} {digest : String} :
    Governance.judged sha call store = .ok (judged, digest) ↔
      verdict call store = .ok judged ∧
      ∃ text, sha.dumps call.inputs = .ok text ∧ digest = sha.sha256 text := by
  unfold Governance.judged
  cases verdict call store with
  | error err => simp [bind, Except.bind]
  | ok found =>
    cases sha.dumps call.inputs with
    | error err => simp [bind, Except.bind]
    | ok text =>
      simp only [bind, Except.bind, pure, Except.pure, Except.ok.injEq, Prod.mk.injEq,
        exists_eq_left']
      exact and_congr_right fun _ => eq_comm

structure Trailed (call : AuthorizeCall Inputs) (decision : GovernanceDecision)
    (before after : GovernanceStore) : Prop where
  decided : ∃ recorded, after.decisions = before.decisions ++ [recorded] ∧
    recorded.decisionId = decision.decisionId ∧ recorded.tenantId = call.tenantId ∧
      recorded.outcome = if decision.allowed then "allow" else "deny"
  audited : ∃ event, after.audit = before.audit ++ [event] ∧
    event.metadata.lookup "decision_id" = some decision.decisionId ∧
      event.tenantId = call.tenantId ∧
        event.outcome = if decision.allowed then "allowed" else "denied"
  counted : ∀ key, after.actionCount key = before.actionCount key +
    if decision.allowed = true ∧ key = (call.tenantId, call.action) then 1 else 0

theorem lookup_set_pair {Value : Type} (key other : String × String) (value : Value)
    (entries : Dict (String × String) Value) :
    (Dict.set key value entries).lookup other =
      if other = key then some value else entries.lookup other := by
  have parts : (instBEqOfDecidableEq : BEq (String × String)) = instBEqProd :=
    lawful_beq_subsingleton _ _
  have written := Dict.lookup_set key other value entries
  rw [parts] at written
  exact written

theorem count_action (key : String × String) :
    (store.countAction call.tenantId call.action).actionCount key =
      store.actionCount key + if key = (call.tenantId, call.action) then 1 else 0 := by
  unfold GovernanceStore.actionCount GovernanceStore.countAction
  dsimp only
  rw [lookup_set_pair]
  by_cases same : key = (call.tenantId, call.action)
  · rw [if_pos same, if_pos same, same]
    rfl
  · rw [if_neg same, if_neg same]
    rfl

theorem authorize_ends (call : AuthorizeCall Inputs) (store : GovernanceStore) :
    (∃ judged digest, Governance.judged sha call store = .ok (judged, digest) ∧
      (authorize sha).answer call store =
      .ok ⟨judged.allowed, judged.reason, call.draws.decisionId⟩ ∧
      Trailed call ⟨judged.allowed, judged.reason, call.draws.decisionId⟩ store
      ((authorize sha).next call store)) ∨
    ∃ err, (authorize sha) call store = (store, .error err) := by
  cases found : Governance.judged sha call store with
  | error err =>
    apply Or.inr
    apply Exists.intro err
    rw [authorize, found]
  | ok pair =>
    apply Or.inl
    have runs : authorize sha call store =
        (let recorded := (store.recordDecision (provenance call pair.1 pair.2)).recordAudit
            (auditEvent call pair.1)
          if pair.1.allowed then recorded.countAction call.tenantId call.action else recorded,
          .ok ⟨pair.1.allowed, pair.1.reason, call.draws.decisionId⟩) := by
      rw [authorize, found]
    refine ⟨pair.1, pair.2, rfl, congrArg Prod.snd runs, ?_⟩
    have after : (authorize sha).next call store = _ := congrArg Prod.fst runs
    rw [after]
    by_cases allowed : pair.1.allowed = true
    · rw [if_pos allowed]
      constructor
      · exact ⟨provenance call pair.1 pair.2, rfl, rfl, rfl, rfl⟩
      · exact ⟨auditEvent call pair.1, rfl, rfl, rfl, rfl⟩
      · intro key
        rw [count_action]
        simp only [allowed, true_and]
        rfl
    · rw [if_neg allowed]
      constructor
      · exact ⟨provenance call pair.1 pair.2, rfl, rfl, rfl, rfl⟩
      · exact ⟨auditEvent call pair.1, rfl, rfl, rfl, rfl⟩
      · intro key
        simp only [allowed]
        rfl

structure SameGrounds (store other : GovernanceStore) : Prop where
  agents : other.agents = store.agents
  grants : other.grants = store.grants
  policies : other.policies = store.policies
  budgets : other.budgets = store.budgets
  limits : other.limits = store.limits

theorem same_grounds_next (call : AuthorizeCall Inputs) (store : GovernanceStore) :
    SameGrounds store ((authorize sha).next call store) := by
  unfold next authorize
  cases Governance.judged sha call store with
  | error err => exact ⟨rfl, rfl, rfl, rfl, rfl⟩
  | ok pair =>
    dsimp only
    split_ifs
    · exact ⟨rfl, rfl, rfl, rfl, rfl⟩
    · exact ⟨rfl, rfl, rfl, rfl, rfl⟩

theorem same_grounds_run (calls : List (AuthorizeCall Inputs)) (store : GovernanceStore) :
    SameGrounds store ((authorize sha).run calls store) := by
  apply run_invariant _ calls
  · exact ⟨rfl, rfl, rfl, rfl, rfl⟩
  · intro call cur same
    have next := @same_grounds_next _ sha call cur
    exact ⟨next.agents.trans same.agents, next.grants.trans same.grants,
      next.policies.trans same.policies, next.budgets.trans same.budgets,
      next.limits.trans same.limits⟩

theorem Permitted.of_same {other : GovernanceStore} {allowedBefore : Nat}
    (same : SameGrounds store other) (permitted : Permitted other call allowedBefore) :
    Permitted store call allowedBefore := by
  constructor
  · exact same.agents ▸ permitted.identity
  · exact same.policies ▸ permitted.policy
  · exact same.grants ▸ permitted.grant
  · exact same.limits ▸ permitted.limit

theorem count_next (call : AuthorizeCall Inputs) (store : GovernanceStore)
    (key : String × String) :
    ((authorize sha).next call store).actionCount key =
      store.actionCount key + ((allowedAction sha call store).toList).count key := by
  unfold allowedAction
  rcases authorize_ends call store with ends | ends
  · obtain ⟨judged, digest, _, answers, trailed⟩ := ends
    rw [answers, trailed.counted key]
    dsimp only
    by_cases allowed : judged.allowed = true
    · rw [if_pos allowed, Option.toList_some, List.count_singleton]
      by_cases same : key = (call.tenantId, call.action)
      · rw [if_pos ⟨allowed, same⟩, same, beq_self_eq_true]
        rfl
      · have unlike : ((call.tenantId, call.action) == key) = false :=
          beq_eq_false_iff_ne.mpr fun equal => same equal.symm
        rw [if_neg fun both => same both.2, unlike]
        rfl
    · rw [if_neg allowed, if_neg fun both => allowed both.1]
      rfl
  · obtain ⟨err, ends⟩ := ends
    unfold next answer
    rw [ends]
    rfl

theorem count_run (calls : List (AuthorizeCall Inputs)) (store : GovernanceStore)
    (key : String × String) :
    ((authorize sha).run calls store).actionCount key =
      store.actionCount key + (allowedActions sha calls store).count key := by
  induction calls using List.reverseRecOn with
  | nil => rfl
  | append_singleton past call ih =>
    unfold allowedActions at ih ⊢
    rw [run_concat, count_next, ih, log_concat, List.count_append, Nat.add_assoc]

theorem ends_of_returns {call : AuthorizeCall Inputs} {store : GovernanceStore}
    {decision : GovernanceDecision}
    (returns : (authorize sha).answer call store = .ok decision) :
    (∃ judged digest, Governance.judged sha call store = .ok (judged, digest) ∧
      judged.allowed = decision.allowed) ∧
    Trailed call decision store ((authorize sha).next call store) := by
  rcases authorize_ends call store with ends | ends
  · obtain ⟨judged, digest, found, answers, trailed⟩ := ends
    rw [answers, Except.ok.injEq] at returns
    rw [← returns]
    exact ⟨⟨judged, digest, found, rfl⟩, trailed⟩
  · obtain ⟨err, ends⟩ := ends
    unfold answer at returns
    rw [ends] at returns
    cases returns

/-- What an authorization by the engine is worth after the calls before it. -/
structure FailsClosed (sha : Digesting Inputs) (store : GovernanceStore)
    (before : List (AuthorizeCall Inputs)) (call : AuthorizeCall Inputs) : Prop where
  permitted : ∀ decision,
    (authorize sha).answer call ((authorize sha).run before store) = .ok decision →
      decision.allowed = true → Permitted store call
        (store.actionCount (call.tenantId, call.action) +
          (allowedActions sha before store).count (call.tenantId, call.action))
  trailed : ∀ decision,
    (authorize sha).answer call ((authorize sha).run before store) = .ok decision →
      Trailed call decision ((authorize sha).run before store)
        ((authorize sha).run (before ++ [call]) store)
  raised : ∀ err,
    (authorize sha).answer call ((authorize sha).run before store) = .error err →
      (authorize sha).run (before ++ [call]) store = (authorize sha).run before store

/-- The engine fails closed and leaves a trail of every call that returns, in every run over every
store. -/
theorem engine_fails_closed (sha : Digesting Inputs) (store : GovernanceStore)
    (before : List (AuthorizeCall Inputs)) (call : AuthorizeCall Inputs) :
    FailsClosed sha store before call := by
  constructor
  · intro decision returns allowed
    obtain ⟨judged, digest, found, same⟩ := (ends_of_returns returns).1
    have judgement := (judged_ok_iff.mp found).1
    have passed := (verdict_allowed_iff.mp ⟨judged, judgement, same.trans allowed⟩).1
    rw [count_run] at passed
    exact passed.of_same (same_grounds_run before store)
  · intro decision returns
    rw [run_concat]
    exact (ends_of_returns returns).2
  · intro err raises
    rcases authorize_ends call ((authorize sha).run before store) with ends | ends
    · obtain ⟨judged, digest, found, answers, trailed⟩ := ends
      rw [answers] at raises
      cases raises
    · obtain ⟨err, ends⟩ := ends
      rw [run_concat]
      unfold next
      rw [ends]

end trail

def unwritableCall : AuthorizeCall (Except PyError String) where
  tenantId := "t"
  workspaceId := "w"
  executionId := "e"
  agentId := "a"
  action := "write"
  capabilityId := "c"
  inputs := .error ⟨.other "TypeError", "Object of type set is not JSON serializable"⟩
  draws := ⟨"d", "v", DateTime.epoch, DateTime.epoch, DateTime.epoch⟩

/-- A call whose inputs cannot be written raises and is found in neither log. -/
theorem unwritable_call_leaves_no_trail :
    let sha : Digesting (Except PyError String) := ⟨id, id⟩
    ((authorize sha).run [unwritableCall] {}).decisions = [] ∧
      ((authorize sha).run [unwritableCall] {}).audit = [] := by
  decide

end Ois.Governance
