import Mathlib.Algebra.Order.BigOperators.Group.List
import Ois.Governance.DecisionTrail
import Ois.Library.Histories

/-!
# Budgets and limits

The estimated costs of the calls that an engine allows, beside what the budgets of their tenant
have left, and the refusals by limits, beside the moments of the calls that were allowed.
-/

namespace Ois.Governance

open Ois.Kernel Ois.Library

def ActionBudget.remaining (budget : ActionBudget) : ℚ := max 0 (budget.maxCost - budget.spentCost)

def GovernanceStore.remaining (store : GovernanceStore) (tenant : String) : ℚ :=
  ((store.budgetsOf tenant).map ActionBudget.remaining).sum

def costOf (tenant : String) (entries : List (String × ℚ)) : ℚ :=
  ((entries.filter fun entry => entry.1 = tenant).map Prod.snd).sum

section costs

variable {Inputs : Type} (sha : Digesting Inputs)

def Eligible (call : AuthorizeCall Inputs) (store : GovernanceStore) : Prop :=
  Permitted store call (store.actionCount (call.tenantId, call.action)) ∧ Affords store call ∧
    (sha.dumps call.inputs).isOk = true

instance (grant : CapabilityGrant) (now : DateTime) : Decidable (grant.Unexpired now) :=
  inferInstanceAs (Decidable (∀ expiry ∈ grant.expiresAt, _))

instance (store : GovernanceStore) (call : AuthorizeCall Inputs) (allowedBefore : Nat) :
    Decidable (Permitted store call allowedBefore) :=
  decidable_of_iff
    ((∃ ident ∈ store.agents.lookup (call.tenantId, call.agentId), ident.enabled = true) ∧
      (∀ policyId ∈ call.policyId,
        ∃ policy ∈ store.policies.lookup (call.tenantId, policyId, call.policyVersion.getD ""),
          policy.active = true) ∧
      (∃ grant ∈ store.grants.lookup (call.tenantId, call.agentId, call.capabilityId),
        grant.Unexpired call.draws.now ∧
          (grant.allowedActions = [] ∨ call.action ∈ grant.allowedActions)) ∧
      ∀ limit ∈ store.limits.lookup (call.tenantId, call.action),
        (allowedBefore : Int) < limit.maxCount)
    ⟨fun all => ⟨all.1, all.2.1, all.2.2.1, all.2.2.2⟩,
      fun all => ⟨all.identity, all.policy, all.grant, all.limit⟩⟩

instance (store : GovernanceStore) (call : AuthorizeCall Inputs) :
    Decidable (Affords store call) :=
  inferInstanceAs (Decidable (_ → _))

instance (call : AuthorizeCall Inputs) (store : GovernanceStore) :
    Decidable (Eligible sha call store) :=
  inferInstanceAs (Decidable (_ ∧ _ ∧ _))

def allowedCosts (calls : List (AuthorizeCall Inputs)) (store : GovernanceStore) :
    List (String × ℚ) :=
  (authorize sha).log (fun call store =>
    if ((authorize sha).answer call store).toOption.any (·.allowed) then
      some (call.tenantId, call.estimatedCost)
    else none) calls store

def eligibleCosts (calls : List (AuthorizeCall Inputs)) (store : GovernanceStore) :
    List (String × ℚ) :=
  (authorize sha).log (fun call store =>
    if Eligible sha call store then some (call.tenantId, call.estimatedCost) else none)
    calls store

/-- After the call no tenant has been allowed more than its budgets had left at the start. -/
def WithinBudgets (store : GovernanceStore) (before : List (AuthorizeCall Inputs))
    (call : AuthorizeCall Inputs) : Prop :=
  ∀ tenant, costOf tenant (allowedCosts sha (before ++ [call]) store) ≤
    store.remaining tenant

/-- Where one budget shows room for the cost of an eligible call, the budgets of the tenant have
that room left beside the costs of the eligible calls before. -/
def Bearable (store : GovernanceStore) (before : List (AuthorizeCall Inputs))
    (call : AuthorizeCall Inputs) : Prop :=
  Eligible sha call ((authorize sha).run before store) → call.estimatedCost ≤
      store.remaining call.tenantId - costOf call.tenantId (eligibleCosts sha before store)

variable {sha}

theorem allowed_iff_eligible (call : AuthorizeCall Inputs) (store : GovernanceStore) :
    ((authorize sha).answer call store).toOption.any (·.allowed) = true ↔
      Eligible sha call store := by
  unfold Eligible
  rw [← and_assoc, ← verdict_allowed_iff]
  unfold Machine.answer authorize judged
  cases verdict call store with
  | error err => simp [bind, Except.bind, Except.toOption]
  | ok judged =>
    cases sha.dumps call.inputs with
    | error err => simp [bind, Except.bind, Except.toOption, Except.isOk, Except.toBool]
    | ok text => simp [bind, Except.bind, pure, Except.pure, Except.toOption, Except.isOk,
        Except.toBool]

theorem allowed_costs_eq (calls : List (AuthorizeCall Inputs)) (store : GovernanceStore) :
    allowedCosts sha calls store = eligibleCosts sha calls store := by
  unfold allowedCosts eligibleCosts
  apply congrArg fun entry => (authorize sha).log entry calls store
  funext call cur
  exact if_congr (allowed_iff_eligible call cur) rfl rfl

theorem cost_of_append (tenant : String) (entries others : List (String × ℚ)) :
    costOf tenant (entries ++ others) = costOf tenant entries + costOf tenant others := by
  unfold costOf
  rw [List.filter_append, List.map_append, List.sum_append]

variable (store : GovernanceStore) (before : List (AuthorizeCall Inputs))
  (call : AuthorizeCall Inputs)

theorem cost_concat (tenant : String) :
    costOf tenant (eligibleCosts sha (before ++ [call]) store) =
      costOf tenant (eligibleCosts sha before store) +
        if Eligible sha call ((authorize sha).run before store) ∧
          call.tenantId = tenant then call.estimatedCost else 0 := by
  unfold eligibleCosts
  rw [Machine.log_concat, cost_of_append]
  apply congrArg (_ + ·)
  by_cases eligible : Eligible sha call ((authorize sha).run before store)
  · rw [if_pos eligible]
    by_cases own : call.tenantId = tenant
    · rw [if_pos ⟨eligible, own⟩]
      simp [costOf, own]
    · rw [if_neg fun both => own both.2]
      simp [costOf, own]
  · rw [if_neg eligible, if_neg fun both => eligible both.1]
    rfl

theorem remaining_nonneg (store : GovernanceStore) (tenant : String) :
    0 ≤ store.remaining tenant := by
  apply List.sum_nonneg
  intro left mem
  obtain ⟨budget, _, rfl⟩ := List.mem_map.mp mem
  exact le_max_left 0 _

theorem within_budgets_iff
    (within : ∀ tenant, costOf tenant (eligibleCosts sha before store) ≤
      store.remaining tenant) :
    WithinBudgets sha store before call ↔ Bearable sha store before call := by
  unfold WithinBudgets Bearable
  rw [allowed_costs_eq]
  constructor
  · intro all eligible
    have own := all call.tenantId
    rw [cost_concat, if_pos ⟨eligible, rfl⟩] at own
    exact le_sub_iff_add_le'.mpr own
  · intro bearable tenant
    rw [cost_concat]
    by_cases charged : Eligible sha call ((authorize sha).run before store) ∧
        call.tenantId = tenant
    · rw [if_pos charged, ← charged.2]
      exact le_sub_iff_add_le'.mp (bearable charged.1)
    · rw [if_neg charged, add_zero]
      exact within tenant

/-- In every run over every store, the calls that are allowed stay within the budgets exactly when
each eligible call finds room for its cost beside the eligible calls before it. -/
theorem budgets_kept_iff (sha : Digesting Inputs) (store : GovernanceStore)
    (calls : List (AuthorizeCall Inputs)) :
    Historically (WithinBudgets sha store) calls ↔
      Historically (Bearable sha store) calls := by
  apply historically_congr fun before => ∀ tenant,
    costOf tenant (eligibleCosts sha before store) ≤ store.remaining tenant
  · intro before call within bearable tenant
    have all := (within_budgets_iff store before call within).mpr bearable tenant
    rw [allowed_costs_eq] at all
    exact all
  · exact remaining_nonneg store
  · exact within_budgets_iff store

end costs

/-- Two calls of cost one, with one budget of one. -/
def spendingStore : GovernanceStore where
  agents := [(("t", "a"), ⟨"a", "t", true⟩)]
  grants := [(("t", "a", "c"), ⟨"c", "t", "a", [], none⟩)]
  budgets := [(("t", "b"), ⟨"t", "b", 1, 0⟩)]

def spendingCall : AuthorizeCall String where
  tenantId := "t"
  workspaceId := "w"
  executionId := "e"
  agentId := "a"
  action := "write"
  capabilityId := "c"
  inputs := "{}"
  estimatedCost := 1
  draws := ⟨"d", "v", DateTime.epoch, DateTime.epoch, DateTime.epoch⟩

/-- Both calls are allowed, and cost twice what the budget has. -/
theorem budget_spent_twice :
    let sha : Digesting String := ⟨Except.ok, id⟩
    costOf "t" (allowedCosts sha [spendingCall, spendingCall] spendingStore) = 2 ∧
      spendingStore.remaining "t" = 1 ∧
      ¬Historically (WithinBudgets sha spendingStore) [spendingCall, spendingCall] := by
  intro sha
  have spent :
      costOf "t" (allowedCosts sha [spendingCall, spendingCall] spendingStore) = 2 := by
    decide +kernel
  have left : spendingStore.remaining "t" = 1 := by decide +kernel
  apply And.intro spent
  apply And.intro left
  intro within
  have both := within [spendingCall] spendingCall [] rfl "t"
  rw [List.singleton_append, spent, left] at both
  exact absurd both (by decide)

open Verdict

/-- The moment of a call, in microseconds. -/
def AuthorizeCall.time {Inputs : Type} (call : AuthorizeCall Inputs) : Int :=
  call.draws.now.instant

def ActionLimit.covers (limit : ActionLimit) (time past : Int) : Bool :=
  decide (time - limit.windowSeconds * 1000000 ≤ past ∧ past ≤ time)

def GovernanceStore.uncounted (store : GovernanceStore) : GovernanceStore :=
  { store with actionCounts := [] }

section limits

variable {Inputs : Type} (sha : Digesting Inputs)

structure ReachesLimit (store : GovernanceStore) (call : AuthorizeCall Inputs) : Prop where
  identity : ∃ identity ∈ store.agents.lookup (call.tenantId, call.agentId), identity.enabled = true
  grant : Covered store call
  written : (sha.dumps call.inputs).isOk = true

def UsedUp (store : GovernanceStore) (call : AuthorizeCall Inputs) : Prop :=
  ∃ limit ∈ store.limits.lookup (call.tenantId, call.action),
    limit.maxCount ≤ store.actionCount (call.tenantId, call.action)

def allowedTimes (key : String × String) (calls : List (AuthorizeCall Inputs))
    (store : GovernanceStore) : List Int :=
  (authorize sha).log (fun call store =>
    if ((authorize sha).answer call store).toOption.any (·.allowed) ∧
      (call.tenantId, call.action) = key then some call.time else none) calls store

def eligibleTimes (key : String × String) (calls : List (AuthorizeCall Inputs))
    (store : GovernanceStore) : List Int :=
  (authorize sha).log (fun call store =>
    if Eligible sha call store ∧ (call.tenantId, call.action) = key then some call.time
    else none) calls store

def ExceedsLimit (answer : Except PyError GovernanceDecision) : Prop :=
  ∃ decisionId, answer = .ok ⟨false, "autonomous action limit exceeded", decisionId⟩

/-- A call that is refused for its limit has as many calls of its action allowed in the window
before it as the limit says. -/
def LimitedPerWindow (store : GovernanceStore) (before : List (AuthorizeCall Inputs))
    (call : AuthorizeCall Inputs) : Prop :=
  ExceedsLimit ((authorize sha).answer call ((authorize sha).run before store)) →
    ∃ limit ∈ store.limits.lookup (call.tenantId, call.action),
      limit.maxCount ≤ (allowedTimes sha (call.tenantId, call.action) before store).countP
        (limit.covers call.time)

/-- A call that comes to a limit that is used up comes in its window, after every call of its action
that was eligible. -/
def ComesInWindow (store : GovernanceStore) (before : List (AuthorizeCall Inputs))
    (call : AuthorizeCall Inputs) : Prop :=
  ReachesLimit sha store call → UsedUp ((authorize sha).run before store) call →
    ∀ limit ∈ store.limits.lookup (call.tenantId, call.action),
      ∀ time ∈ eligibleTimes sha (call.tenantId, call.action) before store,
        limit.covers call.time time = true

variable {sha} {store : GovernanceStore} {call : AuthorizeCall Inputs}

theorem budget_exceeds_iff (verdict : Verdict) :
    budgetVerdict call store verdict = .deny "autonomous action limit exceeded" ↔
      verdict = .deny "autonomous action limit exceeded" := by
  unfold budgetVerdict
  by_cases asked : verdict.allowed = true ∧ call.estimatedCost ≠ 0
  · have allowed : verdict ≠ .deny "autonomous action limit exceeded" := by
      intro denied
      rw [denied] at asked
      exact absurd asked.1 Bool.false_ne_true
    rw [if_pos asked]
    dsimp only
    split_ifs
    · exact iff_of_false (by decide) allowed
    · rfl
  · rw [if_neg asked]

theorem limit_exceeds_iff (verdict : Verdict)
    (other : verdict ≠ .deny "autonomous action limit exceeded") :
    limitVerdict call store verdict = .deny "autonomous action limit exceeded" ↔
      UsedUp store call := by
  unfold limitVerdict UsedUp
  cases store.limits.lookup (call.tenantId, call.action) with
  | none => simpa using other
  | some limit =>
    by_cases reached : limit.maxCount ≤ store.actionCount (call.tenantId, call.action)
    · simp [reached]
    · simp [reached, other]

theorem policy_never_exceeds :
    policyVerdict call store ≠ .deny "autonomous action limit exceeded" := by
  unfold policyVerdict
  cases call.policyId with
  | none => simp [deny]
  | some policyId =>
    dsimp only
    cases store.policies.lookup (call.tenantId, policyId, call.policyVersion.getD "") with
    | none => simp [deny]
    | some policy => by_cases active : policy.active = true <;> simp [active, deny]

theorem grant_exceeds_iff (verdict : Verdict)
    (other : verdict ≠ .deny "autonomous action limit exceeded") :
    grantVerdict call store verdict = .ok (.deny "autonomous action limit exceeded") ↔
      Covered store call ∧ UsedUp store call := by
  rw [← limit_exceeds_iff verdict other, ← @budget_exceeds_iff _ store call]
  by_cases covered : Covered store call
  · simp [grant_of_covered verdict covered, covered]
  · apply iff_of_false
    · intro returns
      cases denied_of_uncovered covered returns with
      | inl expired => simp [deny] at expired
      | inr outside => simp [deny] at outside
    · exact fun both => covered both.1

theorem verdict_exceeds_iff :
    verdict call store = .ok (.deny "autonomous action limit exceeded") ↔
      (∃ ident ∈ store.agents.lookup (call.tenantId, call.agentId), ident.enabled = true) ∧
      Covered store call ∧ UsedUp store call := by
  rw [← grant_exceeds_iff (policyVerdict call store) policy_never_exceeds]
  unfold verdict
  cases store.agents.lookup (call.tenantId, call.agentId) with
  | none => simp [deny]
  | some ident =>
    by_cases enabled : ident.enabled = true
    · simp [enabled]
    · simp [enabled, deny]

theorem answer_exceeds_iff :
    ExceedsLimit ((authorize sha).answer call store) ↔
      verdict call store = .ok (.deny "autonomous action limit exceeded") ∧
      (sha.dumps call.inputs).isOk = true := by
  unfold ExceedsLimit Machine.answer authorize judged
  cases verdict call store with
  | error err => simp [bind, Except.bind]
  | ok judged =>
    cases sha.dumps call.inputs with
    | error err => simp [bind, Except.bind, Except.isOk, Except.toBool]
    | ok text =>
      cases judged
      simp [bind, Except.bind, pure, Except.pure, Except.isOk, Except.toBool, deny]

theorem reaches_limit_iff :
    ReachesLimit sha store call ↔
      (∃ ident ∈ store.agents.lookup (call.tenantId, call.agentId), ident.enabled = true) ∧
      Covered store call ∧ (sha.dumps call.inputs).isOk = true := by
  constructor
  · intro reaches
    exact ⟨reaches.identity, reaches.grant, reaches.written⟩
  · intro all
    exact ⟨all.1, all.2.1, all.2.2⟩

theorem exceeds_iff (call : AuthorizeCall Inputs) (store : GovernanceStore) :
    ExceedsLimit ((authorize sha).answer call store) ↔
      ReachesLimit sha store call ∧ UsedUp store call := by
  rw [answer_exceeds_iff, verdict_exceeds_iff, reaches_limit_iff]
  tauto

theorem reaches_of_same {other : GovernanceStore} (same : SameGrounds store other) :
    ReachesLimit sha other call ↔ ReachesLimit sha store call := by
  rw [reaches_limit_iff, reaches_limit_iff]
  unfold Covered
  rw [same.agents, same.grants]

theorem allowed_times_eq (key : String × String) (calls : List (AuthorizeCall Inputs))
    (store : GovernanceStore) :
    allowedTimes sha key calls store = eligibleTimes sha key calls store := by
  unfold allowedTimes eligibleTimes
  apply congrArg fun entry => (authorize sha).log entry calls store
  funext call cur
  exact if_congr (and_congr_left' (allowed_iff_eligible call cur)) rfl rfl

theorem eligible_times_concat (key : String × String) (past : List (AuthorizeCall Inputs))
    (call : AuthorizeCall Inputs) (store : GovernanceStore) :
    eligibleTimes sha key (past ++ [call]) store =
      eligibleTimes sha key past store ++
      if Eligible sha call ((authorize sha).run past store) ∧
      (call.tenantId, call.action) = key then [call.time] else [] := by
  unfold eligibleTimes
  rw [Machine.log_concat]
  apply congrArg (_ ++ ·)
  split_ifs
  · rfl
  · rfl

theorem count_allowed_action (call : AuthorizeCall Inputs) (store : GovernanceStore)
    (key : String × String) :
    ((allowedAction sha call store).toList).count key =
      if Eligible sha call store ∧ (call.tenantId, call.action) = key then 1 else 0 := by
  simp only [← allowed_iff_eligible]
  unfold allowedAction
  cases (authorize sha).answer call store with
  | error err => simp [Except.toOption]
  | ok decision =>
    by_cases allowed : decision.allowed = true
    · simp [allowed, Except.toOption, List.count_singleton]
    · simp [allowed, Except.toOption]

theorem count_eligible (fresh : ∀ key, store.actionCount key = 0) (key : String × String)
    (calls : List (AuthorizeCall Inputs)) :
    ((authorize sha).run calls store).actionCount key =
      (eligibleTimes sha key calls store).length := by
  induction calls using List.reverseRecOn with
  | nil => exact fresh key
  | append_singleton past call ih =>
    rw [Machine.run_concat, count_next, count_allowed_action, ih, eligible_times_concat,
      List.length_append]
    split_ifs
    · rfl
    · rfl

variable (sha) in
theorem eligible_le (fresh : ∀ key, store.actionCount key = 0) {key : String × String}
    {limit : ActionLimit} (limited : limit ∈ store.limits.lookup key)
    (calls : List (AuthorizeCall Inputs)) :
    ((eligibleTimes sha key calls store).length : Int) ≤ max limit.maxCount 0 := by
  induction calls using List.reverseRecOn with
  | nil => simp [eligibleTimes, Machine.log]
  | append_singleton past call ih =>
    rw [eligible_times_concat]
    by_cases counted : Eligible sha call ((authorize sha).run past store) ∧
        (call.tenantId, call.action) = key
    · rw [if_pos counted, List.length_append, List.length_singleton]
      have permitted := counted.1.1
      have grounds := @same_grounds_run _ sha past store
      have room := permitted.limit limit (by rw [grounds.limits, counted.2]; exact limited)
      rw [counted.2, count_eligible fresh] at room
      omega
    · rw [if_neg counted, List.append_nil]
      exact ih

theorem window_full_iff (fresh : ∀ key, store.actionCount key = 0) {key : String × String}
    {limit : ActionLimit} (limited : limit ∈ store.limits.lookup key)
    (calls : List (AuthorizeCall Inputs))
    (reached : limit.maxCount ≤ (eligibleTimes sha key calls store).length) (time : Int) :
    limit.maxCount ≤ (eligibleTimes sha key calls store).countP (limit.covers time) ↔
      ∀ past ∈ eligibleTimes sha key calls store, limit.covers time past = true := by
  have bounded := eligible_le sha fresh limited calls
  have inside : (eligibleTimes sha key calls store).countP (limit.covers time) ≤
      (eligibleTimes sha key calls store).length := List.countP_le_length
  rw [← List.countP_eq_length]
  omega

theorem limited_call_iff (fresh : ∀ key, store.actionCount key = 0)
    (before : List (AuthorizeCall Inputs)) (call : AuthorizeCall Inputs) :
    LimitedPerWindow sha store before call ↔ ComesInWindow sha store before call := by
  have grounds := @same_grounds_run _ sha before store
  unfold LimitedPerWindow ComesInWindow
  rw [exceeds_iff, reaches_of_same grounds, and_imp, allowed_times_eq]
  unfold UsedUp
  rw [grounds.limits, count_eligible fresh]
  cases limited : store.limits.lookup (call.tenantId, call.action) with
  | none => simp
  | some limit =>
    simp only [Option.mem_def, Option.some.injEq, exists_eq_left', forall_eq']
    exact forall_congr' fun _ => forall_congr' fun reached =>
      window_full_iff fresh limited before reached call.time

/-- In every run from a store that counts no action, calls are limited per window exactly when each
call to a limit that is used up comes in its window. -/
theorem limited_per_window_iff (sha : Digesting Inputs) (store : GovernanceStore)
    (calls : List (AuthorizeCall Inputs)) :
    Historically (LimitedPerWindow sha store.uncounted) calls ↔
      Historically (ComesInWindow sha store.uncounted) calls := by
  apply historically_congr fun _ => True
  · intro _ _ _ _
    trivial
  · trivial
  · intro before call _
    exact limited_call_iff (fun _ => rfl) before call

end limits

def minuteStore : GovernanceStore where
  agents := [(("t", "a"), ⟨"a", "t", true⟩)]
  grants := [(("t", "a", "c"), ⟨"c", "t", "a", [], none⟩)]
  limits := [(("t", "write"), ⟨"t", "write", 1, 60⟩)]

def writeAt (hour : Fin 24) : AuthorizeCall String where
  tenantId := "t"
  workspaceId := "w"
  executionId := "e"
  agentId := "a"
  action := "write"
  capabilityId := "c"
  inputs := "{}"
  draws :=
    let now : DateTime := ⟨1970, 1, 1, hour, 0, 0, 0, some 0, by revert hour; decide⟩
    ⟨"d", "v", now, now, now⟩

/-- An hour after the one call of its minute the next call is refused. -/
theorem refused_an_hour_later :
    ¬Historically (LimitedPerWindow ⟨Except.ok, id⟩ minuteStore.uncounted)
      [writeAt 0, writeAt 1] := by
  intro limited
  have refused : ExceedsLimit ((authorize ⟨Except.ok, id⟩).answer (writeAt 1)
      ((authorize ⟨Except.ok, id⟩).run [writeAt 0] minuteStore.uncounted)) := ⟨"d", by decide⟩
  obtain ⟨limit, mem, full⟩ := limited [writeAt 0] (writeAt 1) [] rfl refused
  cases mem
  revert full
  decide

end Ois.Governance
