import Ois.Kernel.Types
import Ois.Library.Histories
import Ois.Library.Metering
import Ois.Library.Uuid
import Ois.Sources.Gateway

/-!
# Token buckets and their leases

`TokenBucket` of `infrastructure/source_gateway/limits.py`, in exact arithmetic, and what
`SourceGateway` does with its token buckets before it computes the identity of a request:
`acquire_rate_limit`, `_select_rate_limiter` and the part of `ingest` that asks for a lease or
takes the one of the request.
-/

namespace Ois.Sources

open Ois.Library Ois.Kernel Machine

section buckets

variable {Amount : Type} [Field Amount] [LinearOrder Amount]

variable (Amount) in
structure RateLimitPolicy where
  capacity : Amount
  refillPerSecond : Amount
  positive : 0 < capacity ∧ 0 < refillPerSecond

structure RateLimitState (Amount : Type) where
  tokens : Amount
  observedAt : Amount
  deriving DecidableEq, Repr

/-- A call of `acquire`, and what it reads of the clock. -/
structure AcquireCall (Amount : Type) where
  cost : Amount
  now : Amount
  deriving DecidableEq, Repr

def badCost : PyError := ⟨.valueError, "cost must be > 0 and <= bucket capacity"⟩

namespace TokenBucket

variable (policy : RateLimitPolicy Amount)

/-- A bucket that is made at `now` is full. -/
def full (now : Amount) : RateLimitState Amount := ⟨policy.capacity, now⟩

/-- The tokens at `now`. -/
def refilled (now : Amount) (state : RateLimitState Amount) : Amount :=
  min policy.capacity (state.tokens + max 0 (now - state.observedAt) * policy.refillPerSecond)

/-- `acquire(cost)`; the lock makes it one step. -/
def acquire : Machine (AcquireCall Amount) (RateLimitState Amount) (Except PyError Bool) :=
  fun call state =>
    if call.cost ≤ 0 ∨ policy.capacity < call.cost then (state, .error badCost)
    else
      let tokens := refilled policy call.now state
      if tokens < call.cost then (⟨tokens, call.now⟩, .ok false)
      else (⟨tokens - call.cost, call.now⟩, .ok true)

def granted (call : AcquireCall Amount) (state : RateLimitState Amount) : Amount :=
  match (acquire policy).answer call state with
  | .ok true => call.cost
  | _ => 0

def meter : Meter Amount (AcquireCall Amount) (RateLimitState Amount) where
  capacity := policy.capacity
  rate := policy.refillPerSecond
  time := AcquireCall.now
  spent := granted policy
  level := RateLimitState.tokens
  moment := RateLimitState.observedAt

/-- The total cost that is granted from `first` to `last`. -/
def grantedWithin (first last : Amount) (calls : List (AcquireCall Amount))
    (state : RateLimitState Amount) : Amount :=
  (meter policy).spentWithin (acquire policy) first last calls state

/-- The clock does not go back after the bucket is made. -/
def Ticking (made : Amount) (calls : List (AcquireCall Amount)) : Prop :=
  (made :: calls.map (·.now)).Pairwise (· ≤ ·)

/-- What a bucket that is made at some time grants over its calls. -/
structure Bounds (made : Amount) (calls : List (AcquireCall Amount)) : Prop where
  tokens : ∀ before after, calls = before ++ after →
    let state := (acquire policy).run before (full policy made)
    0 ≤ state.tokens ∧ state.tokens ≤ policy.capacity
  window : ∀ first last, first ≤ last → grantedWithin policy first last calls (full policy made) ≤
      policy.capacity + policy.refillPerSecond * (last - first)
  retry : ∀ before call after, calls = before ++ call :: after →
    (acquire policy).answer call ((acquire policy).run before (full policy made)) = .ok false →
      let refused := (acquire policy).next call ((acquire policy).run before (full policy made))
      ∀ later, call.now ≤ later → ((acquire policy).answer ⟨call.cost, later⟩ refused = .ok true ↔
          (call.cost - refused.tokens) / policy.refillPerSecond ≤ later - call.now)

section bounds

variable {policy}

theorem acquire_of_cost {call : AcquireCall Amount}
    (good : ¬(call.cost ≤ 0 ∨ policy.capacity < call.cost)) (state : RateLimitState Amount) :
    acquire policy call state = if refilled policy call.now state < call.cost then
      (⟨refilled policy call.now state, call.now⟩, .ok false)
      else (⟨refilled policy call.now state - call.cost, call.now⟩, .ok true) := if_neg good

variable [IsStrictOrderedRing Amount]

theorem refilled_bounds {now : Amount} {state : RateLimitState Amount}
    (within : (meter policy).Within state) (inTime : state.observedAt ≤ now) :
    0 ≤ refilled policy now state ∧ refilled policy now state ≤ policy.capacity ∧
      refilled policy now state ≤
      state.tokens + policy.refillPerSecond * (now - state.observedAt) := by
  have elapsed : max 0 (now - state.observedAt) = now - state.observedAt :=
    max_eq_right (sub_nonneg.mpr inTime)
  have added : 0 ≤ (now - state.observedAt) * policy.refillPerSecond :=
    mul_nonneg (sub_nonneg.mpr inTime) policy.positive.2.le
  have nonneg : 0 ≤ state.tokens := within.nonneg
  unfold refilled
  rw [elapsed, mul_comm policy.refillPerSecond]
  exact ⟨le_min policy.positive.1.le (by linarith), min_le_left _ _, min_le_right _ _⟩

theorem bucket_meters : (meter policy).Meters (acquire policy) := by
  constructor
  · exact policy.positive.2.le
  · intro call state within inTime
    obtain ⟨nonneg, bounded, filled⟩ := refilled_bounds within inTime
    by_cases bad : call.cost ≤ 0 ∨ policy.capacity < call.cost
    · left
      have refused : acquire policy call state = (state, .error badCost) := if_pos bad
      constructor
      · exact congrArg Prod.fst refused
      · change granted policy call state = 0
        rw [granted, Machine.answer, refused]
    · right
      have taken := acquire_of_cost bad state
      have positive : 0 < call.cost := not_le.mp fun free => bad (Or.inl free)
      by_cases short : refilled policy call.now state < call.cost
      · rw [if_pos short] at taken
        have spent : (meter policy).spent call state = 0 := by
          change granted policy call state = 0
          rw [granted, Machine.answer, taken]
        have after : (acquire policy).next call state =
            ⟨refilled policy call.now state, call.now⟩ :=
          congrArg Prod.fst taken
        rw [after]
        exact ⟨rfl, spent.ge, nonneg, by rw [spent, add_zero]; exact bounded,
          by rw [spent, add_zero]; exact filled⟩
      · rw [if_neg short] at taken
        have spent : (meter policy).spent call state = call.cost := by
          change granted policy call state = call.cost
          rw [granted, Machine.answer, taken]
        have after : (acquire policy).next call state =
            ⟨refilled policy call.now state - call.cost, call.now⟩ := congrArg Prod.fst taken
        rw [after]
        refine ⟨rfl, spent.symm ▸ positive.le, sub_nonneg.mpr (not_lt.mp short), ?_, ?_⟩
        · rw [spent]
          change refilled policy call.now state - call.cost + call.cost ≤ policy.capacity
          rw [sub_add_cancel]
          exact bounded
        · rw [spent]
          change refilled policy call.now state - call.cost + call.cost ≤ _
          rw [sub_add_cancel]
          exact filled

theorem retry_iff {call : AcquireCall Amount} {state : RateLimitState Amount}
    (refused : (acquire policy).answer call state = .ok false) {later : Amount}
    (after : call.now ≤ later) :
    let left := (acquire policy).next call state
    (acquire policy).answer ⟨call.cost, later⟩ left = .ok true ↔
      (call.cost - left.tokens) / policy.refillPerSecond ≤ later - call.now := by
  by_cases bad : call.cost ≤ 0 ∨ policy.capacity < call.cost
  · have raised : acquire policy call state = (state, .error badCost) := if_pos bad
    rw [Machine.answer, raised] at refused
    cases refused
  · have taken := acquire_of_cost bad state
    by_cases short : refilled policy call.now state < call.cost
    · rw [if_pos short] at taken
      have next : (acquire policy).next call state = ⟨refilled policy call.now state, call.now⟩ :=
        congrArg Prod.fst taken
      rw [next]
      generalize refilled policy call.now state = tokens
      have again := @acquire_of_cost _ _ _ policy ⟨call.cost, later⟩ bad ⟨tokens, call.now⟩
      have fits : call.cost ≤ policy.capacity := not_lt.mp fun large => bad (Or.inr large)
      have elapsed : max 0 (later - call.now) = later - call.now :=
        max_eq_right (sub_nonneg.mpr after)
      have enough : ¬refilled policy later ⟨tokens, call.now⟩ < call.cost ↔
          (call.cost - tokens) / policy.refillPerSecond ≤ later - call.now := by
        rw [not_lt, refilled, elapsed, le_min_iff, div_le_iff₀ policy.positive.2,
          sub_le_iff_le_add']
        exact and_iff_right fits
      change (acquire policy ⟨call.cost, later⟩ ⟨tokens, call.now⟩).2 = .ok true ↔ _
      rw [again, ← enough]
      split_ifs with lacking
      · simp [lacking]
      · simp [lacking]
    · rw [if_neg short] at taken
      rw [Machine.answer, taken] at refused
      cases refused

end bounds

end TokenBucket

open TokenBucket

/-- A bucket whose clock does not go back stays within its bounds. -/
theorem token_bucket_bounds [IsStrictOrderedRing Amount] (policy : RateLimitPolicy Amount)
    (made : Amount) (calls : List (AcquireCall Amount))
    (ticking : TokenBucket.Ticking made calls) : TokenBucket.Bounds policy made calls := by
  have within : (meter policy).Within (full policy made) :=
    ⟨policy.positive.1.le, le_rfl⟩
  constructor
  · intro before after split
    rw [split, TokenBucket.Ticking, List.map_append, ← List.cons_append] at ticking
    have reached := Meter.within_run bucket_meters before within (List.pairwise_append.mp ticking).1
    exact ⟨reached.nonneg, reached.bounded⟩
  · intro first last window
    exact Meter.spent_within_le bucket_meters window calls within ticking
  · intro before call after _ refused
    exact fun later => retry_iff refused

end buckets

/-- A bucket of two tokens that gains one a second. -/
theorem small_bucket_bounds :
    TokenBucket.Bounds (⟨2, 1, two_pos, one_pos⟩ : RateLimitPolicy ℚ) 0
      [⟨2, 0⟩, ⟨1, 1 / 2⟩, ⟨1, 1⟩] := by
  apply token_bucket_bounds
  norm_num [TokenBucket.Ticking]

abbrev SourceScope := String × String

def SourceRequest.scope (req : SourceRequest) : SourceScope :=
  (req.sourceType, req.sourceId)

section leases

variable {Amount Bucket : Type} [Field Amount] [LinearOrder Amount] [DecidableEq Bucket]

variable (Amount Bucket) in
structure RateLimits where
  limiters : Dict String Bucket
  policy : Bucket → RateLimitPolicy Amount

variable (Amount Bucket) in
structure LeaseTables where
  buckets : Bucket → RateLimitState Amount
  leases : Dict String SourceScope := []

/-- A call of the gateway. What the credential and the rate limit manager come to stands before
what is done about the leases. -/
inductive LeaseCall (Amount : Type) where
  | acquireRateLimit (scope : SourceScope) (now : Amount) (uuid : Uuid)
  | ingest (req : SourceRequest) (lease : Option String) (before : Admission) (now : Amount)
      (uuid : Uuid)

inductive LeaseAnswer where
  | lease (res : Except PyError (Option String))
  | admission (admission : Admission)
  deriving DecidableEq, Repr

namespace RateLimits

variable (limits : RateLimits Amount Bucket)

/-- `_select_rate_limiter(...)`. -/
def select (scope : SourceScope) : Option Bucket :=
  (limits.limiters.lookup scope.1).or (limits.limiters.lookup scope.2)

/-- `bucket.acquire()`. -/
def take (bucket : Bucket) (now : Amount) (tables : LeaseTables Amount Bucket) :
    LeaseTables Amount Bucket × Except PyError Bool :=
  let (after, res) :=
    TokenBucket.acquire (limits.policy bucket) ⟨1, now⟩ (tables.buckets bucket)
  ({ tables with buckets := Function.update tables.buckets bucket after }, res)

/-- `acquire_rate_limit(...)`. -/
def acquireRateLimit (scope : SourceScope) (now : Amount) (uuid : Uuid)
    (tables : LeaseTables Amount Bucket) :
    LeaseTables Amount Bucket × Except PyError (Option String) :=
  match limits.select scope with
  | none => (tables, .ok none)
  | some bucket =>
    match limits.take bucket now tables with
    | (after, .error err) => (after, .error err)
    | (after, .ok false) => (after, .ok none)
    | (after, .ok true) =>
      ({ after with leases := after.leases.set uuid.str scope }, .ok (some uuid.str))

/-- `self._leases.pop(lease, None)`. -/
def pop (lease : String) (tables : LeaseTables Amount Bucket) : LeaseTables Amount Bucket :=
  { tables with leases := tables.leases.filter fun entry => entry.1 != lease }

/-- What `ingest` does about the leases. -/
def takeLease (scope : SourceScope) (lease : Option String) (verified : Bool) (now : Amount)
    (uuid : Uuid) (tables : LeaseTables Amount Bucket) : LeaseTables Amount Bucket × Admission :=
  match lease with
  | some lease =>
    (pop lease tables, if tables.leases.lookup lease = some scope then .admitted verified
      else .refused .invalidRateLimitLease)
  | none =>
    match limits.select scope with
    | none => (tables, .admitted verified)
    | some _ =>
      match limits.acquireRateLimit scope now uuid tables with
      | (after, .error err) => (after, .raised err)
      | (after, .ok none) => (after, .refused .rateLimited)
      | (after, .ok (some _)) => (after, .admitted verified)

def gateway : Machine (LeaseCall Amount) (LeaseTables Amount Bucket) LeaseAnswer :=
  fun call tables =>
    match call with
    | .acquireRateLimit scope now uuid =>
      let (after, res) := limits.acquireRateLimit scope now uuid tables
      (after, .lease res)
    | .ingest req lease before now uuid =>
      match before with
      | .admitted verified =>
        let (after, admission) := limits.takeLease req.scope lease verified now uuid tables
        (after, .admission admission)
      | .raised err => (tables, .admission (.raised err))
      | .refused refusal => (tables, .admission (.refused refusal))

def token (scope : SourceScope) (now : Amount) (tables : LeaseTables Amount Bucket) :
    Option Bucket :=
  (limits.select scope).filter fun bucket =>
    match (limits.take bucket now tables).2 with
    | .ok true => true
    | _ => false

end RateLimits

inductive LeaseEvent where
  | leased (lease : String) (scope : SourceScope)
  | drawn (lease : String) (scope : SourceScope)
  | presented (lease : String)
  deriving DecidableEq, Repr

namespace LeaseEvent

def lease : LeaseEvent → String
  | .leased lease _ => lease
  | .drawn lease _ => lease
  | .presented lease => lease

def scope? : LeaseEvent → Option SourceScope
  | .leased _ scope => some scope
  | .drawn _ scope => some scope
  | .presented _ => none

def last (lease : String) (events : List LeaseEvent) : Option LeaseEvent :=
  (events.filter (·.lease = lease)).getLast?

theorem lease_of_last {lease : String} {events : List LeaseEvent} {event : LeaseEvent}
    (found : last lease events = some event) : event.lease = lease := by
  have mem := List.mem_of_getLast? found
  simpa using (List.mem_filter.mp mem).2

theorem last_concat (lease : String) (events : List LeaseEvent) (event : LeaseEvent) :
    last lease (events ++ [event]) =
      if lease = event.lease then some event else last lease events := by
  unfold last
  rw [List.filter_append]
  by_cases own : lease = event.lease
  · simp [own]
  · have other : event.lease ≠ lease := fun same => own same.symm
    simp [own, other]

theorem scope_of_last_concat (lease : String) (events : List LeaseEvent) (event : LeaseEvent) :
    (last lease (events ++ [event])).bind scope? =
      if lease = event.lease then event.scope? else (last lease events).bind scope? := by
  rw [last_concat]
  split_ifs
  · rfl
  · rfl

end LeaseEvent

namespace RateLimits

variable (limits : RateLimits Amount Bucket)

def event (call : LeaseCall Amount) (tables : LeaseTables Amount Bucket) : Option LeaseEvent :=
  match call, limits.gateway.answer call tables with
  | .acquireRateLimit scope _ _, .lease (.ok (some lease)) => some (.leased lease scope)
  | .ingest _ (some lease) (.admitted _) _ _, _ => some (.presented lease)
  | .ingest req none (.admitted _) now uuid, _ =>
    (limits.token req.scope now tables).map fun _ => .drawn uuid.str req.scope
  | _, _ => none

def grants (call : LeaseCall Amount) (tables : LeaseTables Amount Bucket) : Option Bucket :=
  match call with
  | .acquireRateLimit scope now _ => limits.token scope now tables
  | .ingest req none (.admitted _) now _ => limits.token req.scope now tables
  | .ingest _ _ _ _ _ => none

def passes (call : LeaseCall Amount) (tables : LeaseTables Amount Bucket) : Option Bucket :=
  match call, limits.gateway.answer call tables with
  | .ingest req _ _ _ _, .admission (.admitted _) => limits.select req.scope
  | _, _ => none

def passesWith (call : LeaseCall Amount) (tables : LeaseTables Amount Bucket) :
    Option (String × SourceScope) :=
  match call, limits.gateway.answer call tables with
  | .ingest req (some lease) _ _ _, .admission (.admitted _) => some (lease, req.scope)
  | _, _ => none

inductive Deals (call : LeaseCall Amount) (tables : LeaseTables Amount Bucket) :
    Dict String SourceScope → Option LeaseEvent → Option Bucket → Option Bucket →
      Option (String × SourceScope) → Prop where
  | nothing : Deals call tables tables.leases none none none none
  | leased (lease : String) (scope : SourceScope) (bucket : Bucket)
      (own : limits.select scope = some bucket) :
      Deals call tables (tables.leases.set lease scope) (some (.leased lease scope)) (some bucket)
        none none
  | drawn (lease : String) (scope : SourceScope) (bucket : Bucket)
      (own : limits.select scope = some bucket) :
      Deals call tables (tables.leases.set lease scope) (some (.drawn lease scope)) (some bucket)
        (some bucket) none
  | passed (req : SourceRequest) (lease : String) (verified : Bool) (now : Amount) (uuid : Uuid)
      (made : call = .ingest req (some lease) (.admitted verified) now uuid)
      (held : tables.leases.lookup lease = some req.scope) :
      Deals call tables (tables.leases.filter fun entry => entry.1 != lease)
        (some (.presented lease)) none (limits.select req.scope) (some (lease, req.scope))
  | refused (lease : String) :
      Deals call tables (tables.leases.filter fun entry => entry.1 != lease)
        (some (.presented lease)) none none none

variable {limits}

variable (limits) in
inductive Asks (scope : SourceScope) (uuid : Uuid) (tables : LeaseTables Amount Bucket) :
    Option Bucket → Dict String SourceScope → Except PyError (Option String) → Prop where
  | nothing : Asks scope uuid tables none tables.leases (.ok none)
  | failed (err : PyError) : Asks scope uuid tables none tables.leases (.error err)
  | granted (bucket : Bucket) (own : limits.select scope = some bucket) :
      Asks scope uuid tables (some bucket) (tables.leases.set uuid.str scope) (.ok (some uuid.str))

theorem asks (scope : SourceScope) (now : Amount) (uuid : Uuid)
    (tables : LeaseTables Amount Bucket) :
    Asks limits scope uuid tables (limits.token scope now tables)
      (limits.acquireRateLimit scope now uuid tables).1.leases
      (limits.acquireRateLimit scope now uuid tables).2 := by
  unfold acquireRateLimit token
  cases own : limits.select scope with
  | none => exact .nothing
  | some bucket =>
    have kept : (limits.take bucket now tables).1.leases = tables.leases := rfl
    generalize taken : limits.take bucket now tables = res at kept
    obtain ⟨after, granted⟩ := res
    dsimp only at kept
    simp only [Option.filter_some, taken]
    cases granted with
    | error err =>
      rw [if_neg Bool.false_ne_true, kept]
      exact .failed err
    | ok granted =>
      cases granted with
      | false =>
        rw [if_neg Bool.false_ne_true, kept]
        exact .nothing
      | true =>
        rw [if_pos rfl]
        dsimp only
        rw [kept]
        exact .granted bucket own

theorem admitted_iff (req : SourceRequest) (lease : String) (verified : Bool) (now : Amount)
    (uuid : Uuid) (tables : LeaseTables Amount Bucket) :
    limits.gateway.answer (.ingest req (some lease) (.admitted verified) now uuid) tables =
      .admission (.admitted verified) ↔
      tables.leases.lookup lease = some req.scope := by
  change LeaseAnswer.admission (if _ then _ else _) = _ ↔ _
  split_ifs with held
  · simp [held]
  · simp [held]

theorem deals (call : LeaseCall Amount) (tables : LeaseTables Amount Bucket) :
    Deals limits call tables (limits.gateway.next call tables).leases (limits.event call tables)
      (limits.grants call tables) (limits.passes call tables) (limits.passesWith call tables) := by
  cases call with
  | acquireRateLimit scope now uuid =>
    have asked := @asks _ _ _ _ _ limits scope now uuid tables
    unfold event grants passes passesWith next answer gateway
    dsimp only
    generalize limits.token scope now tables = token at asked ⊢
    generalize limits.acquireRateLimit scope now uuid tables = res at asked ⊢
    obtain ⟨after, answer⟩ := res
    dsimp only at asked ⊢
    generalize after.leases = leases at asked ⊢
    cases asked with
    | nothing => exact .nothing
    | failed err => exact .nothing
    | granted bucket own => exact .leased uuid.str scope bucket own
  | ingest req lease before now uuid =>
    cases before with
    | raised | refused => cases lease <;> exact Deals.nothing
    | admitted verified =>
      cases lease with
      | some lease =>
        unfold event grants passes passesWith next answer gateway takeLease
        dsimp only
        by_cases held : tables.leases.lookup lease = some req.scope
        · simp only [if_pos held]
          exact .passed req lease verified now uuid rfl held
        · simp only [if_neg held]
          exact .refused lease
      | none =>
        have asked := @asks _ _ _ _ _ limits req.scope now uuid tables
        unfold event grants passes passesWith next answer gateway takeLease
        dsimp only
        cases own : limits.select req.scope with
        | none =>
          have free : limits.token req.scope now tables = none := by
            unfold token
            rw [own]
            rfl
          dsimp only
          rw [free, own]
          exact .nothing
        | some bucket =>
          dsimp only
          generalize limits.token req.scope now tables = token at asked ⊢
          generalize limits.acquireRateLimit req.scope now uuid tables = res at asked ⊢
          obtain ⟨after, answer⟩ := res
          dsimp only at asked ⊢
          generalize same : after.leases = leases at asked
          cases asked with
          | nothing | failed =>
            dsimp only
            rw [same]
            exact .nothing
          | granted other named =>
            dsimp only
            rw [same, named]
            exact .drawn uuid.str req.scope other named

section runs

variable (limits) (initial : Bucket → RateLimitState Amount)

def tablesAfter (calls : List (LeaseCall Amount)) : LeaseTables Amount Bucket :=
  limits.gateway.run calls { buckets := initial }

def events (calls : List (LeaseCall Amount)) : List LeaseEvent :=
  limits.gateway.log limits.event calls { buckets := initial }

def granted (calls : List (LeaseCall Amount)) (bucket : Bucket) : Nat :=
  (limits.gateway.log limits.grants calls { buckets := initial }).count bucket

def passed (calls : List (LeaseCall Amount)) (bucket : Bucket) : Nat :=
  (limits.gateway.log limits.passes calls { buckets := initial }).count bucket

def passedWith (calls : List (LeaseCall Amount)) (lease : String) (scope : SourceScope) : Nat :=
  (limits.gateway.log limits.passesWith calls { buckets := initial }).count (lease, scope)

/-- Sources get past rate limiting for tokens. A lease does so once each time that it is handed
out, for the source that it was handed out for, unless it was presented before. -/
structure PaidFor (calls : List (LeaseCall Amount)) : Prop where
  counted : ∀ bucket, limits.passed initial calls bucket ≤ limits.granted initial calls bucket
  single : ∀ lease scope, limits.passedWith initial calls lease scope ≤
    (limits.events initial calls).count (.leased lease scope)
  exact : Historically (fun before call => ∀ req lease verified now uuid,
    call = .ingest req (some lease) (.admitted verified) now uuid →
      (limits.gateway.answer call (limits.tablesAfter initial before) =
          .admission (.admitted verified) ↔
        LeaseEvent.last lease (limits.events initial before) =
          some (.leased lease req.scope))) calls

/-- No ingest presents, for its source, a lease that an ingest drew for itself. -/
def PresentsNoDrawn (calls : List (LeaseCall Amount)) : Prop :=
  Historically (fun before call => ∀ req lease verified now uuid,
    call = .ingest req (some lease) (.admitted verified) now uuid →
      LeaseEvent.last lease (limits.events initial before) ≠
        some (.drawn lease req.scope)) calls

variable {limits initial}

theorem count_append_to_list {Item : Type} [BEq Item] [LawfulBEq Item] [DecidableEq Item]
    (items : List Item) (more : Option Item) (item : Item) :
    (items ++ more.toList).count item = items.count item + if more = some item then 1 else 0 := by
  rw [List.count_append]
  cases more with
  | none => rfl
  | some other => simp [List.count_singleton]

structure Extends (before : List (LeaseCall Amount)) (call : LeaseCall Amount)
    (event : Option LeaseEvent) (grants passes : Option Bucket)
    (passesWith : Option (String × SourceScope)) : Prop where
  events : limits.events initial (before ++ [call]) = limits.events initial before ++ event.toList
  granted : ∀ bucket, limits.granted initial (before ++ [call]) bucket =
    limits.granted initial before bucket + if grants = some bucket then 1 else 0
  passed : ∀ bucket, limits.passed initial (before ++ [call]) bucket =
    limits.passed initial before bucket + if passes = some bucket then 1 else 0
  passedWith : ∀ lease scope, limits.passedWith initial (before ++ [call]) lease scope =
    limits.passedWith initial before lease scope + if passesWith = some (lease, scope) then 1 else 0

theorem dealt (before : List (LeaseCall Amount)) (call : LeaseCall Amount) :
    ∃ event grants passes passesWith, Deals limits call (limits.tablesAfter initial before)
      (limits.tablesAfter initial (before ++ [call])).leases event grants passes passesWith ∧
      @Extends _ _ _ _ _ limits initial before call event grants passes passesWith := by
  have after : limits.tablesAfter initial (before ++ [call]) =
      limits.gateway.next call (limits.tablesAfter initial before) :=
    run_concat _ before call _
  rw [after]
  refine ⟨_, _, _, _, deals call _, ?_⟩
  constructor
  · exact log_concat _ before call _
  · intro bucket
    rw [granted, log_concat, count_append_to_list]
    rfl
  · intro bucket
    rw [passed, log_concat, count_append_to_list]
    rfl
  · intro lease scope
    rw [passedWith, log_concat, count_append_to_list]
    rfl

theorem lookup_leases (calls : List (LeaseCall Amount)) (lease : String) :
    (limits.tablesAfter initial calls).leases.lookup lease =
      (LeaseEvent.last lease (limits.events initial calls)).bind LeaseEvent.scope? := by
  induction calls using List.reverseRecOn with
  | nil => rfl
  | append_singleton earlier call ih =>
    obtain ⟨event, grants, passes, passesWith, deals, more⟩ :=
      @dealt _ _ _ _ _ limits initial earlier call
    rw [more.events]
    generalize (limits.tablesAfter initial (earlier ++ [call])).leases = leases at deals ⊢
    cases deals with
    | nothing => simpa using ih
    | leased | drawn =>
      rw [Dict.lookup_set, Option.toList_some, LeaseEvent.scope_of_last_concat, ih]
      rfl
    | passed | refused =>
      rw [Dict.lookup_without, Option.toList_some, LeaseEvent.scope_of_last_concat, ih]
      rfl

theorem held_iff (calls : List (LeaseCall Amount)) (lease : String) (scope : SourceScope) :
    (limits.tablesAfter initial calls).leases.lookup lease = some scope ↔
      LeaseEvent.last lease (limits.events initial calls) = some (.leased lease scope) ∨
      LeaseEvent.last lease (limits.events initial calls) = some (.drawn lease scope) := by
  rw [lookup_leases]
  cases found : LeaseEvent.last lease (limits.events initial calls) with
  | none => simp
  | some event =>
    have own := LeaseEvent.lease_of_last found
    cases event with
    | leased other named | drawn other named =>
      change other = lease at own
      simp [LeaseEvent.scope?, own]
    | presented other => simp [LeaseEvent.scope?]

def Handed (events : List LeaseEvent) (outstanding : Dict String SourceScope) : Prop :=
  ∀ lease scope, outstanding.lookup lease = some scope ↔
    LeaseEvent.last lease events = some (.leased lease scope)

theorem handed_leased {events : List LeaseEvent} {outstanding : Dict String SourceScope}
    (handed : Handed events outstanding) (lease : String) (scope : SourceScope) :
    Handed (events ++ [.leased lease scope]) (outstanding.set lease scope) := by
  intro other named
  rw [Dict.lookup_set, LeaseEvent.last_concat]
  by_cases own : other = lease
  · simp [own, LeaseEvent.lease]
  · rw [if_neg own, if_neg (show other ≠ (LeaseEvent.leased lease scope).lease from own)]
    exact handed other named

theorem handed_without {events : List LeaseEvent} {outstanding : Dict String SourceScope}
    (handed : Handed events outstanding) {event : LeaseEvent}
    (gone : ∀ lease scope, event ≠ .leased lease scope) :
    Handed (events ++ [event]) (outstanding.filter fun entry => entry.1 != event.lease) := by
  intro other named
  rw [Dict.lookup_without, LeaseEvent.last_concat]
  split_ifs with own
  · simp [gone]
  · exact handed other named

theorem outstanding_paid {calls : List (LeaseCall Amount)}
    (presents : limits.PresentsNoDrawn initial calls) :
    ∃ outstanding, Handed (limits.events initial calls) outstanding ∧ ∀ bucket,
      limits.passed initial calls bucket +
      outstanding.countP (fun entry => limits.select entry.2 = some bucket) ≤
      limits.granted initial calls bucket := by
  induction calls using List.reverseRecOn with
  | nil => exact ⟨[], fun lease scope => by simp [events, log, LeaseEvent.last],
      fun bucket => by simp [passed, log]⟩
  | append_singleton earlier call ih =>
    obtain ⟨before, here⟩ := historically_concat.mp presents
    obtain ⟨outstanding, handed, paid⟩ := ih before
    obtain ⟨event, grants, passes, passesWith, deals, more⟩ :=
      @dealt _ _ _ _ _ limits initial earlier call
    have fewer (lease : String) (bucket : Bucket) :
        (outstanding.filter fun entry => entry.1 != lease).countP
            (fun entry => limits.select entry.2 = some bucket) ≤
          outstanding.countP (fun entry => limits.select entry.2 = some bucket) :=
      List.filter_sublist.countP_le
    rw [more.events]
    simp only [more.granted, more.passed]
    generalize (limits.tablesAfter initial (earlier ++ [call])).leases = leases at deals
    cases deals with
    | nothing => exact ⟨outstanding, by simpa using handed, by simpa using paid⟩
    | leased lease scope bucket own =>
      refine ⟨_, handed_leased handed lease scope, ?_⟩
      intro other
      have spent := paid other
      have added := Dict.countP_set_le
        (fun entry : String × SourceScope => limits.select entry.2 = some other) lease scope
        outstanding
      simp only [own, decide_eq_true_eq] at added
      simp only [reduceCtorEq, if_false]
      omega
    | drawn lease scope bucket own =>
      refine ⟨_, handed_without handed (by simp), ?_⟩
      intro other
      have spent := paid other
      have left := fewer lease other
      change _ + (outstanding.filter fun entry => entry.1 != lease).countP _ ≤ _
      omega
    | refused lease =>
      refine ⟨_, handed_without handed (by simp), ?_⟩
      intro other
      have spent := paid other
      have left := fewer lease other
      change _ + (outstanding.filter fun entry => entry.1 != lease).countP _ ≤ _
      simp only [reduceCtorEq, if_false]
      omega
    | passed req lease verified now uuid made held =>
      refine ⟨_, handed_without handed (by simp), ?_⟩
      intro other
      have spent := paid other
      have left := fewer lease other
      -- The lease was handed out, so a token was granted for it before.
      have leased : outstanding.lookup lease = some req.scope := by
        rw [handed]
        cases (held_iff earlier lease req.scope).mp held with
        | inl leased => exact leased
        | inr drawn => exact absurd drawn (here req lease verified now uuid made)
      change _ + (outstanding.filter fun entry => entry.1 != lease).countP _ ≤ _
      simp only [reduceCtorEq, if_false]
      split_ifs with limited
      · have less : (outstanding.filter fun entry => entry.1 != lease).countP
              (fun entry => decide (limits.select entry.2 = some other)) <
            outstanding.countP fun entry => decide (limits.select entry.2 = some other) :=
          Dict.countP_without_lt leased (by simp [limited])
        omega
      · omega

theorem single_paid {calls : List (LeaseCall Amount)}
    (presents : limits.PresentsNoDrawn initial calls) (lease : String) (scope : SourceScope) :
    limits.passedWith initial calls lease scope +
      (if LeaseEvent.last lease (limits.events initial calls) = some (.leased lease scope) then 1
      else 0) ≤
      (limits.events initial calls).count (.leased lease scope) := by
  induction calls using List.reverseRecOn with
  | nil => simp [passedWith, events, log, LeaseEvent.last]
  | append_singleton earlier call ih =>
    obtain ⟨before, here⟩ := historically_concat.mp presents
    have paid := ih before
    obtain ⟨event, grants, passes, passesWith, deals, more⟩ :=
      @dealt _ _ _ _ _ limits initial earlier call
    rw [more.events, more.passedWith, count_append_to_list]
    -- An event that hands nothing out can only end the lease.
    have ended (event : LeaseEvent) (gone : event ≠ .leased lease scope) :
        (if LeaseEvent.last lease (limits.events initial earlier ++ [event]) =
            some (.leased lease scope) then 1 else 0) ≤
          if LeaseEvent.last lease (limits.events initial earlier) =
            some (.leased lease scope) then 1 else 0 := by
      rw [LeaseEvent.last_concat]
      by_cases own : lease = event.lease
      · simp only [if_pos own, Option.some.injEq, if_neg gone, Nat.zero_le]
      · simp only [if_neg own, Nat.le_refl]
    generalize (limits.tablesAfter initial (earlier ++ [call])).leases = leases at deals
    cases deals with
    | nothing => simpa using paid
    | leased other named bucket _ =>
      rw [Option.toList_some, LeaseEvent.last_concat]
      by_cases own : lease = other
      · subst own
        simp only [LeaseEvent.lease, if_true, Option.some.injEq, LeaseEvent.leased.injEq,
          true_and, reduceCtorEq, if_false]
        split_ifs at paid ⊢ <;> omega
      · have apart : other ≠ lease := fun same => own same.symm
        simpa [LeaseEvent.lease, own, apart] using paid
    | drawn other named bucket _ =>
      have less := ended (.drawn other named) (by simp)
      rw [Option.toList_some]
      simp only [reduceCtorEq, if_false]
      omega
    | refused other =>
      have less := ended (.presented other) (by simp)
      rw [Option.toList_some]
      simp only [reduceCtorEq, if_false]
      omega
    | passed req other verified now uuid made held =>
      have leased : LeaseEvent.last other (limits.events initial earlier) =
          some (.leased other req.scope) := by
        cases (held_iff earlier other req.scope).mp held with
        | inl leased => exact leased
        | inr drawn => exact absurd drawn (here req other verified now uuid made)
      rw [Option.toList_some, LeaseEvent.last_concat]
      by_cases own : lease = other
      · subst own
        simp only [leased, Option.some.injEq, LeaseEvent.leased.injEq, true_and] at paid
        simp only [LeaseEvent.lease, if_true, Option.some.injEq, reduceCtorEq, if_false,
          Prod.mk.injEq, true_and]
        omega
      · have apart : other ≠ lease := fun same => own same.symm
        simpa [LeaseEvent.lease, own, apart] using paid

theorem exact_iff {before : List (LeaseCall Amount)} (req : SourceRequest) (lease : String)
    (verified : Bool) (now : Amount) (uuid : Uuid) :
    (limits.gateway.answer (.ingest req (some lease) (.admitted verified) now uuid)
      (limits.tablesAfter initial before) = .admission (.admitted verified) ↔
      LeaseEvent.last lease (limits.events initial before) = some (.leased lease req.scope)) ↔
    LeaseEvent.last lease (limits.events initial before) ≠ some (.drawn lease req.scope) := by
  rw [admitted_iff, held_iff]
  constructor
  · intro same drawn
    have leased := same.mp (Or.inr drawn)
    rw [drawn] at leased
    cases leased
  · intro apart
    exact or_iff_left apart

variable (limits initial) in
/-- Leases are single-use and paid for exactly if no ingest presents one that an ingest drew. -/
theorem paid_for_iff (calls : List (LeaseCall Amount)) :
    limits.PaidFor initial calls ↔ limits.PresentsNoDrawn initial calls := by
  constructor
  · intro paid before call after split req lease verified now uuid made
    have exactly := paid.exact before call after split req lease verified now uuid made
    rw [made] at exactly
    exact (exact_iff req lease verified now uuid).mp exactly
  · intro presents
    constructor
    · intro bucket
      obtain ⟨outstanding, _, paid⟩ := outstanding_paid presents
      have total := paid bucket
      omega
    · intro lease scope
      have total := single_paid presents lease scope
      omega
    · intro before call after split req lease verified now uuid made
      rw [made]
      exact (exact_iff req lease verified now uuid).mpr
        (presents before call after split req lease verified now uuid made)

end runs

end RateLimits

end leases

/-- One bucket, of one token, for the sources of a type. -/
def oneToken : RateLimits ℚ Unit where
  limiters := [("rss", ())]
  policy := fun _ => ⟨1, 1, by norm_num⟩

/-- An ingest of the feed with a lease or without. -/
def feedIngest (lease : Option String) : LeaseCall ℚ :=
  .ingest { tenantId := "tenant", workspaceId := "workspace", sourceType := "rss"
            sourceId := "feed" } lease (.admitted false) 0 ⟨1⟩

/-- The lease that an ingest drew for itself lets another one pass for the same token. -/
theorem drawn_lease_passes :
    ¬oneToken.PaidFor (fun _ => ⟨1, 0⟩) [feedIngest none, feedIngest (some (Uuid.str ⟨1⟩))] := by
  intro paid
  have counted := paid.counted ()
  revert counted
  decide +kernel

end Ois.Sources
