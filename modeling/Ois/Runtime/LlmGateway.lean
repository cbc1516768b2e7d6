import Mathlib.Data.Finset.Sort
import Mathlib.Data.List.MinMax
import Mathlib.Data.Prod.Lex
import Ois.Library.PyText
import Ois.Kernel.PyValues

/-!
# The gateway to language models

`LLMGateway` of `runtime/llm_gateway.py`. A provider answers by the number of attempts before, so
any pattern of failures is one of its functions. How Python adds up costs is a parameter.
-/

namespace Ois.Runtime

open Ois.Library Ois.Kernel

structure ModelRoute (Cost : Type) where
  refId : String
  version : String := "1.0.0"
  provider : String := ""
  model : String := ""
  capabilities : List String := []
  costProfile : Dict String Cost := []
  constraints : Members := []

def sameCosts {Cost : Type} [DecidableEq Cost] (left right : Dict String Cost) : Bool :=
  left.length == right.length && left.all fun entry => right.lookup entry.1 = some entry.2

/-- `left == right`. -/
def ModelRoute.equals {Cost : Type} [DecidableEq Cost] (left right : ModelRoute Cost) : Bool :=
  left.refId == right.refId && left.version == right.version && left.provider == right.provider &&
    left.model == right.model && left.capabilities == right.capabilities &&
      sameCosts left.costProfile right.costProfile &&
        pyEquals (.obj left.constraints) (.obj right.constraints)

structure ModelOutput where
  content : String
  filled : PyText.strip content ≠ ""

inductive ProviderOutcome where
  | output (output : ModelOutput)
  | other
  | raises (errorType : String)

/-- `invoke(model, request)` of a provider, after some attempts of the call. -/
abbrev LLMProvider := Nat → String → Members → ProviderOutcome

inductive InferenceStatus where
  | succeeded | failed
  deriving DecidableEq, Repr

structure InferenceRecord where
  requestId : String
  provider : String
  model : String
  status : InferenceStatus
  startedAt : String
  latencyMs : ℚ
  inputTokens : Option Nat := none
  outputTokens : Option Nat := none
  cost : Option ℚ := none
  errorType : Option String := none

structure LLMGateway (Cost : Type) where
  fallbackPolicy : String := "next_compatible"
  routes : List (ModelRoute Cost) := []
  providers : Dict String LLMProvider := []
  records : List InferenceRecord := []
  maxAttempts : Nat := 3
  positive : 1 ≤ maxAttempts := by decide

open LLMGateway

/-- The arguments of `invoke`, and what the clock shows at each attempt: when it starts, and how
long it takes. -/
structure InvokeCall where
  requestId : String
  prompt : String
  capabilities : Finset String := ∅
  constraints : Option Members := none
  otherOptions : Members := []
  clock : Nat → String × ℚ

def InvokeCall.options (call : InvokeCall) : Members :=
  match call.constraints with
  | none => call.otherOptions
  | some constraints => Dict.set "constraints" (.obj constraints) call.otherOptions

/-- `{"prompt": prompt, **options}`. -/
def InvokeCall.request (call : InvokeCall) : Members :=
  call.options.foldl (fun request option => Dict.set option.1 option.2 request)
    [("prompt", .str call.prompt)]

def InvokeCall.accepts {Cost : Type} (call : InvokeCall) (route : ModelRoute Cost) : Bool :=
  decide (∀ capability ∈ call.capabilities, capability ∈ route.capabilities) &&
    (call.constraints.getD []).all fun constraint =>
      pyEquals ((route.constraints.lookup constraint.1).getD .null) constraint.2

inductive GatewayError where
  | noRoute (msg : String)
  | exhausted (attempts : Nat) (lastErrorType : Option String)
  deriving DecidableEq, Repr

structure InferenceAttempt (Cost : Type) where
  route : ModelRoute Cost
  record : InferenceRecord

namespace LLMGateway

variable {Cost : Type} [LinearOrder Cost] (total : List Cost → Cost) (gateway : LLMGateway Cost)
  (call : InvokeCall)

/-- `sum(item.cost_profile.values())`. -/
def routeCost (route : ModelRoute Cost) : Cost := total (route.costProfile.map Prod.snd)

/-- `route(capabilities, constraints)`: the first of the cheapest routes. -/
def route : Except GatewayError (ModelRoute Cost) :=
  match (gateway.routes.filter call.accepts).argmin fun route =>
      toLex (routeCost total route, toLex (route.provider, route.model)) with
  | some route => .ok route
  | none => .error (.noRoute ("no model route satisfies capabilities=[" ++
      ", ".intercalate ((call.capabilities.sort (· ≤ ·)).map Kernel.reprStr) ++ "]"))

def fallbacks (selected : ModelRoute Cost) : List (ModelRoute Cost) :=
  if gateway.fallbackPolicy = "next_compatible" then
    gateway.routes.filter fun route => !route.equals selected && call.accepts route
  else []

def attempt (n : Nat) (route : ModelRoute Cost) :
    InferenceAttempt Cost × Except String ModelOutput :=
  let failed (latencyMs : ℚ) (errorType : String) :
      InferenceAttempt Cost × Except String ModelOutput :=
    ({ route := route
       record :=
        { requestId := call.requestId, provider := route.provider, model := route.model
          status := .failed, startedAt := (call.clock n).1, latencyMs := latencyMs
          errorType := some errorType } }, .error errorType)
  match gateway.providers.lookup route.provider with
  | none => failed 0 "LookupError"
  | some provider =>
    match provider n route.model call.request with
    | .output output =>
      ({ route := route
         record :=
          { requestId := call.requestId, provider := route.provider, model := route.model
            status := .succeeded, startedAt := (call.clock n).1
            latencyMs := (call.clock n).2 } }, .ok output)
    | .other => failed (call.clock n).2 "ModelOutputError"
    | .raises errorType => failed (call.clock n).2 errorType

def attemptRoutes : Nat → List (ModelRoute Cost) → Option String →
    List (InferenceAttempt Cost) × Except GatewayError ModelOutput
  | n, [], lastErrorType => ([], .error (.exhausted n lastErrorType))
  | n, route :: rest, _ =>
    match attempt gateway call n route with
    | (tried, .ok output) => ([tried], .ok output)
    | (tried, .error errorType) =>
      let later := attemptRoutes (n + 1) rest (some errorType)
      (tried :: later.1, later.2)

/-- The attempts of `invoke`, and what it returns or raises. -/
def invokeAttempts : List (InferenceAttempt Cost) × Except GatewayError ModelOutput :=
  match gateway.route total call with
  | .error err => ([], .error err)
  | .ok selected =>
    attemptRoutes gateway call 0
      ((selected :: gateway.fallbacks call selected).take gateway.maxAttempts) none

/-- `invoke(...)`. -/
def invoke : LLMGateway Cost × Except GatewayError ModelOutput :=
  let out := gateway.invokeAttempts total call
  ({ gateway with records := gateway.records ++ out.1.map (·.record) }, out.2)

end LLMGateway

def InferenceAttempt.Named {Cost : Type} (call : InvokeCall) (tried : InferenceAttempt Cost) :
    Prop :=
  tried.record.requestId = call.requestId ∧ tried.record.provider = tried.route.provider ∧
    tried.record.model = tried.route.model

namespace LLMGateway

variable {Cost : Type} [LinearOrder Cost] (total : List Cost → Cost) (gateway : LLMGateway Cost)
  (call : InvokeCall)

def Answers (n : Nat) (route : ModelRoute Cost) : Prop :=
  ∃ provider, gateway.providers.lookup route.provider = some provider ∧
    ∃ output, provider n route.model call.request = .output output

def candidates : List (ModelRoute Cost) :=
  match gateway.route total call with
  | .error _ => []
  | .ok selected => selected :: gateway.fallbacks call selected

/-- The attempts are made on different routes that the call accepts, from the cheapest on, and not
too many. Each enters one record, only the last may have succeeded, and a result is returned exactly
if a candidate within the bound answers. -/
structure FallsBack : Prop where
  accepted : ∀ tried ∈ (gateway.invokeAttempts total call).1, call.accepts tried.route = true
  once : ((gateway.invokeAttempts total call).1.map (·.route)).Pairwise
    fun past later => later.equals past = false
  bounded : (gateway.invokeAttempts total call).1.length ≤ gateway.maxAttempts
  starts : (∃ route ∈ gateway.routes, call.accepts route = true) →
    ∃ first rest, (gateway.invokeAttempts total call).1 = first :: rest ∧
      ∀ route ∈ gateway.routes, call.accepts route = true →
        routeCost total first.route ≤ routeCost total route
  recorded : (gateway.invoke total call).1.records =
    gateway.records ++ (gateway.invokeAttempts total call).1.map (·.record)
  named : ∀ tried ∈ (gateway.invokeAttempts total call).1, tried.Named call
  failed : ∀ tried ∈ (gateway.invokeAttempts total call).1.dropLast, tried.record.status = .failed
  succeeded : ((gateway.invoke total call).2.isOk = true ↔
    ∃ last ∈ (gateway.invokeAttempts total call).1.getLast?, last.record.status = .succeeded)
  returns : ((gateway.invoke total call).2.isOk = true ↔
    ∃ n < gateway.maxAttempts, ∃ route ∈ (gateway.candidates total call)[n]?,
      gateway.Answers call n route)

/-- Of two equal routes that come within the bound behind the cheapest, the second is never reached,
since a candidate before it answers. -/
def FallbacksDistinct : Prop :=
  ∀ selected, gateway.route total call = .ok selected →
    ∀ past later, past < later → later + 1 < gateway.maxAttempts →
      ∀ first ∈ (gateway.fallbacks call selected)[past]?,
        ∀ second ∈ (gateway.fallbacks call selected)[later]?, second.equals first = true →
          ∃ n ≤ later, ∃ route ∈ (selected :: gateway.fallbacks call selected)[n]?,
            gateway.Answers call n route

end LLMGateway

section attempts

variable {Cost : Type} {gateway : LLMGateway Cost} {call : InvokeCall}

variable (n : Nat) (routes : List (ModelRoute Cost))

theorem attempt_named (route : ModelRoute Cost) :
    (gateway.attempt call n route).1.route = route ∧
      (gateway.attempt call n route).1.Named call := by
  unfold attempt InferenceAttempt.Named
  cases gateway.providers.lookup route.provider with
  | none => simp
  | some provider =>
    dsimp only
    cases provider n route.model call.request <;> simp

theorem attempt_of_answers {n : Nat} {route : ModelRoute Cost}
    (answers : gateway.Answers call n route) :
    (gateway.attempt call n route).1.record.status = .succeeded ∧
      ∃ output, (gateway.attempt call n route).2 = .ok output := by
  obtain ⟨provider, registered, output, answered⟩ := answers
  unfold attempt
  rw [registered]
  dsimp only
  rw [answered]
  exact ⟨rfl, output, rfl⟩

theorem attempt_of_unanswered {n : Nat} {route : ModelRoute Cost}
    (unanswered : ¬gateway.Answers call n route) :
    (gateway.attempt call n route).1.record.status = .failed ∧
      ∃ errorType, (gateway.attempt call n route).2 = .error errorType := by
  unfold attempt
  cases registered : gateway.providers.lookup route.provider with
  | none => exact ⟨rfl, _, rfl⟩
  | some provider =>
    dsimp only
    cases answered : provider n route.model call.request with
    | output output => exact absurd ⟨provider, registered, output, answered⟩ unanswered
    | other | raises => exact ⟨rfl, _, rfl⟩

theorem attempt_routes_of_answers {n : Nat} {route : ModelRoute Cost}
    (answers : gateway.Answers call n route) (rest : List (ModelRoute Cost))
    (lastError : Option String) :
    ∃ output, gateway.attemptRoutes call n (route :: rest) lastError =
      ([(gateway.attempt call n route).1], .ok output) := by
  obtain ⟨_, output, ret⟩ := attempt_of_answers answers
  refine ⟨output, ?_⟩
  rw [attemptRoutes, ← Prod.mk.eta (p := gateway.attempt call n route), ret]

theorem attempt_routes_of_unanswered {n : Nat} {route : ModelRoute Cost}
    (unanswered : ¬gateway.Answers call n route) (rest : List (ModelRoute Cost))
    (lastError : Option String) :
    ∃ errorType, gateway.attemptRoutes call n (route :: rest) lastError =
      ((gateway.attempt call n route).1 ::
      (gateway.attemptRoutes call (n + 1) rest (some errorType)).1,
      (gateway.attemptRoutes call (n + 1) rest (some errorType)).2) := by
  obtain ⟨_, errorType, raised⟩ := attempt_of_unanswered unanswered
  refine ⟨errorType, ?_⟩
  rw [attemptRoutes, ← Prod.mk.eta (p := gateway.attempt call n route), raised]

variable (lastError : Option String)

theorem tried_get (index : Nat) (route : ModelRoute Cost) :
    ((gateway.attemptRoutes call n routes lastError).1.map (·.route))[index]? = some route ↔
      routes[index]? = some route ∧
      ∀ before < index, ∀ past ∈ routes[before]?,
      ¬gateway.Answers call (n + before) past := by
  induction routes generalizing n lastError index with
  | nil => simp [attemptRoutes]
  | cons first rest ih =>
    by_cases answers : gateway.Answers call n first
    · obtain ⟨output, tried⟩ := attempt_routes_of_answers answers rest lastError
      rw [tried]
      cases index with
      | zero => simp [(attempt_named n first).1]
      | succ index =>
        apply iff_of_false
        · simp
        · intro both
          exact both.2 0 (by omega) first rfl answers
    · obtain ⟨errorType, tried⟩ := attempt_routes_of_unanswered answers rest lastError
      rw [tried]
      cases index with
      | zero => simp [(attempt_named n first).1]
      | succ index =>
        rw [List.map_cons, List.getElem?_cons_succ, ih, List.getElem?_cons_succ]
        apply and_congr_right'
        constructor
        · intro none before below past mem
          cases before with
          | zero =>
            rw [← Option.some_inj.mp mem]
            exact answers
          | succ before =>
            have unanswered := none before (by omega) past mem
            rwa [Nat.add_assoc, Nat.add_comm 1] at unanswered
        · intro none before below past mem
          have unanswered := none (before + 1) (by omega) past mem
          rwa [← Nat.add_assoc, Nat.add_right_comm] at unanswered

theorem tried_mem {n : Nat} {routes : List (ModelRoute Cost)} {lastError : Option String}
    {tried : InferenceAttempt Cost}
    (mem : tried ∈ (gateway.attemptRoutes call n routes lastError).1) :
    tried.route ∈ routes := by
  obtain ⟨index, found⟩ := List.mem_iff_getElem?.mp (List.mem_map_of_mem (f := (·.route)) mem)
  exact List.mem_of_getElem? ((tried_get n routes lastError index _).mp found).1

theorem tried_length :
    (gateway.attemptRoutes call n routes lastError).1.length ≤ routes.length := by
  by_contra longer
  have inside : routes.length <
      ((gateway.attemptRoutes call n routes lastError).1.map (·.route)).length := by
    rw [List.length_map]
    omega
  have found := (tried_get n routes lastError routes.length _).mp
    (List.getElem?_eq_getElem inside)
  simp at found

theorem tried_named :
    ∀ tried ∈ (gateway.attemptRoutes call n routes lastError).1, tried.Named call := by
  induction routes generalizing n lastError with
  | nil => simp [attemptRoutes]
  | cons first rest ih =>
    intro tried mem
    by_cases answers : gateway.Answers call n first
    · obtain ⟨output, split⟩ := attempt_routes_of_answers answers rest lastError
      rw [split] at mem
      rw [List.mem_singleton.mp mem]
      exact (attempt_named n first).2
    · obtain ⟨errorType, split⟩ := attempt_routes_of_unanswered answers rest lastError
      rw [split] at mem
      cases List.mem_cons.mp mem with
      | inl here =>
        rw [here]
        exact (attempt_named n first).2
      | inr later => exact ih (n + 1) (some errorType) tried later

theorem returns_iff :
    (gateway.attemptRoutes call n routes lastError).2.isOk = true ↔
      ∃ index, ∃ route ∈ routes[index]?, gateway.Answers call (n + index) route := by
  induction routes generalizing n lastError with
  | nil => simp [attemptRoutes, Except.isOk, Except.toBool]
  | cons first rest ih =>
    by_cases answers : gateway.Answers call n first
    · obtain ⟨output, split⟩ := attempt_routes_of_answers answers rest lastError
      rw [split]
      exact iff_of_true rfl ⟨0, first, rfl, answers⟩
    · obtain ⟨errorType, split⟩ := attempt_routes_of_unanswered answers rest lastError
      rw [split, ih]
      constructor
      · intro found
        obtain ⟨index, route, mem, later⟩ := found
        refine ⟨index + 1, route, mem, ?_⟩
        rwa [← Nat.add_assoc, Nat.add_right_comm]
      · intro found
        obtain ⟨index, route, mem, later⟩ := found
        cases index with
        | zero =>
          rw [← Option.some_inj.mp mem] at later
          exact absurd later answers
        | succ index =>
          refine ⟨index, route, mem, ?_⟩
          rwa [Nat.add_assoc, Nat.add_comm 1]

theorem tried_statuses :
    (∀ tried ∈ (gateway.attemptRoutes call n routes lastError).1.dropLast,
      tried.record.status = .failed) ∧
    ((gateway.attemptRoutes call n routes lastError).2.isOk = true ↔
      ∃ last ∈ (gateway.attemptRoutes call n routes lastError).1.getLast?,
      last.record.status = .succeeded) := by
  induction routes generalizing n lastError with
  | nil => simp [attemptRoutes, Except.isOk, Except.toBool]
  | cons first rest ih =>
    by_cases answers : gateway.Answers call n first
    · obtain ⟨output, split⟩ := attempt_routes_of_answers answers rest lastError
      rw [split]
      refine ⟨by simp, iff_of_true rfl ⟨_, rfl, ?_⟩⟩
      exact (attempt_of_answers answers).1
    · obtain ⟨errorType, split⟩ := attempt_routes_of_unanswered answers rest lastError
      have failed := (attempt_of_unanswered answers).1
      have later := ih (n + 1) (some errorType)
      rw [split]
      cases behind : (gateway.attemptRoutes call (n + 1) rest (some errorType)).1 with
      | nil =>
        rw [behind] at later
        refine ⟨by simp, ?_⟩
        rw [later.2]
        simp [failed]
      | cons next others =>
        rw [behind] at later
        constructor
        · intro tried mem
          rw [List.dropLast_cons_of_ne_nil (by simp), List.mem_cons] at mem
          cases mem with
          | inl here =>
            rw [here]
            exact failed
          | inr inside => exact later.1 tried inside
        · rw [later.2, List.getLast?_cons_cons]

end attempts

theorem pairwise_iff_get {Item : Type} {relation : Item → Item → Prop} {items : List Item} :
    items.Pairwise relation ↔ ∀ past later : Nat, past < later →
      ∀ first ∈ items[past]?, ∀ second ∈ items[later]?, relation first second := by
  rw [List.pairwise_iff_getElem]
  constructor
  · intro pairs past later order first one second two
    obtain ⟨left, firstHere⟩ := List.getElem?_eq_some_iff.mp one
    obtain ⟨right, secondHere⟩ := List.getElem?_eq_some_iff.mp two
    rw [← firstHere, ← secondHere]
    exact pairs past later left right order
  · intro pairs past later left right order
    exact pairs past later order _ (List.getElem?_eq_getElem left) _
      (List.getElem?_eq_getElem right)

namespace LLMGateway

variable {Cost : Type} [LinearOrder Cost] {total : List Cost → Cost} {gateway : LLMGateway Cost}
  {call : InvokeCall} {selected : ModelRoute Cost}

theorem route_ok (found : gateway.route total call = .ok selected) :
    selected ∈ gateway.routes ∧ call.accepts selected = true ∧
      ∀ other ∈ gateway.routes, call.accepts other = true →
      routeCost total selected ≤ routeCost total other := by
  unfold route at found
  split at found
  · next route least =>
      cases found
      have listed := List.mem_filter.mp (List.argmin_mem least)
      refine ⟨listed.1, listed.2, ?_⟩
      intro other mem accepted
      have keys := List.le_of_mem_argmin (List.mem_filter.mpr ⟨mem, accepted⟩) least
      rcases Prod.Lex.toLex_le_toLex.mp keys with cheaper | same
      · exact le_of_lt cheaper
      · exact le_of_eq same.1
  · cases found

theorem route_error {err : GatewayError} (missing : gateway.route total call = .error err) :
    ∀ route ∈ gateway.routes, call.accepts route ≠ true := by
  unfold route at missing
  split at missing
  · cases missing
  · next none =>
      rw [List.argmin_eq_none, List.filter_eq_nil_iff] at none
      exact none

theorem mem_fallbacks {route : ModelRoute Cost} (mem : route ∈ gateway.fallbacks call selected) :
    route.equals selected = false ∧ call.accepts route = true := by
  unfold fallbacks at mem
  split_ifs at mem
  · have kept := (List.mem_filter.mp mem).2
    rwa [Bool.and_eq_true, Bool.not_eq_true'] at kept
  · cases mem

theorem invoke_attempts_ok (found : gateway.route total call = .ok selected) :
    gateway.invokeAttempts total call = gateway.attemptRoutes call 0
      ((selected :: gateway.fallbacks call selected).take gateway.maxAttempts) none := by
  unfold invokeAttempts
  rw [found]

theorem get_take_iff {Item : Type} {items : List Item} {bound index : Nat} {item : Item} :
    (items.take bound)[index]? = some item ↔ index < bound ∧ items[index]? = some item := by
  rw [List.getElem?_take]
  split_ifs with below
  · exact (and_iff_right below).symm
  · exact iff_of_false (by simp) fun both => below both.1

section

variable (found : gateway.route total call = .ok selected)

include found

theorem once_iff :
    ((gateway.invokeAttempts total call).1.map (·.route)).Pairwise
      (fun past later => later.equals past = false) ↔
      gateway.FallbacksDistinct total call := by
  rw [invoke_attempts_ok found, pairwise_iff_get]
  simp only [Option.mem_def, tried_get, get_take_iff, Nat.zero_add]
  constructor
  · intro once other same past later order within first one second two twins
    rw [found] at same
    cases same
    by_contra unanswered
    have none (bound : Nat) (below : bound ≤ later + 1) : ∀ before < bound,
        ∀ route, before < gateway.maxAttempts ∧
          (selected :: gateway.fallbacks call selected)[before]? = some route →
            ¬gateway.Answers call before route := by
      intro before inside route reached answers
      exact unanswered ⟨before, by omega, route, reached.2, answers⟩
    have differ := once (past + 1) (later + 1) (by omega) first
      ⟨⟨by omega, one⟩, none _ (by omega)⟩ second ⟨⟨within, two⟩, none _ le_rfl⟩
    rw [twins] at differ
    exact Bool.noConfusion differ
  · intro distinct past later order first one second two
    cases later with
    | zero => omega
    | succ later =>
      have present : (gateway.fallbacks call selected)[later]? = some second := two.1.2
      cases past with
      | zero =>
        have same : selected = first := Option.some_inj.mp one.1.2
        rw [← same]
        exact (mem_fallbacks (List.mem_of_getElem? present)).1
      | succ past =>
        by_contra twins
        obtain ⟨n, below, route, reached, answers⟩ := distinct selected found past later
          (by omega) two.1.1 first one.1.2 second present (Bool.not_eq_false _ ▸ twins)
        exact two.2 n (by omega) route ⟨by have := two.1.1; omega, reached⟩ answers

omit found in
theorem unrouted_falls_back {err : GatewayError}
    (missing : gateway.route total call = .error err) :
    gateway.FallsBack total call := by
  have none := route_error missing
  have attempts : gateway.invokeAttempts total call = ([], .error err) := by
    unfold invokeAttempts
    rw [missing]
  have candidates : gateway.candidates total call = [] := by
    unfold candidates
    rw [missing]
  constructor <;> simp [invoke, attempts, candidates, Except.isOk, Except.toBool]
  intro route mem
  exact Bool.eq_false_iff.mpr (none route mem)

theorem attempted_accepted :
    ∀ tried ∈ (gateway.invokeAttempts total call).1, call.accepts tried.route = true := by
  intro tried mem
  rw [invoke_attempts_ok found] at mem
  cases List.mem_cons.mp (List.mem_of_mem_take (tried_mem mem)) with
  | inl here =>
    rw [here]
    exact (route_ok found).2.1
  | inr later => exact (mem_fallbacks later).2

theorem starts_with_selected :
    ∃ first rest, (gateway.invokeAttempts total call).1 = first :: rest ∧
      first.route = selected := by
  have head : ((gateway.invokeAttempts total call).1.map (·.route))[0]? = some selected := by
    rw [invoke_attempts_ok found, tried_get, get_take_iff]
    exact ⟨⟨gateway.positive, rfl⟩, fun before below => absurd below (by omega)⟩
  cases tried : (gateway.invokeAttempts total call).1 with
  | nil => simp [tried] at head
  | cons first rest =>
    rw [tried, List.map_cons, List.getElem?_cons_zero, Option.some_inj] at head
    exact ⟨first, rest, rfl, head⟩

theorem routed_returns_iff :
    (gateway.invoke total call).2.isOk = true ↔
      ∃ n < gateway.maxAttempts, ∃ route ∈ (gateway.candidates total call)[n]?,
      gateway.Answers call n route := by
  have candidates : gateway.candidates total call =
      selected :: gateway.fallbacks call selected := by
    unfold candidates
    rw [found]
  unfold invoke
  rw [invoke_attempts_ok found, returns_iff, candidates]
  simp only [Option.mem_def, get_take_iff, Nat.zero_add]
  constructor
  · intro answered
    obtain ⟨n, route, reached, answers⟩ := answered
    exact ⟨n, reached.1, route, reached.2, answers⟩
  · intro answered
    obtain ⟨n, below, route, reached, answers⟩ := answered
    exact ⟨n, route, ⟨below, reached⟩, answers⟩

end

/-- A call falls back as it should exactly if no two equal fallbacks are reached. -/
theorem falls_back_iff (total : List Cost → Cost) (gateway : LLMGateway Cost)
    (call : InvokeCall) :
    gateway.FallsBack total call ↔ gateway.FallbacksDistinct total call := by
  cases found : gateway.route total call with
  | error err =>
    apply iff_of_true (unrouted_falls_back found)
    intro selected same
    rw [found] at same
    cases same
  | ok selected =>
    rw [← once_iff found]
    constructor
    · exact FallsBack.once
    · intro once
      have attempts := invoke_attempts_ok found
      have statuses := @tried_statuses _ gateway call 0
        ((selected :: gateway.fallbacks call selected).take gateway.maxAttempts) none
      constructor
      case accepted => exact attempted_accepted found
      case once => exact once
      case bounded =>
        rw [attempts]
        have short := @tried_length _ gateway call 0
          ((selected :: gateway.fallbacks call selected).take gateway.maxAttempts) none
        rw [List.length_take] at short
        omega
      case starts =>
        intro _
        obtain ⟨first, rest, tried, head⟩ := starts_with_selected found
        exact ⟨first, rest, tried, head ▸ (route_ok found).2.2⟩
      case recorded => rfl
      case named =>
        rw [attempts]
        exact tried_named _ _ _
      case failed =>
        rw [attempts]
        exact statuses.1
      case succeeded =>
        unfold invoke
        rw [attempts]
        exact statuses.2
      case returns => exact routed_returns_iff found

/-- A cheap route, and another that is registered twice. No provider is registered. -/
def repeatedRoutes : LLMGateway ℚ where
  routes :=
    [{ refId := "r1", provider := "a", model := "small", costProfile := [("token", 1)] },
     { refId := "r2", provider := "b", model := "large", costProfile := [("token", 2)] },
     { refId := "r2", provider := "b", model := "large", costProfile := [("token", 2)] }]

def plainCall : InvokeCall where
  requestId := "q1"
  prompt := "hello"
  clock := fun _ => ("2026-01-01T00:00:00+00:00", 0)

/-- The route that is registered twice is tried twice. -/
theorem repeated_routes_tried_twice : ¬repeatedRoutes.FallsBack List.sum plainCall := by
  intro law
  have once := law.once
  revert once
  decide +kernel

end LLMGateway

end Ois.Runtime
