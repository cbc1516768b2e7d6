import Ois.Kernel.Attempts

/-!
# Stored results and their replay

The store of results changes only when a call whose capability returned a SUCCEEDED or CANCELLED
result stores it under its key, and only when nothing was stored there.
-/

namespace Ois.Kernel

open Ois.Library Ois.Infrastructure Command ExecutionRuntime InvocationResult

def Step.put? : Step → Option (String × InvocationResult)
  | .put key res => some (key, res)
  | _ => none

open Step

def Mark.stored? : Mark → Option (String × InvocationResult)
  | .stored key res => some (key, res)
  | _ => none

open Mark

def IdempotencyStore.putAll (store : IdempotencyStore)
    (puts : List (String × InvocationResult)) : IdempotencyStore :=
  puts.foldl (fun cur entry => cur.put entry.1 entry.2) store

theorem mem_put? {steps : List Step} {key : String} {res : InvocationResult} :
    (key, res) ∈ steps.filterMap put? ↔ put key res ∈ steps := by
  rw [List.mem_filterMap]
  constructor
  · rintro ⟨step, mem, puts⟩
    cases step with
    | put otherKey otherResult =>
      simp only [put?, Option.some.injEq, Prod.mk.injEq] at puts
      obtain ⟨rfl, rfl⟩ := puts
      exact mem
    | _ => simp [put?] at puts
  · intro mem
    exact ⟨_, mem, rfl⟩

theorem after_all_idempotency (sha256 : Json.Text → String) (durable : Durable)
    (steps : List Step) :
    (durable.afterAll sha256 steps).idempotency =
      durable.idempotency.putAll (steps.filterMap put?) := by
  induction steps generalizing durable with
  | nil => rfl
  | cons step rest ih =>
    have unfolded : durable.afterAll sha256 (step :: rest) =
        (durable.after sha256 step).afterAll sha256 rest := rfl
    rw [unfolded, ih]
    cases step with
    | put key res => rfl
    | save ctx =>
      simp only [Durable.after]
      cases durable.checkpoints.write sha256 ctx <;> rfl
    | _ => rfl

theorem puts_of_story (view : View) (steps : List Step)
    (trailed : view.trail = trail steps) :
    steps.filterMap put? = view.story.filterMap stored? := by
  rw [View.story, trailed, trail, List.filterMap_filter, List.filterMap_filterMap]
  congr 1
  funext step
  cases step with
  | record event =>
    simp only [mark?, put?]
    split_ifs
    · cases event.invocationId? <;> rfl
    · rfl
  | _ => rfl

def Step.invokesFor (tenant capId : String) : Step → Bool
  | .invoke _ req _ => req.execution.identity.tenantId == tenant &&
      req.capabilityId == capId
  | _ => false

def Step.Returns (res : InvocationResult) : Step → Prop
  | .invoke _ _ reply => reply.outcome = .returned res
  | _ => False

theorem invoke_mem_of_put_mem {view : View} {steps taken : List Step} {first : Mark}
    {rest : List Mark} {version key : String} {req : InvocationRequest} {reply : Reply}
    {res : InvocationResult} (trailed : view.trail = trail steps)
    (told : view.story = first :: .invoked version req reply :: rest)
    (other : first ≠ .stored key res) (early : taken <+: steps)
    (put : put key res ∈ taken) : invoke version req reply ∈ taken := by
  have begun : (trail taken).filter (fun mark => !mark.isSaved) <+:
      first :: .invoked version req reply :: rest := by
    rw [← told, View.story, trailed]
    exact (early.filterMap mark?).filter _
  have stored : .stored key res ∈ (trail taken).filter (fun mark => !mark.isSaved) :=
    List.mem_filter.mpr ⟨put_mem_iff.mp put, rfl⟩
  refine invoke_mem_iff.mpr (List.mem_of_mem_filter ?_ (p := fun mark => !mark.isSaved))
  generalize (trail taken).filter (fun mark => !mark.isSaved) = marks at begun stored ⊢
  cases marks with
  | nil => simp at stored
  | cons one others =>
    rw [List.cons_prefix_cons] at begun
    cases others with
    | nil =>
      rw [List.mem_singleton] at stored
      exact absurd (begun.1.symm.trans stored.symm) other
    | cons two others =>
      rw [List.cons_prefix_cons] at begun
      simp [begun.2.1]

namespace Attempt

variable {attempt : Attempt} {store : IdempotencyStore}

def Produced (attempt : Attempt) (res : InvocationResult) (step : Step) : Prop :=
  step.invokesFor attempt.context.identity.tenantId attempt.call.capabilityId = true ∧
    step.Returns res

structure Made (attempt : Attempt) (store : IdempotencyStore) (res : InvocationResult) :
    Prop where
  terminal : res.isTerminal = true
  first : store.get attempt.key = none
  invoked : ∃ step, attempt.Produced res step ∧ ∀ taken, taken <+: attempt.callSteps store →
    put attempt.key res ∈ taken → step ∈ taken

theorem entered_key {entry : Entry}
    (entered : Entered attempt.runtime (attempt.world.uuid4 0) attempt.call entry) :
    entry.key = attempt.key := by
  rw [entered.key, entered.invocationId]
  rfl

theorem invokes_for_own {version : String} {entry : Entry} {reply : Reply}
    {ctx : ExecutionContext} {seen : View}
    (standing : ctx.standing = (startedView entry seen).standing)
    (same : seen.standing.identity = attempt.context.identity := by rfl) :
    (invoke version (requestOf attempt.call entry ctx) reply).invokesFor
      attempt.context.identity.tenantId attempt.call.capabilityId = true := by
  have ident : ctx.identity = attempt.context.identity :=
    (congrArg Standing.identity standing).trans same
  simp [invokesFor, requestOf, ident]

theorem puts_cases (attempt : Attempt) (store : IdempotencyStore) :
    (attempt.callSteps store).filterMap put? = [] ∨
      ∃ res, (attempt.callSteps store).filterMap put? = [(attempt.key, res)] ∧
      attempt.Made store res := by
  rw [puts_of_story (attempt.after store).view (attempt.callSteps store) rfl]
  have trailed : (attempt.after store).view.trail = trail (attempt.callSteps store) := rfl
  have conduct := attempt.conduct store
  have blank : (attempt.session store).view.story = [] := rfl
  generalize attempt.outcome store = out at conduct
  generalize (attempt.after store).view = after at conduct trailed ⊢
  cases conduct with
  | terminal | unfenced | unregistered => simp [blank]
  | cancelled _ _ entry msg entered movable cancels concludes =>
    simp [concludes_story concludes, blank, stored?]
  | invalid err entry req entered movable made rejected => simp [blank]
  | unauthorized err entry req moment _ entered movable made rejected leaves =>
    rcases leaves with rfl | rfl <;> simp [blank, stored?]
  | replayed cached entry entered movable hit => simp [blank, stored?]
  | unstarted err entry entered movable miss obstructed => simp [blank]
  | ran _ _ entry entered movable miss runs =>
    cases runs with
    | cancelled msg cancels concludes
    | interrupted msg req reply answers interrupts concludes
    | failed err req reply answers raises concludes =>
      simp [concludes_story concludes, blank, stored?]
    | returned res req reply answers ret live settles =>
      rcases settles_story settles with told | told | ⟨terminal, told⟩
      · simp [told, blank, stored?]
      · simp [told, blank, stored?]
      · refine Or.inr ⟨res, ?_, terminal, ?_, .invoke attempt.call.version req reply,
          ?_, fun taken early put => ?_⟩
        · simp only [told, story_invoked, story_started, blank, entered_key entered]
          rfl
        · rw [← entered_key entered]
          exact miss
        · obtain ⟨⟨ctx, standing, rfl⟩, _⟩ := answers
          exact ⟨invokes_for_own standing, ret⟩
        · rw [story_invoked, story_started, blank] at told
          exact invoke_mem_of_put_mem trailed told (by simp) early put

theorem made_of_put {key : String} {res : InvocationResult}
    (put : (key, res) ∈ (attempt.callSteps store).filterMap put?) :
    key = attempt.key ∧ attempt.Made store res := by
  rcases puts_cases attempt store with none_ | ⟨made, one, from_⟩
  · simp [none_] at put
  · rw [one, List.mem_singleton, Prod.mk.injEq] at put
    obtain ⟨rfl, rfl⟩ := put
    exact ⟨rfl, from_⟩

theorem steps_initial (attempt : Attempt) (store : IdempotencyStore) :
    attempt.steps store <+: attempt.callSteps store := by
  unfold steps
  split
  · exact List.prefix_rfl
  · exact List.take_prefix _ _

theorem leaves_cases (attempt : Attempt) (store : IdempotencyStore) :
    attempt.leaves store = store ∨ ∃ res, attempt.Made store res ∧
      put attempt.key res ∈ attempt.steps store ∧
      attempt.leaves store = store.put attempt.key res := by
  have leaves : attempt.leaves store = store.putAll ((attempt.steps store).filterMap put?) :=
    after_all_idempotency _ _ _
  have early : (attempt.steps store).filterMap put? <+: (attempt.callSteps store).filterMap put? :=
    (attempt.steps_initial store).filterMap _
  rcases puts_cases attempt store with none_ | ⟨res, one, made⟩
  · rw [none_, List.prefix_nil] at early
    exact Or.inl (by rw [leaves, early]; rfl)
  · rw [one] at early
    cases took : (attempt.steps store).filterMap put? with
    | nil => exact Or.inl (by rw [leaves, took]; rfl)
    | cons entry rest =>
      rw [took, List.cons_prefix_cons, List.prefix_nil] at early
      obtain ⟨rfl, rfl⟩ := early
      refine Or.inr ⟨res, made, mem_put?.mp ?_, by rw [leaves, took]; rfl⟩
      simp [took]

theorem leaves_of_returned {res : InvocationResult}
    (ret : attempt.returned? store = some res) :
    attempt.leaves store = store.putAll ((attempt.callSteps store).filterMap put?) := by
  rw [← (steps_of_returned ret).1]
  exact after_all_idempotency _ _ _

theorem get_leaves {key : String} {stored : InvocationResult}
    (found : store.get key = some stored) : (attempt.leaves store).get key = some stored := by
  rcases leaves_cases attempt store with same | ⟨res, made, stored, put⟩
  · rw [same, found]
  · rw [put, IdempotencyStore.get_put store attempt.key key res made.terminal, found]
    rfl

end Attempt

variable {key : String}

open Attempt

theorem get_store_after {stored : InvocationResult} (attempts : List Attempt)
    (store : IdempotencyStore) (found : store.get key = some stored) :
    (storeAfter attempts store).get key = some stored := by
  induction attempts generalizing store with
  | nil => exact found
  | cons attempt rest ih => exact ih _ (get_leaves found)

theorem store_after_append (first second : List Attempt) (store : IdempotencyStore) :
    storeAfter (first ++ second) store = storeAfter second (storeAfter first store) :=
  List.foldl_append

namespace Attempt

variable {attempt : Attempt} {store : IdempotencyStore}

/-- The call was entered and not cancelled, its input was valid and it was
authorised. -/
def Admitted (attempt : Attempt) (store : IdempotencyStore) : Prop :=
  ∃ entry entered, attempt.runtime.enter attempt.world attempt.call (attempt.session store) =
      .ok entry entered ∧
    (attempt.world.cancellation entered.trace.length).cancelled = false ∧
    attempt.runtime.validateInput (requestOf attempt.call entry entered.context)
      entry.contract = .ok () ∧
    ∃ allowed, attempt.world.authorize entered.trace.length
      (requestOf attempt.call entry entered.context) entry.contract = .ok allowed

theorem admitted_of_open {contract : CapabilityContract} (store : IdempotencyStore)
    (movable : attempt.context.status.isTerminal = false)
    (unfenced : attempt.runtime.fencing = false)
    (registered : attempt.runtime.registry.get attempt.call.capabilityId
      attempt.call.version = .ok contract)
    (live : ∀ moment, (attempt.world.cancellation moment).cancelled = false)
    (valid : ∀ req, attempt.runtime.validateInput req contract = .ok ())
    (authorised : ∀ moment req, ∃ allowed,
      attempt.world.authorize moment req contract = .ok allowed) :
    attempt.Admitted store := by
  have entrance := @enter_ends attempt.runtime attempt.world (fun _ _ => False) attempt.call
    (attempt.session store) (fun entry _ => entry.contract = contract)
    (fun entry entered _ => Except.ok.inj (entered.registered.symm.trans registered))
    (fun terminal _ => by
      have ended : attempt.context.status.isTerminal = true := terminal
      simp [movable] at ended)
    (fun lost _ => absurd (fun fenced => by simp [unfenced] at fenced) lost)
    (fun err _ missing => by simp [registered] at missing)
  unfold Ends at entrance
  cases enters : attempt.runtime.enter attempt.world attempt.call (attempt.session store) with
  | error err after =>
    rw [enters] at entrance
    exact absurd entrance id
  | ok entry entered =>
    rw [enters] at entrance
    have same : entry.contract = contract := entrance
    refine ⟨entry, entered, enters, live _, ?_, ?_⟩
    · rw [same]
      exact valid _
    · rw [same]
      exact authorised _ _

theorem ends_of_admitted (admitted : attempt.Admitted store) :
    (∀ stored, store.get attempt.key = some stored → attempt.outcome store = .ok stored) ∧
    (store.get attempt.key = none → ∃ entry entered,
      entered.view = (attempt.session store).view.movedTo .planValidated ∧
      attempt.runtime.execute attempt.world attempt.call (attempt.session store) =
      attempt.runtime.runCapability attempt.world attempt.call entry entered) := by
  obtain ⟨entry, entered, enters, live, valid, allowed, authorised⟩ := admitted
  obtain ⟨registered, viewed⟩ := enter_view enters
  have kept : entered.durable.idempotency = store := congrArg View.idempotency viewed
  have key : entry.key = attempt.key := entered_key registered
  have runs : attempt.runtime.execute attempt.world attempt.call (attempt.session store) =
      attempt.runtime.proceed attempt.world attempt.call entry entered := bind_of_ok enters
  constructor
  · intro stored hit
    rw [← kept, ← key] at hit
    have found := proceed_hit live valid authorised hit
    simp only [outcome, Command.outcome, runs] at found ⊢
    exact found
  · intro miss
    rw [← kept, ← key] at miss
    exact ⟨entry, entered, viewed, runs.trans (proceed_miss live valid authorised miss)⟩

/-- The capability of the call returned `made`, and the call reports it. -/
structure OwnResult (attempt : Attempt) (store : IdempotencyStore)
    (made res : InvocationResult) : Prop where
  invoked : ∃ step ∈ attempt.callSteps store, attempt.Produced made step
  reports : ∃ seen, res = reported attempt.runtime.recovery seen made
  missing : store.get attempt.key = none
  puts : (attempt.callSteps store).filterMap put? =
    if made.isTerminal then [(attempt.key, made)] else []

namespace OwnResult

variable {made res : InvocationResult} (own : attempt.OwnResult store made res)

include own

theorem is_terminal : made.isTerminal = res.isTerminal := by
  obtain ⟨seen, rfl⟩ := own.reports
  simp [isTerminal]

theorem same (terminal : made.isTerminal = true) : res = made := by
  obtain ⟨seen, rfl⟩ := own.reports
  exact (unreported _ seen made (not_failed_of_terminal terminal)).1

end OwnResult

def Records (attempt : Attempt) (store : IdempotencyStore) (kind : EventType) : Prop :=
  ∃ callId, ∃ step ∈ attempt.callSteps store, step.records kind callId

variable {out : Except PyError InvocationResult}

theorem concluded_result {res ret : InvocationResult} {inTheWay : Prop}
    {last after : View} (concludes : Concludes res inTheWay last out after)
    (ok : .ok ret = out) : ret = res := by
  rcases concludes with ⟨rfl, _⟩ | ⟨_, ⟨err, rfl⟩, _⟩
  · exact Except.ok.inj ok
  · simp at ok

theorem concluded_marked {res ret : InvocationResult} {inTheWay : Prop}
    {last after : View} {kind : EventType} {callId : String}
    (concludes : Concludes res inTheWay (last.marked (.event kind callId))
      out after)
    (ok : .ok ret = out) :
    ret = res ∧ .event kind callId ∈ after.story := by
  refine ⟨concluded_result concludes ok, ?_⟩
  simp [concludes_story concludes]

theorem own_of_settles {rt : ExecutionRuntime} {world : World} {call : Call} {entry : Entry}
    {seen after : View} {made res : InvocationResult}
    (settles : Settles rt world call entry seen made out after)
    (ok : .ok res = out) :
    res = reported rt.recovery seen made ∧
      after.story = seen.story ++ [.event .capabilityCompleted entry.invocationId] ++
      if made.isTerminal then [.stored entry.key made] else [] := by
  cases settles with
  | routed same movable => exact ⟨Except.ok.inj ok, by simp⟩
  | _ => simp at ok

theorem returned_cases {res : InvocationResult}
    (ret : attempt.returned? store = some res) :
    (store.get attempt.key = some res ∧ (attempt.callSteps store).filterMap put? = []) ∨
    (res.status = .cancelled ∧ attempt.Records store .cancelled) ∨
    (res.status = .failed ∧ attempt.Records store .failure ∧
      store.get attempt.key = none ∧ (attempt.callSteps store).filterMap put? = []) ∨
    ∃ made, attempt.OwnResult store made res := by
  have conduct := attempt.conduct store
  rw [(steps_of_returned ret).2] at conduct
  have blank : (attempt.session store).view.story = [] := rfl
  have invokes : ∀ version req reply,
      .invoked version req reply ∈ (attempt.after store).view.story →
        invoke version req reply ∈ attempt.callSteps store :=
    fun _ _ _ told => invoke_mem_story.mpr told
  have records : ∀ kind callId, kind.isMarked = true →
      .event kind callId ∈ (attempt.after store).view.story →
        attempt.Records store kind :=
    fun kind callId marked told => ⟨callId, (exists_records_iff marked
      callId (attempt.after store).view (attempt.callSteps store) rfl).mpr told⟩
  have puts := puts_of_story (attempt.after store).view (attempt.callSteps store) rfl
  generalize (attempt.after store).view = after at conduct invokes records puts
  generalize out : Except.ok res = ended at conduct
  cases conduct with
  | terminal | unfenced | unregistered => simp at out
  | cancelled _ _ entry msg entered movable cancels concludes =>
    obtain ⟨rfl, told⟩ := concluded_marked concludes out
    exact Or.inr (Or.inl ⟨rfl, records .cancelled entry.invocationId rfl told⟩)
  | invalid err entry req entered movable made rejected => simp at out
  | unauthorized err entry req moment _ entered movable made rejected leaves =>
    simp at out
  | replayed cached entry entered movable hit =>
    rw [Except.ok.injEq] at out
    subst out
    rw [entered_key entered] at hit
    exact Or.inl ⟨hit, by simp [puts, blank, stored?]⟩
  | unstarted err entry entered movable miss obstructed => simp at out
  | ran _ _ entry entered movable miss runs =>
    cases runs with
    | cancelled msg cancels concludes
    | interrupted msg req reply answers interrupts concludes =>
      obtain ⟨rfl, told⟩ := concluded_marked concludes out
      exact Or.inr (Or.inl ⟨rfl, records .cancelled entry.invocationId rfl told⟩)
    | failed err req reply answers raises concludes =>
      obtain ⟨rfl, told⟩ := concluded_marked concludes out
      have recorded := records .failure entry.invocationId rfl told
      refine Or.inr (Or.inr (Or.inl ⟨rfl, recorded, ?_, ?_⟩))
      · rw [← entered_key entered]
        exact miss
      · simp [puts, concludes_story concludes, blank, stored?]
    | returned made req reply answers returns live settles =>
      refine Or.inr (Or.inr (Or.inr ⟨made, ?_⟩))
      have invoked := invokes attempt.call.version req reply (by
        rcases settles_story settles with told | told | ⟨_, told⟩ <;> simp [told])
      have own := own_of_settles settles out
      obtain ⟨⟨ctx, standing, rfl⟩, _⟩ := answers
      refine ⟨⟨_, invoked, invokes_for_own standing, returns⟩, ⟨_, own.1⟩, ?_, ?_⟩
      · rw [← entered_key entered]
        exact miss
      · rw [puts, own.2, ← entered_key entered]
        cases made.isTerminal <;>
          simp only [story_invoked, story_started, blank] <;> rfl

/-- The result is one that the capability itself returned and that is kept. -/
def Final (attempt : Attempt) (store : IdempotencyStore) (res : InvocationResult) : Prop :=
  res.status = .succeeded ∨ res.status = .cancelled ∧ ¬attempt.Records store .cancelled

theorem stored_of_returned {res : InvocationResult}
    (ret : attempt.returned? store = some res) (final : attempt.Final store res) :
    ∃ stored, (attempt.leaves store).get attempt.key = some stored ∧
      stored.sorted = res.sorted := by
  have leaves := leaves_of_returned ret
  obtain ⟨hit, silent⟩ | ⟨cancelled, recorded⟩ | ⟨failed, _⟩ | ⟨made, own⟩ :=
    returned_cases ret
  · exact ⟨res, by rw [leaves, silent]; exact hit, rfl⟩
  · rcases final with succeeded | ⟨_, unrecorded⟩
    · simp [cancelled] at succeeded
    · exact absurd recorded unrecorded
  · rcases final with succeeded | ⟨cancelled, _⟩
    · simp [failed] at succeeded
    · simp [failed] at cancelled
  · have terminal : made.isTerminal = true := by
      rw [own.is_terminal, isTerminal]
      rcases final with succeeded | ⟨cancelled, _⟩
      · simp [succeeded]
      · simp [cancelled]
    obtain rfl := own.same terminal
    refine ⟨store.kept res, ?_, ?_⟩
    · rw [leaves, own.puts]
      simp [IdempotencyStore.putAll, IdempotencyStore.get_put _ _ _ _ terminal, own.missing,
        terminal]
    · exact store.kept_sorted res

theorem silent_of_stored {stored : InvocationResult}
    (found : store.get attempt.key = some stored) (version : String)
    (req : InvocationRequest) (reply : Reply) :
    invoke version req reply ∉ attempt.callSteps store := by
  intro invoked
  rw [invoke_mem_story] at invoked
  have blank : (attempt.session store).view.story = [] := rfl
  obtain ⟨entry, entered, miss, _⟩ := runs_of_invoked (attempt.conduct store) blank invoked
  have empty : store.get entry.key = none := miss
  rw [entered_key entered, found] at empty
  simp at empty

/-- Nothing keeps an admitted call from running its capability: the token stays
uncancelled, the lease stays current and checkpoints can be written. -/
structure Unhindered (attempt : Attempt) (store : IdempotencyStore) : Prop where
  uncancelled : ∀ moment, (attempt.world.cancellation moment).cancelled = false
  fence : FenceHolds attempt.runtime attempt.world attempt.call.workerLease
  storable : (attempt.session store).view.Storable

theorem invokes_of_missing (admitted : attempt.Admitted store)
    (unhindered : attempt.Unhindered store) (miss : store.get attempt.key = none) :
    ∃ version req reply, invoke version req reply ∈ attempt.callSteps store := by
  obtain ⟨entry, entered, viewed, runs⟩ := (ends_of_admitted admitted).2 miss
  have movable : entered.view.standing.status.isTerminal = false := by rw [viewed]; rfl
  have ends := Ends.outcome (fun out (after : Session) =>
      Runs attempt.runtime attempt.world attempt.call entry (startedView entry entered.view)
        out after.view ∨
      Obstructed attempt.runtime attempt.world attempt.call.workerLease entered.view)
    ((run_capability_runs entry entered.view movable entered rfl).mono
      (fun _ _ ran => Or.inl ran) (fun _ _ ended => ended.imp_right And.left))
  have last : (attempt.runtime.runCapability attempt.world attempt.call entry).stateAfter
      entered = attempt.after store := by
    simp only [after, stateAfter, runs]
  rw [last] at ends
  rcases ends with ran | lost | stuck
  · obtain ⟨req, reply, rest, _, told⟩ := runs_story ran (not_cancels unhindered.uncancelled)
    exact ⟨attempt.call.version, req, reply, invoke_mem_story.mpr (by simp [told])⟩
  · exact absurd unhindered.fence lost
  · refine absurd ?_ stuck
    rw [viewed]
    exact unhindered.storable

end Attempt

def KeepsNothing (key : String) : List Attempt → IdempotencyStore → Prop
  | [], _ => True
  | attempt :: rest, store =>
    (∀ res, put key res ∉ attempt.steps store) ∧ KeepsNothing key rest (attempt.leaves store)

/-- Every stored result is one that is kept for replay. -/
def IdempotencyStore.OnlyTerminal (store : IdempotencyStore) : Prop :=
  ∀ key res, store.get key = some res → res.isTerminal = true

variable {store : IdempotencyStore}

theorem only_terminal_leaves (only : store.OnlyTerminal) (attempt : Attempt) :
    (attempt.leaves store).OnlyTerminal := by
  rcases attempt.leaves_cases store with same | ⟨res, made, stored, put⟩
  · rw [same]
    exact only
  · intro key stored found
    rw [put, IdempotencyStore.get_put store attempt.key key res made.terminal,
      Option.or_eq_some_iff] at found
    rcases found with old | ⟨_, new⟩
    · exact only key stored old
    · split_ifs at new
      rw [← Option.some.inj new, isTerminal, IdempotencyStore.kept_status]
      exact made.terminal

theorem only_terminal_store_after (only : store.OnlyTerminal) (attempts : List Attempt) :
    (storeAfter attempts store).OnlyTerminal := by
  induction attempts generalizing store with
  | nil => exact only
  | cons attempt rest ih => exact ih (only_terminal_leaves only attempt)

theorem get_leaves_of_unstored {attempt : Attempt} (missing : store.get key = none)
    (unstored : ∀ res, put key res ∉ attempt.steps store) :
    (attempt.leaves store).get key = none := by
  rcases attempt.leaves_cases store with same | ⟨res, made, stored, put⟩
  · rw [same, missing]
  · rw [put, IdempotencyStore.get_put store attempt.key key res made.terminal, missing]
    split_ifs with same
    · exact absurd stored (same ▸ unstored res)
    · rfl

theorem get_of_keeps_nothing (attempts : List Attempt)
    (store : IdempotencyStore) (missing : store.get key = none)
    (nothing : KeepsNothing key attempts store) :
    (storeAfter attempts store).get key = none := by
  induction attempts generalizing store with
  | nil => exact missing
  | cons attempt rest ih =>
    exact ih _ (get_leaves_of_unstored missing nothing.1) nothing.2

theorem missing_of_returned {attempt : Attempt} {res : InvocationResult}
    (only : store.OnlyTerminal) (ret : attempt.returned? store = some res)
    (open_ : res.isTerminal = false) : (attempt.leaves store).get attempt.key = none := by
  rw [leaves_of_returned ret]
  obtain ⟨hit, _⟩ | ⟨cancelled, _⟩ | ⟨_, _, missing, silent⟩ | ⟨made, own⟩ :=
    returned_cases ret
  · simp [only _ _ hit] at open_
  · simp [isTerminal, cancelled] at open_
  · rw [silent]
    exact missing
  · rw [own.puts, own.is_terminal, open_]
    exact own.missing

/-- Calls one after another on one store of results, the first of which returned a
result.

A SUCCEEDED result, or one that the capability itself made CANCELLED, is kept: no
later call with the same key invokes its capability, and every later call that is
admitted returns the stored result. Only such results are ever stored, and after any
other result the next call that is admitted and unhindered invokes its capability
again. -/
theorem at_most_once_per_key (past : List Attempt) (store : IdempotencyStore)
    (only : store.OnlyTerminal) (attempt : Attempt) (res : InvocationResult)
    (ret : attempt.returned? (storeAfter past store) = some res) :
    (attempt.Final (storeAfter past store) res →
      ∃ stored : InvocationResult, stored.sorted = res.sorted ∧
      ∀ (between : List Attempt) (later : Attempt), later.key = attempt.key →
      let now := storeAfter (past ++ attempt :: between) store
      (∀ version req reply,
      invoke version req reply ∉ later.callSteps now) ∧
      (later.Admitted now → later.outcome now = .ok stored)) ∧
    (∀ key kept, put key kept ∈ attempt.callSteps (storeAfter past store) →
      kept.status = .succeeded ∨ kept.status = .cancelled) ∧
    (res.status ≠ .succeeded → res.status ≠ .cancelled →
      ∀ (between : List Attempt) (later : Attempt), later.key = attempt.key →
      KeepsNothing attempt.key between (storeAfter (past ++ [attempt]) store) →
      let now := storeAfter (past ++ attempt :: between) store
      later.Admitted now → later.Unhindered now →
      ∃ version req reply,
      invoke version req reply ∈ later.callSteps now) := by
  have onward : ∀ between, storeAfter (past ++ attempt :: between) store =
      storeAfter between (attempt.leaves (storeAfter past store)) := by
    intro between
    rw [store_after_append]
    rfl
  refine ⟨?_, ?_, ?_⟩
  · intro final
    obtain ⟨stored, found, same⟩ := stored_of_returned ret final
    refine ⟨stored, same, ?_⟩
    intro between later sameKey now
    have still : now.get later.key = some stored := by
      rw [sameKey]
      simp only [now, onward]
      exact get_store_after between _ found
    exact ⟨silent_of_stored still, fun admitted => (ends_of_admitted admitted).1 stored still⟩
  · intro key kept put
    have made := (made_of_put (mem_put?.mpr put)).2
    simpa [isTerminal] using made.terminal
  · intro unsucceeded live between later sameKey nothing now admitted unhindered
    have open_ : res.isTerminal = false := by
      simp [isTerminal, unsucceeded, live]
    have missing := missing_of_returned (only_terminal_store_after only past) ret open_
    apply invokes_of_missing admitted unhindered
    rw [sameKey]
    simp only [now, onward]
    rw [store_after_append] at nothing
    exact get_of_keeps_nothing between _ missing nothing

def publishing (tenant : String) : Attempt :=
  { runtime := .permissive [{ capabilityId := "publish", version := "1.0.0" }]
    world := .ending fun req => .returned {
      invocationId := req.invocationId, capabilityId := req.capabilityId
      status := .succeeded, output := .str req.execution.identity.tenantId }
    context := .fresh ⟨1⟩ tenant
    checkpoints := .sqlite []
    call := { capabilityId := "publish", version := "1.0.0", inputData := []
              invocationId := some "publish-1", idempotencyKey := some "post-1" } }

def published (tenant : String) : InvocationResult :=
  { invocationId := "publish-1", capabilityId := "publish", status := .succeeded
    output := .str tenant }

theorem publishing_admitted (tenant : String) (store : IdempotencyStore) :
    (publishing tenant).Admitted store :=
  admitted_of_open store rfl rfl rfl (fun _ => rfl) (fun _ => rfl) (fun _ _ => ⟨true, rfl⟩)

/-- The second call gets what the first one stored. -/
theorem published_once :
    (publishing "acme").returned? (.sqlite {}) = some (published "acme") ∧
      ∃ stored : InvocationResult, stored.sorted = (published "acme").sorted ∧
      (publishing "acme").outcome (storeAfter [publishing "acme"] (.sqlite {})) =
      .ok stored := by
  have ret : (publishing "acme").returned? (.sqlite {}) = some (published "acme") := by
    decide +kernel
  obtain ⟨stored, same, kept⟩ := (at_most_once_per_key [] (.sqlite {})
    (fun key res found => by simp [IdempotencyStore.get] at found) (publishing "acme")
    (published "acme") ret).1 (Or.inl rfl)
  exact ⟨ret, stored, same, (kept [] (publishing "acme") rfl).2 (publishing_admitted "acme" _)⟩

/-- The steps that took effect in attempts made one after another. -/
def stepsOfAll : List Attempt → IdempotencyStore → List Step
  | [], _ => []
  | attempt :: rest, store => attempt.steps store ++ stepsOfAll rest (attempt.leaves store)

theorem steps_of_all_append (first second : List Attempt) (store : IdempotencyStore) :
    stepsOfAll (first ++ second) store =
      stepsOfAll first store ++ stepsOfAll second (storeAfter first store) := by
  induction first generalizing store with
  | nil => rfl
  | cons attempt rest ih =>
    simp only [List.cons_append, stepsOfAll, ih, List.append_assoc]
    rfl

theorem stored_was_produced (attempts : List Attempt) (store : IdempotencyStore)
    (empty : ∀ key, store.get key = none) {key : String} {stored : InvocationResult}
    (found : (storeAfter attempts store).get key = some stored) :
    ∃ maker ∈ attempts, maker.key = key ∧ ∃ step ∈ stepsOfAll attempts store,
      ∃ made : InvocationResult, maker.Produced made step ∧ made.sorted = stored.sorted := by
  induction attempts using List.reverseRecOn with
  | nil =>
    rw [show storeAfter [] store = store from rfl, empty] at found
    simp at found
  | append_singleton attempts last ih =>
    rw [store_after_append] at found
    rcases last.leaves_cases (storeAfter attempts store) with same | ⟨made, from_, put, leaves⟩
    · obtain ⟨maker, mem, sameKey, step, taken, produced⟩ := ih (same ▸ found)
      refine ⟨maker, List.mem_append_left _ mem, sameKey, step, ?_, produced⟩
      rw [steps_of_all_append]
      exact List.mem_append_left _ taken
    · have after : (last.leaves (storeAfter attempts store)).get key = some stored := found
      rw [leaves, IdempotencyStore.get_put _ _ _ _ from_.terminal, Option.or_eq_some_iff] at after
      rcases after with old | ⟨_, new⟩
      · obtain ⟨maker, mem, sameKey, step, taken, produced⟩ := ih old
        refine ⟨maker, List.mem_append_left _ mem, sameKey, step, ?_, produced⟩
        rw [steps_of_all_append]
        exact List.mem_append_left _ taken
      · split_ifs at new with sameKey
        obtain ⟨step, produced, taken⟩ := from_.invoked
        refine ⟨last, by simp, sameKey.symm, step, ?_, made, produced, ?_⟩
        · rw [steps_of_all_append, stepsOfAll]
          exact List.mem_append_right _ (List.mem_append_left _
            (taken _ (last.steps_initial _) put))
        · rw [← Option.some.inj new, IdempotencyStore.kept_sorted]

namespace Attempt

/-- The call reports its own cancellation or failure, or else the result was
returned by an invocation made for the tenant and the capability of the call. -/
def Isolated (attempt : Attempt) (before : List Step) (store : IdempotencyStore)
    (res : InvocationResult) : Prop :=
  attempt.Records store .cancelled ∨ attempt.Records store .failure ∨
    ∃ step ∈ before ++ attempt.callSteps store, ∃ made : InvocationResult,
      attempt.Produced made step ∧ (made.sorted = res.sorted ∨ ∃ seen,
          res = reported attempt.runtime.recovery seen made)

end Attempt

/-- As long as callers that share a key share the tenant and the capability too,
no call sees what was produced for another. -/
theorem replay_isolated_of_scoped_keys (past : List Attempt) (store : IdempotencyStore)
    (attempt : Attempt) (res : InvocationResult) (empty : ∀ key, store.get key = none)
    (keysScoped : ∀ other ∈ past, other.key = attempt.key →
      other.context.identity.tenantId = attempt.context.identity.tenantId ∧
      other.call.capabilityId = attempt.call.capabilityId)
    (ret : attempt.returned? (storeAfter past store) = some res) :
    attempt.Isolated (stepsOfAll past store) (storeAfter past store) res := by
  obtain ⟨hit, _⟩ | ⟨_, recorded⟩ | ⟨_, recorded, _⟩ | ⟨made, own⟩ :=
    returned_cases ret
  · obtain ⟨maker, mem, sameKey, step, taken, made, produced, same⟩ :=
      stored_was_produced past store empty hit
    obtain ⟨sameTenant, sameCapability⟩ := keysScoped maker mem sameKey
    refine Or.inr (Or.inr ⟨step, List.mem_append_left _ taken, made, ?_, Or.inl same⟩)
    unfold Attempt.Produced at produced ⊢
    rw [← sameTenant, ← sameCapability]
    exact produced
  · exact Or.inl recorded
  · exact Or.inr (Or.inl recorded)
  · obtain ⟨step, taken, produced⟩ := own.invoked
    exact Or.inr (Or.inr ⟨step, List.mem_append_right _ taken, made, produced, Or.inr own.reports⟩)

theorem own_publication_isolated :
    (publishing "acme").Isolated (stepsOfAll [publishing "acme"] (.sqlite {}))
      (storeAfter [publishing "acme"] (.sqlite {})) (published "acme") :=
  replay_isolated_of_scoped_keys [publishing "acme"] (.sqlite {}) (publishing "acme")
    (published "acme") (fun key => rfl) (by simp) (by decide +kernel)

/-- Two tenants that choose the same key: the second is given what the first
published. -/
theorem foreign_publication_replayed :
    (publishing "globex").returned? (storeAfter [publishing "acme"] (.sqlite {})) =
      some (published "acme") ∧
      ¬(publishing "globex").Isolated (stepsOfAll [publishing "acme"] (.sqlite {}))
      (storeAfter [publishing "acme"] (.sqlite {})) (published "acme") := by
  refine ⟨by decide +kernel, ?_⟩
  have steps : (publishing "globex").callSteps (storeAfter [publishing "acme"] (.sqlite {})) =
      [.record { executionId := ⟨1⟩, eventType := .idempotencyHit, data := (versionedData
        (publishing "globex").call "publish-1") }] := by
    decide +kernel
  have foreign : ∀ step ∈ stepsOfAll [publishing "acme"] (.sqlite {}) ++
      (publishing "globex").callSteps (storeAfter [publishing "acme"] (.sqlite {})),
      step.invokesFor "globex" "publish" = false := by
    decide +kernel
  rintro (⟨_, step, taken, recorded⟩ | ⟨_, step, taken, recorded⟩ |
    ⟨step, taken, made, produced, _⟩)
  · rw [steps, List.mem_singleton] at taken
    simp [taken, records] at recorded
  · rw [steps, List.mem_singleton] at taken
    simp [taken, records] at recorded
  · have own : step.invokesFor "globex" "publish" = true := produced.1
    simp [foreign step taken] at own

end Ois.Kernel
