import Ois.Library.Machine
import Ois.Production.LeaseProtocol
import Ois.ControlPlane.Lifecycle

/-!
# Runs of workers over a queue

Workers built by `OISProductionLifecycle.worker`, each with a name of its own, share a queue.
-/

namespace Ois.ControlPlane

open Ois.Library Ois.Kernel Ois.Production Dict

/-- A run of `run_once` that is under way: the item it has claimed, and what the handler
has met once it has run. -/
structure Flight where
  workId : String
  attempt : Nat
  payload : Members
  met : Option Circumstances := none

structure ItemAttempt where
  workId : String
  number : Nat
  deriving DecidableEq, Repr

def Flight.itemAttempt (flight : Flight) : ItemAttempt :=
  { workId := flight.workId, number := flight.attempt }

/-- `invocations` keeps how the kernel invocation of each attempt at an item ended. -/
structure Fleet where
  queue : LeaseQueue LifecycleResult
  flights : Dict String Flight := []
  invocations : Dict ItemAttempt (Except PyError InvocationResult) := []

inductive FleetCall where
  | enqueue (workId : String) (body : Members)
  | claim (worker : String) (expiredAt leasedAt : Int)
  | handle (worker : String) (met : Circumstances)
  | report (worker : String)
  | heartbeat (workId worker : String) (now : Int)
  | recoverExpired (now : Int)

namespace Fleet

variable (digits : UInt64 → String) (life : OISProductionLifecycle)

def enqueue (workId : String) (body : Members) (fleet : Fleet) : Fleet × Bool :=
  match fleet.queue.items.lookup workId with
  | some _ => (fleet, false)
  | none => ({ fleet with queue := fleet.queue.enqueue workId body }, true)

/-- `run_once` up to the handler. A claim that raises leaves the worker without a run. -/
def claim (worker : String) (expiredAt leasedAt : Int) (fleet : Fleet) : Fleet × Bool :=
  match fleet.flights.lookup worker with
  | some _ => (fleet, false)
  | none =>
    match fleet.queue.claim worker expiredAt leasedAt with
    | (queue, .ok (some (workId, item))) =>
      ({ fleet with
          queue := queue
          flights := fleet.flights.set worker
            { workId := workId, attempt := item.attempts, payload := item.payload } }, true)
    | (queue, _) => ({ fleet with queue := queue }, false)

def noted (attempt : ItemAttempt) (invocation : Option (Except PyError InvocationResult))
    (invocations : Dict ItemAttempt (Except PyError InvocationResult)) :
    Dict ItemAttempt (Except PyError InvocationResult) :=
  match invocation with
  | some out => invocations.set attempt out
  | none => invocations

def handle (worker : String) (met : Circumstances) (fleet : Fleet) : Fleet × Bool :=
  match fleet.flights.lookup worker with
  | none => (fleet, false)
  | some flight =>
    match flight.met with
    | some _ => (fleet, false)
    | none =>
      ({ fleet with
          flights := fleet.flights.set worker { flight with met := some met }
          invocations := noted flight.itemAttempt
            (ControlPlane.handle digits life met flight.payload).invocation
            fleet.invocations }, true)

/-- What `run_once` tells the queue: an exception of the handler fails the item, and
whatever the handler returns completes it. -/
def reported (worker : String) (flight : Flight) (out : Except PyError LifecycleResult)
    (queue : LeaseQueue LifecycleResult) : LeaseQueue LifecycleResult × Bool :=
  match out with
  | .ok value => queue.complete flight.workId worker value
  | .error err => queue.fail flight.workId worker err.message

/-- `run_once` after the handler. -/
def report (worker : String) (fleet : Fleet) : Fleet × Bool :=
  match fleet.flights.lookup worker with
  | none => (fleet, false)
  | some flight =>
    match flight.met with
    | none => (fleet, false)
    | some met =>
      let told := reported worker flight
        (ControlPlane.handle digits life met flight.payload).outcome fleet.queue
      ({ fleet with
          queue := told.1
          flights := fleet.flights.filter fun entry => entry.1 != worker }, told.2)

/-- The answer says whether the call did something. -/
def calls : Machine FleetCall Fleet Bool := fun call fleet =>
  match call with
  | .enqueue workId body => fleet.enqueue workId body
  | .claim worker expiredAt leasedAt => fleet.claim worker expiredAt leasedAt
  | .handle worker met => fleet.handle digits life worker met
  | .report worker => fleet.report digits life worker
  | .heartbeat workId worker now =>
    let told := fleet.queue.heartbeat workId worker now
    ({ fleet with queue := told.1 }, told.2 matches .ok true)
  | .recoverExpired now =>
    let told := fleet.queue.recoverExpired now
    ({ fleet with queue := told.1 }, told.2 != 0)

/-- A queue without work, and workers that do nothing. -/
def idle (leaseSeconds maxAttempts : Int) : Fleet :=
  { queue := { leaseSeconds := leaseSeconds, maxAttempts := maxAttempts } }

end Fleet

def Retried (queue : LeaseQueue LifecycleResult) (workId : String) (attempt : Nat) : Prop :=
  ∃ item, queue.items.lookup workId = some item ∧ attempt ≤ item.attempts ∧
    (attempt < item.attempts ∨
      item.status = .queued ∧ (item.attempts : Int) < queue.maxAttempts ∨
      item.status = .failed)

def Fleet.Flying (fleet : Fleet) (workId : String) (attempt : Nat) : Prop :=
  ∃ worker flight, fleet.flights.lookup worker = some flight ∧ flight.workId = workId ∧
    flight.attempt = attempt

/-- What the queue says of its items agrees with what the kernel said: the last attempt
at an item that SUCCEEDED had its kernel invocation return SUCCEEDED, and an attempt whose
invocation returned FAILED leads, once its run is over, to another attempt or to FAILED. -/
structure Fleet.Truthful (fleet : Fleet) : Prop where
  succeeded : ∀ workId item, fleet.queue.items.lookup workId = some item →
    item.status = .succeeded → ∃ res : InvocationResult,
      fleet.invocations.lookup ⟨workId, item.attempts⟩ = some (.ok res) ∧
        res.status = .succeeded
  failed : ∀ workId attempt (res : InvocationResult),
    fleet.invocations.lookup ⟨workId, attempt⟩ = some (.ok res) → res.status = .failed →
      fleet.Flying workId attempt ∨ Retried fleet.queue workId attempt

namespace Retried

variable {queue : LeaseQueue LifecycleResult} {workId : String} {attempt : Nat}

theorem enqueue (retried : Retried queue workId attempt) {other : String} {body : Members}
    (fresh : queue.items.lookup other = none) :
    Retried (queue.enqueue other body) workId attempt := by
  obtain ⟨item, found, cases_⟩ := retried
  refine ⟨item, ?_, cases_⟩
  have different : workId ≠ other := by
    rintro rfl
    simp [fresh] at found
  rw [queue.lookup_enqueue, if_neg different, found]

theorem expire (retried : Retried queue workId attempt) (now : Int) :
    Retried (queue.expireLocked now) workId attempt := by
  obtain ⟨item, found, early, cases_⟩ := retried
  refine ⟨queue.expired now item, ?_, ?_, ?_⟩
  · rw [queue.lookup_expire_locked, found, Option.map_some]
  · rw [queue.expired_attempts]
    exact early
  · rw [queue.expired_attempts]
    rcases queue.expired_cases now item with same | ⟨running, _⟩
    · rw [same]
      exact cases_
    · rcases cases_ with later | ⟨queued, _⟩ | failed
      · exact Or.inl later
      · simp [running] at queued
      · simp [running] at failed

theorem set_leased (retried : Retried queue workId attempt) {other worker : String}
    {item : WorkItem LifecycleResult} (now : Int)
    (found : queue.items.lookup other = some item) :
    Retried { queue with items := queue.items.set other (queue.leased worker now item) }
      workId attempt := by
  obtain ⟨kept, there, early, cases_⟩ := retried
  by_cases same : workId = other
  · subst same
    rw [found, Option.some.injEq] at there
    subst there
    have attempts : (queue.leased worker now item).attempts = item.attempts + 1 :=
      queue.prolonged_attempts now _
    refine ⟨queue.leased worker now item, ?_, ?_, Or.inl ?_⟩
    · simp only [lookup_set, if_true]
    · rw [attempts]
      exact early.trans (Nat.le_succ _)
    · rw [attempts]
      exact Nat.lt_succ_of_le early
  · refine ⟨kept, ?_, early, cases_⟩
    simp only [lookup_set, if_neg same]
    exact there

theorem set_running (retried : Retried queue workId attempt) {other : String}
    {item changed : WorkItem LifecycleResult} (found : queue.items.lookup other = some item)
    (running : item.status = .running) (attempts : changed.attempts = item.attempts) :
    Retried { queue with items := queue.items.set other changed } workId attempt := by
  obtain ⟨kept, there, early, cases_⟩ := retried
  by_cases same : workId = other
  · subst same
    rw [found, Option.some.injEq] at there
    subst there
    refine ⟨changed, ?_, ?_, Or.inl ?_⟩
    · simp only [lookup_set, if_true]
    · rw [attempts]
      exact early
    · rw [attempts]
      rcases cases_ with later | ⟨queued, _⟩ | failed
      · exact later
      · simp [running] at queued
      · simp [running] at failed
  · refine ⟨kept, ?_, early, cases_⟩
    simp only [lookup_set, if_neg same]
    exact there

theorem of_again {item : WorkItem LifecycleResult}
    (found : queue.items.lookup workId = some item)
    (status : item.status = queue.again item) : Retried queue workId item.attempts := by
  refine ⟨item, found, Nat.le_refl _, Or.inr ?_⟩
  unfold LeaseQueue.again at status
  split_ifs at status with left
  · exact Or.inl ⟨status, left⟩
  · exact Or.inr status

end Retried

def Holds (queue : LeaseQueue LifecycleResult) (worker : String) (flight : Flight) : Prop :=
  ∃ item, queue.items.lookup flight.workId = some item ∧ item.status = .running ∧
    item.workerId = some worker ∧ item.attempts = flight.attempt

variable {queue : LeaseQueue LifecycleResult}

theorem Holds.set_other {worker workId : String} {flight : Flight}
    (holds : Holds queue worker flight) (changed : WorkItem LifecycleResult)
    (different : flight.workId ≠ workId) :
    Holds { queue with items := queue.items.set workId changed } worker flight := by
  obtain ⟨item, found, held⟩ := holds
  refine ⟨item, ?_, held⟩
  simp only [lookup_set, if_neg different]
  exact found

theorem Holds.elsewhere {worker workId : String} {flight : Flight}
    {item : WorkItem LifecycleResult} (holds : Holds queue worker flight)
    (found : queue.items.lookup workId = some item) (idle : item.status ≠ .running) :
    flight.workId ≠ workId := by
  obtain ⟨own, there, running, _⟩ := holds
  intro same
  rw [same, found, Option.some.injEq] at there
  subst there
  exact idle running

theorem Holds.unshared {worker other workId : String} {flight : Flight}
    {item : WorkItem LifecycleResult} (holds : Holds queue other flight)
    (found : queue.items.lookup workId = some item) (named : item.workerId = some worker)
    (different : other ≠ worker) : flight.workId ≠ workId := by
  obtain ⟨own, there, _, ownName, _⟩ := holds
  intro same
  rw [same, found, Option.some.injEq] at there
  subst there
  rw [named, Option.some.injEq] at ownName
  exact different ownName.symm

/-- What holds between calls. -/
structure Fleet.Coherent (digits : UInt64 → String) (life : OISProductionLifecycle)
    (fleet : Fleet) : Prop where
  flying : ∀ worker flight, fleet.flights.lookup worker = some flight →
    Holds fleet.queue worker flight ∨ Retried fleet.queue flight.workId flight.attempt
  -- the holder of an item whose claim raised has no run of it
  running : ∀ workId item, fleet.queue.items.lookup workId = some item →
    item.status = .running → ∀ worker flight, item.workerId = some worker →
      fleet.flights.lookup worker = some flight → flight.workId = workId →
        flight.attempt = item.attempts
  separate : ∀ worker other flight otherFlight,
    fleet.flights.lookup worker = some flight →
      fleet.flights.lookup other = some otherFlight → flight.workId = otherFlight.workId →
        flight.attempt = otherFlight.attempt → worker = other
  answered : ∀ worker flight met out, fleet.flights.lookup worker = some flight →
    flight.met = some met →
      (ControlPlane.handle digits life met flight.payload).invocation = some out →
        fleet.invocations.lookup flight.itemAttempt = some out
  truthful : fleet.Truthful

namespace Fleet.Coherent

variable {digits : UInt64 → String} {life : OISProductionLifecycle} {fleet : Fleet}

variable {worker : String} {flight : Flight} {item : WorkItem LifecycleResult}
  {flights : Dict String Flight}

theorem leased_running (queue : LeaseQueue LifecycleResult) (worker : String) (now : Int)
    (item : WorkItem LifecycleResult) :
    (queue.leased worker now item).status = .running ∧
      (queue.leased worker now item).workerId = some worker ∧
      (queue.leased worker now item).attempts = item.attempts + 1 ∧
      (queue.leased worker now item).payload = item.payload := by
  simp [LeaseQueue.leased]

section

variable (coherent : fleet.Coherent digits life)

include coherent

theorem attempt_le
    (there : fleet.flights.lookup worker = some flight)
    (found : fleet.queue.items.lookup flight.workId = some item) :
    flight.attempt ≤ item.attempts := by
  rcases coherent.flying worker flight there with ⟨held, same, _, _, attempts⟩ |
    ⟨held, same, early, _⟩
  · rw [found, Option.some.injEq] at same
    rw [same, attempts]
  · rw [found, Option.some.injEq] at same
    rw [same]
    exact early

theorem attempt_lt_of_succeeded
    (there : fleet.flights.lookup worker = some flight)
    (found : fleet.queue.items.lookup flight.workId = some item)
    (succeeded : item.status = .succeeded) : flight.attempt < item.attempts := by
  rcases coherent.flying worker flight there with ⟨held, same, running, _⟩ |
    ⟨held, same, _, later | ⟨queued, _⟩ | failed⟩
  all_goals
    rw [found, Option.some.injEq] at same
    subst same
  · simp [succeeded] at running
  · exact later
  · simp [succeeded] at queued
  · simp [succeeded] at failed

theorem with_queue
    {queue : LeaseQueue LifecycleResult}
    (holds : ∀ worker flight, Holds fleet.queue worker flight →
      Holds queue worker flight ∨ Retried queue flight.workId flight.attempt)
    (retried : ∀ workId attempt, Retried fleet.queue workId attempt →
      Retried queue workId attempt)
    (before : ∀ workId item, queue.items.lookup workId = some item →
      item.status = .running ∨ item.status = .succeeded →
        ∃ old, fleet.queue.items.lookup workId = some old ∧ old.status = item.status ∧
          old.attempts = item.attempts ∧ old.workerId = item.workerId) :
    Coherent digits life { fleet with queue := queue } where
  flying worker flight there := by
    rcases coherent.flying worker flight there with held | past
    · exact holds worker flight held
    · exact Or.inr (retried _ _ past)
  running workId item found running worker flight named := by
    obtain ⟨old, there, status, attempts, same⟩ := before workId item found (Or.inl running)
    rw [← attempts]
    exact coherent.running workId old there (status.trans running) worker flight
      (same.trans named)
  separate := coherent.separate
  answered := coherent.answered
  truthful :=
    { succeeded := by
        intro workId item found succeeded
        obtain ⟨old, there, status, attempts, _⟩ := before workId item found (Or.inr succeeded)
        rw [← attempts]
        exact coherent.truthful.succeeded workId old there (status.trans succeeded)
      failed := by
        intro workId attempt res invoked failed
        rcases coherent.truthful.failed workId attempt res invoked failed with now | past
        · exact Or.inl now
        · exact Or.inr (retried _ _ past) }

theorem enqueue (workId : String)
    (body : Members) : Coherent digits life (fleet.enqueue workId body).1 := by
  unfold Fleet.enqueue
  cases fresh : fleet.queue.items.lookup workId with
  | some item => exact coherent
  | none =>
    apply coherent.with_queue
    · rintro worker flight ⟨item, found, held⟩
      have different : flight.workId ≠ workId := by
        intro same
        simp [same, fresh] at found
      refine Or.inl ⟨item, ?_, held⟩
      rw [LeaseQueue.lookup_enqueue, if_neg different, found]
    · exact fun _ _ past => past.enqueue fresh
    · intro other item found moved
      rw [LeaseQueue.lookup_enqueue] at found
      split_ifs at found with same
      · rw [Option.some.injEq] at found
        subst found
        simp at moved
      · exact ⟨item, found, rfl, rfl, rfl⟩

theorem expire (now : Int) :
    Coherent digits life { fleet with queue := fleet.queue.expireLocked now } := by
  apply coherent.with_queue
  · rintro worker flight ⟨item, found, running, named, attempts⟩
    have there : (fleet.queue.expireLocked now).items.lookup flight.workId =
        some (fleet.queue.expired now item) := by
      rw [LeaseQueue.lookup_expire_locked, found, Option.map_some]
    rcases fleet.queue.expired_cases now item with same | ⟨_, back⟩
    · rw [same] at there
      exact Or.inl ⟨item, there, running, named, attempts⟩
    · -- the lease has run out under the worker
      have sameAttempts := fleet.queue.expired_attempts now item
      have status : (fleet.queue.expired now item).status =
          (fleet.queue.expireLocked now).again (fleet.queue.expired now item) := by
        rw [back]
        unfold LeaseQueue.again
        rw [sameAttempts]
        rfl
      have past := Retried.of_again there status
      rw [sameAttempts, attempts] at past
      exact Or.inr past
  · exact fun _ _ past => past.expire now
  · intro workId item found moved
    rw [LeaseQueue.lookup_expire_locked, Option.map_eq_some_iff] at found
    obtain ⟨old, there, rfl⟩ := found
    rcases fleet.queue.expired_cases now old with same | ⟨_, back⟩
    · rw [same]
      exact ⟨old, there, rfl, rfl, rfl⟩
    · rw [back] at moved
      rcases fleet.queue.again_cases old with queued | failed
      · simp [queued] at moved
      · simp [failed] at moved

theorem heartbeat (workId worker : String)
    (now : Int) :
    Coherent digits life
      { fleet with queue := (fleet.queue.heartbeat workId worker now).1 } := by
  unfold LeaseQueue.heartbeat
  rcases fleet.queue.when_held_cases (fleet.queue.prolonged now) workId worker with
    ⟨_, same⟩ | ⟨item, held, changed⟩
  · rw [same]
    exact coherent
  · rw [changed]
    obtain ⟨found, running, named⟩ := fleet.queue.held_iff.mp held
    apply coherent.with_queue
    · intro other flight holds
      by_cases same : flight.workId = workId
      · obtain ⟨kept, there, held⟩ := holds
        rw [same, found, Option.some.injEq] at there
        subst there
        refine Or.inl ⟨fleet.queue.prolonged now item, ?_, by simpa using held⟩
        rw [lookup_set, if_pos same]
      · exact Or.inl (holds.set_other _ same)
    · exact fun _ _ past => past.set_running found running (by simp)
    · intro other kept there moved
      rw [lookup_set] at there
      split_ifs at there with same
      · rw [Option.some.injEq] at there
        subst there
        rw [same]
        exact ⟨item, found, by simp, by simp, by simp⟩
      · exact ⟨kept, there, rfl, rfl, rfl⟩

/-- `claim` marks an item as held by a worker without a run. -/
theorem mark {workId worker : String}
    (now : Int) (free : fleet.flights.lookup worker = none)
    (found : fleet.queue.items.lookup workId = some item) (queued : item.status = .queued) :
    Coherent digits life { fleet with
      queue := { fleet.queue with
        items := fleet.queue.items.set workId (fleet.queue.leased worker now item) } } := by
  obtain ⟨active, holder_, _⟩ := leased_running fleet.queue worker now item
  refine ⟨?_, ?_, coherent.separate, coherent.answered, ?_, ?_⟩
  · -- flying
    intro other flight there
    rcases coherent.flying other flight there with holds | past
    · exact Or.inl (holds.set_other _ (holds.elsewhere found (by simp [queued])))
    · exact Or.inr (past.set_leased now found)
  · -- running
    intro other kept there running holder flight named flies
    simp only [lookup_set] at there
    split_ifs at there with same
    · rw [Option.some.injEq] at there
      rw [← there, holder_, Option.some.injEq] at named
      rw [← named, free] at flies
      cases flies
    · exact coherent.running other kept there running holder flight named flies
  · -- succeeded
    intro other kept there succeeded
    simp only [lookup_set] at there
    split_ifs at there with same
    · rw [Option.some.injEq] at there
      rw [← there, active] at succeeded
      cases succeeded
    · exact coherent.truthful.succeeded other kept there succeeded
  · -- failed
    intro other attempt res invoked failed
    rcases coherent.truthful.failed other attempt res invoked failed with now | past
    · exact Or.inl now
    · exact Or.inr (past.set_leased _ found)

/-- A worker without a run starts the run of an item that it holds. -/
theorem take {workId worker : String} (free : fleet.flights.lookup worker = none)
    (found : fleet.queue.items.lookup workId = some item) (running : item.status = .running)
    (named : item.workerId = some worker)
    (new : ∀ other flight, fleet.flights.lookup other = some flight →
      flight.workId = workId → flight.attempt ≠ item.attempts) :
    Coherent digits life { fleet with
      flights := fleet.flights.set worker
        { workId := workId, attempt := item.attempts, payload := item.payload } } := by
  have others : ∀ other flight, fleet.flights.lookup other = some flight → other ≠ worker := by
    rintro other flight there rfl
    simp [free] at there
  refine ⟨?_, ?_, ?_, ?_, coherent.truthful.succeeded, ?_⟩
  · -- flying
    intro other flight there
    rw [lookup_set] at there
    split_ifs at there with same
    · cases there
      exact Or.inl ⟨item, found, running, by rw [same]; exact named, rfl⟩
    · exact coherent.flying other flight there
  · -- running
    intro other kept there active holder flight held flies at_
    rw [lookup_set] at flies
    split_ifs at flies with own
    · cases flies
      rw [← at_, found, Option.some.injEq] at there
      exact congrArg WorkItem.attempts there
    · exact coherent.running other kept there active holder flight held flies at_
  · -- separate
    intro left right leftFlight rightFlight atLeft atRight sameWork sameAttempt
    rw [lookup_set] at atLeft atRight
    split_ifs at atLeft atRight with first second third
    · rw [first, second]
    · cases atLeft
      exact absurd sameAttempt.symm (new right rightFlight atRight sameWork.symm)
    · cases atRight
      exact absurd sameAttempt (new left leftFlight atLeft sameWork)
    · exact coherent.separate left right leftFlight rightFlight atLeft atRight sameWork
        sameAttempt
  · -- answered
    intro other flight met out there met_ invoked
    rw [lookup_set] at there
    split_ifs at there with same
    · cases there
      simp at met_
    · exact coherent.answered other flight met out there met_ invoked
  · -- failed
    intro other attempt res invoked failed
    rcases coherent.truthful.failed other attempt res invoked failed with
      ⟨holder, flight, flies, at_⟩ | past
    · refine Or.inl ⟨holder, flight, ?_, at_⟩
      rw [lookup_set, if_neg (others holder flight flies)]
      exact flies
    · exact Or.inr past

theorem claim (worker : String)
    (expiredAt leasedAt : Int) :
    Coherent digits life (fleet.claim worker expiredAt leasedAt).1 := by
  unfold Fleet.claim
  cases free : fleet.flights.lookup worker with
  | some flight => exact coherent
  | none =>
    have cleared := coherent.expire expiredAt
    rcases fleet.queue.claim_cases worker expiredAt leasedAt with ⟨_, nothing⟩ |
      ⟨workId, item, _, found, queued, taken⟩
    · rw [nothing]
      exact cleared
    · have marked := cleared.mark leasedAt free found queued
      obtain ⟨active, named, attempts, body⟩ :=
        leased_running (fleet.queue.expireLocked expiredAt) worker leasedAt item
      rw [taken]
      cases fleet.queue.leaseEnd leasedAt with
      | error err => exact marked
      | ok moment =>
        refine marked.take free (by rw [lookup_set, if_pos rfl]) active named ?_
        intro other flight flies at_
        rw [attempts]
        exact Nat.ne_of_lt (Nat.lt_succ_of_le (cleared.attempt_le flies (at_ ▸ found)))

end

theorem lookup_met {worker other : String} {flight found : Flight} {met : Circumstances}
    (there : flights.lookup worker = some flight)
    (here : (flights.set worker { flight with met := some met }).lookup other = some found) :
    ∃ old, flights.lookup other = some old ∧ old.workId = found.workId ∧
      old.attempt = found.attempt := by
  rw [lookup_set] at here
  split_ifs at here with same
  · cases here
    exact ⟨flight, by rw [same]; exact there, rfl, rfl⟩
  · exact ⟨found, here, rfl, rfl⟩

theorem exists_met {worker other : String} {flight old : Flight} (met : Circumstances)
    (there : flights.lookup worker = some flight) (was : flights.lookup other = some old) :
    ∃ found, (flights.set worker { flight with met := some met }).lookup other = some found ∧
      found.workId = old.workId ∧ found.attempt = old.attempt := by
  rw [lookup_set]
  split_ifs with same
  · rw [same, there, Option.some.injEq] at was
    subst was
    exact ⟨_, rfl, rfl, rfl⟩
  · exact ⟨old, was, rfl, rfl⟩

theorem lookup_noted {attempt key : ItemAttempt}
    {invocation : Option (Except PyError InvocationResult)}
    {invocations : Dict ItemAttempt (Except PyError InvocationResult)}
    (different : key ≠ attempt) :
    (noted attempt invocation invocations).lookup key = invocations.lookup key := by
  unfold noted
  split
  · rw [lookup_set, if_neg different]
  · rfl

theorem item_attempt_eq_iff {workId : String} {attempt : Nat} :
    (⟨workId, attempt⟩ : ItemAttempt) = flight.itemAttempt ↔
      workId = flight.workId ∧ attempt = flight.attempt := by
  rw [Flight.itemAttempt, ItemAttempt.mk.injEq]

section

variable (coherent : fleet.Coherent digits life)

include coherent

theorem handled (met : Circumstances)
    (there : fleet.flights.lookup worker = some flight) :
    Coherent digits life { fleet with
      flights := fleet.flights.set worker { flight with met := some met }
      invocations := noted flight.itemAttempt
        (ControlPlane.handle digits life met flight.payload).invocation
        fleet.invocations } := by
  refine ⟨?_, ?_, ?_, ?_, ?_, ?_⟩
  · -- flying
    intro other found here
    obtain ⟨old, was, sameWork, sameAttempt⟩ := lookup_met there here
    have flying := coherent.flying other old was
    rw [← sameWork, ← sameAttempt]
    apply flying.imp_left
    rintro ⟨item, at_, running, named, attempts⟩
    exact ⟨item, by rw [← sameWork]; exact at_, running, named, attempts.trans sameAttempt⟩
  · -- running
    intro workId item found running holder later named here at_
    obtain ⟨old, was, sameWork, sameAttempt⟩ := lookup_met there here
    rw [← sameAttempt]
    exact coherent.running workId item found running holder old named was (sameWork.trans at_)
  · -- separate
    intro left right leftFlight rightFlight atLeft atRight sameWork sameAttempt
    obtain ⟨oldLeft, wasLeft, leftWork, leftAttempt⟩ := lookup_met there atLeft
    obtain ⟨oldRight, wasRight, rightWork, rightAttempt⟩ := lookup_met there atRight
    exact coherent.separate left right oldLeft oldRight wasLeft wasRight
      (leftWork.trans (sameWork.trans rightWork.symm))
      (leftAttempt.trans (sameAttempt.trans rightAttempt.symm))
  · -- answered
    intro other found circumstances out here met_ invoked
    rw [lookup_set] at here
    split_ifs at here with same
    · cases here
      cases met_
      show (noted flight.itemAttempt _ _).lookup flight.itemAttempt = some out
      rw [invoked]
      simp only [noted, lookup_set, if_true]
    · show (noted flight.itemAttempt _ _).lookup found.itemAttempt = some out
      rw [lookup_noted]
      · exact coherent.answered other found circumstances out here met_ invoked
      · intro equal
        obtain ⟨sameWork, sameAttempt⟩ := item_attempt_eq_iff.mp equal
        exact same (coherent.separate other worker found flight here there sameWork sameAttempt)
  · -- succeeded
    intro workId item found succeeded
    obtain ⟨res, invoked, status⟩ := coherent.truthful.succeeded workId item found succeeded
    refine ⟨res, ?_, status⟩
    show (noted flight.itemAttempt _ _).lookup _ = _
    rw [lookup_noted]
    · exact invoked
    · intro equal
      obtain ⟨sameWork, sameAttempt⟩ := item_attempt_eq_iff.mp equal
      have later := coherent.attempt_lt_of_succeeded there (sameWork ▸ found) succeeded
      omega
  · -- failed
    intro workId attempt res invoked failed
    by_cases own : (⟨workId, attempt⟩ : ItemAttempt) = flight.itemAttempt
    · obtain ⟨rfl, rfl⟩ := item_attempt_eq_iff.mp own
      obtain ⟨now, here, sameWork, sameAttempt⟩ := exists_met met there there
      exact Or.inl ⟨worker, now, here, sameWork, sameAttempt⟩
    · have before : fleet.invocations.lookup ⟨workId, attempt⟩ = some (.ok res) := by
        rw [← lookup_noted own]
        exact invoked
      apply (coherent.truthful.failed workId attempt res before failed).imp_left
      rintro ⟨holder, old, was, rfl, rfl⟩
      obtain ⟨now, here, sameWork, sameAttempt⟩ := exists_met met there was
      exact ⟨holder, now, here, sameWork, sameAttempt⟩

theorem handle (worker : String)
    (met : Circumstances) :
    Coherent digits life (fleet.handle digits life worker met).1 := by
  unfold Fleet.handle
  split
  · exact coherent
  · rename_i flight there
    split
    · exact coherent
    · exact coherent.handled met there

omit coherent in
theorem lookup_over {worker other : String} {found : Flight} :
    (flights.filter fun entry => entry.1 != worker).lookup other = some found ↔
      other ≠ worker ∧ flights.lookup other = some found := by
  rw [lookup_without]
  split_ifs with same
  · simp [same]
  · simp [same]

theorem landed
    {queue : LeaseQueue LifecycleResult} (there : fleet.flights.lookup worker = some flight)
    (holds : ∀ other found, other ≠ worker → Holds fleet.queue other found →
      Holds queue other found)
    (retried : ∀ workId attempt, Retried fleet.queue workId attempt →
      Retried queue workId attempt)
    (running : ∀ workId item, queue.items.lookup workId = some item →
      item.status = .running → fleet.queue.items.lookup workId = some item)
    (succeeded : ∀ workId item, queue.items.lookup workId = some item →
      item.status = .succeeded → ∃ res : InvocationResult,
        fleet.invocations.lookup ⟨workId, item.attempts⟩ = some (.ok res) ∧
          res.status = .succeeded)
    (failed : ∀ res : InvocationResult,
      fleet.invocations.lookup flight.itemAttempt = some (.ok res) →
        res.status = .failed → Retried queue flight.workId flight.attempt) :
    Coherent digits life { fleet with
      queue := queue
      flights := fleet.flights.filter fun entry => entry.1 != worker } where
  flying other found here := by
    obtain ⟨different, was⟩ := lookup_over.mp here
    rcases coherent.flying other found was with held | past
    · exact Or.inl (holds other found different held)
    · exact Or.inr (retried _ _ past)
  running workId item found active holder old named here :=
    coherent.running workId item (running workId item found active) active holder old named
      (lookup_over.mp here).2
  separate left right leftFlight rightFlight atLeft atRight :=
    coherent.separate left right leftFlight rightFlight (lookup_over.mp atLeft).2
      (lookup_over.mp atRight).2
  answered other found met out here :=
    coherent.answered other found met out (lookup_over.mp here).2
  truthful :=
    { succeeded := succeeded
      failed := by
        intro workId attempt res invoked ended
        rcases coherent.truthful.failed workId attempt res invoked ended with
          ⟨holder, old, was, rfl, rfl⟩ | past
        · by_cases own : holder = worker
          · rw [own, there, Option.some.injEq] at was
            subst was
            exact Or.inr (failed res invoked ended)
          · exact Or.inl ⟨holder, old, lookup_over.mpr ⟨own, was⟩, rfl, rfl⟩
        · exact Or.inr (retried _ _ past) }

theorem dropped
    (there : fleet.flights.lookup worker = some flight)
    (lost : fleet.queue.held? flight.workId worker = none) :
    Coherent digits life { fleet with
      flights := fleet.flights.filter fun entry => entry.1 != worker } := by
  have unheld : ∀ item, fleet.queue.items.lookup flight.workId = some item →
      item.status = .running → item.workerId ≠ some worker := by
    intro item found running named
    have held := fleet.queue.held_iff.mpr ⟨found, running, named⟩
    simp [lost] at held
  have past : Retried fleet.queue flight.workId flight.attempt := by
    rcases coherent.flying worker flight there with ⟨item, found, running, named, _⟩ | past
    · exact absurd named (unheld item found running)
    · exact past
  apply coherent.landed there
  · exact fun _ _ _ held => held
  · exact fun _ _ retried => retried
  · exact fun _ _ found _ => found
  · exact coherent.truthful.succeeded
  · exact fun _ _ _ => past

theorem settled
    {item changed : WorkItem LifecycleResult}
    (there : fleet.flights.lookup worker = some flight)
    (held : fleet.queue.held? flight.workId worker = some item)
    (attempts : changed.attempts = item.attempts)
    (settles : changed.status = .succeeded ∧ (∃ res : InvocationResult,
        fleet.invocations.lookup flight.itemAttempt = some (.ok res) ∧
          res.status = .succeeded) ∨
      changed.status = fleet.queue.again changed) :
    Coherent digits life { fleet with
      queue := { fleet.queue with items := fleet.queue.items.set flight.workId changed }
      flights := fleet.flights.filter fun entry => entry.1 != worker } := by
  obtain ⟨found, running, named⟩ := fleet.queue.held_iff.mp held
  have n : flight.attempt = changed.attempts := by
    rw [attempts]
    exact coherent.running _ item found running worker flight named there rfl
  have finished : changed.status ≠ .running := by
    rcases settles with ⟨succeeded, _⟩ | back
    · simp [succeeded]
    · rcases fleet.queue.again_cases changed with queued | failed
      · simp [back, queued]
      · simp [back, failed]
  apply coherent.landed there
  · intro other old different holds
    exact holds.set_other changed (holds.unshared found named different)
  · exact fun _ _ retried => retried.set_running found running attempts
  · -- running
    intro workId own at_ active
    simp only [lookup_set] at at_
    split_ifs at at_ with same
    · cases at_
      exact absurd active finished
    · exact at_
  · -- succeeded
    intro workId own at_ succeeded
    simp only [lookup_set] at at_
    split_ifs at at_ with same
    · cases at_
      rcases settles with ⟨_, res, invoked, status⟩ | back
      · refine ⟨res, ?_, status⟩
        rw [Flight.itemAttempt, n, ← same] at invoked
        exact invoked
      · rcases fleet.queue.again_cases changed with queued | failed
        · simp [back, queued] at succeeded
        · simp [back, failed] at succeeded
    · exact coherent.truthful.succeeded workId own at_ succeeded
  · -- failed: had the item been completed, the kernel had succeeded
    intro res invoked failed
    rcases settles with ⟨_, other, sameInvocation, status⟩ | back
    · have equal := invoked.symm.trans sameInvocation
      rw [Option.some.injEq, Except.ok.injEq] at equal
      rw [equal, status] at failed
      simp at failed
    · have here : (fleet.queue.items.set flight.workId changed).lookup flight.workId =
          some changed := by
        rw [lookup_set, if_pos rfl]
      have past : Retried { fleet.queue with
          items := fleet.queue.items.set flight.workId changed } flight.workId
          changed.attempts := Retried.of_again here back
      rw [← n] at past
      exact past

theorem reported
    {out : Except PyError LifecycleResult}
    (there : fleet.flights.lookup worker = some flight)
    (done : ∀ value, out = .ok value →
      fleet.invocations.lookup flight.itemAttempt = some (.ok value.result))
    (succeeds : ∀ value item, out = .ok value →
      fleet.queue.held? flight.workId worker = some item → value.result.status = .succeeded) :
    Coherent digits life { fleet with
      queue := (Fleet.reported worker flight out fleet.queue).1
      flights := fleet.flights.filter fun entry => entry.1 != worker } := by
  cases held : fleet.queue.held? flight.workId worker with
  | none =>
    have same : (Fleet.reported worker flight out fleet.queue).1 = fleet.queue := by
      unfold Fleet.reported LeaseQueue.complete LeaseQueue.fail LeaseQueue.whenHeld
      cases out <;> simp only [held]
    rw [same]
    exact coherent.dropped there held
  | some item =>
    unfold Fleet.reported LeaseQueue.complete LeaseQueue.fail LeaseQueue.whenHeld
    rw [held]
    cases out with
    | ok value =>
      exact coherent.settled there held rfl
        (Or.inl ⟨rfl, value.result, done value rfl, succeeds value item rfl held⟩)
    | error err => exact coherent.settled there held rfl (Or.inr rfl)

end

end Fleet.Coherent

/-- Whenever a worker reports on an item that the queue still counts as its own, the kernel
met nothing that makes it return anything but a success. -/
def SoundReport (digits : UInt64 → String) (life : OISProductionLifecycle) :
    FleetCall → Fleet → Prop
  | .report worker, fleet => ∀ flight met call,
      fleet.flights.lookup worker = some flight → flight.met = some met →
        (fleet.queue.held? flight.workId worker).isSome = true →
          readPayload digits flight.payload = .ok call →
            life.resolve call.request = .ok () → life.Faultless met call
  | _, _ => True

namespace Fleet

variable {digits : UInt64 → String} {life : OISProductionLifecycle}

theorem coherent_report {fleet : Fleet} (coherent : fleet.Coherent digits life)
    {worker : String} (sound : SoundReport digits life (.report worker) fleet) :
    Coherent digits life (fleet.report digits life worker).1 := by
  unfold Fleet.report
  split
  · exact coherent
  · rename_i flight there
    split
    · exact coherent
    · rename_i met handled
      apply coherent.reported there
      · intro value ret
        exact coherent.answered worker flight met _ there handled
          (invocation_of_handled ret)
      · intro value item ret held
        obtain ⟨call, read, resolved, invoked⟩ :=
          invocation_of_handle (invocation_of_handled ret)
        have faultless := sound flight met call there handled (by simp [held]) read resolved
        exact OISProductionLifecycle.succeeded_of_faultless faultless invoked

theorem coherent_step (call : FleetCall) (fleet : Fleet)
    (sound : SoundReport digits life call fleet)
    (coherent : fleet.Coherent digits life) :
    Coherent digits life ((calls digits life).next call fleet) := by
  cases call with
  | enqueue workId body => exact coherent.enqueue workId body
  | claim worker expiredAt leasedAt => exact coherent.claim worker expiredAt leasedAt
  | handle worker met => exact coherent.handle worker met
  | report worker => exact coherent_report coherent sound
  | heartbeat workId worker now => exact coherent.heartbeat workId worker now
  | recoverExpired now => exact coherent.expire now

theorem coherent_idle (leaseSeconds maxAttempts : Int) :
    Coherent digits life (idle leaseSeconds maxAttempts) := by
  refine ⟨?_, ?_, ?_, ?_, ?_, ?_⟩ <;> intros <;> simp_all [idle]

end Fleet

/-- In a run whose reports are sound, the queue agrees with the kernel in every state. -/
theorem queue_agrees_with_kernel (digits : UInt64 → String)
    (life : OISProductionLifecycle) (leaseSeconds maxAttempts : Int)
    (calls : List FleetCall)
    (sound : (Fleet.calls digits life).Throughout (SoundReport digits life) calls
      (Fleet.idle leaseSeconds maxAttempts))
    (before after : List FleetCall) (split : calls = before ++ after) :
    ((Fleet.calls digits life).run before
      (Fleet.idle leaseSeconds maxAttempts)).Truthful := by
  rw [split] at sound
  have reached := Machine.run_keeps Fleet.coherent_step (Machine.throughout_append.mp sound).1
    (Fleet.coherent_idle leaseSeconds maxAttempts)
  exact reached.truthful

def publishLifecycle : OISProductionLifecycle :=
  { registry := ⟨[(("publish", "1.0.0"), { capabilityId := "publish", version := "1.0.0" })]⟩
    validateInput := fun _ _ => .ok ()
    validateOutput := fun _ _ => .ok ()
    sha256 := fun _ => "digest"
    resolve := fun _ => .ok () }

def ending (out : InvocationRequest → Outcome) : Circumstances :=
  { durable := { checkpoints := .inMemory [], idempotency := .inMemory [] }
    world := .ending out
    executionId := ⟨1⟩, createdAt := DateTime.epoch, updatedAt := DateTime.epoch
    invocationId := ⟨2⟩ }

def publishes (req : InvocationRequest) : Outcome :=
  .returned { invocationId := req.invocationId, capabilityId := "publish"
              status := .succeeded }

def oneItem (out : InvocationRequest → Outcome) : List FleetCall :=
  [.enqueue "w1" [("capability_id", .str "publish"), ("capability_version", .str "1.0.0")],
    .claim "worker-1" 0 0, .handle "worker-1" (ending out), .report "worker-1"]

theorem publishes_faultless (call : LifecycleCall) :
    publishLifecycle.Faultless (ending publishes) call where
  uncancelled _ := rfl
  stored res found := by
    simp [ending, IdempotencyStore.get] at found
  replies version req reply taken := by
    obtain ⟨moment, rfl⟩ := OISProductionLifecycle.reply_of_step taken
    exact ⟨rfl, _, rfl, Or.inl rfl⟩

theorem published_item_agrees :
    (((Fleet.calls (fun _ => "0.0") publishLifecycle).run (oneItem publishes)
        (Fleet.idle 30 3)).queue.items.lookup "w1").map (·.status) = some .succeeded ∧
      ((Fleet.calls (fun _ => "0.0") publishLifecycle).run (oneItem publishes)
        (Fleet.idle 30 3)).Truthful := by
  refine ⟨by decide +kernel, queue_agrees_with_kernel (fun _ => "0.0") publishLifecycle 30 3
    (oneItem publishes) ⟨trivial, trivial, trivial, ?_, trivial⟩ (oneItem publishes) [] rfl⟩
  intro flight met call there handled _ _ _
  cases there
  cases handled
  exact publishes_faultless call

/-- A capability that raises: the kernel returns FAILED, the handler returns that, and the
queue counts the item as done. -/
theorem failed_invocation_completes_item :
    (((Fleet.calls (fun _ => "0.0") publishLifecycle).run
        (oneItem fun _ => .raised ⟨.other "RuntimeError", "boom"⟩)
        (Fleet.idle 30 3)).queue.items.lookup "w1").map (·.status) = some .succeeded ∧
      ¬((Fleet.calls (fun _ => "0.0") publishLifecycle).run
        (oneItem fun _ => .raised ⟨.other "RuntimeError", "boom"⟩) (Fleet.idle 30 3)).Truthful := by
  have succeeded : (((Fleet.calls (fun _ => "0.0") publishLifecycle).run
      (oneItem fun _ => .raised ⟨.other "RuntimeError", "boom"⟩)
      (Fleet.idle 30 3)).queue.items.lookup "w1").map (fun item => (item.status, item.attempts)) =
        some (.succeeded, 1) := by decide +kernel
  have invoked : (((Fleet.calls (fun _ => "0.0") publishLifecycle).run
      (oneItem fun _ => .raised ⟨.other "RuntimeError", "boom"⟩)
      (Fleet.idle 30 3)).invocations.lookup ⟨"w1", 1⟩).map
        (fun out => out.toOption.map (·.status)) = some (some .failed) := by decide +kernel
  obtain ⟨item, found, standing⟩ := Option.map_eq_some_iff.mp succeeded
  rw [Prod.mk.injEq] at standing
  refine ⟨by rw [found, Option.map_some, standing.1], fun truthful => ?_⟩
  obtain ⟨res, ret, status⟩ := truthful.succeeded "w1" item found standing.1
  rw [standing.2] at ret
  rw [ret] at invoked
  simp [Except.toOption, status] at invoked

end Ois.ControlPlane
