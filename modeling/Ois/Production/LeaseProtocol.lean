import Ois.Library.Machine
import Ois.Kernel.PyValues

/-!
# The protocol of the lease queue

`LeaseQueue` of `workers.py`. Work is kept under its identifier in the order in which it came in;
every method runs under the lock of the queue, so whatever any number of workers do with the queue
is a list of calls, each with the clock readings that it takes. Moments are microseconds. `claim`
marks an item before it computes the end of the lease, and the sum may lie beyond the calendar.
-/

namespace Ois.Production

open Ois.Library Ois.Kernel Machine

inductive WorkStatus where
  | queued | running | succeeded | failed
  deriving DecidableEq, Repr

structure WorkItem (Result : Type) where
  payload : Members
  attempts : Nat := 0
  status : WorkStatus := .queued
  workerId : Option String := none
  leaseUntil : Option Int := none
  result : Option Result := none
  error : Option String := none
  deriving DecidableEq, Repr

structure LeaseQueue (Result : Type) where
  leaseSeconds : Int := 30
  maxAttempts : Int := 3
  items : Dict String (WorkItem Result) := []
  deriving DecidableEq, Repr

namespace LeaseQueue

variable {Result : Type} (queue : LeaseQueue Result)

def enqueue (workId : String) (body : Members) : LeaseQueue Result :=
  { queue with items := queue.items.set workId { payload := body } }

def again (item : WorkItem Result) : WorkStatus :=
  if (item.attempts : Int) < queue.maxAttempts then .queued else .failed

def lapsed (now : Int) (item : WorkItem Result) : Bool :=
  item.status == .running && (item.leaseUntil.map fun until_ => decide (until_ ≤ now)).getD false

def expired (now : Int) (item : WorkItem Result) : WorkItem Result :=
  if lapsed now item then
    { item with status := queue.again item, workerId := none, leaseUntil := none }
  else item

/-- `_expire_locked`, without the count that it returns. -/
def expireLocked (now : Int) : LeaseQueue Result :=
  { queue with items := queue.items.map fun entry => (entry.1, queue.expired now entry.2) }

/-- `recover_expired`: the count is the number of items it has moved. -/
def recoverExpired (now : Int) : LeaseQueue Result × Nat :=
  (queue.expireLocked now, queue.items.countP fun entry => lapsed now entry.2)

/-- `_now() + timedelta(seconds=self.lease_seconds)`. -/
def leaseEnd (now : Int) : Except PyError Int := plusSeconds now queue.leaseSeconds

/-- The assignment to `lease_until`, which is not made where the sum overflows. -/
def prolonged (now : Int) (item : WorkItem Result) : WorkItem Result :=
  match queue.leaseEnd now with
  | .ok leaseUntil => { item with leaseUntil := some leaseUntil }
  | .error _ => item

def claimable (item : WorkItem Result) : Bool :=
  item.status == .queued && decide ((item.attempts : Int) < queue.maxAttempts)

/-- The item as `claim` leaves it. -/
def leased (workerId : String) (now : Int) (item : WorkItem Result) : WorkItem Result :=
  queue.prolonged now { item with
    status := .running, workerId := some workerId, attempts := item.attempts + 1 }

/-- The first item that can be handed out. -/
def ready? : Option (String × WorkItem Result) := do
  let workId ← queue.items.keys.find? fun workId =>
    (queue.items.lookup workId).any queue.claimable
  let item ← queue.items.lookup workId
  return (workId, item)

/-- `claim`. The clock is read twice. -/
def claim (workerId : String) (expiredAt leasedAt : Int) :
    LeaseQueue Result × Except PyError (Option (String × WorkItem Result)) :=
  let cleared := queue.expireLocked expiredAt
  match cleared.ready? with
  | none => (cleared, .ok none)
  | some (workId, item) =>
    let leased := cleared.leased workerId leasedAt item
    ({ cleared with items := cleared.items.set workId leased },
      (cleared.leaseEnd leasedAt).map fun _ => some (workId, leased))

def held? (workId workerId : String) : Option (WorkItem Result) :=
  (queue.items.lookup workId).filter fun item =>
    item.status == .running && item.workerId == some workerId

/-- What `heartbeat`, `complete` and `fail` share: only the holder changes an item, and
the answer says whether it did. -/
def whenHeld (change : WorkItem Result → WorkItem Result) (workId workerId : String) :
    LeaseQueue Result × Bool :=
  match queue.held? workId workerId with
  | none => (queue, false)
  | some item => ({ queue with items := queue.items.set workId (change item) }, true)

/-- `heartbeat`, which may raise for the holder only. -/
def heartbeat (workId workerId : String) (now : Int) :
    LeaseQueue Result × Except PyError Bool :=
  let told := queue.whenHeld (queue.prolonged now) workId workerId
  (told.1, if told.2 then (queue.leaseEnd now).map fun _ => true else .ok false)

def complete (workId workerId : String) (res : Result) : LeaseQueue Result × Bool :=
  queue.whenHeld (fun item =>
    { item with status := .succeeded, result := some res, leaseUntil := none })
    workId workerId

def fail (workId workerId err : String) : LeaseQueue Result × Bool :=
  queue.whenHeld (fun item =>
    { item with error := some err, leaseUntil := none, status := queue.again item })
    workId workerId

@[simp] theorem prolonged_status (now : Int) (item : WorkItem Result) :
    (queue.prolonged now item).status = item.status := by
  unfold prolonged
  split <;> rfl

@[simp] theorem prolonged_worker (now : Int) (item : WorkItem Result) :
    (queue.prolonged now item).workerId = item.workerId := by
  unfold prolonged
  split <;> rfl

@[simp] theorem prolonged_attempts (now : Int) (item : WorkItem Result) :
    (queue.prolonged now item).attempts = item.attempts := by
  unfold prolonged
  split <;> rfl

@[simp] theorem prolonged_payload (now : Int) (item : WorkItem Result) :
    (queue.prolonged now item).payload = item.payload := by
  unfold prolonged
  split <;> rfl

theorem prolonged_deadline {now : Int} {item : WorkItem Result}
    (ends : (queue.leaseEnd now).isOk = true ∨ item.leaseUntil.isSome = true) :
    (queue.prolonged now item).leaseUntil.isSome = true := by
  unfold prolonged
  cases leaseUntil : queue.leaseEnd now with
  | ok moment => rfl
  | error err =>
    rcases ends with within | before
    · rw [leaseUntil] at within
      cases within
    · exact before

theorem lookup_enqueue (workId other : String) (body : Members) :
    (queue.enqueue workId body).items.lookup other =
      if other = workId then some { payload := body } else queue.items.lookup other :=
  Dict.lookup_set workId other _ queue.items

theorem lookup_expire_locked (now : Int) (workId : String) :
    (queue.expireLocked now).items.lookup workId =
      (queue.items.lookup workId).map (queue.expired now) :=
  Dict.lookup_map_values (queue.expired now) queue.items workId

theorem again_cases (item : WorkItem Result) :
    queue.again item = .queued ∨ queue.again item = .failed := by
  unfold again
  split_ifs
  · exact Or.inl rfl
  · exact Or.inr rfl

theorem expired_attempts (now : Int) (item : WorkItem Result) :
    (queue.expired now item).attempts = item.attempts := by
  unfold expired
  split_ifs
  · rfl
  · rfl

theorem expired_cases (now : Int) (item : WorkItem Result) :
    queue.expired now item = item ∨
      item.status = .running ∧ (queue.expired now item).status = queue.again item := by
  unfold expired
  split_ifs with late
  · have running : item.status = .running := by
      simp only [lapsed, Bool.and_eq_true, beq_iff_eq] at late
      exact late.1
    exact Or.inr ⟨running, rfl⟩
  · exact Or.inl rfl

theorem claimable_iff (item : WorkItem Result) :
    queue.claimable item = true ↔
      item.status = .queued ∧ (item.attempts : Int) < queue.maxAttempts := by
  simp [claimable]

theorem ready_some {workId : String} {item : WorkItem Result}
    (ready : queue.ready? = some (workId, item)) :
    queue.items.lookup workId = some item ∧ item.status = .queued := by
  unfold ready? at ready
  obtain ⟨taken, first, found⟩ := Option.bind_eq_some_iff.mp ready
  obtain ⟨here, there, same⟩ := Option.bind_eq_some_iff.mp found
  cases same
  have claims := List.find?_some first
  rw [there, Option.any_some, claimable_iff] at claims
  exact ⟨there, claims.1⟩

theorem claim_cases (workerId : String) (expiredAt leasedAt : Int) :
    (queue.expireLocked expiredAt).ready? = none ∧
        queue.claim workerId expiredAt leasedAt = (queue.expireLocked expiredAt, .ok none) ∨
      ∃ workId item, (queue.expireLocked expiredAt).ready? = some (workId, item) ∧
        (queue.expireLocked expiredAt).items.lookup workId = some item ∧
        item.status = .queued ∧
        queue.claim workerId expiredAt leasedAt = ({ queue.expireLocked expiredAt with
              items := (queue.expireLocked expiredAt).items.set workId
                ((queue.expireLocked expiredAt).leased workerId leasedAt item) },
            (queue.leaseEnd leasedAt).map fun _ =>
              some (workId, (queue.expireLocked expiredAt).leased workerId leasedAt item)) := by
  unfold claim
  cases ready : (queue.expireLocked expiredAt).ready? with
  | none => exact Or.inl ⟨rfl, by simp only [ready]⟩
  | some taken =>
    have here := ready_some _ ready
    refine Or.inr ⟨taken.1, taken.2, rfl, here.1, here.2, ?_⟩
    simp only [ready]
    rfl

def HeldBy (workId workerId : String) : Prop :=
  ∃ item, queue.items.lookup workId = some item ∧ item.status = .running ∧
    item.workerId = some workerId

theorem held_iff {workId workerId : String} {item : WorkItem Result} :
    queue.held? workId workerId = some item ↔
      queue.items.lookup workId = some item ∧ item.status = .running ∧
        item.workerId = some workerId := by
  unfold held?
  rw [Option.filter_eq_some_iff]
  simp

theorem when_held_cases (change : WorkItem Result → WorkItem Result)
    (workId workerId : String) :
    queue.held? workId workerId = none ∧ queue.whenHeld change workId workerId = (queue, false) ∨
      ∃ item, queue.held? workId workerId = some item ∧ queue.whenHeld change workId workerId =
          ({ queue with items := queue.items.set workId (change item) }, true) := by
  unfold whenHeld
  cases held : queue.held? workId workerId with
  | none => exact Or.inl ⟨rfl, rfl⟩
  | some item => exact Or.inr ⟨item, rfl, rfl⟩

end LeaseQueue

inductive QueueCall (Result : Type) where
  | enqueue (workId : String) (body : Members)
  | claim (workerId : String) (expiredAt leasedAt : Int)
  | heartbeat (workId workerId : String) (now : Int)
  | complete (workId workerId : String) (res : Result)
  | fail (workId workerId err : String)
  | recoverExpired (now : Int)

open QueueCall

inductive QueueAnswer (Result : Type) where
  | enqueued (workId : String)
  | claimed (item : Option (String × WorkItem Result))
  | held (done : Bool)
  | recovered (count : Nat)
  | raised (err : PyError)

open QueueAnswer

def QueueAnswer.told {Result Value : Type} (ret : Value → QueueAnswer Result) :
    Except PyError Value → QueueAnswer Result
  | .ok value => ret value
  | .error err => .raised err

def QueueCall.byHolder? {Result : Type} : QueueCall Result → Option (String × String)
  | .heartbeat workId workerId _ => some (workId, workerId)
  | .complete workId workerId _ => some (workId, workerId)
  | .fail workId workerId _ => some (workId, workerId)
  | _ => none

def QueueAnswer.hands {Result : Type} (workId : String) : QueueAnswer Result → Bool
  | .claimed (some (taken, _)) => taken == workId
  | _ => false

def WorkStatus.isFinal : WorkStatus → Bool
  | succeeded | failed => true
  | _ => false

namespace LeaseQueue

variable {Result : Type}

def protocol : Machine (QueueCall Result) (LeaseQueue Result) (QueueAnswer Result) :=
  fun call queue =>
    match call with
    | .enqueue workId body => (queue.enqueue workId body, .enqueued workId)
    | .claim workerId expiredAt leasedAt =>
      let taken := queue.claim workerId expiredAt leasedAt
      (taken.1, .told .claimed taken.2)
    | .heartbeat workId workerId now =>
      let told := queue.heartbeat workId workerId now
      (told.1, .told .held told.2)
    | .complete workId workerId res =>
      let told := queue.complete workId workerId res
      (told.1, .held told.2)
    | .fail workId workerId err =>
      let told := queue.fail workId workerId err
      (told.1, .held told.2)
    | .recoverExpired now =>
      let swept := queue.recoverExpired now
      (swept.1, .recovered swept.2)

/-- `uuid4` draws an identifier that no item has. -/
def Fresh : QueueCall Result → LeaseQueue Result → Prop
  | .enqueue workId _, queue => queue.items.lookup workId = none
  | _, _ => True

/-- A claim that finds an item reads a clock from which the lease ends within the calendar. -/
def Dated : QueueCall Result → LeaseQueue Result → Prop
  | .claim _ expiredAt leasedAt, queue =>
    (queue.expireLocked expiredAt).ready?.isNone = true ∨ (queue.leaseEnd leasedAt).isOk = true
  | _, _ => True

/-- How often the item is returned by `claim` in a run. -/
def timesClaimed (workId : String) (calls : List (QueueCall Result))
    (queue : LeaseQueue Result) : Nat :=
  (protocol.answers calls queue).countP (·.hands workId)

structure Promises (calls : List (QueueCall Result)) (queue : LeaseQueue Result) : Prop where
  claims_bounded : ∀ workId, (timesClaimed workId calls queue : Int) ≤ queue.maxAttempts
  absorbing : ∀ before after workId item, calls = before ++ after →
    (protocol.run before queue).items.lookup workId = some item →
      item.status.isFinal = true → (protocol.run calls queue).items.lookup workId = some item
  running_iff : ∀ workId item, (protocol.run calls queue).items.lookup workId = some item →
    (item.status = .running ↔ item.workerId.isSome = true ∧ item.leaseUntil.isSome = true)
  holder_only : ∀ before call after workId workerId, calls = before ++ call :: after →
    call.byHolder? = some (workId, workerId) →
      (protocol.answer call (protocol.run before queue) = .held true →
        (protocol.run before queue).HeldBy workId workerId) ∧
      (protocol.answer call (protocol.run before queue) = .held false ↔
        ¬(protocol.run before queue).HeldBy workId workerId)
  queued_claimable : ∀ workId item,
    (protocol.run calls queue).items.lookup workId = some item → item.status = .queued →
      (item.attempts : Int) < queue.maxAttempts
  kept : ∀ before workId body after, calls = before ++ .enqueue workId body :: after →
    ∃ item, (protocol.run calls queue).items.lookup workId = some item ∧ item.payload = body

/-- What holds of every item between calls. -/
structure Sound (maxAttempts : Int) (item : WorkItem Result) : Prop where
  running : item.status = .running → item.workerId.isSome = true ∧ item.leaseUntil.isSome = true
  idle : item.status ≠ .running → item.leaseUntil = none
  attempts : (item.attempts : Int) ≤ maxAttempts
  queued : item.status = .queued → (item.attempts : Int) < maxAttempts

inductive ItemMoves (queue : LeaseQueue Result) (workId : String) (call : QueueCall Result) :
    Option (WorkItem Result) → Option (WorkItem Result) → Prop where
  | kept (item) (quiet : (protocol.answer call queue).hands workId = false) :
      ItemMoves queue workId call item item
  | enqueued (old) (body) (made : call = .enqueue workId body) :
      ItemMoves queue workId call old (some { payload := body })
  | swept (now) (item) (quiet : (protocol.answer call queue).hands workId = false) :
      ItemMoves queue workId call (some item) (some (queue.expired now item))
  | claimed (workerId) (expiredAt leasedAt) (item)
      (dated : Dated call queue → (queue.leaseEnd leasedAt).isOk = true ∧
        (protocol.answer call queue).hands workId = true)
      (queued : (queue.expired expiredAt item).status = .queued) :
      ItemMoves queue workId call (some item)
        (some (queue.leased workerId leasedAt (queue.expired expiredAt item)))
  | prolonged (workerId) (now) (item) (held : queue.held? workId workerId = some item)
      (made : call = .heartbeat workId workerId now) :
      ItemMoves queue workId call (some item) (some (queue.prolonged now item))
  | completed (workerId) (res) (item) (held : queue.held? workId workerId = some item)
      (made : call = .complete workId workerId res) :
      ItemMoves queue workId call (some item) (some { item with
        status := .succeeded, result := some res, leaseUntil := none })
  | failed (workerId) (err) (item) (held : queue.held? workId workerId = some item)
      (made : call = .fail workId workerId err) :
      ItemMoves queue workId call (some item) (some { item with
        error := some err, leaseUntil := none, status := queue.again item })

section moves

variable {queue : LeaseQueue Result} {workId : String}

theorem when_held_bound (change : WorkItem Result → WorkItem Result) (other workerId : String) :
    (queue.whenHeld change other workerId).1.maxAttempts = queue.maxAttempts := by
  rcases queue.when_held_cases change other workerId with ⟨_, same⟩ | ⟨_, _, changed⟩
  · rw [same]
  · rw [changed]

theorem protocol_bound (call : QueueCall Result) (queue : LeaseQueue Result) :
    (protocol.next call queue).maxAttempts = queue.maxAttempts := by
  cases call with
  | enqueue other body => rfl
  | claim workerId expiredAt leasedAt =>
    rcases queue.claim_cases workerId expiredAt leasedAt with ⟨_, nothing⟩ |
      ⟨_, _, _, _, _, taken⟩
    · simp only [next, protocol, nothing]
      rfl
    · simp only [next, protocol, taken]
      rfl
  | heartbeat other workerId now | complete other workerId res
  | fail other workerId err => exact when_held_bound _ other workerId
  | recoverExpired now => rfl

theorem when_held_lookup (queue : LeaseQueue Result) (workId : String)
    (change : WorkItem Result → WorkItem Result) (other workerId : String) :
    (queue.whenHeld change other workerId).1.items.lookup workId = queue.items.lookup workId ∨
      ∃ item, other = workId ∧ queue.held? workId workerId = some item ∧
      queue.items.lookup workId = some item ∧
      (queue.whenHeld change other workerId).1.items.lookup workId = some (change item) := by
  rcases queue.when_held_cases change other workerId with ⟨_, same⟩ | ⟨item, held, changed⟩
  · rw [same]
    exact Or.inl rfl
  · rw [changed]
    by_cases own : workId = other
    · subst own
      refine Or.inr ⟨item, rfl, held, (queue.held_iff.mp held).1, ?_⟩
      simp only [Dict.lookup_set, if_true]
    · refine Or.inl ?_
      simp only [Dict.lookup_set, if_neg own]

theorem swept_moves {call : QueueCall Result} (now : Int)
    (quiet : (protocol.answer call queue).hands workId = false) :
    ItemMoves queue workId call (queue.items.lookup workId)
      ((queue.items.lookup workId).map (queue.expired now)) := by
  cases queue.items.lookup workId with
  | none => exact .kept none quiet
  | some item => exact .swept now item quiet

theorem claim_moves (queue : LeaseQueue Result) (workId workerId : String)
    (expiredAt leasedAt : Int) :
    ItemMoves queue workId (.claim workerId expiredAt leasedAt) (queue.items.lookup workId)
      ((protocol.next (.claim workerId expiredAt leasedAt) queue).items.lookup workId) := by
  have found := queue.lookup_expire_locked expiredAt workId
  rcases queue.claim_cases workerId expiredAt leasedAt with ⟨_, nothing⟩ |
    ⟨taken, ready, first, there, queued, takes⟩
  · simp only [next, protocol, nothing, found]
    apply swept_moves
    simp only [answer, protocol, nothing]
    rfl
  · have answers : protocol.answer (.claim workerId expiredAt leasedAt) queue =
        .told .claimed ((queue.leaseEnd leasedAt).map fun _ =>
          some (taken, queue.leased workerId leasedAt ready)) := by
      simp only [answer, protocol, takes]
      rfl
    simp only [next, protocol, takes, Dict.lookup_set, found]
    split_ifs with same
    · subst same
      rw [found, Option.map_eq_some_iff] at there
      obtain ⟨item, there, rfl⟩ := there
      rw [there]
      refine .claimed workerId expiredAt leasedAt item ?_ queued
      intro dated
      rcases dated with none_ | ends
      · rw [first] at none_
        cases none_
      · refine ⟨ends, ?_⟩
        rw [answers]
        cases leaseUntil : queue.leaseEnd leasedAt with
        | ok moment => simp [Except.map, told, hands]
        | error err =>
          rw [leaseUntil] at ends
          cases ends
    · apply swept_moves
      rw [answers]
      cases queue.leaseEnd leasedAt with
      | ok moment => simp [Except.map, told, hands, Ne.symm same]
      | error err => rfl

theorem heartbeat_quiet (queue : LeaseQueue Result) (workId other workerId : String) (now : Int) :
    (protocol.answer (.heartbeat other workerId now) queue).hands workId = false := by
  simp only [answer, protocol, heartbeat]
  split_ifs
  · cases queue.leaseEnd now <;> rfl
  · rfl

theorem item_moves (call : QueueCall Result) (queue : LeaseQueue Result) (workId : String) :
    ItemMoves queue workId call (queue.items.lookup workId)
      ((protocol.next call queue).items.lookup workId) := by
  cases call with
  | enqueue other body =>
    simp only [next, protocol, lookup_enqueue]
    split_ifs with same
    · subst same
      exact .enqueued _ body rfl
    · exact .kept _ rfl
  | claim workerId expiredAt leasedAt => exact claim_moves queue workId workerId expiredAt leasedAt
  | heartbeat other workerId now =>
    rcases when_held_lookup queue workId
      (queue.prolonged now) other workerId with same | ⟨item, rfl, held, found, changed⟩
    · simp only [next, protocol, heartbeat, same]
      exact .kept _ (heartbeat_quiet queue workId other workerId now)
    · simp only [next, protocol, heartbeat, changed, found]
      exact .prolonged workerId now item held rfl
  | complete other workerId res =>
    rcases when_held_lookup queue workId (fun item =>
      { item with status := .succeeded, result := some res, leaseUntil := none })
      other workerId with same | ⟨item, rfl, held, found, changed⟩
    · simp only [next, protocol, complete, same]
      exact .kept _ rfl
    · simp only [next, protocol, complete, changed, found]
      exact .completed workerId res item held rfl
  | fail other workerId err =>
    rcases when_held_lookup queue workId (fun item =>
      { item with error := some err, leaseUntil := none, status := queue.again item })
      other workerId with same | ⟨item, rfl, held, found, changed⟩
    · simp only [next, protocol, fail, same]
      exact .kept _ rfl
    · simp only [next, protocol, fail, changed, found]
      exact .failed workerId err item held rfl
  | recoverExpired now =>
    simp only [next, protocol, recoverExpired, queue.lookup_expire_locked now workId]
    exact swept_moves now rfl

end moves

section items

variable {queue : LeaseQueue Result} {item : WorkItem Result}

section

variable (sound : Sound queue.maxAttempts item)

include sound

theorem Sound.expired (now : Int) :
    Sound queue.maxAttempts (queue.expired now item) := by
  unfold LeaseQueue.expired
  split_ifs with late
  · have few := sound.attempts
    refine ⟨?_, fun _ => rfl, few, ?_⟩
    · intro running
      rcases queue.again_cases item with queued | failed
      · simp [queued] at running
      · simp [failed] at running
    · intro queued
      unfold again at queued
      split_ifs at queued with left
      exact left
  · exact sound

theorem Sound.leased (queued : item.status = .queued) (workerId : String) {now : Int}
    (ends : (queue.leaseEnd now).isOk = true) :
    Sound queue.maxAttempts (queue.leased workerId now item) := by
  have room := sound.queued queued
  unfold LeaseQueue.leased
  constructor
  · intro _
    exact ⟨by simp, queue.prolonged_deadline (Or.inl ends)⟩
  · intro idle
    simp at idle
  · rw [prolonged_attempts]
    change ((item.attempts + 1 : Nat) : Int) ≤ queue.maxAttempts
    omega
  · intro waits
    simp at waits

theorem Sound.prolonged (running : item.status = .running) (now : Int) :
    Sound queue.maxAttempts (queue.prolonged now item) := by
  have held := sound.running running
  constructor
  · intro _
    rw [prolonged_worker]
    exact ⟨held.1, queue.prolonged_deadline (Or.inr held.2)⟩
  · intro idle
    simp [running] at idle
  · rw [prolonged_attempts]
    exact sound.attempts
  · intro queued
    simp [running] at queued

theorem Sound.completed (res : Result) :
    Sound queue.maxAttempts
      { item with status := .succeeded, result := some res, leaseUntil := none } := by
  refine ⟨?_, fun _ => rfl, sound.attempts, ?_⟩
  · intro running
    simp at running
  · intro queued
    simp at queued

theorem Sound.failed (err : String) :
    Sound queue.maxAttempts
      { item with error := some err, leaseUntil := none, status := queue.again item } := by
  refine ⟨?_, fun _ => rfl, sound.attempts, ?_⟩
  · intro running
    rcases queue.again_cases item with queued | failed
    · simp [queued] at running
    · simp [failed] at running
  · intro queued
    have waits : queue.again item = .queued := queued
    unfold again at waits
    split_ifs at waits with left
    exact left

end

variable {workId : String} {call : QueueCall Result}

theorem Sound.moves {old new : Option (WorkItem Result)} (positive : 1 ≤ queue.maxAttempts)
    (dated : Dated call queue) (sound : ∀ item, old = some item → Sound queue.maxAttempts item)
    (moves : ItemMoves queue workId call old new) :
    ∀ item, new = some item → Sound queue.maxAttempts item := by
  cases moves with
  | kept => exact sound
  | enqueued _ body made =>
    rintro _ ⟨rfl⟩
    refine ⟨by simp, fun _ => rfl, ?_, fun _ => ?_⟩
    · change (0 : Int) ≤ queue.maxAttempts
      omega
    · change (0 : Int) < queue.maxAttempts
      omega
  | swept now item quiet =>
    rintro _ ⟨rfl⟩
    exact (sound item rfl).expired now
  | claimed workerId expiredAt leasedAt item hands queued =>
    rintro _ ⟨rfl⟩
    exact ((sound item rfl).expired expiredAt).leased queued workerId (hands dated).1
  | prolonged workerId now item held made =>
    rintro _ ⟨rfl⟩
    exact (sound item rfl).prolonged (queue.held_iff.mp held).2.1 now
  | completed workerId res item held made =>
    rintro _ ⟨rfl⟩
    exact (sound item rfl).completed res
  | failed workerId err item held made =>
    rintro _ ⟨rfl⟩
    exact (sound item rfl).failed err

def attemptsAt (item : Option (WorkItem Result)) : Nat := item.elim 0 (·.attempts)

theorem ItemMoves.attempts {old new : Option (WorkItem Result)}
    (moves : ItemMoves queue workId call old new) (dated : Dated call queue)
    (fresh : ∀ body, call = .enqueue workId body → old = none) :
    attemptsAt new = attemptsAt old + ((protocol.answer call queue).hands workId).toNat := by
  cases moves with
  | kept _ quiet => simp [quiet]
  | enqueued _ body made =>
    rw [fresh body made, made]
    rfl
  | swept now item quiet =>
    rw [quiet]
    exact queue.expired_attempts now item
  | claimed workerId expiredAt leasedAt item hands queued =>
    rw [(hands dated).2]
    change (queue.leased workerId leasedAt (queue.expired expiredAt item)).attempts = _
    rw [LeaseQueue.leased, prolonged_attempts]
    exact congrArg (· + 1) (queue.expired_attempts expiredAt item)
  | prolonged workerId now item held made =>
    rw [made, heartbeat_quiet]
    exact queue.prolonged_attempts now item
  | completed workerId res item held made | failed workerId err item held made =>
    rw [made]
    rfl

theorem ItemMoves.final {new : Option (WorkItem Result)}
    (moves : ItemMoves queue workId call (some item) new) (final : item.status.isFinal = true)
    (fresh : ∀ body, call ≠ .enqueue workId body) : new = some item := by
  have stopped : item.status ≠ .running := by
    intro running
    simp [running, WorkStatus.isFinal] at final
  have still : ∀ now, queue.expired now item = item := by
    intro now
    rcases queue.expired_cases now item with same | ⟨running, _⟩
    · exact same
    · exact absurd running stopped
  cases moves with
  | kept => rfl
  | enqueued _ body made => exact absurd made (fresh body)
  | swept now _ quiet => rw [still now]
  | claimed workerId expiredAt leasedAt _ hands queued =>
    rw [still expiredAt] at queued
    simp [queued, WorkStatus.isFinal] at final
  | prolonged workerId now _ held made | completed workerId res _ held made
  | failed workerId err _ held made => exact absurd (queue.held_iff.mp held).2.1 stopped

theorem ItemMoves.stays {new : Option (WorkItem Result)}
    (moves : ItemMoves queue workId call (some item) new)
    (fresh : ∀ body, call ≠ .enqueue workId body) :
    ∃ next, new = some next ∧ next.payload = item.payload := by
  have same : ∀ now, (queue.expired now item).payload = item.payload := by
    intro now
    unfold LeaseQueue.expired
    split_ifs
    · rfl
    · rfl
  cases moves with
  | kept => exact ⟨item, rfl, rfl⟩
  | enqueued _ body made => exact absurd made (fresh body)
  | swept now _ quiet => exact ⟨_, rfl, same now⟩
  | claimed workerId expiredAt leasedAt _ hands queued =>
    exact ⟨_, rfl, (queue.prolonged_payload _ _).trans (same expiredAt)⟩
  | prolonged workerId now _ held made => exact ⟨_, rfl, queue.prolonged_payload now item⟩
  | completed workerId res _ held made | failed workerId err _ held made => exact ⟨_, rfl, rfl⟩

end items

section runs

variable {start : LeaseQueue Result} {calls : List (QueueCall Result)}

variable {call : QueueCall Result} {queue : LeaseQueue Result}

theorem fresh_ne {workId : String} {item : WorkItem Result} (fresh : Fresh call queue)
    (found : queue.items.lookup workId = some item) (body : Members) :
    call ≠ .enqueue workId body := by
  rintro rfl
  have absent : queue.items.lookup workId = none := fresh
  rw [absent] at found
  simp at found

/-- What holds of the answers so far and the queue. -/
structure Accounted (maxAttempts : Int) (log : List (QueueAnswer Result))
    (queue : LeaseQueue Result) : Prop where
  bound : queue.maxAttempts = maxAttempts
  sound : ∀ workId item, queue.items.lookup workId = some item → Sound maxAttempts item
  counted : ∀ workId, log.countP (·.hands workId) = attemptsAt (queue.items.lookup workId)

theorem Accounted.next {maxAttempts : Int} (positive : 1 ≤ maxAttempts)
    {log : List (QueueAnswer Result)} (regular : Fresh call queue ∧ Dated call queue)
    (accounted : Accounted maxAttempts log queue) :
    Accounted maxAttempts (log ++ [protocol.answer call queue]) (protocol.next call queue) := by
  obtain ⟨rfl, sound, counted⟩ := accounted
  refine ⟨protocol_bound call queue, ?_, ?_⟩
  · intro workId
    exact Sound.moves positive regular.2 (sound workId) (item_moves call queue workId)
  · intro workId
    have attempts := (item_moves call queue workId).attempts regular.2 (by
      rintro body rfl
      exact regular.1)
    rw [List.countP_append, counted workId, List.countP_singleton, attempts]
    cases (protocol.answer call queue).hands workId <;> rfl

theorem accounted_run (positive : 1 ≤ start.maxAttempts) (empty : start.items = [])
    (fresh : protocol.Throughout Fresh calls start)
    (dated : protocol.Throughout Dated calls start) :
    Accounted start.maxAttempts (protocol.answers calls start) (protocol.run calls start) := by
  apply run_keeps_log (fun _ _ _ => Accounted.next positive)
    (throughout_and.mpr ⟨fresh, dated⟩)
  refine ⟨rfl, ?_, ?_⟩
  · intro workId item found
    simp [empty] at found
  · intro workId
    rw [empty]
    rfl

theorem final_run {workId : String} {item : WorkItem Result}
    (fresh : protocol.Throughout Fresh calls start)
    (found : start.items.lookup workId = some item) (final : item.status.isFinal = true) :
    (protocol.run calls start).items.lookup workId = some item := by
  have keeps : ∀ (call : QueueCall Result) queue, Fresh call queue →
      queue.items.lookup workId = some item →
        (protocol.next call queue).items.lookup workId = some item := by
    intro call queue fresh found
    have moves := item_moves call queue workId
    rw [found] at moves
    exact moves.final final (fresh_ne fresh found)
  exact run_keeps keeps fresh found

theorem kept_run {workId : String} {body : Members}
    (fresh : protocol.Throughout Fresh calls start)
    (found : ∃ item, start.items.lookup workId = some item ∧ item.payload = body) :
    ∃ item, (protocol.run calls start).items.lookup workId = some item ∧
      item.payload = body := by
  have keeps : ∀ (call : QueueCall Result) queue, Fresh call queue →
      (∃ item, queue.items.lookup workId = some item ∧ item.payload = body) →
        ∃ item, (protocol.next call queue).items.lookup workId = some item ∧
          item.payload = body := by
    intro call queue fresh ⟨item, found, same⟩
    have moves := item_moves call queue workId
    rw [found] at moves
    obtain ⟨next, leaves, kept⟩ := moves.stays (fresh_ne fresh found)
    exact ⟨next, leaves, kept.trans same⟩
  exact run_keeps keeps fresh found

theorem held_answer {workId workerId : String} (made : call.byHolder? = some (workId, workerId)) :
    (protocol.answer call queue = .held true → queue.HeldBy workId workerId) ∧
      (protocol.answer call queue = .held false ↔ ¬queue.HeldBy workId workerId) := by
  have told : ∀ change : WorkItem Result → WorkItem Result,
      (queue.whenHeld change workId workerId).2 = true ↔ queue.HeldBy workId workerId := by
    intro change
    rcases queue.when_held_cases change workId workerId with ⟨none_, same⟩ | ⟨item, held, same⟩
    · rw [same]
      constructor
      · intro absurd_
        simp at absurd_
      · rintro ⟨item, holds⟩
        have held := queue.held_iff.mpr holds
        simp [none_] at held
    · rw [same]
      exact iff_of_true rfl ⟨item, queue.held_iff.mp held⟩
  cases call with
  | enqueue | claim | recoverExpired => simp [byHolder?] at made
  | heartbeat other worker now =>
    obtain ⟨rfl, rfl⟩ : other = workId ∧ worker = workerId := by
      simpa [byHolder?] using made
    rw [← told (queue.prolonged now)]
    simp only [answer, protocol, heartbeat]
    split_ifs with held
    · cases queue.leaseEnd now <;> simp [Except.map, QueueAnswer.told, held]
    · simp [QueueAnswer.told, held]
  | complete other worker res | fail other worker err =>
    obtain ⟨rfl, rfl⟩ : other = workId ∧ worker = workerId := by
      simpa [byHolder?] using made
    rw [← told, Bool.not_eq_true]
    exact ⟨held.inj, held.inj, congrArg _⟩

end runs

section promises

variable {leaseSeconds maxAttempts : Int} {calls : List (QueueCall Result)}

theorem promises_of_dated (positive : 1 ≤ maxAttempts)
    (fresh : protocol.Throughout Fresh calls
      { leaseSeconds := leaseSeconds, maxAttempts := maxAttempts })
    (dated : protocol.Throughout Dated calls
      { leaseSeconds := leaseSeconds, maxAttempts := maxAttempts }) :
    Promises calls { leaseSeconds := leaseSeconds, maxAttempts := maxAttempts } := by
  have accounted := accounted_run positive rfl fresh dated
  refine ⟨?_, ?_, ?_, ?_, ?_, ?_⟩
  · intro workId
    rw [timesClaimed, accounted.counted workId]
    cases found : (protocol.run calls
        ({ leaseSeconds, maxAttempts } : LeaseQueue Result)).items.lookup workId with
    | none =>
      change (0 : Int) ≤ maxAttempts
      omega
    | some item => exact (accounted.sound workId item found).attempts
  · rintro before after workId item rfl found final
    rw [run_append]
    exact final_run (throughout_append.mp fresh).2 found final
  · intro workId item found
    have sound := accounted.sound workId item found
    refine ⟨sound.running, fun holds => ?_⟩
    by_contra idle
    simp [sound.idle idle] at holds
  · intro before call after workId workerId _ made
    exact held_answer made
  · intro workId item found
    exact (accounted.sound workId item found).queued
  · rintro before workId body after rfl
    rw [run_append]
    have enqueued : (protocol.next (.enqueue workId body) (protocol.run before
        ({ leaseSeconds, maxAttempts } : LeaseQueue Result))).items.lookup workId =
          some { payload := body } := by
      simp only [next, protocol, lookup_enqueue, if_true]
    have later : protocol.Throughout Fresh after (protocol.next (.enqueue workId body)
        (protocol.run before ({ leaseSeconds, maxAttempts } : LeaseQueue Result))) :=
      (throughout_append.mp fresh).2.2
    have stays := kept_run later ⟨_, enqueued, rfl⟩
    exact stays

/-- A claim whose deadline overflows leaves an item that is RUNNING without a deadline. -/
theorem undated_strands {maxAttempts : Int} {call : QueueCall Result} {queue : LeaseQueue Result}
    (sound : ∀ workId item, queue.items.lookup workId = some item → Sound maxAttempts item)
    (bound : queue.maxAttempts = maxAttempts) (undated : ¬Dated call queue) :
    ∃ workId item, (protocol.next call queue).items.lookup workId = some item ∧
      item.status = .running ∧ item.leaseUntil = none := by
  cases call with
  | claim workerId expiredAt leasedAt =>
    obtain ⟨some_, overflows⟩ := not_or.mp undated
    rcases queue.claim_cases workerId expiredAt leasedAt with ⟨nothing, _⟩ |
      ⟨workId, item, _, found, queued, takes⟩
    · rw [nothing] at some_
      exact absurd rfl some_
    · refine ⟨workId, (queue.expireLocked expiredAt).leased workerId leasedAt item, ?_, ?_, ?_⟩
      · simp only [next, protocol, takes, Dict.lookup_set, if_true]
      · rw [LeaseQueue.leased, prolonged_status]
      · rw [queue.lookup_expire_locked, Option.map_eq_some_iff] at found
        obtain ⟨old, there, rfl⟩ := found
        have idle := ((bound ▸ sound workId old there).expired expiredAt).idle (by simp [queued])
        cases leaseUntil : queue.leaseEnd leasedAt with
        | ok moment => simp [leaseUntil, Except.isOk, Except.toBool] at overflows
        | error err =>
          have same : (queue.expireLocked expiredAt).leaseEnd leasedAt = .error err := leaseUntil
          simp only [LeaseQueue.leased, LeaseQueue.prolonged, same]
          exact idle
  | enqueue | heartbeat | complete | fail | recoverExpired => exact absurd trivial undated

/-- A new queue whose items get identifiers of their own keeps its promises in all of a run exactly
if no claim takes an item when its lease would end outside the calendar. -/
theorem queue_keeps_promises_iff (leaseSeconds maxAttempts : Int) (positive : 1 ≤ maxAttempts)
    (calls : List (QueueCall Result))
    (fresh : protocol.Throughout Fresh calls
      { leaseSeconds := leaseSeconds, maxAttempts := maxAttempts }) :
    (∀ before after, calls = before ++ after →
      Promises before { leaseSeconds := leaseSeconds, maxAttempts := maxAttempts }) ↔
      protocol.Throughout Dated calls
        { leaseSeconds := leaseSeconds, maxAttempts := maxAttempts } := by
  constructor
  · intro promised
    induction calls using List.reverseRecOn with
    | nil => trivial
    | append_singleton past call ih =>
      obtain ⟨before, _⟩ := throughout_append.mp fresh
      have dated := ih before fun first later split =>
        promised first (later ++ [call]) (by rw [split, List.append_assoc])
      refine throughout_append.mpr ⟨dated, ?_, trivial⟩
      by_contra undated
      have accounted := accounted_run positive rfl before dated
      obtain ⟨workId, item, found, running, endless⟩ :=
        undated_strands accounted.sound accounted.bound undated
      have whole := promised (past ++ [call]) [] (List.append_nil _).symm
      rw [← run_concat] at found
      have held := ((whole.running_iff workId item found).mp running).2
      rw [endless] at held
      cases held
  · rintro dated before after rfl
    exact promises_of_dated positive (throughout_append.mp fresh).1 (throughout_append.mp dated).1

end promises

/-- Two workers and one item: the lease of the first runs out, its report comes late, and
the second completes the item. -/
def overtaken : List (QueueCall String) :=
  [.enqueue "w1" [], .claim "worker-1" 0 0, .recoverExpired 40000000,
    .claim "worker-2" 50000000 50000000, .complete "w1" "worker-1" "late",
    .complete "w1" "worker-2" "done", .fail "w1" "worker-2" "again"]

theorem overtaken_keeps_promises :
    timesClaimed "w1" overtaken ({} : LeaseQueue String) = 2 ∧
      Promises overtaken ({} : LeaseQueue String) :=
  ⟨by decide +kernel, (queue_keeps_promises_iff 30 3 (by decide) overtaken
    ⟨rfl, trivial, trivial, trivial, trivial, trivial, trivial, trivial⟩).mpr
    ⟨trivial, Or.inr rfl, trivial, Or.inr rfl, trivial, trivial, trivial, trivial⟩
    overtaken [] rfl⟩

/-- A lease of a trillion seconds ends after the year 9999: the claim raises, and the item is
RUNNING without a deadline. -/
theorem endless_lease_strands :
    ¬Promises [.enqueue "w1" [], .claim "worker-1" 63900000000000000 63900000000000000]
      ({ leaseSeconds := 1000000000000 } : LeaseQueue String) := by
  intro promises
  have stranded := promises.running_iff "w1"
    { payload := [], attempts := 1, status := .running, workerId := some "worker-1" } (by decide)
  exact absurd (stranded.mp rfl).2 (by decide)

end LeaseQueue

end Ois.Production
