import Ois.Infrastructure.Tables
import Ois.Library.Histories
import Ois.Library.Machine

/-!
# The side-effect outbox

`TransactionalSideEffectBoundary` of `side_effects.py`: the rows of the outbox under the calls of
any number of workers, and the command that `enqueue` returns.
-/

namespace Ois.Kernel

open Ois.Library Ois.Infrastructure Machine Dict

structure OutboxFence where
  fencing : Option LeaseTable := none
  workerLease : Option WorkerLease := none

/-- The arguments of `enqueue`; `fresh` is what `uuid4` draws. -/
structure Enqueued where
  tenantId : String
  executionId : Uuid
  invocationId : String
  capabilityId : String
  idempotencyKey : String
  request : Members
  effectId : Option String := none
  fresh : Uuid

inductive OutboxCall where
  | enqueue (now : Int) (enqueued : Enqueued)
  | claim (now : Int) (pick : Nat)
  | complete (now : Int) (command : SideEffectCommand) (res : SideEffectResult)
      (fence : OutboxFence)
  | fail (now : Int) (command : SideEffectCommand) (err : Members) (fence : OutboxFence)
  | recoverStale (now : Int)

inductive OutboxAnswer where
  | enqueued (command : SideEffectCommand)
  | claimed (command : Option SideEffectCommand)
  | done
  | recovered (count : Nat)

namespace SideEffects

variable (pg : Postgres)

def noLease : PyError := ⟨.valueError, "fencing requires a worker lease"⟩

/-- What `complete` and `fail` check before their update. -/
def assertFence (now : Int) (fence : OutboxFence) : Except PyError Unit :=
  match fence.fencing with
  | none => .ok ()
  | some leases =>
    match fence.workerLease with
    | none => .error noLease
    | some lease => leases.assertCurrent now lease

/-- `effect_id or str(uuid4())`. -/
def effectIdOf (enqueued : Enqueued) : String :=
  match enqueued.effectId with
  | some effect => if effect = "" then enqueued.fresh.str else effect
  | none => enqueued.fresh.str

def commandOf (enqueued : Enqueued) : SideEffectCommand :=
  { effectId := effectIdOf enqueued, tenantId := enqueued.tenantId
    executionId := enqueued.executionId, invocationId := enqueued.invocationId
    capabilityId := enqueued.capabilityId, idempotencyKey := enqueued.idempotencyKey
    request := enqueued.request }

def enqueue (now : Int) (enqueued : Enqueued) (db : Database) :
    Except PyError Database := do
  let row ← pg.outboxRow now (commandOf enqueued)
  db.insertOutboxOnce (commandOf enqueued).effectId row

/-- `status = 'PROCESSING' AND locked_at < now() - interval '5 minutes'`. -/
def isStale (now : Int) (row : OutboxRow) : Bool :=
  row.status == .processing && row.lockedAt.any fun locked => decide (locked < now - 300000000)

def isCandidate (now : Int) (row : OutboxRow) : Bool :=
  row.status == .pending || isStale now row

def oldest (candidates : Dict String OutboxRow) : Dict String OutboxRow :=
  candidates.filter fun entry =>
    candidates.all fun other => decide (entry.2.createdAt ≤ other.2.createdAt)

/-- The candidate that `ORDER BY created_at LIMIT 1` selects. -/
def candidate? (now : Int) (pick : Nat) (db : Database) : Option (String × OutboxRow) :=
  let ready := oldest (db.outbox.filter fun entry => isCandidate now entry.2)
  ready[pick % ready.length]?

def claimedRow (now : Int) (row : OutboxRow) : OutboxRow :=
  { row with
    status := .processing, attempts := row.attempts + 1, lockedAt := some now
    updatedAt := now }

def commandIn (effect : String) (row : OutboxRow) : Except PyError SideEffectCommand :=
  match row.request.asMembers? with
  | none => .error CheckpointStore.illTyped
  | some req => .ok {
      effectId := effect, tenantId := row.tenantId, executionId := row.executionId
      invocationId := row.invocationId, capabilityId := row.capabilityId
      idempotencyKey := row.idempotencyKey, request := req }

def failedRow (now : Int) (err : Json) (row : OutboxRow) : OutboxRow :=
  { row with status := .pending, lockedAt := none, lastError := some err, updatedAt := now }

/-- `UPDATE ... WHERE effect_id = %s`, whatever the status of the row. -/
def update (effect : String) (change : OutboxRow → OutboxRow) (db : Database) :
    Database :=
  match db.outbox.lookup effect with
  | none => db
  | some row => { db with outbox := db.outbox.set effect (change row) }

/-- What `complete` writes, once its fence is passed. -/
def completion (now : Int) (res : SideEffectResult) (fence : OutboxFence) :
    Except PyError Json := do
  assertFence now fence
  pg.outputColumn res

/-- What `fail` writes, once its fence is passed. -/
def failure (now : Int) (err : Members) (fence : OutboxFence) : Except PyError Json := do
  assertFence now fence
  pg.column (Json.dumpsSorted (.obj err))

def recoveredRow (now : Int) (row : OutboxRow) : OutboxRow :=
  if isStale now row then
    { row with status := .pending, lockedAt := none, updatedAt := now }
  else row

/-- The boundary. A call that raises leaves the table as it was. -/
def boundary : Machine OutboxCall Database (Except PyError OutboxAnswer)
  | .enqueue now enqueued, db =>
    match enqueue pg now enqueued db with
    | .ok after => (after, .ok (.enqueued (commandOf enqueued)))
    | .error err => (db, .error err)
  | .claim now pick, db =>
    match candidate? now pick db with
    | none => (db, .ok (.claimed none))
    | some (effect, row) =>
      ({ db with outbox := db.outbox.set effect (claimedRow now row) },
        (commandIn effect row).map fun command => .claimed (some command))
  | .complete now command res fence, db =>
    match completion pg now res fence with
    | .ok output =>
      (update command.effectId (OutboxRow.completedBy now output res) db, .ok .done)
    | .error err => (db, .error err)
  | .fail now command err fence, db =>
    match failure pg now err fence with
    | .ok doc => (update command.effectId (failedRow now doc) db, .ok .done)
    | .error err => (db, .error err)
  | .recoverStale now, db =>
    ({ db with
      outbox := db.outbox.map fun entry => (entry.1, recoveredRow now entry.2) },
      .ok (.recovered (db.outbox.countP fun entry => isStale now entry.2)))

def Keyed (db : Database) : Prop := (keys db.outbox).Nodup

inductive EffectMoves (effect : String) (call : OutboxCall) :
    Option OutboxRow → Option OutboxRow → Prop where
  | kept (row : Option OutboxRow) : EffectMoves effect call row row
  | staged (row : OutboxRow) : EffectMoves effect call none (some row)
  | taken (row next : OutboxRow) (unfinished : row.status ≠ .completed) :
      EffectMoves effect call (some row) (some next)
  | completed (row : OutboxRow) (now : Int) (command : SideEffectCommand)
      (res : SideEffectResult) (fence : OutboxFence) (output : Json)
      (made : call = .complete now command res fence)
      (aimed : command.effectId = effect)
      (writes : completion pg now res fence = .ok output) :
      EffectMoves effect call (some row) (some (row.completedBy now output res))
  | failed (row : OutboxRow) (now : Int) (command : SideEffectCommand) (err : Members)
      (fence : OutboxFence) (doc : Json)
      (made : call = .fail now command err fence) (aimed : command.effectId = effect)
      (writes : failure pg now err fence = .ok doc) :
      EffectMoves effect call (some row) (some (failedRow now doc row))

variable {pg}

theorem lookup_update (effect other : String) (change : OutboxRow → OutboxRow)
    (db : Database) :
    (update effect change db).outbox.lookup other =
      if other = effect then (db.outbox.lookup other).map change
      else db.outbox.lookup other := by
  unfold update
  cases found : db.outbox.lookup effect with
  | none =>
    split_ifs with same
    · simp [same, found]
    · rfl
  | some row =>
    simp only [lookup_set]
    split_ifs with same
    · simp [same, found]
    · rfl

theorem candidate_found {now : Int} {pick : Nat} {db : Database} {effect : String}
    {row : OutboxRow} (keyed : Keyed db)
    (picked : candidate? now pick db = some (effect, row)) :
    db.outbox.lookup effect = some row ∧ row.status ≠ .completed := by
  have mem := List.mem_of_getElem? picked
  unfold oldest at mem
  have ready := List.mem_of_mem_filter mem
  rw [List.mem_filter] at ready
  obtain ⟨present, candidate⟩ := ready
  constructor
  · exact lookup_of_mem keyed present
  · intro completed
    simp [isCandidate, isStale, completed] at candidate

theorem enqueue_ok {now : Int} {enqueued : Enqueued} {db after : Database}
    (done : enqueue pg now enqueued db = .ok after) :
    after = db ∨ ∃ row, db.outbox.lookup (effectIdOf enqueued) = none ∧
      after = { db with outbox := db.outbox ++ [(effectIdOf enqueued, row)] } := by
  unfold enqueue at done
  cases made : pg.outboxRow now (commandOf enqueued) with
  | error err => simp [made, bind, Except.bind] at done
  | ok row =>
    simp only [made, bind, Except.bind, Database.insertOutboxOnce, Database.insertOutbox] at done
    split_ifs at done with staged taken keyTaken
    · exact Or.inl (Except.ok.inj done).symm
    · rw [Option.isSome_iff_ne_none, not_not] at taken
      exact Or.inr ⟨row, taken, (Except.ok.inj done).symm⟩

theorem effect_moves {db : Database} (keyed : Keyed db) (call : OutboxCall)
    (effect : String) :
    EffectMoves pg effect call (db.outbox.lookup effect)
      (((boundary pg).next call db).outbox.lookup effect) := by
  cases call with
  | enqueue now enqueued =>
    cases done : enqueue pg now enqueued db with
    | error err =>
      simp only [next, boundary, done]
      exact .kept _
    | ok after =>
      simp only [next, boundary, done]
      rcases enqueue_ok done with rfl | ⟨row, missing, rfl⟩
      · exact .kept _
      · simp only [lookup_append]
        by_cases same : effect = effectIdOf enqueued
        · rw [same, missing]
          simp only [Option.none_or, List.lookup_cons_self]
          exact .staged row
        · have unequal : (effect == effectIdOf enqueued) = false := by simpa using same
          simp only [List.lookup_cons, unequal, List.lookup_nil, Option.or_none]
          exact .kept _
  | claim now pick =>
    cases picked : candidate? now pick db with
    | none =>
      simp only [next, boundary, picked]
      exact .kept _
    | some entry =>
      obtain ⟨chosen, row⟩ := entry
      obtain ⟨found, unfinished⟩ := candidate_found keyed picked
      simp only [next, boundary, picked, lookup_set]
      split_ifs with same
      · rw [same, found]
        exact .taken row _ unfinished
      · exact .kept _
  | complete now command res fence =>
    cases writes : completion pg now res fence with
    | error err =>
      simp only [next, boundary, writes]
      exact .kept _
    | ok output =>
      simp only [next, boundary, writes, lookup_update]
      split_ifs with same
      · cases db.outbox.lookup effect with
        | none => exact .kept none
        | some row => exact .completed row now command res fence output rfl same.symm writes
      · exact .kept _
  | fail now command err fence =>
    cases writes : failure pg now err fence with
    | error err =>
      simp only [next, boundary, writes]
      exact .kept _
    | ok doc =>
      simp only [next, boundary, writes, lookup_update]
      split_ifs with same
      · cases db.outbox.lookup effect with
        | none => exact .kept none
        | some row => exact .failed row now command err fence doc rfl same.symm writes
      · exact .kept _
  | recoverStale now =>
    simp only [next, boundary, lookup_map_values]
    cases db.outbox.lookup effect with
    | none => exact .kept none
    | some row =>
      simp only [Option.map_some, recoveredRow]
      split_ifs with stale
      · refine .taken row _ fun completed => ?_
        simp [isStale, completed] at stale
      · exact .kept _

theorem keyed_next (call : OutboxCall) (db : Database) (keyed : Keyed db) :
    Keyed ((boundary pg).next call db) := by
  cases call with
  | enqueue now enqueued =>
    cases done : enqueue pg now enqueued db with
    | error err => simpa only [next, boundary, done] using keyed
    | ok after =>
      simp only [next, boundary, done]
      rcases enqueue_ok done with rfl | ⟨row, missing, rfl⟩
      · exact keyed
      · exact nodup_keys_append_fresh keyed missing
  | claim now pick =>
    cases picked : candidate? now pick db with
    | none => simpa only [next, boundary, picked] using keyed
    | some entry =>
      simp only [next, boundary, picked]
      exact nodup_keys_set keyed
  | complete now command res fence =>
    cases writes : completion pg now res fence with
    | error err => simpa only [next, boundary, writes] using keyed
    | ok output =>
      simp only [next, boundary, writes, update]
      split
      · exact keyed
      · exact nodup_keys_set keyed
  | fail now command err fence =>
    cases writes : failure pg now err fence with
    | error err => simpa only [next, boundary, writes] using keyed
    | ok doc =>
      simp only [next, boundary, writes, update]
      split
      · exact keyed
      · exact nodup_keys_set keyed
  | recoverStale now =>
    simp only [next, boundary, Keyed, keys_map_values]
    exact keyed

def CompletedWith (effect : String) (res : Option Json) (db : Database) : Prop :=
  ∃ row, db.outbox.lookup effect = some row ∧ row.status = .completed ∧ row.result = res

variable (pg) in
/-- Every row that has become completed stays completed with its result in every later
state, and no later claim returns it. -/
def CompletedFinal (calls : List OutboxCall) : Prop :=
  ∀ before between after effect row, calls = before ++ between ++ after →
    ((boundary pg).run before {}).outbox.lookup effect = some row →
    row.status = .completed →
    CompletedWith effect row.result ((boundary pg).run (before ++ between) {}) ∧
      ∀ call rest command, after = call :: rest →
        (boundary pg).answer call ((boundary pg).run (before ++ between) {}) =
          .ok (.claimed (some command)) →
        command.effectId ≠ effect

variable (pg) in
/-- A late completion of a completed row that gets past its fence brings the recorded
result, and no late failure gets past its fence. -/
def RespectsCompleted (call : OutboxCall) (db : Database) : Prop :=
  match call with
  | .complete now command res fence =>
    ∀ row output, db.outbox.lookup command.effectId = some row →
      row.status = .completed → completion pg now res fence = .ok output →
      row.result = some output
  | .fail now command err fence =>
    ∀ row doc, db.outbox.lookup command.effectId = some row →
      row.status = .completed → failure pg now err fence ≠ .ok doc
  | _ => True

theorem completed_next {effect : String} {res : Option Json} (call : OutboxCall)
    (db : Database) (keyed : Keyed db)
    (respects : RespectsCompleted pg call db)
    (completed : CompletedWith effect res db) :
    CompletedWith effect res ((boundary pg).next call db) := by
  obtain ⟨row, found, status, recorded⟩ := completed
  have moves : EffectMoves pg effect call _ _ := effect_moves keyed call effect
  rw [found] at moves
  generalize after : ((boundary pg).next call db).outbox.lookup effect = later
    at moves
  cases moves with
  | kept => exact ⟨row, after, status, recorded⟩
  | taken _ next unfinished => exact absurd status unfinished
  | completed _ now command given fence output made aimed writes =>
    subst made
    have same : row.result = some output :=
      respects row output (aimed ▸ found) status writes
    exact ⟨_, after, rfl, by rw [← recorded, same]; rfl⟩
  | failed _ now command err fence doc made aimed writes =>
    subst made
    exact absurd writes (respects row doc (aimed ▸ found) status)

theorem completed_run {effect : String} {res : Option Json} {calls : List OutboxCall}
    {db : Database} (keyed : Keyed db)
    (respects : (boundary pg).Throughout (RespectsCompleted pg) calls db)
    (completed : CompletedWith effect res db) :
    CompletedWith effect res ((boundary pg).run calls db) := by
  have both : Keyed ((boundary pg).run calls db) ∧
      CompletedWith effect res ((boundary pg).run calls db) := by
    have keeps : ∀ call state, RespectsCompleted pg call state →
        Keyed state ∧ CompletedWith effect res state →
        Keyed ((boundary pg).next call state) ∧
          CompletedWith effect res ((boundary pg).next call state) := by
      intro call state respects holds
      exact ⟨keyed_next call state holds.1, completed_next call state holds.1 respects holds.2⟩
    exact run_keeps keeps respects ⟨keyed, completed⟩
  exact both.2

theorem run_keyed (calls : List OutboxCall) : Keyed ((boundary pg).run calls {}) :=
  run_invariant keyed_next calls List.nodup_nil

theorem claimed_unfinished {call : OutboxCall} {db : Database} (keyed : Keyed db)
    {command : SideEffectCommand}
    (claimed : (boundary pg).answer call db = .ok (.claimed (some command))) :
    ∃ row, db.outbox.lookup command.effectId = some row ∧ row.status ≠ .completed := by
  cases call with
  | claim now pick =>
    cases picked : candidate? now pick db with
    | none => simp [answer, boundary, picked] at claimed
    | some entry =>
      obtain ⟨effect, row⟩ := entry
      have found := candidate_found keyed picked
      simp only [answer, boundary, picked, commandIn] at claimed
      cases req : row.request.asMembers? with
      | none => simp [req, Except.map] at claimed
      | some members =>
        simp only [req, Except.map, Except.ok.injEq, OutboxAnswer.claimed.injEq,
          Option.some.injEq] at claimed
        rw [← claimed]
        exact ⟨row, found⟩
  | enqueue | complete | fail =>
    simp only [answer, boundary] at claimed
    split at claimed <;> simp at claimed
  | recoverStale now => simp [answer, boundary] at claimed

theorem completed_final_of_respects {calls : List OutboxCall}
    (respects : (boundary pg).Throughout (RespectsCompleted pg) calls {}) :
    CompletedFinal pg calls := by
  intro before between after effect row split found status
  rw [split, throughout_append, throughout_append] at respects
  have kept : CompletedWith effect row.result
      ((boundary pg).run (before ++ between) {}) := by
    rw [run_append]
    exact completed_run (run_keyed before) respects.1.2 ⟨row, found, status, rfl⟩
  refine ⟨kept, ?_⟩
  intro call rest command next claimed same
  obtain ⟨last, there, completed, _⟩ := kept
  obtain ⟨other, here, unfinished⟩ := claimed_unfinished (run_keyed _) claimed
  rw [same, there, Option.some.injEq] at here
  exact unfinished (here ▸ completed)

theorem respects_of_completed_final {calls : List OutboxCall}
    (final : CompletedFinal pg calls) :
    (boundary pg).Throughout (RespectsCompleted pg) calls {} := by
  rw [throughout_iff]
  intro before call after split
  have stays : ∀ effect row,
      ((boundary pg).run before {}).outbox.lookup effect = some row →
      row.status = .completed → CompletedWith effect row.result
        ((boundary pg).next call ((boundary pg).run before {})) := by
    intro effect row found status
    have kept := (final before [call] after effect row (by simp [split]) found status).1
    rw [run_concat] at kept
    exact kept
  cases call with
  | complete now command res fence =>
    intro row output found status writes
    obtain ⟨last, there, _, recorded⟩ := stays _ row found status
    simp only [next, boundary, writes, lookup_update, if_true, found,
      Option.map_some, Option.some.injEq] at there
    rw [← recorded, ← there]
    rfl
  | fail now command err fence =>
    intro row doc found status writes
    obtain ⟨last, there, completed, _⟩ := stays _ row found status
    simp only [next, boundary, writes, lookup_update, if_true, found,
      Option.map_some, Option.some.injEq] at there
    rw [← there] at completed
    simp [failedRow] at completed
  | _ => trivial

end SideEffects

open SideEffects in
/-- In a run of the outbox every completed row stays completed with its first result
and is not claimed again, exactly when no failure and no completion with another
result reaches a row that is completed already. -/
theorem completed_final_iff (pg : Postgres) (calls : List OutboxCall) :
    CompletedFinal pg calls ↔
      (boundary pg).Throughout (RespectsCompleted pg) calls {} :=
  ⟨respects_of_completed_final, completed_final_of_respects⟩

/-- A worker claims the effect and stalls, the sweep makes it pending again, a second
worker completes it, and then the first reports its failure. -/
def lateFailure : List OutboxCall :=
  let enqueued : Enqueued :=
    { tenantId := "tenant", executionId := ⟨1⟩, invocationId := "invocation"
      capabilityId := "capability", idempotencyKey := "key", request := []
      effectId := some "effect", fresh := ⟨2⟩ }
  let command := SideEffects.commandOf enqueued
  [.enqueue 0 enqueued, .claim 1 0, .recoverStale 400000000, .claim 400000001 0,
    .complete 400000002 command
      { effectId := "effect", idempotencyKey := "key", output := .str "done" } {},
    .fail 400000003 command [("error", .str "timeout")] {}]

theorem late_failure_reopens : ¬SideEffects.CompletedFinal .exact lateFailure := by
  intro final
  have present : (((SideEffects.boundary .exact).run (lateFailure.take 5) {}).outbox.lookup
      "effect").isSome = true := by decide +kernel
  obtain ⟨row, found⟩ := Option.isSome_iff_exists.mp present
  have status : (((SideEffects.boundary .exact).run (lateFailure.take 5) {}).outbox.lookup
      "effect").map (·.status) = some .completed := by decide +kernel
  have pending : (((SideEffects.boundary .exact).run lateFailure {}).outbox.lookup
      "effect").map (·.status) = some .pending := by decide +kernel
  rw [found, Option.map_some, Option.some.injEq] at status
  obtain ⟨last, there, completed, _⟩ :=
    (final (lateFailure.take 5) (lateFailure.drop 5) [] "effect" row rfl found status).1
  rw [List.take_append_drop] at there
  rw [there, Option.map_some, completed] at pending
  exact absurd pending (by decide)

namespace SideEffects

variable (pg : Postgres)

structure SameCommand (row next : OutboxRow) : Prop where
  invocation : next.invocationId = row.invocationId
  key : next.idempotencyKey = row.idempotencyKey
  request : next.request = row.request

structure Denotes (command : SideEffectCommand) (row : OutboxRow) (db : Database) :
    Prop where
  stored : db.outbox.lookup command.effectId = some row
  invocation : row.invocationId = command.invocationId
  key : row.idempotencyKey = command.idempotencyKey
  request : pg.column (Json.dumpsSorted (.obj command.request)) = .ok row.request
  only : ∀ effect other, db.outbox.lookup effect = some other →
    other.invocationId = command.invocationId → effect = command.effectId

/-- The status that `complete` or `fail` of the command leaves. -/
def settles (command : SideEffectCommand) : OutboxCall → Option OutboxStatus
  | .complete _ settled _ _ => if settled = command then some .completed else none
  | .fail _ settled _ _ => if settled = command then some .pending else none
  | _ => none

structure ChangesOnly (command : SideEffectCommand) (status : OutboxStatus)
    (before after : Database) : Prop where
  changed : ∃ row next, before.outbox.lookup command.effectId = some row ∧
    row.invocationId = command.invocationId ∧
    after.outbox.lookup command.effectId = some next ∧ next.status = status
  others : ∀ effect, effect ≠ command.effectId →
    after.outbox.lookup effect = before.outbox.lookup effect

/-- A command that `enqueue` returns denotes its row from then on, and completing or
failing it changes that row only. -/
def IdentityKept (before : List OutboxCall) (call : OutboxCall) : Prop :=
  ∀ command, (boundary pg).answer call ((boundary pg).run before {}) =
      .ok (.enqueued command) →
    ∀ later, (∃ row, Denotes pg command row
        ((boundary pg).run (before ++ [call] ++ later) {})) ∧
      ∀ settle status, settles command settle = some status → (boundary pg).answer settle
          ((boundary pg).run (before ++ [call] ++ later) {}) = .ok .done →
        ChangesOnly command status ((boundary pg).run (before ++ [call] ++ later) {})
          ((boundary pg).run (before ++ [call] ++ later ++ [settle]) {})

/-- An invocation that is stored is enqueued again with the effect, the key and the
request of its row, or with a request that cannot be written. -/
def Restages (call : OutboxCall) (db : Database) : Prop :=
  match call with
  | .enqueue _ enqueued => ∀ effect row req,
      db.outbox.lookup effect = some row → row.invocationId = enqueued.invocationId →
      pg.column (Json.dumpsSorted (.obj enqueued.request)) = .ok req →
      effect = effectIdOf enqueued ∧ row.idempotencyKey = enqueued.idempotencyKey ∧
        row.request = req
  | _ => True

/-- No invocation has two rows. -/
structure Sound (db : Database) : Prop where
  keyed : Keyed db
  single : ∀ first second left right, db.outbox.lookup first = some left →
    db.outbox.lookup second = some right → left.invocationId = right.invocationId →
    first = second

variable {pg}

theorem staged_iff {db : Database} (keyed : Keyed db) (callId : String) :
    db.staged callId = true ↔ ∃ effect row,
      db.outbox.lookup effect = some row ∧ row.invocationId = callId := by
  unfold Database.staged
  rw [List.any_eq_true]
  constructor
  · intro held
    obtain ⟨entry, mem, same⟩ := held
    exact ⟨entry.1, entry.2, Dict.lookup_of_mem keyed mem, by simpa using same⟩
  · intro held
    obtain ⟨effect, row, found, same⟩ := held
    exact ⟨(effect, row), Dict.mem_of_lookup found, by simpa using same⟩

variable {now : Int} {enqueued : Enqueued}

theorem enqueue_cases {db after : Database}
    (done : enqueue pg now enqueued db = .ok after) :
    ∃ row, pg.outboxRow now (commandOf enqueued) = .ok row ∧
      ((db.staged enqueued.invocationId = true ∧ after = db) ∨
      (db.staged enqueued.invocationId = false ∧
      db.outbox.lookup (effectIdOf enqueued) = none ∧
      after = { db with
      outbox := db.outbox ++ [(effectIdOf enqueued, row)] })) := by
  obtain ⟨row, made, inserted⟩ := bind_ok done
  have named : row.invocationId = enqueued.invocationId := by
    obtain ⟨req, _, built⟩ := bind_ok made
    rw [← Except.ok.inj built]
    rfl
  refine ⟨row, made, ?_⟩
  unfold Database.insertOutboxOnce Database.insertOutbox at inserted
  rw [named] at inserted
  split_ifs at inserted with staged taken keyTaken
  · exact .inl ⟨staged, (Except.ok.inj inserted).symm⟩
  · right
    rw [Option.isSome_iff_ne_none, not_not] at taken
    exact ⟨by simpa using staged, taken, (Except.ok.inj inserted).symm⟩

theorem outbox_row_command {row : OutboxRow}
    (made : pg.outboxRow now (commandOf enqueued) = .ok row) :
    row.invocationId = enqueued.invocationId ∧ row.idempotencyKey = enqueued.idempotencyKey ∧
      pg.column (Json.dumpsSorted (.obj enqueued.request)) = .ok row.request := by
  obtain ⟨req, written, built⟩ := bind_ok made
  rw [← Except.ok.inj built]
  exact ⟨rfl, rfl, written⟩

theorem same_command_refl (row : OutboxRow) : SameCommand row row := ⟨rfl, rfl, rfl⟩

theorem outbox_next (pg : Postgres) {db : Database} (keyed : Keyed db)
    (call : OutboxCall) :
    (∃ effect row, db.staged row.invocationId = false ∧
      db.outbox.lookup effect = none ∧
      (boundary pg).next call db =
      { db with outbox := db.outbox ++ [(effect, row)] }) ∨
    ∀ effect, ∃ change : OutboxRow → OutboxRow, (∀ row, SameCommand row (change row)) ∧
      ((boundary pg).next call db).outbox.lookup effect =
      (db.outbox.lookup effect).map change := by
  have unchanged : ∀ effect, ∃ change : OutboxRow → OutboxRow,
      (∀ row, SameCommand row (change row)) ∧
        db.outbox.lookup effect = (db.outbox.lookup effect).map change :=
    fun effect => ⟨id, same_command_refl, by simp⟩
  have updated : ∀ (target : String) (change : OutboxRow → OutboxRow),
      (∀ row, SameCommand row (change row)) → ∀ effect, ∃ single : OutboxRow → OutboxRow,
        (∀ row, SameCommand row (single row)) ∧
          (update target change db).outbox.lookup effect =
            (db.outbox.lookup effect).map single := by
    intro target change same effect
    rw [lookup_update]
    by_cases aimed : effect = target
    · exact ⟨change, same, by rw [if_pos aimed]⟩
    · exact ⟨id, same_command_refl, by rw [if_neg aimed]; simp⟩
  cases call with
  | enqueue now enqueued =>
    cases done : enqueue pg now enqueued db with
    | error err =>
      right
      simpa only [next, boundary, done] using unchanged
    | ok after =>
      simp only [next, boundary, done]
      obtain ⟨row, made, out⟩ := enqueue_cases done
      cases out with
      | inl kept =>
        rw [kept.2]
        exact .inr unchanged
      | inr staged =>
        left
        refine ⟨effectIdOf enqueued, row, ?_, staged.2.1, staged.2.2⟩
        rw [(outbox_row_command made).1]
        exact staged.1
  | claim now pick =>
    right
    cases picked : candidate? now pick db with
    | none => simpa only [next, boundary, picked] using unchanged
    | some entry =>
      obtain ⟨chosen, row⟩ := entry
      have found := (candidate_found keyed picked).1
      have taken := updated chosen (claimedRow now) fun row => ⟨rfl, rfl, rfl⟩
      simpa only [next, boundary, picked, update, found] using taken
  | complete now command res fence =>
    right
    cases writes : completion pg now res fence with
    | error err => simpa only [next, boundary, writes] using unchanged
    | ok output =>
      simp only [next, boundary, writes]
      exact updated command.effectId _ fun row => ⟨rfl, rfl, rfl⟩
  | fail now command err fence =>
    right
    cases writes : failure pg now err fence with
    | error err => simpa only [next, boundary, writes] using unchanged
    | ok doc =>
      simp only [next, boundary, writes]
      exact updated command.effectId _ fun row => ⟨rfl, rfl, rfl⟩
  | recoverStale now =>
    right
    intro effect
    refine ⟨recoveredRow now, ?_, ?_⟩
    · intro row
      unfold recoveredRow
      split_ifs <;> exact ⟨rfl, rfl, rfl⟩
    · simp only [next, boundary, Dict.lookup_map_values]

theorem sound_next (pg : Postgres) (call : OutboxCall) (db : Database)
    (sound : Sound db) :
    Sound ((boundary pg).next call db) := by
  apply Sound.mk (keyed_next call db sound.keyed)
  intro first second left right foundLeft foundRight same
  cases outbox_next pg sound.keyed call with
  | inl staged =>
    obtain ⟨effect, row, unstaged, absent, after⟩ := staged
    have elsewhere : ∀ other held, db.outbox.lookup other = some held →
        held.invocationId ≠ row.invocationId := by
      intro other held found named
      have present := (staged_iff sound.keyed row.invocationId).mpr ⟨other, held, found, named⟩
      simp [unstaged] at present
    rw [after] at foundLeft foundRight
    simp only [Dict.lookup_append_fresh absent] at foundLeft foundRight
    split_ifs at foundLeft foundRight with atFirst atSecond atSecond
    · rw [atFirst, atSecond]
    · rw [← Option.some.inj foundLeft] at same
      exact absurd same.symm (elsewhere second right foundRight)
    · rw [← Option.some.inj foundRight] at same
      exact absurd same (elsewhere first left foundLeft)
    · exact sound.single first second left right foundLeft foundRight same
  | inr kept =>
    obtain ⟨change, same₁, moved⟩ := kept first
    obtain ⟨other, same₂, alsoMoved⟩ := kept second
    rw [moved, Option.map_eq_some_iff] at foundLeft
    rw [alsoMoved, Option.map_eq_some_iff] at foundRight
    obtain ⟨earlier, found, rewritten⟩ := foundLeft
    obtain ⟨earlierRight, foundOther, rewrittenRight⟩ := foundRight
    apply sound.single first second earlier earlierRight found foundOther
    rw [← (same₁ earlier).invocation, ← (same₂ earlierRight).invocation, rewritten,
      rewrittenRight, same]

theorem run_sound (pg : Postgres) (calls : List OutboxCall) :
    Sound ((boundary pg).run calls {}) := by
  apply run_invariant (sound_next pg)
  have keyed : Keyed {} := List.nodup_nil
  apply Sound.mk keyed
  intro first second left right found
  cases found

variable {command : SideEffectCommand}

theorem denotes_next {row : OutboxRow} (call : OutboxCall)
    {db : Database} (sound : Sound db)
    (denotes : Denotes pg command row db) :
    ∃ next, Denotes pg command next ((boundary pg).next call db) := by
  have after := sound_next pg call db sound
  have kept : ∃ next, ((boundary pg).next call db).outbox.lookup command.effectId =
      some next ∧ SameCommand row next := by
    cases outbox_next pg sound.keyed call with
    | inl staged =>
      obtain ⟨effect, fresh, _, absent, moved⟩ := staged
      refine ⟨row, ?_, same_command_refl row⟩
      rw [moved, Dict.lookup_append, denotes.stored]
      rfl
    | inr kept =>
      obtain ⟨change, same, moved⟩ := kept command.effectId
      exact ⟨change row, by rw [moved, denotes.stored]; rfl, same row⟩
  obtain ⟨next, found, same⟩ := kept
  have invocation : next.invocationId = command.invocationId :=
    same.invocation.trans denotes.invocation
  refine ⟨next, found, invocation, same.key.trans denotes.key,
    by rw [same.request]; exact denotes.request, ?_⟩
  intro effect other held named
  exact after.single effect command.effectId other next held found (named.trans invocation.symm)

theorem denotes_run (later : List OutboxCall) {db : Database} (sound : Sound db)
    (denotes : ∃ row, Denotes pg command row db) :
    ∃ row, Denotes pg command row ((boundary pg).run later db) := by
  induction later generalizing db with
  | nil => exact denotes
  | cons call rest ih =>
    obtain ⟨row, held⟩ := denotes
    exact ih (sound_next pg call db sound) (denotes_next call sound held)

theorem changes_only {row : OutboxRow} {db : Database}
    (denotes : Denotes pg command row db) {settle : OutboxCall}
    {status : OutboxStatus} (aimed : settles command settle = some status)
    (done : (boundary pg).answer settle db = .ok .done) :
    ChangesOnly command status db ((boundary pg).next settle db) := by
  have moved : ∀ change : OutboxRow → OutboxRow, (change row).status = status →
      ChangesOnly command status db (update command.effectId change db) := by
    intro change becomes
    constructor
    · exact ⟨row, change row, denotes.stored, denotes.invocation,
        by rw [lookup_update, if_pos rfl, denotes.stored]; rfl, becomes⟩
    · intro effect other
      rw [lookup_update, if_neg other]
  cases settle with
  | complete now settled res fence =>
    simp only [settles] at aimed
    split_ifs at aimed with same
    subst same
    cases writes : completion pg now res fence with
    | error err => simp [answer, boundary, writes] at done
    | ok output =>
      simp only [next, boundary, writes]
      exact moved _ (Option.some.inj aimed)
  | fail now settled err fence =>
    simp only [settles] at aimed
    split_ifs at aimed with same
    subst same
    cases writes : failure pg now err fence with
    | error raised => simp [answer, boundary, writes] at done
    | ok doc =>
      simp only [next, boundary, writes]
      exact moved _ (Option.some.inj aimed)
  | _ => simp [settles] at aimed

theorem enqueued_answer {call : OutboxCall} {db : Database} {command : SideEffectCommand}
    (answered : (boundary pg).answer call db = .ok (.enqueued command)) :
    ∃ now enqueued after, call = .enqueue now enqueued ∧ command = commandOf enqueued ∧
      enqueue pg now enqueued db = .ok after := by
  cases call with
  | enqueue now enqueued =>
    cases done : enqueue pg now enqueued db with
    | error err => simp [answer, boundary, done] at answered
    | ok after =>
      simp only [answer, boundary, done, Except.ok.injEq, OutboxAnswer.enqueued.injEq] at answered
      exact ⟨now, enqueued, after, rfl, answered.symm, done⟩
  | claim now pick =>
    cases picked : candidate? now pick db with
    | none => simp [answer, boundary, picked] at answered
    | some entry =>
      simp only [answer, boundary, picked] at answered
      cases described : commandIn entry.1 entry.2 <;>
        simp [described, Except.map] at answered
  | complete | fail =>
    simp only [answer, boundary] at answered
    split at answered <;> simp at answered
  | recoverStale now => simp [answer, boundary] at answered

theorem restages_of_denotes {db : Database} (keyed : Keyed db)
    (kept : ∀ after, enqueue pg now enqueued db = .ok after →
      ∃ row, Denotes pg (commandOf enqueued) row after) :
    Restages pg (.enqueue now enqueued) db := by
  intro effect row req found named written
  have staged : db.staged enqueued.invocationId = true :=
    (staged_iff keyed _).mpr ⟨effect, row, found, named⟩
  have done : enqueue pg now enqueued db = .ok db := by
    have made : pg.outboxRow now (commandOf enqueued) = .ok {
        tenantId := enqueued.tenantId, executionId := enqueued.executionId
        invocationId := enqueued.invocationId, capabilityId := enqueued.capabilityId
        idempotencyKey := enqueued.idempotencyKey, request := req
        createdAt := now, updatedAt := now } := by
      unfold Postgres.outboxRow
      rw [show (commandOf enqueued).request = enqueued.request from rfl, written]
      rfl
    unfold enqueue
    rw [made]
    simp only [bind, Except.bind, Database.insertOutboxOnce, staged, if_true]
  obtain ⟨own, denotes⟩ := kept db done
  have same := denotes.only effect row found named
  have stored := denotes.stored
  rw [← same, found, Option.some.injEq] at stored
  subst stored
  have requested : pg.column (Json.dumpsSorted (.obj enqueued.request)) =
      .ok row.request := denotes.request
  rw [written, Except.ok.injEq] at requested
  exact ⟨same, denotes.key, requested.symm⟩

theorem denotes_of_restages {db after : Database}
    (sound : Sound db) (done : enqueue pg now enqueued db = .ok after)
    (restages : Restages pg (.enqueue now enqueued) db) :
    ∃ row, Denotes pg (commandOf enqueued) row after := by
  obtain ⟨row, made, out⟩ := enqueue_cases done
  obtain ⟨named, keyed, written⟩ := outbox_row_command made
  cases out with
  | inl kept =>
    obtain ⟨effect, held, found, same⟩ := (staged_iff sound.keyed _).mp kept.1
    obtain ⟨own, key, req⟩ := restages effect held row.request found same written
    rw [kept.2]
    refine ⟨held, by rw [own] at found; exact found, same, key,
      by rw [req]; exact written, ?_⟩
    intro other stored foundOther alike
    have single := sound.single other effect stored held foundOther found (alike.trans same.symm)
    rw [single, own]
    rfl
  | inr staged =>
    obtain ⟨unstaged, absent, grown⟩ := staged
    rw [grown]
    refine ⟨row, ?_, named, keyed, written, ?_⟩
    · change (db.outbox ++ [(effectIdOf enqueued, row)]).lookup (effectIdOf enqueued) = _
      rw [Dict.lookup_append_fresh absent, if_pos rfl]
    · intro other stored found alike
      by_contra different
      have elsewhere : other ≠ effectIdOf enqueued := different
      change (db.outbox ++ [(effectIdOf enqueued, row)]).lookup other = _ at found
      rw [Dict.lookup_append_fresh absent, if_neg elsewhere] at found
      have present := (staged_iff sound.keyed enqueued.invocationId).mpr
        ⟨other, stored, found, alike⟩
      simp [unstaged] at present

theorem identity_kept_iff (before : List OutboxCall) (call : OutboxCall)
    (sound : Sound ((boundary pg).run before {})) :
    IdentityKept pg before call ↔
      Restages pg call ((boundary pg).run before {}) := by
  constructor
  · intro kept
    cases call with
    | enqueue now enqueued =>
      apply restages_of_denotes sound.keyed
      intro after done
      have denotes := (kept (commandOf enqueued) (by simp only [answer, boundary, done]) []).1
      rw [List.append_nil, run_concat] at denotes
      simpa only [next, boundary, done] using denotes
    | _ => trivial
  · intro restages command answered later
    obtain ⟨now, enqueued, after, made, same, done⟩ := enqueued_answer answered
    subst made same
    have reached : (boundary pg).next (.enqueue now enqueued)
        ((boundary pg).run before {}) = after := by
      simp only [next, boundary, done]
    have denotes : ∃ row, Denotes pg (commandOf enqueued) row
        ((boundary pg).run (before ++ [.enqueue now enqueued] ++ later) {}) := by
      rw [run_append, run_concat]
      apply denotes_run later (sound_next pg _ _ sound)
      rw [reached]
      exact denotes_of_restages sound done restages
    apply And.intro denotes
    intro settle status aimed settled
    obtain ⟨row, held⟩ := denotes
    rw [run_concat]
    exact changes_only held aimed settled

end SideEffects

open SideEffects

/-- In a run of the outbox every command that `enqueue` returns is the stored row of its
invocation from then on, exactly when no stored invocation is enqueued again with
another effect, key or request. -/
theorem single_command_identity_iff (pg : Postgres) (calls : List OutboxCall) :
    Historically (IdentityKept pg) calls ↔
      (boundary pg).Throughout (Restages pg) calls {} := by
  apply historically_iff_throughout fun _ db => Sound db
  · intro before call sound _
    exact sound_next pg call _ sound
  · exact run_sound pg []
  · exact identity_kept_iff

/-- The worker crashes after `enqueue` and enqueues the invocation again. -/
def enqueuedTwice : List OutboxCall :=
  let enqueued : Enqueued :=
    { tenantId := "tenant", executionId := ⟨1⟩, invocationId := "invocation"
      capabilityId := "capability", idempotencyKey := "key", request := [], fresh := ⟨2⟩ }
  [.enqueue 0 enqueued, .enqueue 1 { enqueued with fresh := ⟨3⟩ }]

/-- The second command is not stored, and completing it changes no row. -/
theorem second_enqueue_unstored :
    ¬Historically (SideEffects.IdentityKept .exact) enqueuedTwice ∧
      ((boundary .exact).run enqueuedTwice {}).outbox.length = 1 ∧
      ((boundary .exact).run enqueuedTwice {}).outbox.lookup
      (Uuid.str ⟨3⟩) = none := by
  have single : ((boundary .exact).run enqueuedTwice {}).outbox.length = 1 := by
    decide +kernel
  have absent : ((boundary .exact).run enqueuedTwice {}).outbox.lookup (Uuid.str ⟨3⟩) = none := by
    decide +kernel
  refine ⟨?_, single, absent⟩
  intro ident
  have kept := ident (enqueuedTwice.take 1) _ [] rfl _ rfl []
  obtain ⟨row, denotes⟩ := kept.1
  have stored : ((boundary .exact).run enqueuedTwice {}).outbox.lookup
      (Uuid.str ⟨3⟩) = some row := denotes.stored
  rw [absent] at stored
  cases stored

end Ois.Kernel
