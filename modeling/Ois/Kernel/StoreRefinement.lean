import Ois.Library.Machine
import Ois.Infrastructure.Tables
import Ois.Kernel.Idempotency

/-!
# Four idempotency stores and one map

The stores of `idempotency.py`, `postgres_stores.py` and `redis_coordinator.py` behind one
protocol. What they are for is a map in which the first terminal result put under a key stays.
-/

namespace Ois.Kernel

open Ois.Library Ois.Infrastructure InvocationResult Machine Jsonb

structure RedisRecord where
  text : Json.Text
  expiresAt : Int
  deriving DecidableEq, Repr

/-- The process-local and the SQLite store, the table of the PostgreSQL store, and the
records of the Redis store with the lifetime that it gives them. -/
inductive ResultStore where
  | kernel (store : IdempotencyStore)
  | postgres (server : Postgres) (rows : Dict String Json)
  | redis (ttlSec : Int) (records : Dict String RedisRecord)

open ResultStore

inductive StoreOperation where
  | get (callId : String)
  | put (callId : String) (res : InvocationResult)
  deriving DecidableEq, Repr

def StoreOperation.key : StoreOperation → String
  | get callId => callId
  | put callId _ => callId

/-- An operation, at a moment of the Redis clock. -/
structure StoreCall where
  now : Int
  operation : StoreOperation
  deriving DecidableEq, Repr

inductive StoreAnswer where
  | found (res : Option InvocationResult)
  | done
  deriving DecidableEq, Repr

namespace PostgresIdempotencyStore

variable (server : Postgres)

/-- A text for a `TEXT` column. -/
def textColumn (text : String) : Except PyError String :=
  match holdText text with
  | some held => .ok held
  | none => .error ⟨.other "DataError", "PostgreSQL text fields cannot contain NUL (0x00) bytes"⟩

/-- The result in a document that `put` wrote. -/
def resultIn (doc : Json) : Except PyError InvocationResult :=
  match doc.asMembers?.bind fromDict with
  | some res => .ok res
  | none => .error CheckpointStore.illTyped

def get (callId : String) (rows : Dict String Json) :
    Except PyError (Option InvocationResult) := do
  let key ← textColumn callId
  match rows.lookup key with
  | none => return none
  | some doc => (resultIn doc).map some

def put (callId : String) (res : InvocationResult) (rows : Dict String Json) :
    Except PyError (Dict String Json) :=
  if res.isTerminal then do
    let key ← textColumn callId
    let doc ← server.column (resultJson res)
    return rows.setdefault key doc
  else .ok rows

end PostgresIdempotencyStore

namespace RedisIdempotencyStore

/-- `check_idempotency_cache`: a record that has expired is not there. -/
def checkIdempotencyCache (now : Int) (callId : String)
    (records : Dict String RedisRecord) : Option RedisRecord :=
  (records.lookup callId).filter fun record => decide (now ≤ record.expiresAt)

def get (now : Int) (callId : String) (records : Dict String RedisRecord) :
    Except PyError (Option InvocationResult) :=
  match checkIdempotencyCache now callId records with
  | none => .ok none
  | some record => (PostgresIdempotencyStore.resultIn (Json.loads record.text)).map some

def ttlInvalid : PyError := ⟨.valueError, "ttl_sec must be positive"⟩

/-- `write_idempotency_cache`: the script writes unless there is a record. -/
def writeIdempotencyCache (now ttlSec : Int) (callId : String) (text : Json.Text)
    (records : Dict String RedisRecord) : Except PyError (Dict String RedisRecord) :=
  if ttlSec ≤ 0 then .error ttlInvalid
  else if (checkIdempotencyCache now callId records).isSome then .ok records
  else .ok (records.set callId { text := text, expiresAt := now + ttlSec * 1000 })

def put (now ttlSec : Int) (callId : String) (res : InvocationResult)
    (records : Dict String RedisRecord) : Except PyError (Dict String RedisRecord) :=
  if res.isTerminal then
    writeIdempotencyCache now ttlSec callId (resultJson res) records
  else .ok records

end RedisIdempotencyStore

namespace ResultStore

/-- What `put` leaves, with how it ended. -/
def settle {Shape : Type} (wrap : Shape → ResultStore) (before : Shape) :
    Except PyError Shape → ResultStore × Except PyError StoreAnswer
  | .ok after => (wrap after, .ok .done)
  | .error err => (wrap before, .error err)

def answering : Machine StoreCall ResultStore (Except PyError StoreAnswer)
  | ⟨_, .get callId⟩, kernel store =>
    (kernel store, .ok (.found (store.get callId)))
  | ⟨_, .put callId res⟩, kernel store =>
    (kernel (store.put callId res), .ok .done)
  | ⟨_, .get callId⟩, postgres server rows =>
    (postgres server rows, (PostgresIdempotencyStore.get callId rows).map .found)
  | ⟨_, .put callId res⟩, postgres server rows =>
    settle (postgres server) rows (PostgresIdempotencyStore.put server callId res rows)
  | ⟨now, .get callId⟩, redis ttlSec records =>
    (redis ttlSec records, (RedisIdempotencyStore.get now callId records).map .found)
  | ⟨now, .put callId res⟩, redis ttlSec records =>
    settle (redis ttlSec) records (RedisIdempotencyStore.put now ttlSec callId res records)

end ResultStore

/-- The map that the stores stand for. -/
abbrev FirstResults := String → Option InvocationResult

namespace FirstResults

def put (callId : String) (res : InvocationResult) (results : FirstResults) :
    FirstResults := fun key =>
  (results key).or (if key = callId ∧ res.isTerminal = true then some res else none)

def answering : Machine StoreCall FirstResults StoreAnswer
  | ⟨_, .get callId⟩, results => (results, .found (results callId))
  | ⟨_, .put callId res⟩, results => (put callId res results, .done)

end FirstResults

/-- Both found nothing, or results with the same fields, where mappings count as equal
whatever the order of their members. -/
def SameAnswer : Except PyError StoreAnswer → StoreAnswer → Prop
  | .ok (.found left), .found right =>
    left.map sorted = right.map sorted
  | .ok .done, .done => True
  | _, _ => False

instance : (left : Except PyError StoreAnswer) → (right : StoreAnswer) →
    Decidable (SameAnswer left right)
  | .ok (.found left), .found right => inferInstanceAs (Decidable
      (left.map sorted = right.map sorted))
  | .ok .done, .done => .isTrue trivial
  | .ok (.found _), .done | .ok .done, .found _ | .error _, _ => .isFalse id

/-- The stores before anything is put. -/
inductive StoreKind where
  | inMemory
  | sqlite
  | postgres (server : Postgres)
  | redis (ttlSec : Int)

def StoreKind.empty : StoreKind → ResultStore
  | inMemory => .kernel (.inMemory [])
  | sqlite => .kernel (.sqlite {})
  | postgres server => .postgres server []
  | redis ttlSec => .redis ttlSec []

/-- The call agrees with what its store is made for. -/
def Fits (call : StoreCall) : ResultStore → Prop
  | .kernel (.inMemory _) =>
    ∀ callId res, call.operation = .put callId res → res.isTerminal = true
  | .kernel (.sqlite _) => True
  | .postgres server _ =>
    match call.operation with
    | .get callId => (holdText callId).isSome
    | .put callId res => (holdText callId).isSome ∧
        hold server.numeric (resultJson res).document = some (resultJson res).document
  | .redis ttlSec records =>
    0 < ttlSec ∧ ∀ record, records.lookup call.operation.key = some record →
      call.now ≤ record.expiresAt

def Represents : ResultStore → FirstResults → Prop
  | .kernel store, results => ∀ key, (store.get key).map sorted = (results key).map sorted
  | .postgres _ rows, results => ∀ key,
      rows.lookup key = (results key).map fun res => (resultJson res).document
  | .redis _ records, results => ∀ key,
      (records.lookup key).map RedisRecord.text = (results key).map resultJson

namespace StoreRefinement

variable {now : Int} {operation : StoreOperation} {results : FirstResults}

theorem result_in_written (res : InvocationResult) :
    PostgresIdempotencyStore.resultIn (resultJson res).document = .ok res.sorted := by
  simp [PostgresIdempotencyStore.resultIn, resultJson, Json.dumpsSorted, Json.asMembers?,
    from_dict_sort_members]

theorem same_found (stored : Option InvocationResult) :
    SameAnswer (.ok (.found (stored.map sorted))) (.found stored) := by
  cases stored with
  | none => rfl
  | some res =>
    simp only [SameAnswer, Option.map_some, sorted_idempotent]

variable {callId : String} {res : InvocationResult} {records : Dict String RedisRecord}

theorem put_unkept (unkept : ¬res.isTerminal = true) (results : FirstResults) :
    FirstResults.put callId res results = results := by
  funext key
  simp [FirstResults.put, unkept]

theorem put_kept (terminal : res.isTerminal = true) (results : FirstResults) (key : String) :
    FirstResults.put callId res results key =
      (results key).or (if key = callId then some res else none) := by
  simp [FirstResults.put, terminal]

theorem kernel_step {store : IdempotencyStore} (fits : Fits ⟨now, operation⟩ (.kernel store))
    (represents : Represents (.kernel store) results) :
    SameAnswer (ResultStore.answering.answer ⟨now, operation⟩ (.kernel store))
      (FirstResults.answering.answer ⟨now, operation⟩ results) ∧
      Represents (ResultStore.answering.next ⟨now, operation⟩ (.kernel store))
      (FirstResults.answering.next ⟨now, operation⟩ results) := by
  cases operation with
  | get callId => exact ⟨represents callId, represents⟩
  | put callId res =>
    refine ⟨trivial, ?_⟩
    simp only [next, ResultStore.answering, FirstResults.answering]
    by_cases terminal : res.isTerminal = true
    · intro key
      rw [IdempotencyStore.get_put store callId key res terminal,
        put_kept terminal, Option.map_or, Option.map_or, represents key]
      split_ifs <;> simp
    · rw [put_unkept terminal]
      cases store with
      | inMemory entries => exact absurd (fits callId res rfl) terminal
      | sqlite table =>
        simp only [IdempotencyStore.put, terminal]
        exact represents

theorem text_column_of_held {text : String} (held : (holdText text).isSome) :
    PostgresIdempotencyStore.textColumn text = .ok text := by
  obtain ⟨same, took⟩ := Option.isSome_iff_exists.mp held
  simp only [PostgresIdempotencyStore.textColumn, took, hold_text_eq took]

theorem postgres_reads {server : Postgres} {rows : Dict String Json}
    (held : (holdText callId).isSome)
    (represents : Represents (.postgres server rows) results) :
    PostgresIdempotencyStore.get callId rows = .ok ((results callId).map sorted) := by
  simp only [PostgresIdempotencyStore.get, text_column_of_held held, bind, Except.bind,
    represents callId]
  cases results callId with
  | none => rfl
  | some res => simp [result_in_written, Except.map]

theorem postgres_step {server : Postgres} {rows : Dict String Json}
    (fits : Fits ⟨now, operation⟩ (.postgres server rows))
    (represents : Represents (.postgres server rows) results) :
    SameAnswer (ResultStore.answering.answer ⟨now, operation⟩ (.postgres server rows))
      (FirstResults.answering.answer ⟨now, operation⟩ results) ∧
      Represents (ResultStore.answering.next ⟨now, operation⟩ (.postgres server rows))
      (FirstResults.answering.next ⟨now, operation⟩ results) := by
  cases operation with
  | get callId =>
    have reads := postgres_reads fits represents
    refine ⟨?_, represents⟩
    simp only [answer, ResultStore.answering, FirstResults.answering, reads]
    exact same_found (results callId)
  | put callId res =>
    by_cases terminal : res.isTerminal = true
    · have writes : PostgresIdempotencyStore.put server callId res rows =
          .ok (rows.setdefault callId (resultJson res).document) := by
        simp only [PostgresIdempotencyStore.put, terminal, if_true,
          text_column_of_held fits.1, bind, Except.bind, Postgres.column, fits.2]
        rfl
      simp only [answer, next, ResultStore.answering, FirstResults.answering, writes, settle]
      refine ⟨trivial, ?_⟩
      intro key
      rw [Dict.lookup_setdefault, put_kept terminal, Option.map_or, represents key]
      split_ifs <;> simp
    · have writes : PostgresIdempotencyStore.put server callId res rows = .ok rows := by
        simp only [PostgresIdempotencyStore.put, terminal]
        rfl
      simp only [answer, next, ResultStore.answering, FirstResults.answering,
        writes, settle, put_unkept terminal]
      exact ⟨trivial, represents⟩

theorem check_of_alive
    (alive : ∀ record, records.lookup callId = some record → now ≤ record.expiresAt) :
    RedisIdempotencyStore.checkIdempotencyCache now callId records =
      records.lookup callId := by
  unfold RedisIdempotencyStore.checkIdempotencyCache
  cases held : records.lookup callId with
  | none => rfl
  | some record => simp [Option.filter, alive record held]

variable {ttlSec : Int}

theorem redis_reads
    (alive : ∀ record, records.lookup callId = some record → now ≤ record.expiresAt)
    (represents : Represents (.redis ttlSec records) results) :
    RedisIdempotencyStore.get now callId records =
      .ok ((results callId).map sorted) := by
  have here := represents callId
  simp only [RedisIdempotencyStore.get, check_of_alive alive]
  cases held : records.lookup callId with
  | none =>
    rw [held] at here
    have absent : results callId = none := by simpa using here.symm
    rw [absent]
    rfl
  | some record =>
    rw [held] at here
    cases there : results callId with
    | none => simp [there] at here
    | some first =>
      rw [there, Option.map_some, Option.map_some, Option.some.injEq] at here
      simp only [here, Json.loads, result_in_written]
      rfl

theorem redis_writes (positive : 0 < ttlSec)
    (alive : ∀ record, records.lookup callId = some record → now ≤ record.expiresAt)
    (terminal : res.isTerminal = true) :
    ∃ after, RedisIdempotencyStore.put now ttlSec callId res records = .ok after ∧
      ∀ key, after.lookup key = (records.lookup key).or (if key = callId then
      some { text := resultJson res, expiresAt := now + ttlSec * 1000 } else none) := by
  simp only [RedisIdempotencyStore.put, terminal, if_true,
    RedisIdempotencyStore.writeIdempotencyCache, if_neg (not_le.mpr positive),
    check_of_alive alive]
  cases held : records.lookup callId with
  | some record =>
    refine ⟨records, rfl, ?_⟩
    intro key
    split_ifs with same
    · rw [same, held]
      rfl
    · rw [Option.or_none]
  | none =>
    refine ⟨_, rfl, ?_⟩
    intro key
    rw [Dict.lookup_set]
    split_ifs with same
    · rw [same, held]
      rfl
    · rw [Option.or_none]

theorem redis_step (fits : Fits ⟨now, operation⟩ (.redis ttlSec records))
    (represents : Represents (.redis ttlSec records) results) :
    SameAnswer (ResultStore.answering.answer ⟨now, operation⟩ (.redis ttlSec records))
      (FirstResults.answering.answer ⟨now, operation⟩ results) ∧
      Represents (ResultStore.answering.next ⟨now, operation⟩ (.redis ttlSec records))
      (FirstResults.answering.next ⟨now, operation⟩ results) := by
  obtain ⟨positive, alive⟩ := fits
  cases operation with
  | get callId =>
    have reads : RedisIdempotencyStore.get now callId records = _ :=
      redis_reads alive represents
    refine ⟨?_, represents⟩
    simp only [answer, ResultStore.answering, FirstResults.answering, reads]
    exact same_found (results callId)
  | put callId res =>
    by_cases terminal : res.isTerminal = true
    · have living : ∀ record, records.lookup callId = some record →
          now ≤ record.expiresAt := alive
      obtain ⟨after, writes, looks⟩ := redis_writes positive living terminal
      simp only [answer, next, ResultStore.answering, FirstResults.answering, writes, settle]
      refine ⟨trivial, ?_⟩
      intro key
      rw [looks, put_kept terminal, Option.map_or, Option.map_or, represents key]
      split_ifs <;> simp
    · have writes : RedisIdempotencyStore.put now ttlSec callId res records =
          .ok records := by
        simp only [RedisIdempotencyStore.put, terminal]
        rfl
      simp only [answer, next, ResultStore.answering, FirstResults.answering,
        writes, settle, put_unkept terminal]
      exact ⟨trivial, represents⟩

theorem store_step (call : StoreCall) (store : ResultStore) (results : FirstResults)
    (fits : Fits call store) (represents : Represents store results) :
    SameAnswer (ResultStore.answering.answer call store)
      (FirstResults.answering.answer call results) ∧
      Represents (ResultStore.answering.next call store)
      (FirstResults.answering.next call results) := by
  obtain ⟨now, operation⟩ := call
  cases store with
  | kernel store => exact kernel_step fits represents
  | postgres server rows => exact postgres_step fits represents
  | redis ttlSec records => exact redis_step fits represents

theorem empty_represents (kind : StoreKind) : Represents kind.empty fun _ => none := by
  cases kind <;> exact fun key => rfl

end StoreRefinement

/-- Every store answers a run of operations as the map does in which the first terminal
result of a key wins, as long as its operations fit it. -/
theorem stores_refine_first_results (kind : StoreKind) (calls : List StoreCall)
    (fits : ResultStore.answering.Throughout Fits calls kind.empty) :
    Machine.Agrees SameAnswer ResultStore.answering FirstResults.answering calls
      kind.empty fun _ => none :=
  agrees_of_simulation StoreRefinement.store_step fits (StoreRefinement.empty_represents kind)

def putResult (status : InvocationStatus) (output : Json) : StoreOperation :=
  .put "key" { invocationId := "invocation", capabilityId := "capability", status := status
               output := output }

/-- A result is put in Redis for a minute and read a second later. -/
theorem redis_read_in_time :
    ResultStore.answering.Throughout Fits
      [⟨0, putResult .succeeded .null⟩, ⟨1000, .get "key"⟩] (StoreKind.redis 60).empty ∧
      Machine.Agrees SameAnswer ResultStore.answering FirstResults.answering
      [⟨0, putResult .succeeded .null⟩, ⟨1000, .get "key"⟩] (StoreKind.redis 60).empty
      fun _ => none := by
  have fits : ResultStore.answering.Throughout Fits
      [⟨0, putResult .succeeded .null⟩, ⟨1000, .get "key"⟩] (StoreKind.redis 60).empty := by
    refine ⟨⟨by decide, ?_⟩, ⟨by decide, ?_⟩, trivial⟩
    · intro record held
      cases held
    · intro record held
      cases held
      decide
  exact ⟨fits, stores_refine_first_results (.redis 60) _ fits⟩

/-- A record of Redis expires; the process-local store keeps a failed result; PostgreSQL
refuses the character U+0000. -/
theorem stores_differ_from_first_results :
    ¬Machine.Agrees SameAnswer ResultStore.answering FirstResults.answering
      [⟨0, putResult .succeeded .null⟩, ⟨2000, .get "key"⟩] (StoreKind.redis 1).empty
      (fun _ => none) ∧
      ¬Machine.Agrees SameAnswer ResultStore.answering FirstResults.answering
      [⟨0, putResult .failed .null⟩, ⟨0, .get "key"⟩] StoreKind.inMemory.empty
      (fun _ => none) ∧
      ¬Machine.Agrees SameAnswer ResultStore.answering FirstResults.answering
      [⟨0, putResult .succeeded (.str (String.ofList [Char.ofNat 0]))⟩]
      (StoreKind.postgres .exact).empty (fun _ => none) := by
  refine ⟨?_, ?_, ?_⟩
  · intro agrees
    have same := agrees [⟨0, putResult .succeeded .null⟩] ⟨2000, .get "key"⟩ [] rfl
    revert same
    decide +kernel
  · intro agrees
    have same := agrees [⟨0, putResult .failed .null⟩] ⟨0, .get "key"⟩ [] rfl
    revert same
    decide +kernel
  · intro agrees
    have same := agrees [] ⟨0, putResult .succeeded (.str (String.ofList [Char.ofNat 0]))⟩ [] rfl
    revert same
    decide +kernel

end Ois.Kernel
