import Ois.Infrastructure.Tables
import Ois.Kernel.Postgres

/-!
# Claims and results in one table

The rows of `ois_idempotency_results` are written by two stores: as claims, with an empty result,
and as results. Neither overwrites a row of the other. A run is any list of calls of both stores
from an empty table.
-/

namespace Ois.Kernel

open Ois.Library Ois.Infrastructure Machine InvocationResult Dict Database

/-- `scope` is the tenant to which the store of the caller is bound. -/
inductive ResultCall where
  | claim (claim : InvocationClaim)
  | complete (callId : String) (res : Members)
  | release (callId : String)
  | put (scope : Option Uuid) (callId : String) (execId : Uuid) (tenant : String)
      (res : InvocationResult)
  | get (callId : String)
  deriving DecidableEq, Repr

inductive ResultAnswer where
  | claimed (first : Bool)
  | done
  | found (res : Option PostgresDurableExecutionStore.FetchedResult)
  deriving DecidableEq, Repr

namespace SharedResults

open PostgresExecutionStore PostgresDurableExecutionStore

variable (pg : Postgres)

/-- Both stores on one table. A call that raises is rolled back. -/
def stores : Machine ResultCall Database (Except PyError ResultAnswer)
  | .claim claim, db =>
    match claimIdempotency pg claim db with
    | .ok (after, first) => (after, .ok (.claimed first))
    | .error err => (db, .error err)
  | .complete callId res, db =>
    match completeIdempotency pg callId res db with
    | .ok after => (after, .ok .done)
    | .error err => (db, .error err)
  | .release callId, db => (releaseIdempotency callId db, .ok .done)
  | .put scope callId execId tenant res, db =>
    match putIdempotency pg scope callId execId tenant res db with
    | .ok after => (after, .ok .done)
    | .error err => (db, .error err)
  | .get callId, db => (db, (getIdempotency callId db).map .found)

def PutsRow (callId : String) (row : IdempotencyRow) (call : ResultCall) : Prop :=
  ∃ scope execId tenant res,
    call = .put scope callId execId tenant res ∧ res.isTerminal = true ∧
      pg.resultRow execId tenant res = .ok row

/-- The call claims the invocation while it has no row. -/
def Takes (callId : String) (call : ResultCall) (db : Database) : Prop :=
  ∃ claim, call = .claim claim ∧ claim.invocationId = callId ∧
    (pg.uuid claim.executionId).isSome ∧ db.idempotency.lookup callId = none

/-- After a successful result was put, whatever calls come next, the invocation reads as
a terminal result that this or an earlier call put. -/
def PutsLast (callId : String) (calls : List ResultCall) : Prop :=
  ∀ before scope execId tenant res between after,
    calls = before ++ .put scope callId execId tenant res :: between ++ after →
    res.status = .succeeded →
    (stores pg).answer (.put scope callId execId tenant res)
      ((stores pg).run before {}) = .ok .done →
    ∃ fetched row, getIdempotency callId ((stores pg).run
        (before ++ .put scope callId execId tenant res :: between) {}) =
          .ok (some fetched) ∧ fetched.isTerminal = true ∧
      fetchedResult row.result = .ok fetched ∧
        ∃ call ∈ before ++ [.put scope callId execId tenant res],
          PutsRow pg callId row call

/-- In no state that the run reaches does reading the invocation raise. -/
def GetReturns (callId : String) (calls : List ResultCall) : Prop :=
  ∀ before after, calls = before ++ after →
    ∃ found, getIdempotency callId ((stores pg).run before {}) = .ok found

inductive RowMoves (callId : String) (call : ResultCall) (db : Database) :
    Option IdempotencyRow → Option IdempotencyRow → Prop where
  | kept (row : Option IdempotencyRow) : RowMoves callId call db row row
  | taken (row : IdempotencyRow) (takes : Takes pg callId call db) :
      RowMoves callId call db none (some row)
  | put (row : IdempotencyRow) (puts : PutsRow pg callId row call) :
      RowMoves callId call db none (some row)
  | completed (row next : IdempotencyRow) (pending : row.status = .pending) :
      RowMoves callId call db (some row) (some next)
  | released (row : IdempotencyRow) (pending : row.status = .pending) :
      RowMoves callId call db (some row) none

def Keyed (db : Database) : Prop := (keys db.idempotency).Nodup

variable {pg} {callId : String} {call : ResultCall} {db after : Database}

variable {scope : Option Uuid} {execId : Uuid} {tenant : String} {res : InvocationResult}

theorem put_ok
    (done : putIdempotency pg scope callId execId tenant res db =
      .ok after) :
    (res.isTerminal = true ∧ ∃ row, pg.resultRow execId tenant res = .ok row ∧
      after = db.insertIdempotency callId row) ∨
      (res.isTerminal = false ∧ after = db) := by
  obtain ⟨_, _, rest⟩ := bind_ok done
  split_ifs at rest with terminal
  · obtain ⟨row, made, ended⟩ := bind_ok rest
    exact Or.inl ⟨terminal, row, made, (Except.ok.inj ended).symm⟩
  · exact Or.inr ⟨by simpa using terminal, (Except.ok.inj rest).symm⟩

theorem row_moves (keyed : Keyed db) (call : ResultCall) (callId : String) :
    RowMoves pg callId call db (db.idempotency.lookup callId)
      (((stores pg).next call db).idempotency.lookup callId) := by
  cases call with
  | claim claim =>
    cases done : claimIdempotency pg claim db with
    | error err =>
      simp only [next, stores, done]
      exact .kept _
    | ok both =>
      obtain ⟨after, first⟩ := both
      simp only [next, stores, done]
      rcases claim_ok done with ⟨_, execId, reads, free, rfl⟩ | ⟨_, rfl, _⟩
      · simp only [insertIdempotency, lookup_setdefault]
        by_cases same : callId = claim.invocationId
        · rw [same, free, if_pos rfl]
          exact .taken _ ⟨claim, rfl, rfl, by rw [reads]; rfl, free⟩
        · rw [if_neg same, Option.or_none]
          exact .kept _
      · exact .kept _
  | complete completed res =>
    cases done : completeIdempotency pg completed res db with
    | error err =>
      simp only [next, stores, done]
      exact .kept _
    | ok after =>
      simp only [next, stores, done]
      obtain ⟨row, doc, found, pending, rfl⟩ := complete_ok done
      simp only [lookup_set]
      split_ifs with same
      · rw [same, found]
        exact .completed row _ pending
      · exact .kept _
  | release released =>
    simp only [next, stores, releaseIdempotency, lookup_filter _ _ keyed]
    cases found : db.idempotency.lookup callId with
    | none => exact .kept none
    | some row =>
      rw [Option.filter_some]
      split_ifs with kept
      · exact .kept _
      · simp only [Bool.not_eq_true, Bool.not_eq_false', Bool.and_eq_true, beq_iff_eq] at kept
        exact .released row kept.2
  | put scope written execId tenant res =>
    cases done : putIdempotency pg scope written execId tenant res db with
    | error err =>
      simp only [next, stores, done]
      exact .kept _
    | ok after =>
      simp only [next, stores, done]
      rcases put_ok done with ⟨terminal, row, made, rfl⟩ | ⟨_, rfl⟩
      · simp only [insertIdempotency, lookup_setdefault]
        cases found : db.idempotency.lookup callId with
        | some cur => exact .kept _
        | none =>
          rw [Option.none_or]
          split_ifs with same
          · subst same
            exact .put row ⟨scope, execId, tenant, res, rfl, terminal, made⟩
          · exact .kept none
      · exact .kept _
  | get read => exact .kept _

variable {row : IdempotencyRow} {calls : List ResultCall}

theorem keyed_setdefault {key : String} (keyed : Keyed db) :
    Keyed (db.insertIdempotency key row) := by
  unfold Keyed insertIdempotency setdefault
  cases found : db.idempotency.lookup key with
  | some cur => exact keyed
  | none => exact nodup_keys_append_fresh keyed found

theorem keyed_next (call : ResultCall) (db : Database) (keyed : Keyed db) :
    Keyed ((stores pg).next call db) := by
  cases call with
  | claim claim =>
    cases done : claimIdempotency pg claim db with
    | error err => simpa only [next, stores, done] using keyed
    | ok both =>
      obtain ⟨after, first⟩ := both
      simp only [next, stores, done]
      rcases claim_ok done with ⟨_, execId, _, _, rfl⟩ | ⟨_, rfl, _⟩
      · exact keyed_setdefault keyed
      · exact keyed
  | complete completed res =>
    cases done : completeIdempotency pg completed res db with
    | error err => simpa only [next, stores, done] using keyed
    | ok after =>
      simp only [next, stores, done]
      obtain ⟨row, doc, _, _, rfl⟩ := complete_ok done
      exact nodup_keys_set keyed
  | release released => exact nodup_keys_filter keyed
  | put scope written execId tenant res =>
    cases done : putIdempotency pg scope written execId tenant res db with
    | error err => simpa only [next, stores, done] using keyed
    | ok after =>
      simp only [next, stores, done]
      rcases put_ok done with ⟨_, row, _, rfl⟩ | ⟨_, rfl⟩
      · exact keyed_setdefault keyed
      · exact keyed
  | get read => exact keyed

theorem run_keyed (calls : List ResultCall) : Keyed ((stores pg).run calls {}) :=
  run_invariant keyed_next calls List.nodup_nil

theorem result_row_stays (call : ResultCall) (db : Database) (settled : row.status ≠ .pending)
    (holds : Keyed db ∧ db.idempotency.lookup callId = some row) :
    Keyed ((stores pg).next call db) ∧
      ((stores pg).next call db).idempotency.lookup callId = some row := by
  refine ⟨keyed_next call db holds.1, ?_⟩
  have moves : RowMoves pg callId call db _ _ :=
    row_moves holds.1 call callId
  rw [holds.2] at moves
  generalize ((stores pg).next call db).idempotency.lookup callId = later at moves
  cases moves with
  | kept => rfl
  | completed _ next pending | released _ pending => exact absurd pending settled

theorem fetched_of_puts (puts : PutsRow pg callId row call) :
    row.status ≠ .pending ∧ ∃ fetched, fetchedResult row.result = .ok fetched ∧
      fetched.isTerminal = true := by
  obtain ⟨scope, execId, tenant, res, _, terminal, made⟩ := puts
  obtain ⟨doc, columns, built⟩ := bind_ok made
  have fields := Except.ok.inj built
  subst fields
  refine ⟨by simp, ?_⟩
  cases accepted : Jsonb.hold pg.numeric (Json.dumpsSorted (.obj res.toDict)).document with
  | none => simp [Postgres.column, accepted] at columns
  | some held =>
    simp only [Postgres.column, accepted, Except.ok.injEq] at columns
    subst columns
    rw [Json.dumpsSorted, Json.sort_keys_obj] at accepted
    obtain ⟨kept, holds, rfl⟩ := Jsonb.hold_obj accepted
    have texts : ∀ name text, res.toDict.lookup name = some (.str text) →
        kept.lookup name = some (.str text) := by
      intro name text found
      have stored : (Json.sortMembers res.toDict).lookup name = some (.str text) := by
        rw [Json.lookup_sort_members, found, Option.map_some, Json.sort_keys_str]
      obtain ⟨value, took, there⟩ := Jsonb.hold_of_lookup holds stored
      rw [there, Jsonb.hold_str took]
    have status : readStatus (.str res.status.value) =
        some res.status := StrEnum.of_value_value res.status
    have named := texts "invocation_id" res.invocationId (by
      simp [toDict])
    have capability := texts "capability_id" res.capabilityId (by
      simp [toDict, List.lookup_cons])
    have stated := texts "status" res.status.value (by
      simp [toDict, List.lookup_cons])
    refine ⟨_, by
      simp only [fetchedResult, Json.asMembers?, member, named, capability, stated,
        fetchedStatus, status, bind, Except.bind]
      rfl, ?_⟩
    simpa [FetchedResult.isTerminal, isTerminal] using terminal

theorem row_put (untaken : (stores pg).Throughout
      (fun call db => ¬Takes pg callId call db) calls {})
    (found : ((stores pg).run calls {}).idempotency.lookup callId = some row) :
    ∃ call ∈ calls, PutsRow pg callId row call := by
  induction calls using List.reverseRecOn generalizing row with
  | nil => cases found
  | append_singleton before call ih =>
    rw [throughout_append] at untaken
    rw [run_concat] at found
    have keyed : Keyed ((stores pg).run before {}) := run_keyed before
    have moves : RowMoves pg callId call _ _ _ :=
      row_moves keyed call callId
    have past : ∀ cur, ((stores pg).run before {}).idempotency.lookup
        callId = some cur → ∃ call ∈ before, PutsRow pg callId cur
          call := fun cur => ih untaken.1
    rw [found] at moves
    generalize ((stores pg).run before {}).idempotency.lookup callId = here
      at moves past
    cases moves with
    | kept =>
      obtain ⟨put, mem, puts⟩ := past row rfl
      exact ⟨put, List.mem_append_left _ mem, puts⟩
    | taken _ takes => exact absurd takes untaken.2.1
    | put _ puts => exact ⟨call, by simp, puts⟩
    | completed cur _ pending =>
      obtain ⟨put, _, puts⟩ := past cur rfl
      exact absurd pending (fetched_of_puts puts).1

theorem get_returns_of_untaken (untaken : (stores pg).Throughout
      (fun call db => ¬Takes pg callId call db) calls {}) :
    GetReturns pg callId calls := by
  intro before after split
  rw [split, throughout_append] at untaken
  cases found : ((stores pg).run before {}).idempotency.lookup callId with
  | none => exact ⟨none, by rw [getIdempotency, found]⟩
  | some row =>
    obtain ⟨call, _, puts⟩ := row_put untaken.1 found
    obtain ⟨_, fetched, reads, _⟩ := fetched_of_puts puts
    exact ⟨some fetched, by simp [getIdempotency, found, reads, Except.map]⟩

theorem row_of_put (succeeded : res.status = .succeeded)
    (answered : (stores pg).answer (.put scope callId execId tenant res)
      db = .ok .done) :
    ∃ row, ((stores pg).next (.put scope callId execId tenant res)
      db).idempotency.lookup callId = some row := by
  cases done : putIdempotency pg scope callId execId tenant res db with
  | error err => simp [answer, stores, done] at answered
  | ok after =>
    simp only [next, stores, done]
    rcases put_ok done with ⟨_, row, _, rfl⟩ | ⟨other, _⟩
    · simp only [insertIdempotency, lookup_setdefault, if_true]
      cases db.idempotency.lookup callId with
      | some cur => exact ⟨cur, rfl⟩
      | none => exact ⟨row, rfl⟩
    · simp [isTerminal, succeeded] at other

theorem puts_last_of_untaken (untaken : (stores pg).Throughout
      (fun call db => ¬Takes pg callId call db) calls {}) :
    PutsLast pg callId calls := by
  intro before scope execId tenant res between after split succeeded answered
  let put := ResultCall.put scope callId execId tenant res
  have regroup : before ++ put :: between = (before ++ [put]) ++ between := by simp
  obtain ⟨row, found⟩ := row_of_put succeeded answered
  rw [← run_concat] at found
  have upTo : (stores pg).Throughout
      (fun call db => ¬Takes pg callId call db) (before ++ [put]) {} := by
    rw [split, regroup, throughout_append, throughout_append] at untaken
    exact untaken.1.1
  obtain ⟨call, mem, puts⟩ := row_put upTo found
  obtain ⟨settled, fetched, reads, terminal⟩ := fetched_of_puts puts
  have stays : Keyed ((stores pg).run between ((stores pg).run
      (before ++ [put]) {})) ∧ ((stores pg).run between ((stores pg).run
        (before ++ [put]) {})).idempotency.lookup callId = some row := by
    exact run_invariant (fun call db holds => result_row_stays call db settled holds)
      between ⟨run_keyed (before ++ [put]), found⟩
  refine ⟨fetched, row, ?_, terminal, reads, call, mem, puts⟩
  rw [regroup, run_append, getIdempotency, stays.2]
  simp [reads, Except.map]

theorem get_raises_of_takes (takes : Takes pg callId call db) :
    getIdempotency callId ((stores pg).next call db) =
      .error ⟨.other "KeyError", reprStr "invocation_id"⟩ := by
  obtain ⟨claim, rfl, rfl, readable, free⟩ := takes
  obtain ⟨execId, reads⟩ := Option.isSome_iff_exists.mp readable
  have done : claimIdempotency pg claim db =
      .ok (db.insertIdempotency claim.invocationId (pendingRow execId claim), true) := by
    simp [claimIdempotency, uuidColumn, reads, free, bind, Except.bind, pure, Except.pure]
  have row : (db.insertIdempotency claim.invocationId
      (pendingRow execId claim)).idempotency.lookup claim.invocationId =
        some (pendingRow execId claim) := by
    simp [insertIdempotency, lookup_setdefault, free]
  simp only [next, stores, done, getIdempotency, row]
  rfl

theorem untaken_of_get_returns (returns : GetReturns pg callId calls) :
    (stores pg).Throughout
      (fun call db => ¬Takes pg callId call db) calls {} := by
  rw [throughout_iff]
  intro before call after split takes
  obtain ⟨found, reads⟩ := returns (before ++ [call]) after (by simp [split])
  rw [run_concat, get_raises_of_takes takes] at reads
  cases reads

end SharedResults

open SharedResults

/-- For every interleaving of the calls of both stores, a successful result that was put
is read back ever after and reading the invocation never raises, exactly when no claim
takes the invocation while it has no row. -/
theorem shared_results_iff (pg : Postgres) (callId : String)
    (calls : List ResultCall) :
    (PutsLast pg callId calls ∧ GetReturns pg callId calls) ↔
      (stores pg).Throughout
      (fun call db => ¬Takes pg callId call db) calls {} := by
  constructor
  · intro shared
    exact untaken_of_get_returns shared.2
  · intro untaken
    exact ⟨puts_last_of_untaken untaken, get_returns_of_untaken untaken⟩

def claimedThenPut : List ResultCall :=
  [.claim { invocationId := "invocation", executionId := (Uuid.mk 1).str
            tenantId := (Uuid.mk 2).str, capabilityId := "capability"
            requestFingerprint := "fingerprint" },
    .put none "invocation" ⟨1⟩ (Uuid.mk 2).str
      { invocationId := "invocation", capabilityId := "capability", status := .succeeded }]

theorem claimed_result_unreadable :
    (stores .exact).answer (.get "invocation") ((stores .exact).run claimedThenPut {}) =
      .error ⟨.other "KeyError", reprStr "invocation_id"⟩ ∧
      ¬(SharedResults.PutsLast .exact "invocation" claimedThenPut ∧
      SharedResults.GetReturns .exact "invocation" claimedThenPut) := by
  have raises : (stores .exact).answer (.get "invocation") ((stores .exact).run claimedThenPut {}) =
        .error ⟨.other "KeyError", reprStr "invocation_id"⟩ := by decide +kernel
  refine ⟨raises, ?_⟩
  intro shared
  obtain ⟨found, reads⟩ := shared.2 claimedThenPut [] (by simp)
  simp [answer, stores, reads, Except.map] at raises

end Ois.Kernel
