import Ois.Library.Dict
import Ois.Library.Machine
import Ois.Kernel.Types

/-!
# Leases in Redis with fencing tokens

`FencedLeaseManager` of `production_resilience.py` with its four scripts. A script is one step.
-/

namespace Ois.Kernel

open Ois.Library Dict Machine

inductive RedisEntry where
  | counter (value : Int)
  | lease (ownerNonce : String) (fencingToken : Int)
  deriving DecidableEq, Repr

abbrev Keyspace := Dict String RedisEntry

structure Lease where
  key : String
  ownerNonce : String
  fencingToken : Int
  ttlMs : Int
  deriving DecidableEq, Repr

structure FencedLeaseManager where
  ttlMs : Int := 10000
  longEnough : 100 ≤ ttlMs := by decide
  deriving DecidableEq, Repr

namespace Keyspace

variable (keys : Keyspace)

def sequenceKey (key : String) : String := key ++ ":sequence"

def wrongType : PyError :=
  ⟨.other "ResponseError", "WRONGTYPE Operation against a key holding the wrong kind of value"⟩

def del (key : String) : Keyspace := keys.filter fun entry => entry.1 != key

/-- `PEXPIRE`: a lifetime that is over at once deletes the key. -/
def pexpire (key : String) (ttlMs : Int) : Keyspace :=
  if ttlMs ≤ 0 then keys.del key else keys

/-- The value that `INCR` moves a counter to. -/
def incremented (key : String) : Except PyError Int :=
  match keys.lookup key with
  | none => .ok 1
  | some (.counter value) => .ok (value + 1)
  | some (.lease _ _) => .error wrongType

/-- `HGET` of the two fields of a lease. -/
def hget (key : String) : Except PyError (Option (String × Int)) :=
  match keys.lookup key with
  | none => .ok none
  | some (.lease ownerNonce fencingToken) => .ok (some (ownerNonce, fencingToken))
  | some (.counter _) => .error wrongType

/-- `ACQUIRE_LUA`; there is no token if the key exists. -/
def acquireScript (key ownerNonce : String) (ttlMs : Int) :
    Except PyError (Keyspace × Option Int) :=
  match keys.lookup key with
  | some _ => .ok (keys, none)
  | none => do
    let token ← keys.incremented (sequenceKey key)
    let counted := keys.set (sequenceKey key) (.counter token)
    return (Keyspace.pexpire (counted.set key (.lease ownerNonce token)) key ttlMs, some token)

/-- `RENEW_LUA`. -/
def renewScript (key ownerNonce : String) (ttlMs : Int) : Except PyError (Keyspace × Int) := do
  match ← keys.hget key with
  | some (held, _) =>
    if held = ownerNonce then return (keys.pexpire key ttlMs, 1) else return (keys, 0)
  | none => return (keys, 0)

/-- `RELEASE_LUA`. -/
def releaseScript (key ownerNonce : String) : Except PyError Keyspace := do
  match ← keys.hget key with
  | some (held, _) => if held = ownerNonce then return keys.del key else return keys
  | none => return keys

end Keyspace

namespace FencedLeaseManager

def acquisitionFailed (key : String) : PyError :=
  ⟨.other "LeaseAcquisitionFailed", "RC-05 lease is already held: " ++ key⟩

def mismatch (msg : String) : PyError := ⟨.other "FencingTokenMismatch", msg⟩

def settle {Value : Type} (keys : Keyspace) :
    Except PyError (Keyspace × Except PyError Value) → Keyspace × Except PyError Value
  | .ok after => after
  | .error err => (keys, .error err)

def acquire (manager : FencedLeaseManager) (key nonce : String) (keys : Keyspace) :
    Keyspace × Except PyError (Option Lease) :=
  settle keys do
    match ← keys.acquireScript key nonce manager.ttlMs with
    | (after, none) => return (after, .error (acquisitionFailed key))
    | (after, some token) => return (after, .ok (some ⟨key, nonce, token, manager.ttlMs⟩))

def renew (lease : Lease) (keys : Keyspace) :
    Keyspace × Except PyError (Option Lease) :=
  settle keys do
    let (after, renewed) ← keys.renewScript lease.key lease.ownerNonce lease.ttlMs
    if renewed = 1 then return (after, .ok none)
    else return (after, .error (mismatch "RC-05 lease renewal rejected: ownership lost"))

/-- What `assert_current` makes of the lease that it reads. -/
def compared (lease : Lease) : Option (String × Int) → Except PyError (Option Lease)
  | none => .error (mismatch "RC-05 lease no longer exists")
  | some (nonce, token) =>
    if nonce ≠ lease.ownerNonce then
      .error (mismatch "RC-05 lease is no longer owned by this worker")
    else if token ≠ lease.fencingToken then .error (mismatch "RC-05 fencing token changed")
    else .ok none

def assertCurrent (lease : Lease) (keys : Keyspace) :
    Keyspace × Except PyError (Option Lease) :=
  settle keys do
    let cur ← keys.hget lease.key
    return (keys, compared lease cur)

def release (lease : Lease) (keys : Keyspace) :
    Keyspace × Except PyError (Option Lease) :=
  settle keys do
    let after ← keys.releaseScript lease.key lease.ownerNonce
    return (after, .ok none)

def expire (key : String) (keys : Keyspace) : Keyspace :=
  match keys.lookup key with
  | some (.lease _ _) => keys.del key
  | _ => keys

end FencedLeaseManager

inductive ManagerCall where
  | acquire (manager : FencedLeaseManager) (key nonce : String)
  | renew (lease : Lease)
  | assertCurrent (lease : Lease)
  | release (lease : Lease)
  | expire (key : String)
  deriving DecidableEq, Repr

namespace FencedLeaseManager

def scripts : Machine ManagerCall Keyspace (Except PyError (Option Lease)) :=
  fun call keys =>
    match call with
    | .acquire manager key nonce => manager.acquire key nonce keys
    | .renew lease => renew lease keys
    | .assertCurrent lease => assertCurrent lease keys
    | .release lease => release lease keys
    | .expire key => (expire key keys, .ok none)

def leaseIn : Except PyError (Option Lease) → Option Lease
  | .ok lease => lease
  | .error _ => none

/-- The leases that a run has issued, in the order in which they were acquired. -/
def issued (calls : List ManagerCall) : List Lease := (scripts.answers calls []).filterMap leaseIn

def keyspaceAfter (calls : List ManagerCall) : Keyspace := scripts.run calls []

/-- The nonces that `secrets.token_hex` has drawn. -/
def nonces : List ManagerCall → List String :=
  List.filterMap fun call =>
    match call with
    | .acquire _ _ nonce => some nonce
    | _ => none

def Passes (call : ManagerCall) (keys : Keyspace) : Prop :=
  scripts.answer call keys = .ok none

/-- What the leases of a run are to be relied on for. -/
structure Fenced (calls : List ManagerCall) : Prop where
  tokens_increase : ∀ key, (((issued calls).filter (·.key = key)).map
    (·.fencingToken)).Pairwise (· < ·)
  one_current : ∀ lease ∈ issued calls, ∀ other ∈ issued calls, lease.key = other.key →
    Passes (.assertCurrent lease) (keyspaceAfter calls) →
      Passes (.assertCurrent other) (keyspaceAfter calls) → lease = other
  lost_for_good : ∀ before after, calls = before ++ after → ∀ lease ∈ issued before,
    ¬Passes (.renew lease) (keyspaceAfter before) ∨
      ¬Passes (.assertCurrent lease) (keyspaceAfter before) →
        ¬Passes (.renew lease) (keyspaceAfter calls) ∧
          ¬Passes (.assertCurrent lease) (keyspaceAfter calls)
  stale_release : ∀ lease ∈ issued calls, ¬Passes (.assertCurrent lease) (keyspaceAfter calls) →
      scripts.next (.release lease) (keyspaceAfter calls) = keyspaceAfter calls

inductive ScriptMoves (call : ManagerCall) (keys : Keyspace) :
    Keyspace → Option Lease → Prop where
  | kept : ScriptMoves call keys keys none
  | removed (key nonce) (token) (held : keys.lookup key = some (.lease nonce token)) :
      ScriptMoves call keys (keys.del key) none
  | granted (manager : FencedLeaseManager) (key nonce) (token)
      (made : call = .acquire manager key nonce) (free : keys.lookup key = none)
      (counted : keys.incremented (Keyspace.sequenceKey key) = .ok token) :
      ScriptMoves call keys
        ((keys.set (Keyspace.sequenceKey key) (.counter token)).set key (.lease nonce token))
        (some ⟨key, nonce, token, manager.ttlMs⟩)

variable {keys : Keyspace} {key nonce : String} {leases : List Lease} (calls : List ManagerCall)
  {lease : Lease}

theorem hget_lease {token : Int} :
    keys.hget key = .ok (some (nonce, token)) ↔
      keys.lookup key = some (.lease nonce token) := by
  unfold Keyspace.hget
  cases keys.lookup key with
  | none => simp
  | some entry => cases entry <;> simp

theorem acquire_moves (manager : FencedLeaseManager) (key nonce : String)
    (keys : Keyspace) :
    ScriptMoves (.acquire manager key nonce) keys (manager.acquire key nonce keys).1
      (leaseIn (manager.acquire key nonce keys).2) := by
  unfold acquire Keyspace.acquireScript
  cases free : keys.lookup key with
  | some entry => exact .kept
  | none =>
    cases counted : keys.incremented (Keyspace.sequenceKey key) with
    | error err => exact .kept
    | ok token =>
      have lasting : ¬manager.ttlMs ≤ 0 := by
        have longEnough := manager.longEnough
        omega
      simp only [bind, Except.bind, pure, Except.pure, settle, leaseIn, Keyspace.pexpire,
        if_neg lasting]
      exact .granted manager key nonce token rfl free counted

theorem renew_moves (lease : Lease) (keys : Keyspace) :
    ScriptMoves (.renew lease) keys (renew lease keys).1
      (leaseIn (renew lease keys).2) := by
  unfold renew Keyspace.renewScript
  cases read : keys.hget lease.key with
  | error err => exact .kept
  | ok cur =>
    cases cur with
    | none => exact .kept
    | some fields =>
      obtain ⟨held, token⟩ := fields
      by_cases own : held = lease.ownerNonce
      · simp only [bind, Except.bind, pure, Except.pure, settle, if_pos own, if_true,
          leaseIn, Keyspace.pexpire]
        split_ifs
        · exact .removed lease.key held token (hget_lease.mp read)
        · exact .kept
      · simp only [bind, Except.bind, pure, Except.pure, settle, if_neg own]
        exact .kept

theorem assert_current_moves (lease : Lease) (keys : Keyspace) :
    ScriptMoves (.assertCurrent lease) keys (assertCurrent lease keys).1
      (leaseIn (assertCurrent lease keys).2) := by
  unfold assertCurrent
  cases keys.hget lease.key with
  | error err => exact .kept
  | ok cur =>
    cases cur with
    | none => exact .kept
    | some fields =>
      simp only [bind, Except.bind, pure, Except.pure, settle, compared]
      split_ifs
      · exact .kept
      · exact .kept
      · exact .kept

theorem release_moves (lease : Lease) (keys : Keyspace) :
    ScriptMoves (.release lease) keys (release lease keys).1
      (leaseIn (release lease keys).2) := by
  unfold release Keyspace.releaseScript
  cases read : keys.hget lease.key with
  | error err => exact .kept
  | ok cur =>
    cases cur with
    | none => exact .kept
    | some fields =>
      obtain ⟨held, token⟩ := fields
      by_cases own : held = lease.ownerNonce
      · simp only [bind, Except.bind, pure, Except.pure, settle, if_pos own, leaseIn]
        exact .removed lease.key held token (hget_lease.mp read)
      · simp only [bind, Except.bind, pure, Except.pure, settle, if_neg own]
        exact .kept

variable (call : ManagerCall)

theorem script_moves (keys : Keyspace) :
    ScriptMoves call keys (scripts.next call keys)
      (leaseIn (scripts.answer call keys)) := by
  cases call with
  | acquire manager key nonce => exact acquire_moves manager key nonce keys
  | renew lease => exact renew_moves lease keys
  | assertCurrent lease => exact assert_current_moves lease keys
  | release lease => exact release_moves lease keys
  | expire key =>
    simp only [next, answer, scripts, expire, leaseIn]
    split
    · rename_i nonce token held
      exact .removed key nonce token held
    · exact .kept

theorem sequence_key_ne (key : String) : key ≠ Keyspace.sequenceKey key := by
  intro same
  have sizes := congrArg String.length same
  simp [Keyspace.sequenceKey] at sizes

theorem counter_lt_incremented {key : String} {token value : Int}
    (counted : keys.incremented key = .ok token)
    (found : keys.lookup key = some (.counter value)) : value < token := by
  simp only [Keyspace.incremented, found, Except.ok.injEq] at counted
  omega

structure Ordered (leases : List Lease) (keys : Keyspace) : Prop where
  held : ∀ key nonce token, keys.lookup key = some (.lease nonce token) →
    ∃ lease ∈ leases, lease.key = key ∧ lease.ownerNonce = nonce ∧ lease.fencingToken = token
  counted : ∀ lease ∈ leases, ∃ value,
    keys.lookup (Keyspace.sequenceKey lease.key) = some (.counter value) ∧
      lease.fencingToken ≤ value
  increasing : leases.Pairwise fun lease later =>
    lease.key = later.key → lease.fencingToken < later.fencingToken

theorem Ordered.removed (ordered : Ordered leases keys) {token : Int}
    (held : keys.lookup key = some (.lease nonce token)) :
    Ordered leases (keys.del key) := by
  refine ⟨?_, ?_, ordered.increasing⟩
  · intro other otherNonce otherToken found
    rw [Keyspace.del, lookup_without] at found
    split_ifs at found
    exact ordered.held other otherNonce otherToken found
  · intro lease mem
    obtain ⟨value, found, below⟩ := ordered.counted lease mem
    refine ⟨value, ?_, below⟩
    rw [Keyspace.del, lookup_without, if_neg]
    · exact found
    · intro same
      rw [same, held] at found
      simp at found

theorem Ordered.granted (ordered : Ordered leases keys) {token ttlMs : Int}
    (free : keys.lookup key = none)
    (counted : keys.incremented (Keyspace.sequenceKey key) = .ok token) :
    Ordered (leases ++ [⟨key, nonce, token, ttlMs⟩])
      ((keys.set (Keyspace.sequenceKey key) (.counter token)).set key
      (.lease nonce token)) := by
  refine ⟨?_, ?_, ?_⟩
  · intro other otherNonce otherToken found
    rw [lookup_set, lookup_set] at found
    split_ifs at found with same counter
    · cases found
      exact ⟨_, List.mem_concat_self, same.symm, rfl, rfl⟩
    · cases found
    · obtain ⟨lease, mem, fields⟩ := ordered.held other otherNonce otherToken found
      exact ⟨lease, List.mem_append_left _ mem, fields⟩
  · intro lease mem
    rcases List.mem_append.mp mem with past | new
    · obtain ⟨value, found, below⟩ := ordered.counted lease past
      have different : Keyspace.sequenceKey lease.key ≠ key := by
        intro same
        rw [same, free] at found
        simp at found
      rw [lookup_set, lookup_set, if_neg different]
      split_ifs with same
      · rw [same] at found
        have above := counter_lt_incremented counted found
        exact ⟨token, rfl, by omega⟩
      · exact ⟨value, found, below⟩
    · rw [List.mem_singleton] at new
      subst new
      refine ⟨token, ?_, Int.le_refl token⟩
      rw [lookup_set, lookup_set, if_neg (sequence_key_ne key).symm, if_pos rfl]
  · rw [List.pairwise_append]
    refine ⟨ordered.increasing, List.pairwise_singleton _ _, ?_⟩
    intro lease mem new isNew same
    rw [List.mem_singleton] at isNew
    subst isNew
    obtain ⟨value, found, below⟩ := ordered.counted lease mem
    rw [same] at found
    have above := counter_lt_incremented counted found
    exact Int.lt_of_le_of_lt below above

theorem Ordered.next {keys after : Keyspace} {call : ManagerCall} {lease : Option Lease}
    (ordered : Ordered leases keys) (moves : ScriptMoves call keys after lease) :
    Ordered (leases ++ lease.toList) after := by
  cases moves with
  | kept => simpa using ordered
  | removed key nonce token held => simpa using ordered.removed held
  | granted manager key nonce token made free counted => exact ordered.granted free counted

theorem issued_concat :
    issued (calls ++ [call]) =
      issued calls ++ (leaseIn (scripts.answer call (keyspaceAfter calls))).toList :=
  scripts.filter_map_answers_concat leaseIn calls call []

theorem keyspace_after_concat :
    keyspaceAfter (calls ++ [call]) = scripts.next call (keyspaceAfter calls) :=
  scripts.run_concat calls call []

theorem ordered_after : Ordered (issued calls) (keyspaceAfter calls) := by
  induction calls using List.reverseRecOn with
  | nil => refine ⟨?_, ?_, List.Pairwise.nil⟩ <;> intros <;> contradiction
  | append_singleton past call ih =>
    rw [issued_concat, keyspace_after_concat]
    exact ih.next (script_moves call _)

theorem issued_nonces : ((issued calls).map (·.ownerNonce)).Sublist (nonces calls) := by
  induction calls using List.reverseRecOn with
  | nil => exact List.nil_sublist _
  | append_singleton past call ih =>
    rw [issued_concat, List.map_append, nonces, List.filterMap_append]
    apply List.Sublist.append ih
    have moves := script_moves call (keyspaceAfter past)
    generalize leaseIn (scripts.answer call (keyspaceAfter past)) = lease at moves
    generalize scripts.next call (keyspaceAfter past) = after at moves
    cases moves with
    | kept | removed => exact List.nil_sublist _
    | granted manager key nonce token made free counted =>
      subst made
      exact List.Sublist.refl _

theorem lease_of_nonce {calls : List ManagerCall} (distinct : (nonces calls).Nodup)
    {lease other : Lease} (mem : lease ∈ issued calls) (otherMember : other ∈ issued calls)
    (same : lease.ownerNonce = other.ownerNonce) : lease = other :=
  List.inj_on_of_nodup_map ((issued_nonces calls).nodup distinct) mem otherMember same

def Holds (lease : Lease) (keys : Keyspace) : Prop :=
  keys.lookup lease.key = some (.lease lease.ownerNonce lease.fencingToken)

theorem passes_assert_iff : Passes (.assertCurrent lease) keys ↔ Holds lease keys := by
  unfold Passes Holds
  simp only [answer, scripts, assertCurrent, Keyspace.hget]
  cases keys.lookup lease.key with
  | none => simp [bind, Except.bind, pure, Except.pure, settle, compared]
  | some entry =>
    cases entry with
    | counter value => simp [bind, Except.bind, settle]
    | lease nonce token =>
      simp only [bind, Except.bind, pure, Except.pure, settle, compared]
      split_ifs with different changed
      · simpa using fun same => absurd same different
      · simpa using fun _ same => absurd same changed
      · simp only [not_not] at different changed
        simp [different, changed]

theorem passes_renew_iff :
    Passes (.renew lease) keys ↔
      ∃ token, keys.lookup lease.key = some (.lease lease.ownerNonce token) := by
  unfold Passes
  simp only [answer, scripts, renew, Keyspace.renewScript, Keyspace.hget]
  cases keys.lookup lease.key with
  | none => simp [bind, Except.bind, pure, Except.pure, settle]
  | some entry =>
    cases entry with
    | counter value => simp [bind, Except.bind, settle]
    | lease nonce token =>
      simp only [bind, Except.bind, pure, Except.pure]
      by_cases own : nonce = lease.ownerNonce
      · simp [own, settle]
      · simp [own, settle]

theorem holds_of_nonce {calls : List ManagerCall} (distinct : (nonces calls).Nodup)
    (mem : lease ∈ issued calls) {token : Int}
    (found : (keyspaceAfter calls).lookup lease.key = some (.lease lease.ownerNonce token)) :
    Holds lease (keyspaceAfter calls) := by
  obtain ⟨other, otherMember, sameKey, sameNonce, sameToken⟩ :=
    (ordered_after calls).held lease.key lease.ownerNonce token found
  have same := lease_of_nonce distinct mem otherMember sameNonce.symm
  unfold Holds
  rw [found, ← sameToken, ← same]

def Lost (key nonce : String) (keys : Keyspace) : Prop :=
  ∀ token, keys.lookup key ≠ some (.lease nonce token)

theorem Lost.next {keys after : Keyspace} {call : ManagerCall} {lease : Option Lease}
    (drawn : ∀ manager other, call ≠ .acquire manager other nonce)
    (lost : Lost key nonce keys) (moves : ScriptMoves call keys after lease) :
    Lost key nonce after := by
  intro token found
  cases moves with
  | kept => exact lost token found
  | removed other otherNonce otherToken held =>
    rw [Keyspace.del, lookup_without] at found
    split_ifs at found
    exact lost token found
  | granted manager other otherNonce otherToken made free counted =>
    rw [lookup_set, lookup_set] at found
    split_ifs at found with same counter
    · cases found
      exact drawn manager other made
    · cases found
    · exact lost token found

/-- A nonce that is not drawn again does not come back. -/
theorem Lost.run {calls : List ManagerCall} (undrawn : nonce ∉ nonces calls)
    (lost : Lost key nonce keys) : Lost key nonce (scripts.run calls keys) := by
  induction calls generalizing keys with
  | nil => exact lost
  | cons call rest ih =>
    apply ih
    · intro later
      exact undrawn (List.mem_filterMap.mpr (by
        obtain ⟨other, mem, reads⟩ := List.mem_filterMap.mp later
        exact ⟨other, List.mem_cons_of_mem _ mem, reads⟩))
    · refine lost.next ?_ (script_moves call keys)
      rintro manager other rfl
      exact undrawn (List.mem_filterMap.mpr ⟨_, List.mem_cons_self, rfl⟩)

theorem tokens_increase (key : String) :
    (((issued calls).filter (·.key = key)).map (·.fencingToken)).Pairwise (· < ·) := by
  rw [List.pairwise_map]
  have among := (ordered_after calls).increasing.filter fun lease => decide (lease.key = key)
  refine among.imp_of_mem ?_
  intro lease later mem laterMember lower
  have same : lease.key = key := by simpa using (List.mem_filter.mp mem).2
  have alsoSame : later.key = key := by simpa using (List.mem_filter.mp laterMember).2
  exact lower (same.trans alsoSame.symm)

theorem nonce_of_both_current {lease other : Lease} (sameKey : lease.key = other.key)
    (passes : Passes (.assertCurrent lease) keys)
    (otherPasses : Passes (.assertCurrent other) keys) :
    lease.ownerNonce = other.ownerNonce := by
  have held := passes_assert_iff.mp passes
  have alsoHeld := passes_assert_iff.mp otherPasses
  unfold Holds at held alsoHeld
  rw [sameKey, alsoHeld, Option.some.injEq, RedisEntry.lease.injEq] at held
  exact held.1.symm

theorem lost_of_fails {calls : List ManagerCall} (distinct : (nonces calls).Nodup)
    (mem : lease ∈ issued calls)
    (fails : ¬Passes (.renew lease) (keyspaceAfter calls) ∨
      ¬Passes (.assertCurrent lease) (keyspaceAfter calls)) :
    Lost lease.key lease.ownerNonce (keyspaceAfter calls) := by
  intro token found
  rcases fails with renewal | assertion
  · exact renewal (passes_renew_iff.mpr ⟨token, found⟩)
  · exact assertion (passes_assert_iff.mpr (holds_of_nonce distinct mem found))

theorem fails_of_lost (lost : Lost lease.key lease.ownerNonce keys) :
    ¬Passes (.renew lease) keys ∧ ¬Passes (.assertCurrent lease) keys := by
  constructor
  · intro passes
    obtain ⟨token, found⟩ := passes_renew_iff.mp passes
    exact lost token found
  · intro passes
    exact lost lease.fencingToken (passes_assert_iff.mp passes)

theorem release_of_lost (lost : Lost lease.key lease.ownerNonce keys) :
    scripts.next (.release lease) keys = keys := by
  simp only [next, scripts, release, Keyspace.releaseScript, Keyspace.hget]
  cases found : keys.lookup lease.key with
  | none => rfl
  | some entry =>
    cases entry with
    | counter value => rfl
    | lease nonce token =>
      have different : nonce ≠ lease.ownerNonce := by
        rintro rfl
        exact lost token found
      simp only [bind, Except.bind, pure, Except.pure, if_neg different, settle]

/-- Whatever any number of workers do in whatever order, as long as no nonce is drawn
twice, the leases fence. -/
theorem leases_fence (calls : List ManagerCall) (distinct : (nonces calls).Nodup) :
    Fenced calls := by
  refine ⟨tokens_increase calls, ?_, ?_, ?_⟩
  · intro lease mem other otherMember sameKey passes otherPasses
    exact lease_of_nonce distinct mem otherMember
      (nonce_of_both_current sameKey passes otherPasses)
  · rintro before after rfl lease mem fails
    rw [nonces, List.filterMap_append, List.nodup_append] at distinct
    obtain ⟨distinctBefore, _, apart⟩ := distinct
    have drawn : lease.ownerNonce ∈ nonces before :=
      (issued_nonces before).mem (List.mem_map_of_mem mem)
    have lost := lost_of_fails distinctBefore mem fails
    have stays : Lost lease.key lease.ownerNonce (keyspaceAfter (before ++ after)) := by
      rw [keyspaceAfter, run_append]
      exact lost.run fun again => apart _ drawn _ again rfl
    exact fails_of_lost stays
  · intro lease mem stale
    exact release_of_lost (lost_of_fails distinct mem (Or.inr stale))

def lateWorker : List ManagerCall :=
  [.acquire {} "run" "nonce-1", .expire "run", .acquire {} "run" "nonce-2",
    .renew ⟨"run", "nonce-1", 1, 10000⟩, .release ⟨"run", "nonce-1", 1, 10000⟩]

theorem late_worker_fenced :
    issued lateWorker = [⟨"run", "nonce-1", 1, 10000⟩, ⟨"run", "nonce-2", 2, 10000⟩] ∧
      Fenced lateWorker :=
  ⟨by decide +kernel, leases_fence lateWorker (by decide +kernel)⟩

end FencedLeaseManager

end Ois.Kernel
