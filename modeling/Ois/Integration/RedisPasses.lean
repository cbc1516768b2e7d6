import Ois.Kernel.Types
import Ois.Library.Histories
import Ois.Library.JsonScan

/-!
# What recovery passes do to a group

`WorkerCrashRecoveryEngine.recover_once` of `integration/redis_recovery.py`, over the pending
entries of the group of its stream in the order of their identifiers.
-/

namespace Ois.Integration

open Ois.Kernel Ois.Library

inductive RedisText where
  | bytes (value : List UInt8)
  | str (value : String)
  deriving DecidableEq, Repr

abbrev Payload := Dict RedisText RedisText

structure PendingEntry where
  messageId : String
  payload : Payload
  deliveredAt : Nat
  deliveries : Nat := 1
  deriving DecidableEq, Repr

def taskMissing : PyError := ⟨.valueError, "Redis task is missing task_context"⟩

def taskNoObject : PyError := ⟨.valueError, "task_context must decode to a JSON object"⟩

/-- The text `task_context` in bytes. -/
def taskContext : List UInt8 := "task_context".toUTF8.toList

section decode

variable (double : List Char → UInt64)

def RedisText.text : RedisText → Except PyError String
  | .str value => .ok value
  | .bytes value =>
    match String.fromUTF8? ⟨value.toArray⟩ with
    | some text => .ok text
    | none => .error ⟨.other "UnicodeDecodeError", "the bytes are no UTF-8"⟩

/-- `_decode(payload)`. -/
def decode (body : Payload) : Except PyError Members :=
  match (body.lookup (.bytes taskContext)).or (body.lookup (.str "task_context")) with
  | none => .error taskMissing
  | some raw => do
    let text ← raw.text
    match JsonScan.loads? double text with
    | none => .error ⟨.other "JSONDecodeError", "the text is no JSON document"⟩
    | some (.obj members) => return members
    | some _ => .error taskNoObject

def PendingEntry.WellFormed (entry : PendingEntry) : Prop :=
  (decode double entry.payload).isOk = true

instance (entry : PendingEntry) : Decidable (entry.WellFormed double) :=
  inferInstanceAs (Decidable (_ = _))

/-- A call of `recover_once`: its threshold, how many entries each batch goes through besides one
and when it is claimed, when the entries after the last of these are, and which messages the
handler returns for. -/
structure RecoveryPass where
  minIdleMs : Nat
  batches : List (Nat × Nat)
  lastAt : Nat
  handler : String → Bool

def batchesOf (lastAt : Nat) : List (Nat × Nat) → List PendingEntry → List (Nat × List PendingEntry)
  | [], entries => if entries = [] then [] else [(lastAt, entries)]
  | (more, now) :: rest, entries =>
    if entries = [] then []
    else (now, entries.take (more + 1)) :: batchesOf lastAt rest (entries.drop (more + 1))

namespace RecoveryPass

variable (pass : RecoveryPass)

def Stale (now : Nat) (entry : PendingEntry) : Prop := pass.minIdleMs ≤ now - entry.deliveredAt

instance (now : Nat) (entry : PendingEntry) : Decidable (pass.Stale now entry) :=
  inferInstanceAs (Decidable (_ ≤ _))

def claim (now : Nat) (entry : PendingEntry) : PendingEntry :=
  if pass.Stale now entry then
    { entry with deliveredAt := now, deliveries := entry.deliveries + 1 }
  else entry

def handle : List PendingEntry → List (String × Bool) × Option PyError
  | [] => ([], none)
  | entry :: rest =>
    match decode double entry.payload with
    | .error err => ([], some err)
    | .ok _ =>
      let later := handle rest
      ((entry.messageId, pass.handler entry.messageId) :: later.1, later.2)

end RecoveryPass

structure Recovered where
  pending : List PendingEntry
  handled : List (String × Bool)
  error : Option PyError

def recoverBatches (pass : RecoveryPass) : List (Nat × List PendingEntry) → Recovered
  | [] => ⟨[], [], none⟩
  | (now, batch) :: rest =>
    let claimed := batch.filter fun entry => pass.Stale now entry
    let (handled, err) := pass.handle double claimed
    let kept := (batch.map (pass.claim now)).filter fun entry => (entry.messageId, true) ∉ handled
    if err.isSome ∨ claimed = [] then ⟨kept ++ rest.flatMap Prod.snd, handled, err⟩
    else
      let later := recoverBatches pass rest
      ⟨kept ++ later.pending, handled ++ later.handled, later.error⟩

end decode

structure RedisGroup where
  pending : List PendingEntry := []
  handled : List (String × Bool) := []

inductive RedisCall where
  | deliver (entry : PendingEntry)
  | recover (pass : RecoveryPass)

structure WorkerCrashRecoveryEngine where
  maxRetries : Nat := 3

section recovery

variable (double : List Char → UInt64)

/-- `recover_once(handler, min_idle_ms)`, before its result. -/
def recovered (pass : RecoveryPass) (pending : List PendingEntry) : Recovered :=
  recoverBatches double pass (batchesOf pass.lastAt pass.batches pending)

def redisGroup : Machine RedisCall RedisGroup (Option (Except PyError Nat))
  | .deliver entry, group =>
    (if entry.messageId ∈ group.pending.map (·.messageId) then group
      else { group with pending := group.pending ++ [entry] }, none)
  | .recover pass, group =>
    let left := recovered double pass group.pending
    ({ pending := left.pending, handled := group.handled ++ left.handled }, match left.error with
      | some err => some (.error err)
      | none => some (.ok (left.handled.countP Prod.snd)))

/-- The batch that goes through the entry finds it stale, and it has a task. -/
def Due (pass : RecoveryPass) (pending : List PendingEntry) (entry : PendingEntry) : Prop :=
  entry.WellFormed double ∧ ∃ batch ∈ batchesOf pass.lastAt pass.batches pending,
    entry ∈ batch.2 ∧ pass.Stale batch.1 entry

instance (pass : RecoveryPass) (pending : List PendingEntry) (entry : PendingEntry) :
    Decidable (Due double pass pending entry) :=
  inferInstanceAs (Decidable (_ ∧ _))

structure RecoversAll (pass : RecoveryPass) (pending : List PendingEntry) : Prop where
  returns : (recovered double pass pending).error = none
  handled : ∀ entry ∈ pending,
    ((recovered double pass pending).handled.map Prod.fst).count entry.messageId =
      if Due double pass pending entry then 1 else 0
  acknowledged : ∀ entry ∈ pending,
    entry.messageId ∈ (recovered double pass pending).pending.map (·.messageId) ↔
      ¬(Due double pass pending entry ∧ pass.handler entry.messageId = true)

def RedisGroup.failures (group : RedisGroup) (messageId : String) : Nat :=
  group.handled.count (messageId, false)

/-- What the engine promises of a call after the calls before it. -/
structure RecoversSafely (engine : WorkerCrashRecoveryEngine) (before : List RedisCall)
    (call : RedisCall) : Prop where
  recovers : ∀ pass, call = .recover pass →
    RecoversAll double pass ((redisGroup double).run before {}).pending
  bounded : ∀ messageId,
    ((redisGroup double).run (before ++ [call]) {}).failures messageId ≤ engine.maxRetries + 1

def Unbroken (pass : RecoveryPass) : List (Nat × List PendingEntry) → Prop
  | [] => True
  | (now, batch) :: rest =>
    (∀ entry ∈ batch, pass.Stale now entry → entry.WellFormed double) ∧
      if ∃ entry ∈ batch, pass.Stale now entry then Unbroken pass rest
      else ∀ later ∈ rest, ∀ entry ∈ later.2, pass.Stale later.1 entry → ¬entry.WellFormed double

/-- A pass goes through its batches unbroken, and hands no message to a handler that fails for it
after its retries are used up. -/
def Sustained (engine : WorkerCrashRecoveryEngine) : RedisCall → RedisGroup → Prop
  | .deliver _, _ => True
  | .recover pass, group =>
    Unbroken double pass (batchesOf pass.lastAt pass.batches group.pending) ∧
      ∀ entry ∈ group.pending, Due double pass group.pending entry →
        pass.handler entry.messageId = false → group.failures entry.messageId ≤ engine.maxRetries

end recovery

variable {double : List Char → UInt64} {pass : RecoveryPass}

theorem batches_flatten (lastAt : Nat) (sizes : List (Nat × Nat)) (entries : List PendingEntry) :
    (batchesOf lastAt sizes entries).flatMap Prod.snd = entries := by
  induction sizes generalizing entries with
  | nil =>
    rw [batchesOf]
    split_ifs with none
    · rw [none]
      rfl
    · exact List.append_nil entries
  | cons size rest ih =>
    rw [batchesOf]
    split_ifs with none
    · rw [none]
      rfl
    · rw [List.flatMap_cons, ih]
      exact List.take_append_drop _ entries

/-- What the handler is called with and how it ends. -/
def RecoveryPass.outcome (pass : RecoveryPass) (entry : PendingEntry) : String × Bool :=
  (entry.messageId, pass.handler entry.messageId)

open RecoveryPass

theorem handle_of_well_formed {entries : List PendingEntry}
    (all : ∀ entry ∈ entries, entry.WellFormed double) :
    pass.handle double entries = (entries.map pass.outcome, none) := by
  induction entries with
  | nil => rfl
  | cons entry rest ih =>
    have later := ih fun other mem => all other (List.mem_cons_of_mem _ mem)
    have formed := all entry List.mem_cons_self
    unfold PendingEntry.WellFormed at formed
    cases read : decode double entry.payload with
    | error err =>
      rw [read] at formed
      cases formed
    | ok task =>
      rw [handle, read]
      dsimp only
      rw [later]
      rfl

theorem well_formed_of_handle {entries : List PendingEntry}
    (returns : (pass.handle double entries).2 = none) :
    ∀ entry ∈ entries, entry.WellFormed double := by
  induction entries with
  | nil =>
    intro entry mem
    cases mem
  | cons entry rest ih =>
    rw [handle] at returns
    cases read : decode double entry.payload with
    | error err =>
      rw [read] at returns
      cases returns
    | ok task =>
      rw [read] at returns
      intro other mem
      rcases List.mem_cons.mp mem with same | there
      · rw [same]
        unfold PendingEntry.WellFormed
        rw [read]
        rfl
      · exact ih returns other there

theorem handle_subset (entries : List PendingEntry) :
    (pass.handle double entries).1 ⊆ entries.map pass.outcome := by
  induction entries with
  | nil => exact List.Subset.refl _
  | cons entry rest ih =>
    rw [handle]
    cases decode double entry.payload with
    | error err => exact List.nil_subset _
    | ok task => exact List.cons_subset_cons _ ih

theorem claim_id (now : Nat) (entry : PendingEntry) :
    (pass.claim now entry).messageId = entry.messageId := by
  unfold claim
  split_ifs
  · rfl
  · rfl

def idsOf (batches : List (Nat × List PendingEntry)) : List String :=
  (batches.flatMap Prod.snd).map (·.messageId)

variable (batch : Nat × List PendingEntry) (rest : List (Nat × List PendingEntry))

theorem ids_cons :
    idsOf (batch :: rest) = batch.2.map (·.messageId) ++ idsOf rest := by
  unfold idsOf
  rw [List.flatMap_cons, List.map_append]

def claimedOf (pass : RecoveryPass) (batch : Nat × List PendingEntry) : List PendingEntry :=
  batch.2.filter fun entry => pass.Stale batch.1 entry

theorem claimed_nil_iff {batch : Nat × List PendingEntry} :
    claimedOf pass batch = [] ↔ ¬∃ entry ∈ batch.2, pass.Stale batch.1 entry := by
  unfold claimedOf
  rw [List.filter_eq_nil_iff]
  constructor
  · intro none some
    obtain ⟨entry, mem, stale⟩ := some
    exact none entry mem (decide_eq_true stale)
  · intro none entry mem stale
    exact none ⟨entry, mem, of_decide_eq_true stale⟩

theorem handled_batch_id {batch : Nat × List PendingEntry} {call : String × Bool}
    (mem : call ∈ (pass.handle double (claimedOf pass batch)).1) :
    call.1 ∈ batch.2.map (·.messageId) := by
  obtain ⟨entry, claimed, rfl⟩ := List.mem_map.mp (handle_subset _ mem)
  exact List.mem_map_of_mem (List.mem_of_mem_filter claimed)

theorem recover_cons :
    recoverBatches double pass (batch :: rest) =
      let handled := pass.handle double (claimedOf pass batch)
      let kept := (batch.2.map (pass.claim batch.1)).filter fun entry =>
      (entry.messageId, true) ∉ handled.1
      if handled.2.isSome ∨ claimedOf pass batch = [] then
      ⟨kept ++ rest.flatMap Prod.snd, handled.1, handled.2⟩
      else ⟨kept ++ (recoverBatches double pass rest).pending,
      handled.1 ++ (recoverBatches double pass rest).handled,
      (recoverBatches double pass rest).error⟩ := rfl

theorem handled_ids (batches : List (Nat × List PendingEntry)) {call : String × Bool}
    (mem : call ∈ (recoverBatches double pass batches).handled) : call.1 ∈ idsOf batches := by
  induction batches with
  | nil => cases mem
  | cons batch rest ih =>
    rw [recover_cons] at mem
    rw [ids_cons, List.mem_append]
    dsimp only at mem
    split_ifs at mem
    · exact Or.inl (handled_batch_id mem)
    · rcases List.mem_append.mp mem with here | there
      · exact Or.inl (handled_batch_id here)
      · exact Or.inr (ih there)

theorem kept_ids (batch : List PendingEntry) (now : Nat) (handled : List (String × Bool)) :
    ((batch.map (pass.claim now)).filter fun entry => (entry.messageId, true) ∉ handled).map
      (·.messageId) =
      (batch.map (·.messageId)).filter fun messageId => (messageId, true) ∉ handled := by
  rw [List.filter_map, List.filter_map, List.map_map]
  have same : (fun entry : PendingEntry => entry.messageId) ∘ pass.claim now =
      fun entry => entry.messageId := by
    funext entry
    exact claim_id now entry
  rw [same]
  apply congrArg
  apply List.filter_congr
  intro entry _
  simp only [Function.comp_apply, claim_id]

variable {batches : List (Nat × List PendingEntry)}

theorem pending_ids (distinct : (idsOf batches).Nodup) :
    (recoverBatches double pass batches).pending.map (·.messageId) =
      (idsOf batches).filter fun messageId =>
      (messageId, true) ∉ (recoverBatches double pass batches).handled := by
  induction batches with
  | nil => rfl
  | cons batch rest ih =>
    rw [ids_cons, List.nodup_append] at distinct
    obtain ⟨_, later, apart⟩ := distinct
    have mine (messageId : String) (mem : messageId ∈ batch.2.map (·.messageId)) :
        (messageId, true) ∉ (recoverBatches double pass rest).handled := by
      intro call
      exact apart messageId mem messageId (handled_ids rest call) rfl
    have theirs (messageId : String) (mem : messageId ∈ idsOf rest) :
        (messageId, true) ∉ (pass.handle double (claimedOf pass batch)).1 := by
      intro call
      exact apart messageId (handled_batch_id call) messageId mem rfl
    rw [recover_cons, ids_cons, List.filter_append]
    dsimp only
    split_ifs
    · rw [List.map_append, kept_ids]
      apply congrArg
      symm
      apply List.filter_eq_self.mpr
      intro messageId mem
      simpa using theirs messageId mem
    · rw [List.map_append, kept_ids, ih later]
      apply congrArg₂
      · apply List.filter_congr
        intro messageId mem
        simp [mine messageId mem]
      · apply List.filter_congr
        intro messageId mem
        simp [theirs messageId mem]

def dueOf (double : List Char → UInt64) (pass : RecoveryPass)
    (batches : List (Nat × List PendingEntry)) : List PendingEntry :=
  batches.flatMap fun batch => (claimedOf pass batch).filter fun entry => entry.WellFormed double

theorem recover_of_unbroken
    (unbroken : Unbroken double pass batches) :
    (recoverBatches double pass batches).error = none ∧
      (recoverBatches double pass batches).handled =
      (dueOf double pass batches).map pass.outcome := by
  induction batches with
  | nil => exact ⟨rfl, rfl⟩
  | cons batch rest ih =>
    obtain ⟨formed, further⟩ := unbroken
    have all : ∀ entry ∈ claimedOf pass batch, entry.WellFormed double := by
      intro entry claimed
      obtain ⟨mem, stale⟩ := List.mem_filter.mp claimed
      exact formed entry mem (of_decide_eq_true stale)
    have own : (claimedOf pass batch).filter (fun entry => entry.WellFormed double) =
        claimedOf pass batch := by
      apply List.filter_eq_self.mpr
      intro entry claimed
      exact decide_eq_true (all entry claimed)
    have due : dueOf double pass (batch :: rest) =
        claimedOf pass batch ++ dueOf double pass rest := by
      unfold dueOf
      rw [List.flatMap_cons, own]
    rw [recover_cons, handle_of_well_formed all, due]
    dsimp only
    by_cases some : ∃ entry ∈ batch.2, pass.Stale batch.1 entry
    · have claims : claimedOf pass batch ≠ [] := fun none => claimed_nil_iff.mp none some
      rw [if_pos some] at further
      rw [if_neg (by simp [claims]), List.map_append, (ih further).2]
      exact ⟨(ih further).1, rfl⟩
    · have none : claimedOf pass batch = [] := claimed_nil_iff.mpr some
      rw [if_neg some] at further
      have empty : dueOf double pass rest = [] := by
        apply List.flatMap_eq_nil_iff.mpr
        intro later there
        apply List.filter_eq_nil_iff.mpr
        intro entry claimed good
        obtain ⟨mem, stale⟩ := List.mem_filter.mp claimed
        exact further later there entry mem (of_decide_eq_true stale) (of_decide_eq_true good)
      rw [if_pos (Or.inr none), none, empty]
      exact ⟨rfl, rfl⟩

theorem unbroken_of_recover (distinct : (idsOf batches).Nodup)
    (returns : (recoverBatches double pass batches).error = none)
    (handled : ∀ entry ∈ dueOf double pass batches,
      entry.messageId ∈ (recoverBatches double pass batches).handled.map Prod.fst) :
    Unbroken double pass batches := by
  induction batches with
  | nil => trivial
  | cons batch rest ih =>
    rw [ids_cons, List.nodup_append] at distinct
    obtain ⟨_, later, apart⟩ := distinct
    rw [recover_cons] at returns handled
    dsimp only at returns handled
    have ends : (pass.handle double (claimedOf pass batch)).2 = none := by
      by_contra raised
      have some := Option.isSome_iff_ne_none.mpr raised
      rw [if_pos (Or.inl some)] at returns
      exact raised returns
    have formed := well_formed_of_handle ends
    constructor
    · intro entry mem stale
      exact formed entry (List.mem_filter.mpr ⟨mem, decide_eq_true stale⟩)
    · have unraised : ¬(pass.handle double (claimedOf pass batch)).2.isSome = true := by
        rw [ends]
        exact Bool.false_ne_true
      by_cases some : ∃ entry ∈ batch.2, pass.Stale batch.1 entry
      · have claims : claimedOf pass batch ≠ [] := fun none => claimed_nil_iff.mp none some
        rw [if_pos some]
        rw [if_neg (not_or.mpr ⟨unraised, claims⟩)] at returns handled
        apply ih later returns
        intro entry due
        have both := handled entry (by
          unfold dueOf
          rw [List.flatMap_cons]
          exact List.mem_append_right _ due)
        rw [List.map_append, List.mem_append] at both
        apply both.resolve_left
        intro here
        obtain ⟨call, mem, same⟩ := List.mem_map.mp here
        have inRest : entry.messageId ∈ idsOf rest := by
          obtain ⟨other, there, claimed⟩ := List.mem_flatMap.mp due
          apply List.mem_map_of_mem
          exact List.mem_flatMap.mpr ⟨other, there,
            List.mem_of_mem_filter (List.mem_of_mem_filter claimed)⟩
        exact apart call.1 (handled_batch_id mem) entry.messageId inRest same
      · have none : claimedOf pass batch = [] := claimed_nil_iff.mpr some
        rw [if_neg some]
        rw [if_pos (Or.inr none), none] at handled
        intro other there entry mem stale good
        have due : entry ∈ dueOf double pass (batch :: rest) := by
          apply List.mem_flatMap.mpr
          refine ⟨other, List.mem_cons_of_mem _ there, ?_⟩
          apply List.mem_filter.mpr
          exact ⟨List.mem_filter.mpr ⟨mem, decide_eq_true stale⟩, decide_eq_true good⟩
        cases handled entry due

section passes

variable {pending : List PendingEntry}

def passBatches (pass : RecoveryPass) (pending : List PendingEntry) :
    List (Nat × List PendingEntry) :=
  batchesOf pass.lastAt pass.batches pending

theorem ids_of_pass (pass : RecoveryPass) (pending : List PendingEntry) :
    idsOf (passBatches pass pending) = pending.map (·.messageId) := by
  unfold idsOf passBatches
  rw [batches_flatten]

theorem mem_due_iff (entry : PendingEntry) :
    entry ∈ dueOf double pass (passBatches pass pending) ↔ Due double pass pending entry := by
  unfold dueOf claimedOf Due passBatches
  rw [List.mem_flatMap]
  simp only [List.mem_filter, decide_eq_true_iff]
  constructor
  · intro found
    obtain ⟨batch, there, inside, good⟩ := found
    exact ⟨good, batch, there, inside⟩
  · intro due
    obtain ⟨good, batch, there, inside⟩ := due
    exact ⟨batch, there, inside, good⟩

theorem due_sublist_batches (batches : List (Nat × List PendingEntry)) :
    (dueOf double pass batches).Sublist (batches.flatMap Prod.snd) := by
  induction batches with
  | nil => exact List.Sublist.refl _
  | cons batch rest ih =>
    unfold dueOf at ih ⊢
    rw [List.flatMap_cons, List.flatMap_cons]
    exact (List.filter_sublist.trans List.filter_sublist).append ih

theorem due_sublist (pending : List PendingEntry) :
    (dueOf double pass (passBatches pass pending)).Sublist pending := by
  have whole := @due_sublist_batches double pass (passBatches pass pending)
  rw [passBatches, batches_flatten] at whole
  exact whole

theorem due_ids_nodup (distinct : (pending.map (·.messageId)).Nodup) :
    ((dueOf double pass (passBatches pass pending)).map (·.messageId)).Nodup :=
  distinct.sublist ((due_sublist pending).map _)

theorem due_id_iff (distinct : (pending.map (·.messageId)).Nodup) {entry : PendingEntry}
    (mem : entry ∈ pending) :
    entry.messageId ∈ (dueOf double pass (passBatches pass pending)).map (·.messageId) ↔
      Due double pass pending entry := by
  rw [← mem_due_iff]
  constructor
  · intro listed
    obtain ⟨other, due, same⟩ := List.mem_map.mp listed
    have there : other ∈ pending := (due_sublist pending).subset due
    rw [← List.inj_on_of_nodup_map distinct there mem same]
    exact due
  · exact List.mem_map_of_mem

theorem outcome_ids (entries : List PendingEntry) :
    (entries.map pass.outcome).map Prod.fst = entries.map (·.messageId) := by
  rw [List.map_map]
  rfl

theorem recovers_all_iff (distinct : (pending.map (·.messageId)).Nodup) :
    RecoversAll double pass pending ↔ Unbroken double pass (passBatches pass pending) := by
  have ids : (idsOf (passBatches pass pending)).Nodup := by
    rw [ids_of_pass]
    exact distinct
  constructor
  · intro recovers
    apply unbroken_of_recover ids recovers.returns
    intro entry due
    have mem : entry ∈ pending := (due_sublist pending).subset due
    have once := recovers.handled entry mem
    rw [if_pos ((mem_due_iff entry).mp due)] at once
    exact List.count_pos_iff.mp (Nat.lt_of_lt_of_eq Nat.one_pos once.symm)
  · intro unbroken
    obtain ⟨returns, handled⟩ := recover_of_unbroken unbroken
    have left := @pending_ids double pass _ ids
    rw [ids_of_pass] at left
    constructor
    · exact returns
    · intro entry mem
      unfold recovered
      unfold passBatches at handled
      rw [handled, outcome_ids]
      by_cases due : Due double pass pending entry
      · rw [if_pos due]
        apply List.count_eq_one_of_mem (due_ids_nodup distinct)
        exact (due_id_iff distinct mem).mpr due
      · rw [if_neg due]
        exact List.count_eq_zero.mpr fun listed => due ((due_id_iff distinct mem).mp listed)
    · intro entry mem
      unfold passBatches at left handled
      unfold recovered
      rw [left, List.mem_filter, and_iff_right (List.mem_map_of_mem mem), decide_eq_true_iff,
        handled]
      apply not_congr
      rw [← due_id_iff distinct mem]
      constructor
      · intro listed
        obtain ⟨other, due, same⟩ := List.mem_map.mp listed
        obtain ⟨id, ret⟩ := Prod.mk.inj same
        rw [← id]
        exact ⟨List.mem_map_of_mem due, ret⟩
      · intro both
        obtain ⟨other, due, same⟩ := List.mem_map.mp both.1
        apply List.mem_map.mpr
        apply Exists.intro other
        apply And.intro due
        unfold outcome
        rw [same, both.2]

end passes

section runs

variable {engine : WorkerCrashRecoveryEngine} {group : RedisGroup}

theorem distinct_next (call : RedisCall) (distinct : (group.pending.map (·.messageId)).Nodup) :
    (((redisGroup double).next call group).pending.map (·.messageId)).Nodup := by
  cases call with
  | deliver entry =>
    by_cases held : entry.messageId ∈ group.pending.map (·.messageId)
    · have same : (redisGroup double).next (.deliver entry) group = group := if_pos held
      rw [same]
      exact distinct
    · have next : (redisGroup double).next (.deliver entry) group =
          { group with pending := group.pending ++ [entry] } := if_neg held
      rw [next]
      exact nodup_map_concat distinct held
  | recover pass =>
    have ids : (idsOf (passBatches pass group.pending)).Nodup := by
      rw [ids_of_pass]
      exact distinct
    have left := @pending_ids double pass _ ids
    have next : ((redisGroup double).next (.recover pass) group).pending =
        (recoverBatches double pass (passBatches pass group.pending)).pending := rfl
    rw [next, left]
    exact ids.filter _

theorem failures_deliver (entry : PendingEntry) (messageId : String) :
    ((redisGroup double).next (.deliver entry) group).failures messageId =
      group.failures messageId := by
  by_cases held : entry.messageId ∈ group.pending.map (·.messageId)
  · have same : (redisGroup double).next (.deliver entry) group = group := if_pos held
    rw [same]
  · have next : (redisGroup double).next (.deliver entry) group =
        { group with pending := group.pending ++ [entry] } := if_neg held
    rw [next]
    rfl

theorem failures_recover (pass : RecoveryPass) (messageId : String) :
    ((redisGroup double).next (.recover pass) group).failures messageId = group.failures messageId +
      (recovered double pass group.pending).handled.count (messageId, false) :=
  List.count_append

theorem failures_of_unbroken (distinct : (group.pending.map (·.messageId)).Nodup)
    (unbroken : Unbroken double pass (passBatches pass group.pending)) (messageId : String) :
    (recovered double pass group.pending).handled.count (messageId, false) ≤ 1 ∧
      ((recovered double pass group.pending).handled.count (messageId, false) ≠ 0 ↔
      ∃ entry ∈ group.pending, entry.messageId = messageId ∧
      Due double pass group.pending entry ∧ pass.handler entry.messageId = false) := by
  have handled : (recovered double pass group.pending).handled =
      (dueOf double pass (passBatches pass group.pending)).map pass.outcome :=
    (recover_of_unbroken unbroken).2
  have nodup : ((dueOf double pass (passBatches pass group.pending)).map pass.outcome).Nodup := by
    apply List.Nodup.of_map Prod.fst
    rw [outcome_ids]
    exact due_ids_nodup distinct
  rw [handled]
  apply And.intro (List.nodup_iff_count_le_one.mp nodup _)
  rw [← Nat.pos_iff_ne_zero, List.count_pos_iff, List.mem_map]
  constructor
  · intro listed
    obtain ⟨entry, due, same⟩ := listed
    obtain ⟨id, failed⟩ := Prod.mk.inj same
    have mem : entry ∈ group.pending := (due_sublist group.pending).subset due
    exact ⟨entry, mem, id, (mem_due_iff entry).mp due, failed⟩
  · intro found
    obtain ⟨entry, _, same, due, failed⟩ := found
    apply Exists.intro entry
    apply And.intro ((mem_due_iff entry).mpr due)
    unfold outcome
    rw [failed, same]

/-- A message is pending once, and its retries are not used up beyond the last one. -/
structure RedisGroup.Sound (engine : WorkerCrashRecoveryEngine) (group : RedisGroup) : Prop where
  distinct : (group.pending.map (·.messageId)).Nodup
  bounded : ∀ messageId, group.failures messageId ≤ engine.maxRetries + 1

theorem bounded_recover_iff (sound : group.Sound engine)
    (unbroken : Unbroken double pass (passBatches pass group.pending)) :
    (∀ messageId, ((redisGroup double).next (.recover pass) group).failures messageId ≤
      engine.maxRetries + 1) ↔
      ∀ entry ∈ group.pending, Due double pass group.pending entry →
      pass.handler entry.messageId = false →
      group.failures entry.messageId ≤ engine.maxRetries := by
  constructor
  · intro bounded entry mem due failed
    have after := bounded entry.messageId
    have once := failures_of_unbroken sound.distinct unbroken entry.messageId
    have called := once.2.mpr ⟨entry, mem, rfl, due, failed⟩
    rw [failures_recover] at after
    omega
  · intro sustained messageId
    have once := failures_of_unbroken sound.distinct unbroken messageId
    have before := sound.bounded messageId
    rw [failures_recover]
    by_cases called : (recovered double pass group.pending).handled.count (messageId, false) = 0
    · omega
    · obtain ⟨entry, mem, same, due, failed⟩ := once.2.mp called
      have within := sustained entry mem due failed
      rw [same] at within
      omega

variable {before : List RedisCall} {call : RedisCall}

theorem recovers_safely_iff (sound : ((redisGroup double).run before {}).Sound engine) :
    RecoversSafely double engine before call ↔
      Sustained double engine call ((redisGroup double).run before {}) := by
  cases call with
  | deliver entry =>
    apply iff_of_true _ trivial
    constructor
    · intro pass same
      cases same
    · intro messageId
      rw [Machine.run_concat, failures_deliver]
      exact sound.bounded messageId
  | recover pass =>
    have all := @recovers_all_iff double pass _ sound.distinct
    constructor
    · intro safely
      have unbroken := all.mp (safely.recovers pass rfl)
      apply And.intro unbroken
      apply (bounded_recover_iff sound unbroken).mp
      intro messageId
      rw [← Machine.run_concat]
      exact safely.bounded messageId
    · intro sustained
      constructor
      · intro other same
        cases same
        exact all.mpr sustained.1
      · intro messageId
        rw [Machine.run_concat]
        exact (bounded_recover_iff sound sustained.1).mpr sustained.2 messageId

end runs

/-- Over any number of deliveries and passes, every pass recovers what it should and no message is
retried too often, exactly when each pass is unbroken and stays within the retries. -/
theorem recovers_safely_run_iff (double : List Char → UInt64) (engine : WorkerCrashRecoveryEngine)
    (calls : List RedisCall) :
    Historically (RecoversSafely double engine) calls ↔
      (redisGroup double).Throughout (Sustained double engine) calls {} := by
  apply Machine.historically_iff_throughout fun _ group => RedisGroup.Sound engine group
  · intro before call sound sustained
    have safely := (recovers_safely_iff sound).mpr sustained
    apply RedisGroup.Sound.mk (distinct_next call sound.distinct)
    intro messageId
    rw [← Machine.run_concat]
    exact safely.bounded messageId
  · exact ⟨List.nodup_nil, fun messageId => Nat.zero_le _⟩
  · intro before call sound
    exact recovers_safely_iff sound

/-- A pass in one batch, a second after the messages were delivered. -/
def onePass (handler : String → Bool) : RecoveryPass := ⟨10, [], 1000, handler⟩

/-- A message without a task keeps the message after it from its handler. -/
theorem malformed_message_blocks :
    let good : PendingEntry := ⟨"2-0", [(.str "task_context", .str "{}")], 0, 1⟩
    let pending : List PendingEntry := [⟨"1-0", [], 0, 1⟩, good]
    (recovered (fun _ => 0) (onePass fun _ => true) pending).error = some taskMissing ∧
      (recovered (fun _ => 0) (onePass fun _ => true) pending).handled = [] ∧
        Due (fun _ => 0) (onePass fun _ => true) pending good ∧
          ¬RecoversAll (fun _ => 0) (onePass fun _ => true) pending := by
  intro good pending
  have raises : (recovered (fun _ => 0) (onePass fun _ => true) pending).error =
      some taskMissing := by decide +kernel
  refine ⟨raises, by decide +kernel, by decide +kernel, ?_⟩
  intro recovers
  rw [recovers.returns] at raises
  cases raises

end Ois.Integration
