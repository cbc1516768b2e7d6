import Ois.Autonomy.Approvals
import Ois.Autonomy.ApprovedRuns
import Ois.Autonomy.LostRuns

/-!
# Two stores of approvals

The store in memory looks at an approval, compares its expiry with the clock and replaces it. The
store in PostgreSQL leaves both comparisons to a conditional update, and marks what has expired
with a second one.
-/

namespace Ois.Autonomy

open Ois.Library Ois.Kernel Ois.Infrastructure Dict Machine

/-- A call of either store, and the clock that it reads. -/
inductive StoreCall where
  | create (req : ApprovalRequest) (runId : Option Uuid)
  | get (askId : String) (clock : Nat → DateTime)
  | decide (askId : String) (decision : ApprovalDecision) (actor : String)
      (clock : Nat → DateTime)

inductive StoreAnswer where
  | created (res : Except PyError ApprovalRequest)
  | found (res : Except PyError (Option ApprovalRequest))
  | decided (res : Except PyError ApprovalRequest)

/-- Whether `decide` succeeds. -/
def StoreAnswer.succeeds : StoreAnswer → Option Bool
  | .decided res => some res.isOk
  | _ => none

namespace StoreCall

def readings : StoreCall → List Int
  | .create _ _ => []
  | .get _ clock => [(clock 0).instant]
  | .decide _ _ _ clock => [(clock 0).instant, (clock 1).instant]

/-- The clock does not go back. -/
def Ticking (calls : List StoreCall) : Prop := (calls.flatMap readings).Pairwise (· ≤ ·)

instance (calls : List StoreCall) : Decidable (Ticking calls) :=
  inferInstanceAs (Decidable (List.Pairwise _ _))

end StoreCall

def inMemoryStore : Machine StoreCall InMemoryApprovalStore StoreAnswer := fun call store =>
  match call with
  | .create req _ =>
    match InMemoryApprovalStore.create req store with
    | .error err => (store, .created (.error err))
    | .ok after => (after, .created (.ok req))
  | .get askId _ => (store, .found (.ok (store.lookup askId)))
  | .decide askId decision actor clock =>
    let (after, res) := InMemoryApprovalStore.decide askId decision actor
      (clock 0).instant (clock 1).instant store
    (after, .decided res)

def postgresStore (pg : Postgres) (double : List Char → UInt64) :
    Machine StoreCall ApprovalTable StoreAnswer := fun call table =>
  match call with
  | .create req runId =>
    match ApprovalTable.create pg req runId table with
    | .error err => (table, .created (.error err))
    | .ok after => (after, .created (.ok req))
  | .get askId clock =>
    (table, .found (ApprovalTable.get pg double (clock 0) askId table))
  | .decide askId decision actor clock =>
    let (after, res) := ApprovalTable.decide pg double (clock 1) askId decision
      actor (clock 0).instant table
    (after, .decided res)

structure Standing where
  decision : ApprovalDecision
  decidedBy : Option String
  decidedAt : Option Int
  expiresAt : Int
  deriving DecidableEq, Repr

def ApprovalRequest.standing (req : ApprovalRequest) : Standing :=
  ⟨req.decision, req.decidedBy, req.decidedAt, req.expiresAt⟩

def ApprovalRow.standing (row : ApprovalRow) : Standing :=
  ⟨row.decision, row.decidedBy, row.decidedAt, row.expiresAt⟩

def leavesPending (before after : Option Standing) : Bool :=
  before.any (·.decision = .pending) && after.any (·.decision ≠ .pending)

inductive Settles (call : StoreCall) : Option Standing → Option Standing → Prop where
  | kept (standing : Option Standing) : Settles call standing standing
  | created (standing : Standing) : Settles call none (some standing)
  | decided (standing : Standing) (askId : String) (decision : ApprovalDecision)
      (actor : String) (clock : Nat → DateTime) (decidedAt : Int)
      (made : call = .decide askId decision actor clock)
      (waits : standing.decision = .pending) (timely : (clock 0).instant < standing.expiresAt) :
      Settles call (some standing)
        (some ⟨decision, some actor, some decidedAt, standing.expiresAt⟩)
  | expired (standing : Standing) (waits : standing.decision = .pending) :
      Settles call (some standing) (some { standing with decision := .expired })

section finality

variable {State Key : Type} (machine : Machine StoreCall State StoreAnswer)
  (standing : Key → State → Option Standing) (start : State)

/-- Decisions are final, and taken in time: an approval leaves `PENDING` at most once, stays as it
is afterwards, and becomes `APPROVED` or `REJECTED` by a decision that starts before it expires. -/
structure DecisionsFinal (calls : List StoreCall) : Prop where
  once : ∀ key, machine.tally (fun before after =>
    leavesPending (standing key before) (standing key after)) calls start ≤ 1
  kept : ∀ before after, calls = before ++ after → ∀ key held,
    standing key (machine.run before start) = some held → held.decision ≠ .pending →
      standing key (machine.run calls start) = some held
  timely : ∀ before call after, calls = before ++ call :: after → ∀ key held taken,
    standing key (machine.run before start) = some held → held.decision = .pending →
      standing key (machine.next call (machine.run before start)) = some taken →
        taken.decision = .approved ∨ taken.decision = .rejected →
          ∃ askId actor clock,
            call = .decide askId taken.decision actor clock ∧
              (clock 0).instant < held.expiresAt ∧ taken.decidedBy = some actor

variable {machine standing}

theorem Settles.kept_of_decided {call : StoreCall} {held : Standing} {after : Option Standing}
    (settles : Settles call (some held) after) (settled : held.decision ≠ .pending) :
    after = some held := by
  cases settles with
  | kept => rfl
  | decided _ _ _ _ _ _ made waits | expired _ waits => exact absurd waits settled

variable (standing) in
/-- A decision was taken on the approval, or it expired. -/
def Settled (key : Key) (state : State) : Prop :=
  ∃ held, standing key state = some held ∧ held.decision ≠ .pending

theorem leaves_pending_iff {before after : Option Standing} :
    leavesPending before after = true ↔
      (∃ held, before = some held ∧ held.decision = .pending) ∧
        ∃ taken, after = some taken ∧ taken.decision ≠ .pending := by
  simp [leavesPending, Option.any_eq_true]

section settling

variable (settles : ∀ call state key,
  Settles call (standing key state) (standing key (machine.next call state)))

include settles

theorem standing_kept {key : Key} {held : Standing} (settled : held.decision ≠ .pending)
    (calls : List StoreCall) {state : State} (found : standing key state = some held) :
    standing key (machine.run calls state) = some held := by
  have keeps : ∀ call state, standing key state = some held →
      standing key (machine.next call state) = some held := by
    intro call state found
    have moved := settles call state key
    rw [found] at moved
    exact moved.kept_of_decided settled
  exact run_invariant keeps calls found

theorem left_once (key : Key) (calls : List StoreCall) :
    machine.tally (fun before after => leavesPending (standing key before) (standing key after))
      calls start ≤ 1 := by
  have stays : ∀ call state, Settled standing key state →
      Settled standing key (machine.next call state) := by
    intro call state settled
    obtain ⟨held, found, decided⟩ := settled
    exact ⟨held, standing_kept settles decided [call] found, decided⟩
  apply tally_le_one stays
  · intro state after leaves settled
    obtain ⟨⟨waiting, found, waits⟩, _⟩ := leaves_pending_iff.mp leaves
    obtain ⟨held, same, decided⟩ := settled
    rw [found, Option.some.injEq] at same
    exact decided (same ▸ waits)
  · intro state after leaves
    exact (leaves_pending_iff.mp leaves).2

theorem decisions_final (calls : List StoreCall) : DecisionsFinal machine standing start calls := by
  constructor
  · intro key
    exact left_once start settles key calls
  · intro before after split key held found settled
    rw [split, run_append]
    exact standing_kept settles settled after found
  · intro before call after split key held taken found waits changed granted
    have moved := settles call (machine.run before start) key
    rw [found, changed] at moved
    cases moved with
    | kept => simp [waits] at granted
    | decided _ askId decision actor clock decidedAt made _ timely =>
      exact ⟨askId, actor, clock, made, timely, rfl⟩
    | expired => simp at granted

end settling

end finality

section stores

variable {pg : Postgres} {double : List Char → UInt64}

theorem in_memory_settles (call : StoreCall) (store : InMemoryApprovalStore) (key : String) :
    Settles call ((store.lookup key).map (·.standing))
      (((inMemoryStore.next call store).lookup key).map (·.standing)) := by
  cases call with
  | get askId clock => exact .kept _
  | create req runId =>
    unfold next inMemoryStore InMemoryApprovalStore.create
    cases missing : store.lookup req.approvalId with
    | some held =>
      simp only [missing]
      exact .kept _
    | none =>
      simp only [missing, lookup_append_fresh missing]
      split_ifs with own
      · rw [own, missing]
        exact .created _
      · exact .kept _
  | decide askId decision actor clock =>
    have decided := InMemoryApprovalStore.decide_decided askId decision actor
      (clock 0).instant (clock 1).instant store
    change Settles _ _ (((InMemoryApprovalStore.decide askId decision actor
      (clock 0).instant (clock 1).instant store).1.lookup key).map _)
    generalize InMemoryApprovalStore.decide askId decision actor (clock 0).instant
      (clock 1).instant store = res at decided ⊢
    cases decided with
    | refused => exact .kept _
    | expired cur err found waits =>
      simp only [lookup_set]
      split_ifs with own
      · rw [own, found]
        exact .expired _ waits
      · exact .kept _
    | done cur decidedAt found waits timely =>
      simp only [lookup_set]
      split_ifs with own
      · rw [own, found]
        exact .decided _ askId decision actor clock decidedAt rfl waits timely.2
      · exact .kept _

theorem decided_settles (askId : String) (decision : ApprovalDecision) (actor : String)
    (clock : Nat → DateTime) (row : ApprovalRow) :
    Settles (.decide askId decision actor clock) (some row.standing)
      (some (ApprovalTable.decided decision actor (clock 0).instant row).standing) := by
  unfold ApprovalTable.decided
  split_ifs with settled timely
  · exact .kept _
  · exact .decided _ askId decision actor clock _ rfl (not_not.mp settled) timely
  · exact .expired _ (not_not.mp settled)

inductive RowMoves (call : StoreCall) : Option ApprovalRow → Option ApprovalRow → Prop where
  | kept (row : Option ApprovalRow) : RowMoves call row row
  | filed (row : ApprovalRow) (pending : row.decision = .pending) : RowMoves call none (some row)
  | decided (row : ApprovalRow) (askId : String) (decision : ApprovalDecision)
      (actor : String) (clock : Nat → DateTime)
      (made : call = .decide askId decision actor clock) :
      RowMoves call (some row)
        (some (ApprovalTable.decided decision actor (clock 0).instant row))

theorem row_moves (call : StoreCall) (table : ApprovalTable) (key : Uuid) :
    RowMoves call (table.lookup key)
      (((postgresStore pg double).next call table).lookup key) := by
  cases call with
  | get askId clock => exact .kept _
  | create req runId =>
    unfold next postgresStore
    cases created : ApprovalTable.create pg req runId table with
    | error err =>
      simp only [created]
      exact .kept _
    | ok after =>
      obtain ⟨askId, row, _, written, missing, rfl⟩ := create_ok created
      simp only [created, lookup_append_fresh missing]
      split_ifs with own
      · rw [own, missing]
        exact .filed row (pending_of_written written)
      · exact .kept _
  | decide askId decision actor clock =>
    change RowMoves _ _ ((ApprovalTable.decide pg double (clock 1) askId decision
      actor (clock 0).instant table).1.lookup key)
    unfold ApprovalTable.decide
    cases ApprovalTable.decideParameters pg askId actor with
    | error err => exact .kept _
    | ok named =>
      dsimp only
      cases found : table.lookup named with
      | none => exact .kept _
      | some row =>
        simp only [lookup_set]
        split_ifs with own
        · rw [own, found]
          exact .decided row askId decision actor clock rfl
        · exact .kept _

theorem postgres_settles (call : StoreCall) (table : ApprovalTable) (key : Uuid) :
    Settles call ((table.lookup key).map (·.standing))
      ((((postgresStore pg double).next call table).lookup key).map (·.standing)) := by
  have moved := @row_moves pg double call table key
  generalize ((postgresStore pg double).next call table).lookup key = after at moved ⊢
  generalize table.lookup key = before at moved ⊢
  cases moved with
  | kept => exact .kept _
  | filed row pending => exact .created _
  | decided row askId decision actor clock made =>
    rw [made]
    exact decided_settles askId decision actor clock row

def Portable (pg : Postgres) : StoreCall → Prop
  | .create req runId => (∃ id : Uuid, req.approvalId = id.str) ∧
      req.decision = .pending ∧ req.naive = false ∧
        ApprovalTable.sendTexts (ApprovalTable.textsOf req) = .ok () ∧
          ∃ row, ApprovalTable.approvalRow pg req runId = .ok row
  | .get _ _ => True
  | .decide askId _ actor _ => ApprovalTable.sendTexts [actor] = .ok () ∧
      ∀ id, pg.uuid askId = some id → askId = id.str

structure Alike (store : InMemoryApprovalStore) (table : ApprovalTable) : Prop where
  same : ∀ id : Uuid,
    (store.lookup id.str).map (fun req => (req.decision, req.expiresAt)) =
      (table.lookup id).map fun row => (row.decision, row.expiresAt)
  named : ∀ text req, store.lookup text = some req → ∃ id : Uuid, text = id.str
  aware : ∀ text req, store.lookup text = some req → req.naive = false
  payload : ∀ id row, table.lookup id = some row → ∃ members, row.eventPayload = .obj members

theorem Alike.found {store : InMemoryApprovalStore} {table : ApprovalTable} {id : Uuid}
    {row : ApprovalRow} (alike : Alike store table) (found : table.lookup id = some row) :
    ∃ req, store.lookup id.str = some req ∧ req.decision = row.decision ∧
      req.expiresAt = row.expiresAt := by
  have same := alike.same id
  rw [found, Option.map_some, Option.map_eq_some_iff] at same
  obtain ⟨req, held, pair⟩ := same
  exact ⟨req, held, congrArg Prod.fst pair, congrArg Prod.snd pair⟩

theorem Alike.missing {store : InMemoryApprovalStore} {table : ApprovalTable} {id : Uuid}
    (alike : Alike store table) : table.lookup id = none ↔ store.lookup id.str = none := by
  have same := alike.same id
  rw [← Option.map_eq_none_iff, ← same, Option.map_eq_none_iff]

theorem Alike.set {store : InMemoryApprovalStore} {table : ApprovalTable} {id : Uuid}
    {req : ApprovalRequest} {row : ApprovalRow} (alike : Alike store table)
    (decision : req.decision = row.decision) (expiresAt : req.expiresAt = row.expiresAt)
    (aware : req.naive = false) (body : ∃ members, row.eventPayload = .obj members) :
    Alike (set id.str req store) (set id row table) := by
  constructor
  · intro other
    rw [lookup_set, lookup_set]
    by_cases own : other = id
    · rw [own, if_pos rfl, if_pos rfl, Option.map_some, Option.map_some, decision, expiresAt]
    · have apart : other.str ≠ id.str := fun same => own (Uuid.str_injective same)
      rw [if_neg apart, if_neg own]
      exact alike.same other
  · intro text held found
    rw [lookup_set] at found
    split_ifs at found with own
    · exact ⟨id, own⟩
    · exact alike.named text held found
  · intro text held found
    rw [lookup_set] at found
    split_ifs at found with own
    · exact Option.some.inj found ▸ aware
    · exact alike.aware text held found
  · intro other held found
    rw [lookup_set] at found
    split_ifs at found with own
    · exact Option.some.inj found ▸ body
    · exact alike.payload other held found

theorem alike_created (uuids : UuidsRead pg) {store : InMemoryApprovalStore}
    {table : ApprovalTable} {req : ApprovalRequest} {runId : Option Uuid}
    (portable : Portable pg (.create req runId)) (alike : Alike store table) :
    Alike (inMemoryStore.next (.create req runId) store)
      ((postgresStore pg double).next (.create req runId) table) := by
  obtain ⟨⟨id, named⟩, pending, aware, sent, row, written⟩ := portable
  unfold next inMemoryStore postgresStore
  dsimp only
  have read : ApprovalTable.uuidColumn pg req.approvalId = .ok id := by
    rw [ApprovalTable.uuidColumn, named, uuids id]
  cases found : table.lookup id with
  | some held =>
    obtain ⟨kept, present, _⟩ := alike.found found
    have refused : InMemoryApprovalStore.create req store =
        .error ⟨.valueError, "approval already exists"⟩ := by
      rw [InMemoryApprovalStore.create, named, present]
    have violated : ApprovalTable.create pg req runId table =
        .error (uniqueViolation "autonomous_approvals_pkey") := by
      simp [ApprovalTable.create, sent, read, written, found, bind, Except.bind, throw, throwThe,
        MonadExceptOf.throw]
    rw [refused, violated]
    exact alike
  | none =>
    have absent := alike.missing.mp found
    have kept : InMemoryApprovalStore.create req store =
        .ok (set id.str req store) := by
      rw [InMemoryApprovalStore.create, named, absent, set_of_missing absent]
    have inserted : ApprovalTable.create pg req runId table =
        .ok (set id row table) := by
      simp [ApprovalTable.create, sent, read, written, found, bind, Except.bind, pure,
        Except.pure, set_of_missing found]
    rw [kept, inserted]
    have fields : row.expiresAt = req.expiresAt ∧
        ∃ members, row.eventPayload = .obj members := by
      obtain ⟨body, stored, rest⟩ := bind_ok written
      obtain ⟨source, _, ended⟩ := bind_ok rest
      obtain ⟨members, rfl⟩ := column_obj stored
      rw [← Except.ok.inj ended]
      exact ⟨by simp [aware], members, rfl⟩
    exact alike.set (pending.trans (pending_of_written written).symm) fields.1.symm aware fields.2

theorem request_is_ok (clock : DateTime) (id : Uuid) {row : ApprovalRow}
    (body : ∃ members, row.eventPayload = .obj members) :
    (ApprovalTable.request double clock id row).isOk = true := by
  obtain ⟨members, body⟩ := body
  rw [ApprovalTable.request, body]
  rfl

theorem payload_decided {row : ApprovalRow} (decision : ApprovalDecision) (actor : String)
    (now : Int) (body : ∃ members, row.eventPayload = .obj members) :
    ∃ members, (ApprovalTable.decided decision actor now row).eventPayload = .obj members := by
  have same := congrArg (·.eventPayload) (decided_undecided decision actor now row)
  obtain ⟨members, body⟩ := body
  exact ⟨members, same.trans body⟩

theorem alike_decided (uuids : UuidsRead pg) {store : InMemoryApprovalStore}
    {table : ApprovalTable} {askId : String} {decision : ApprovalDecision} {actor : String}
    {clock : Nat → DateTime}
    (portable : Portable pg (.decide askId decision actor clock))
    (alike : Alike store table) :
    let decided := InMemoryApprovalStore.decide askId decision actor (clock 0).instant
      (clock 1).instant store
    let updated := ApprovalTable.decide pg double (clock 1) askId decision actor
      (clock 0).instant table
    decided.2.isOk = updated.2.isOk ∧ Alike decided.1 updated.1 := by
  obtain ⟨sent, usual⟩ := portable
  unfold InMemoryApprovalStore.decide ApprovalTable.decide
  dsimp only
  cases read : pg.uuid askId with
  | none =>
    have unread : ApprovalTable.decideParameters pg askId actor =
        .error (ApprovalTable.badUuid askId) := by
      simp [ApprovalTable.decideParameters, sent, ApprovalTable.uuidColumn, read, bind,
        Except.bind]
    have absent : store.lookup askId = none := by
      rw [Option.eq_none_iff_forall_ne_some]
      intro req found
      obtain ⟨id, named⟩ := alike.named askId req found
      simp [named, uuids id] at read
    rw [unread, absent]
    exact ⟨rfl, alike⟩
  | some id =>
    have column : ApprovalTable.decideParameters pg askId actor = .ok id := by
      simp [ApprovalTable.decideParameters, sent, ApprovalTable.uuidColumn, read, bind,
        Except.bind]
    rw [column, usual id read]
    dsimp only
    cases found : table.lookup id with
    | none =>
      rw [alike.missing.mp found]
      exact ⟨rfl, alike⟩
    | some row =>
      obtain ⟨req, present, same, expiresAt⟩ := alike.found found
      have body := payload_decided decision actor (clock 0).instant
        (alike.payload id row found)
      have aware := alike.aware id.str req present
      rw [present]
      dsimp only
      by_cases waits : row.decision = .pending
      · by_cases timely : (clock 0).instant < row.expiresAt
        · rw [if_neg (by simp [same, waits]), if_neg (by simp [aware]), if_neg (by omega),
            if_pos ⟨waits, timely⟩]
          constructor
          · rw [request_is_ok (clock 1) id body]
            rfl
          · refine alike.set ?_ ?_ ?_ body
            · simp [ApprovalTable.decided, waits, timely, InMemoryApprovalStore.decided]
            · simp [ApprovalTable.decided, waits, timely, InMemoryApprovalStore.decided,
                expiresAt]
            · exact aware
        · rw [if_neg (by simp [same, waits]), if_neg (by simp [aware]), if_pos (by omega),
            if_neg fun both => timely both.2]
          constructor
          · rfl
          · refine alike.set ?_ ?_ ?_ body
            · simp [ApprovalTable.decided, waits, timely]
            · simp [ApprovalTable.decided, waits, timely, expiresAt]
            · exact aware
      · have settled : ApprovalTable.decided decision actor (clock 0).instant row = row := by
          rw [ApprovalTable.decided, if_pos waits]
        rw [if_pos (same ▸ waits), if_neg fun both => waits both.1, settled,
          set_of_lookup found]
        exact ⟨rfl, alike⟩

theorem alike_next (uuids : UuidsRead pg) (call : StoreCall) (store : InMemoryApprovalStore)
    (table : ApprovalTable) (portable : Portable pg call) (alike : Alike store table) :
    (inMemoryStore.answer call store).succeeds =
        ((postgresStore pg double).answer call table).succeeds ∧
      Alike (inMemoryStore.next call store) ((postgresStore pg double).next call table) := by
  cases call with
  | get askId clock => exact ⟨rfl, alike⟩
  | create req runId =>
    apply And.intro _ (alike_created uuids portable alike)
    unfold answer inMemoryStore postgresStore
    dsimp only
    split <;> split <;> rfl
  | decide askId decision actor clock =>
    have both := @alike_decided pg double uuids store table _ _ _ _ portable alike
    exact ⟨congrArg some both.1, both.2⟩

def GrantedInTime (row : ApprovalRow) : Prop :=
  row.decision = .approved ∨ row.decision = .rejected →
    ∃ decidedAt, row.decidedAt = some decidedAt ∧ decidedAt < row.expiresAt

theorem granted_in_time_decided (decision : ApprovalDecision) (actor : String) (now : Int)
    {row : ApprovalRow} (granted : GrantedInTime row) :
    GrantedInTime (ApprovalTable.decided decision actor now row) := by
  unfold ApprovalTable.decided
  split_ifs with settled timely
  · exact granted
  · exact fun _ => ⟨now, rfl, timely⟩
  · intro expired
    simp at expired

theorem granted_in_time_next (call : StoreCall) (table : ApprovalTable)
    (granted : ∀ id row, table.lookup id = some row → GrantedInTime row) :
    ∀ id row, ((postgresStore pg double).next call table).lookup id = some row →
      GrantedInTime row := by
  intro id row found
  have moved := @row_moves pg double call table id
  rw [found] at moved
  generalize held : table.lookup id = before at moved
  cases moved with
  | kept => exact granted id row held
  | filed row pending =>
    intro settled
    simp [pending] at settled
  | decided before askId decision actor clock made =>
    exact granted_in_time_decided decision actor (clock 0).instant (granted id before held)

variable (pg double) in
/-- Each decision succeeds in one store exactly when it succeeds in the other. -/
def StoresAgree (calls : List StoreCall) : Prop :=
  Machine.Agrees (fun answer said => answer.succeeds = said.succeeds) inMemoryStore
    (postgresStore pg double) calls [] []

theorem stores_agree (uuids : UuidsRead pg) {calls : List StoreCall}
    (portable : ∀ call ∈ calls, Portable pg call) : StoresAgree pg double calls := by
  have throughout : inMemoryStore.Throughout (fun call _ => Portable pg call) calls [] := by
    rw [throughout_iff]
    intro before call after split
    exact portable call (by simp [split])
  have start : Alike [] [] := by
    constructor
    · exact fun _ => rfl
    · intro text req found
      cases found
    · intro text req found
      cases found
    · intro id row found
      cases found
  exact agrees_of_simulation (alike_next uuids) throughout start

variable (pg double) in
structure ApprovalsDecided (calls : List StoreCall) : Prop where
  inMemory : DecisionsFinal inMemoryStore
    (fun key store => (store.lookup key).map (·.standing)) [] calls
  durable : DecisionsFinal (postgresStore pg double)
    (fun key table => (table.lookup key).map (·.standing)) [] calls
  inTime : ∀ before after, calls = before ++ after → ∀ id row,
    ((postgresStore pg double).run before []).lookup id = some row → GrantedInTime row
  agree : (∀ call ∈ calls, Portable pg call) → StoresAgree pg double calls

end stores

/-- In every run decisions are final and taken in time, and the stores agree on what both can
hold. -/
theorem approvals_decided (pg : Postgres) (double : List Char → UInt64)
    (uuids : UuidsRead pg) (calls : List StoreCall) :
    ApprovalsDecided pg double calls := by
  constructor
  · exact decisions_final [] in_memory_settles calls
  · exact decisions_final [] postgres_settles calls
  · intro before after _ id row
    have base : ∀ id row, List.lookup id ([] : ApprovalTable) = some row → GrantedInTime row := by
      intro id row found
      cases found
    exact run_invariant granted_in_time_next before base id row
  · exact stores_agree uuids

/-- A request under a name. -/
def filingAt (askId : String) : StoreCall :=
  .create
    { approvalId := askId, tenantId := "tenant", workspaceId := "workspace"
      workflowId := "flow", eventId := "event", reason := "", createdAt := 0
      expiresAt := DateTime.epoch.instant + 1 } none

def grantingAt (askId : String) : StoreCall :=
  .decide askId .approved "human" fun _ => DateTime.epoch

theorem named_approval_agrees :
    StoresAgree Postgres.exact (fun _ => 0)
      [filingAt (Uuid.str ⟨0⟩), grantingAt (Uuid.str ⟨0⟩)] := by
  have decided := approvals_decided Postgres.exact (fun _ => 0) exact_reads_uuids
    [filingAt (Uuid.str ⟨0⟩), grantingAt (Uuid.str ⟨0⟩)]
  apply decided.agree
  intro call mem
  rw [List.mem_cons, List.mem_singleton] at mem
  cases mem with
  | inl created =>
    rw [created]
    exact ⟨⟨⟨0⟩, rfl⟩, rfl, rfl, by decide +kernel, _, rfl⟩
  | inr approved =>
    rw [approved]
    refine ⟨by decide +kernel, ?_⟩
    intro id read
    exact congrArg Uuid.str (Option.some.inj ((exact_reads_uuids ⟨0⟩).symm.trans read))

/-- The store in PostgreSQL holds no approval whose name is not a UUID. -/
theorem unnamed_approval_disagrees :
    StoreCall.Ticking [filingAt "approval", grantingAt "approval"] ∧
      ¬StoresAgree Postgres.exact (fun _ => 0) [filingAt "approval", grantingAt "approval"] := by
  constructor
  · decide +kernel
  · intro agree
    have same := agree [filingAt "approval"] (grantingAt "approval") [] rfl
    revert same
    decide +kernel

end Ois.Autonomy
