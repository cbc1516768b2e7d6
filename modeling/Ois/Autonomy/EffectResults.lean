import Ois.Autonomy.DurableRuns
import Ois.Library.Machine

/-!
# Side effects are prepared and completed once

`PostgresSideEffectLedger` of `autonomy/side_effects.py`. Every method is one transaction on the
table of effects, and decodes the row that it selected after its commit.
-/

namespace Ois.Autonomy

open Ois.Library Ois.Kernel Ois.Infrastructure

inductive EffectStatus where
  | prepared | processing | completed | failed
  deriving DecidableEq, Repr

def EffectStatus.value : EffectStatus → String
  | prepared => "prepared"
  | processing => "processing"
  | completed => "completed"
  | failed => "failed"

/-- A row of `autonomous_side_effect_ledger`, which is filed under its idempotency key. -/
structure LedgerRow where
  effectId : Uuid
  tenantId : String
  workspaceId : String
  runId : Uuid
  invocationId : String
  capabilityId : String
  request : Json
  status : EffectStatus := .prepared
  result : Option Json := none
  error : Option Json := none
  completedAt : Option DateTime := none
  deriving DecidableEq, Repr

abbrev LedgerTable := Dict String LedgerRow

structure SideEffectLedgerEntry where
  effectId : Uuid
  tenantId : String
  workspaceId : String
  runId : Uuid
  invocationId : String
  idempotencyKey : String
  capabilityId : String
  request : Members
  status : String
  result : Json := .null
  error : Json := .null
  completedAt : Option DateTime := none
  deriving DecidableEq, Repr

/-- The arguments of `prepare`. -/
structure EffectRequest where
  tenantId : String
  workspaceId : String
  runId : Uuid
  invocationId : String
  idempotencyKey : String
  capabilityId : String
  request : Members
  deriving DecidableEq, Repr

inductive Cell where
  | null
  | uuid (value : Uuid)
  | text (value : String)
  | json (value : Json)
  | moment (value : DateTime)
  deriving DecidableEq, Repr

namespace Cell

variable (digits : UInt64 → String)

/-- `str(cell)`. -/
def str : Cell → String
  | .null => "None"
  | .uuid value => value.str
  | .text value => value
  | .json value => strOf digits value
  | .moment value => String.ofList (value.chars.map fun char => if char = 'T' then ' ' else char)

/-- The Python value, where it is one of a JSON document. -/
def value : Cell → Json
  | .json value => value
  | .text value => .str value
  | _ => .null

def moment? : Cell → Option DateTime
  | .moment value => some value
  | _ => none

/-- `row[index]`. -/
def column (row : List Cell) (index : Nat) : Except PyError Cell :=
  match row[index]? with
  | some cell => .ok cell
  | none => .error ⟨.other "IndexError", "tuple index out of range"⟩

/-- `UUID(str(row[index]))`. -/
def uuidColumn (row : List Cell) (index : Nat) : Except PyError Uuid := do
  let cell ← column row index
  match Uuid.parse? (cell.str digits) with
  | some parsed => .ok parsed
  | none => .error ⟨.valueError, "badly formed hexadecimal UUID string"⟩

end Cell

section decoding

variable (digits : UInt64 → String) (double : List Char → UInt64)

open Cell in
/-- `_row(row)`. -/
def SideEffectLedgerEntry.ofRow (row : List Cell) : Except PyError SideEffectLedgerEntry := do
  let effect ← uuidColumn digits row 0
  let tenant ← column row 1
  let spaceId ← column row 2
  let runId ← uuidColumn digits row 3
  let callId ← column row 4
  let idemKey ← column row 5
  let capId ← column row 6
  let requested ← column row 7
  let req ← dictOf (← decodeText double requested.value)
  let status ← column row 8
  let res ← decodeText double (← column row 9).value
  let err ← decodeText double (← column row 10).value
  let completedAt ← column row 11
  return { effectId := effect, tenantId := tenant.str digits
           workspaceId := spaceId.str digits, runId := runId
           invocationId := callId.str digits
           idempotencyKey := idemKey.str digits
           capabilityId := capId.str digits, request := req
           status := status.str digits, result := res, error := err
           completedAt := completedAt.moment? }

/-- The twelve columns of a `SELECT`. -/
def LedgerRow.cells (key : String) (row : LedgerRow) : List Cell :=
  [.uuid row.effectId, .text row.tenantId, .text row.workspaceId, .uuid row.runId,
    .text row.invocationId, .text key, .text row.capabilityId, .json row.request,
    .text row.status.value, (row.result.map .json).getD .null, (row.error.map .json).getD .null,
    (row.completedAt.map .moment).getD .null]

def LedgerRow.entry (key : String) (row : LedgerRow) : Except PyError SideEffectLedgerEntry :=
  SideEffectLedgerEntry.ofRow digits double (row.cells key)

end decoding

namespace LedgerTable

variable (pg : Postgres) (digits : UInt64 → String) (double : List Char → UInt64)

/-- The row that `prepare` inserts. -/
def prepared (effect : Uuid) (req : EffectRequest) (doc : Json) : LedgerRow :=
  { effectId := effect, tenantId := req.tenantId, workspaceId := req.workspaceId
    runId := req.runId, invocationId := req.invocationId
    capabilityId := req.capabilityId, request := doc }

/-- The `INSERT` of `prepare`, with the table that it leaves unless the key is there. -/
def insert (effect : Uuid) (req : EffectRequest) (table : LedgerTable) :
    Except PyError (Option LedgerTable) := do
  let doc ← pg.column (Json.dumpsSorted (.obj req.request))
  if (table.lookup req.idempotencyKey).isSome then return none
  else if table.any fun entry => entry.2.effectId == effect then
    throw (uniqueViolation "autonomous_side_effect_ledger_pkey")
  else return some (table ++ [(req.idempotencyKey, prepared effect req doc)])

def disappeared : PyError := ⟨.other "RuntimeError", "side-effect ledger entry disappeared"⟩

/-- `prepare(...)`, which draws the identifier. -/
def prepare (effect : Uuid) (req : EffectRequest) (table : LedgerTable) :
    LedgerTable × Except PyError SideEffectLedgerEntry :=
  match insert pg effect req table with
  | .error err => (table, .error err)
  | .ok (some after) =>
    (after, SideEffectLedgerEntry.ofRow digits double
      [.uuid effect, .text EffectStatus.prepared.value])
  | .ok none => (table, match table.lookup req.idempotencyKey with
      | none => .error disappeared
      | some row => row.entry digits double req.idempotencyKey)

/-- The assignments of the `UPDATE` of `complete`, which leaves a completed row alone. -/
def completed (doc : Json) (now : DateTime) (row : LedgerRow) : LedgerRow :=
  if row.status = .completed then row
  else { row with
    status := .completed, result := some doc, completedAt := row.completedAt.or (some now) }

def missing (key : String) : PyError :=
  ⟨.other "KeyError", Kernel.reprStr ("side-effect not found: " ++ key)⟩

/-- `complete(idempotency_key, result=result)`. -/
def complete (key : String) (res : Json) (now : DateTime) (table : LedgerTable) :
    LedgerTable × Except PyError SideEffectLedgerEntry :=
  match pg.column (Json.dumpsSorted res) with
  | .error err => (table, .error err)
  | .ok doc =>
    match table.lookup key with
    | none => (table, .error (missing key))
    | some row =>
      let after := completed doc now row
      (table.set key after, after.entry digits double key)

/-- `get(idempotency_key)`. -/
def get (key : String) (table : LedgerTable) : Except PyError (Option SideEffectLedgerEntry) :=
  match table.lookup key with
  | none => .ok none
  | some row => (row.entry digits double key).map some

end LedgerTable

inductive LedgerCall where
  | prepare (effect : Uuid) (req : EffectRequest)
  | complete (key : String) (res : Json) (now : DateTime)
  | get (key : String)

def sideEffectLedger (pg : Postgres) (digits : UInt64 → String)
    (double : List Char → UInt64) :
    Machine LedgerCall LedgerTable (Except PyError (Option SideEffectLedgerEntry))
  | .prepare effect req, table =>
    let (after, entry) := LedgerTable.prepare pg digits double effect req table
    (after, entry.map some)
  | .complete key res now, table =>
    let (after, entry) := LedgerTable.complete pg digits double key res now table
    (after, entry.map some)
  | .get key, table => (table, LedgerTable.get digits double key table)

open Machine EffectStatus Dict

/-- The entries that are filed, each under its idempotency key. -/
abbrev EffectEntries := Dict String SideEffectLedgerEntry

namespace EffectRequest

def entry (effect : Uuid) (req : EffectRequest) : SideEffectLedgerEntry :=
  { effectId := effect, tenantId := req.tenantId, workspaceId := req.workspaceId
    runId := req.runId, invocationId := req.invocationId
    idempotencyKey := req.idempotencyKey, capabilityId := req.capabilityId
    request := req.request, status := prepared.value }

end EffectRequest

def SideEffectLedgerEntry.completedBy (res : Json) (now : DateTime)
    (entry : SideEffectLedgerEntry) : SideEffectLedgerEntry :=
  if entry.status = completed.value then entry
  else { entry with
    status := completed.value, result := res
    completedAt := entry.completedAt.or (some now) }

open SideEffectLedgerEntry

def exactlyOnce : Machine LedgerCall EffectEntries (Except PyError (Option SideEffectLedgerEntry))
  | .prepare effect req, entries =>
    match entries.lookup req.idempotencyKey with
    | some entry => (entries, .ok (some entry))
    | none => (entries ++ [(req.idempotencyKey, req.entry effect)],
        .ok (some (req.entry effect)))
  | .complete key res now, entries =>
    match entries.lookup key with
    | none => (entries, .error (LedgerTable.missing key))
    | some entry => (entries.set key (entry.completedBy res now),
        .ok (some (entry.completedBy res now)))
  | .get key, entries => (entries, .ok (entries.lookup key))

/-- `entry == other`. -/
structure SideEffectLedgerEntry.Same (entry other : SideEffectLedgerEntry) : Prop where
  fields : { entry with request := other.request, result := other.result } = other
  request : pyEquals (.obj entry.request) (.obj other.request) = true
  result : pyEquals entry.result other.result = true

/-- A call is answered with the same entry, or raises the same. -/
inductive SameAnswer :
    Except PyError (Option SideEffectLedgerEntry) →
      Except PyError (Option SideEffectLedgerEntry) → Prop where
  | entry {entry other : SideEffectLedgerEntry} (same : entry.Same other) :
      SameAnswer (.ok (some entry)) (.ok (some other))
  | nothing : SameAnswer (.ok none) (.ok none)
  | raised (err : PyError) : SameAnswer (.error err) (.error err)

/-- The columns hand out documents that equal those of the call. -/
def LedgerCall.Kept (pg : Postgres) : LedgerCall → Prop
  | .prepare _ req => Keeps pg (.obj req.request)
  | .complete _ res _ => Keeps pg res
  | .get _ => True

/-- The identifier that a call draws. -/
def LedgerCall.drawn? : LedgerCall → Option Uuid
  | .prepare effect _ => some effect
  | _ => none

def NoText (res : Option Json) : Prop := ∀ text, res ≠ some (.str text)

/-- A call of `prepare` finds its key prepared, and the result that the key has when the
call is answered is no text. -/
def LedgerCall.Settled (table : LedgerTable) : LedgerCall → Prop
  | .prepare _ req => ∃ row, table.lookup req.idempotencyKey = some row ∧ NoText row.result
  | .complete key res _ => ∀ row, table.lookup key = some row →
      NoText (if row.status = .completed then row.result else some res)
  | .get key => ∀ row, table.lookup key = some row → NoText row.result

def LedgerRow.recorded (key : String) (req : Members) (row : LedgerRow) :
    SideEffectLedgerEntry :=
  { effectId := row.effectId, tenantId := row.tenantId, workspaceId := row.workspaceId
    runId := row.runId, invocationId := row.invocationId, idempotencyKey := key
    capabilityId := row.capabilityId, request := req, status := row.status.value
    result := row.result.getD .null, completedAt := row.completedAt }

def Records (key : String) (row : LedgerRow) (entry : SideEffectLedgerEntry) : Prop :=
  ∃ req, row.request = .obj req ∧ row.error = none ∧ (row.recorded key req).Same entry

def Represents (table : LedgerTable) (entries : EffectEntries) : Prop :=
  ∀ key, Option.Rel (Records key) (table.lookup key) (entries.lookup key)

section reading

variable {digits : UInt64 → String} {double : List Char → UInt64} {key : String}
  {row : LedgerRow} {entry : SideEffectLedgerEntry} {req : Members}

theorem value_of_json (doc : Option Json) :
    ((doc.map Cell.json).getD .null).value = doc.getD .null := by
  cases doc <;> rfl

theorem moment_of_cell (moment : Option DateTime) :
    ((moment.map Cell.moment).getD .null).moment? = moment := by
  cases moment <;> rfl

theorem entry_of_row (requested : row.request = .obj req) (unfailed : row.error = none) :
    row.entry digits double key = (decodeText double (row.result.getD .null)).map fun res =>
      { row.recorded key req with result := res } := by
  have requests : decodeText double (Cell.json (.obj req)).value = .ok (.obj req) := rfl
  have errors : decodeText double Cell.null.value = .ok .null := rfl
  simp only [LedgerRow.entry, LedgerRow.cells, ofRow, requested, unfailed,
    Cell.uuidColumn, Cell.column, Cell.str, List.getElem?_cons_zero, List.getElem?_cons_succ,
    bind, Except.bind, pure, Except.pure, Uuid.parse_str, requests, errors, dictOf,
    Option.map_none, Option.getD_none, value_of_json, moment_of_cell]
  cases decodeText double (row.result.getD .null) <;> rfl

theorem entry_of_inserted (effect : Uuid) (status : String) :
    ofRow digits double [.uuid effect, .text status] =
      .error ⟨.other "IndexError", "tuple index out of range"⟩ := by
  simp [ofRow, Cell.uuidColumn, Cell.column, Cell.str, bind, Except.bind]

theorem equals_str {value : Json} {text : String} :
    pyEquals value (.str text) = true ↔ value = .str text := by
  cases value with
  | null => simp [pyEquals]
  | bool | int | float => simp [pyEquals, number?]
  | str other =>
    rw [pyEquals, beq_iff_eq]
    exact eq_comm
  | arr => simp [pyEquals]
  | obj => simp [pyEquals]

theorem str_equals {value : Json} {text : String} :
    pyEquals (.str text) value = true ↔ value = .str text := by
  simp [pyEquals]

theorem no_text_of_equal {doc res : Json} (equal : pyEquals doc res = true) :
    NoText (some doc) ↔ NoText (some res) := by
  constructor
  · intro plain text same
    rw [Option.some.inj same] at equal
    exact plain text (congrArg some (equals_str.mp equal))
  · intro plain text same
    rw [Option.some.inj same] at equal
    exact plain text (congrArg some (str_equals.mp equal))

theorem decode_text_of_no_text {res : Option Json} (plain : NoText res) :
    decodeText double (res.getD .null) = .ok (res.getD .null) := by
  cases res with
  | none => rfl
  | some value =>
    cases value with
    | str text => exact absurd rfl (plain text)
    | _ => rfl

theorem entry_same_iff (records : Records key row entry) :
    SameAnswer ((row.entry digits double key).map some) (.ok (some entry)) ↔
      NoText row.result := by
  obtain ⟨req, requested, unfailed, same⟩ := records
  rw [entry_of_row requested unfailed]
  constructor
  · intro answered text held
    have res : entry.result = .str text := by
      have equal := same.result
      simp only [LedgerRow.recorded, held, Option.getD_some] at equal
      exact str_equals.mp equal
    simp only [held, Option.getD_some, decodeText, jsonLoads] at answered
    cases read : JsonScan.loads? double text with
    | none =>
      simp only [read, Except.map] at answered
      cases answered
    | some doc =>
      simp only [read, Except.map] at answered
      cases answered with
      | entry both =>
        have equal := both.result
        rw [res] at equal
        have itself : doc = .str text := equals_str.mp equal
        rw [itself] at read
        exact JsonScan.loads_ne_self text read
  · intro plain
    rw [decode_text_of_no_text plain]
    exact .entry same

end reading

section steps

variable {pg : Postgres} {digits : UInt64 → String} {double : List Char → UInt64}
  {table : LedgerTable} {entries : EffectEntries} {call : LedgerCall}

theorem records_prepared {effect : Uuid} {req : EffectRequest} {doc : Json}
    (written : pg.column (Json.dumpsSorted (.obj req.request)) = .ok doc)
    (equal : pyEquals doc (.obj req.request) = true) :
    Records req.idempotencyKey (LedgerTable.prepared effect req doc)
      (req.entry effect) := by
  obtain ⟨kept, rfl⟩ := column_obj written
  exact ⟨kept, rfl, rfl, rfl, equal, rfl⟩

theorem records_completed {key : String} {row : LedgerRow} {entry : SideEffectLedgerEntry}
    {doc res : Json} (now : DateTime) (records : Records key row entry)
    (equal : pyEquals doc res = true) :
    Records key (LedgerTable.completed doc now row) (entry.completedBy res now) := by
  obtain ⟨req, requested, unfailed, same⟩ := records
  have fields := same.fields
  have status : row.status.value = entry.status := congrArg (·.status) fields
  have completed : row.status = .completed ↔ entry.status = completed.value := by
    rw [← status]
    cases row.status <;> decide
  by_cases done : row.status = .completed
  · rw [LedgerTable.completed, if_pos done, completedBy, if_pos (completed.mp done)]
    exact ⟨req, requested, unfailed, same⟩
  · rw [LedgerTable.completed, if_neg done, completedBy,
      if_neg (fun already => done (completed.mpr already))]
    refine ⟨req, requested, unfailed, ?_, same.request, equal⟩
    rw [← fields]
    rfl

theorem represents_next (represents : Represents table entries) (kept : call.Kept pg)
    (fresh : ∀ effect, call.drawn? = some effect →
      ∀ entry ∈ table, entry.2.effectId ≠ effect) :
    Represents ((sideEffectLedger pg digits double).next call table)
      (exactlyOnce.next call entries) := by
  cases call with
  | prepare effect req =>
    obtain ⟨doc, written, equal⟩ := kept
    have unused : (table.any fun entry => entry.2.effectId == effect) = false := by
      simpa using fun key row mem => fresh effect rfl (key, row) mem
    have present := represents req.idempotencyKey
    simp only [next, sideEffectLedger, exactlyOnce, LedgerTable.prepare,
      LedgerTable.insert, written, unused, bind, Except.bind, pure, Except.pure]
    generalize found : table.lookup req.idempotencyKey = row at present ⊢
    generalize filed : entries.lookup req.idempotencyKey = entry at present ⊢
    cases present with
    | some records => exact represents
    | none =>
      intro key
      simp only [Option.isSome_none, Bool.false_eq_true, if_false,
        lookup_append_fresh found, lookup_append_fresh filed]
      split_ifs with same
      · subst same
        exact .some (records_prepared written equal)
      · exact represents key
  | complete key res now =>
    obtain ⟨doc, written, equal⟩ := kept
    have present := represents key
    simp only [next, sideEffectLedger, exactlyOnce, LedgerTable.complete, written]
    generalize found : table.lookup key = row at present ⊢
    generalize filed : entries.lookup key = entry at present ⊢
    cases present with
    | none => exact represents
    | some records =>
      intro other
      simp only [lookup_set]
      split_ifs with same
      · subst same
        exact .some (records_completed now records equal)
      · exact represents other
  | get key => exact represents

theorem answer_same_iff (represents : Represents table entries) (kept : call.Kept pg)
    (fresh : ∀ effect, call.drawn? = some effect →
      ∀ entry ∈ table, entry.2.effectId ≠ effect) :
    SameAnswer ((sideEffectLedger pg digits double).answer call table)
      (exactlyOnce.answer call entries) ↔ call.Settled table := by
  cases call with
  | prepare effect req =>
    obtain ⟨doc, written, equal⟩ := kept
    have unused : (table.any fun entry => entry.2.effectId == effect) = false := by
      simpa using fun key row mem => fresh effect rfl (key, row) mem
    have present := represents req.idempotencyKey
    simp only [answer, sideEffectLedger, exactlyOnce, LedgerTable.prepare,
      LedgerTable.insert, written, unused, bind, Except.bind, pure, Except.pure,
      LedgerCall.Settled]
    generalize table.lookup req.idempotencyKey = row at present ⊢
    generalize entries.lookup req.idempotencyKey = entry at present ⊢
    cases present with
    | some records => simpa using entry_same_iff records
    | none =>
      simp only [Option.isSome_none, Bool.false_eq_true, if_false, entry_of_inserted]
      constructor
      · intro answered
        cases answered
      · rintro ⟨row, found, _⟩
        simp at found
  | complete key res now =>
    obtain ⟨doc, written, equal⟩ := kept
    have present := represents key
    simp only [answer, sideEffectLedger, exactlyOnce, LedgerTable.complete, written,
      LedgerCall.Settled]
    generalize table.lookup key = row at present ⊢
    generalize entries.lookup key = entry at present ⊢
    cases present with
    | none => simpa [Except.map] using SameAnswer.raised (LedgerTable.missing key)
    | @some row entry records =>
      refine (entry_same_iff (records_completed now records equal)).trans ?_
      simp only [Option.some.injEq, forall_eq', LedgerTable.completed]
      by_cases done : row.status = .completed
      · simp only [if_pos done]
      · simp only [if_neg done]
        exact no_text_of_equal equal
  | get key =>
    have present := represents key
    simp only [answer, sideEffectLedger, exactlyOnce, LedgerTable.get, LedgerCall.Settled]
    generalize table.lookup key = row at present ⊢
    generalize entries.lookup key = entry at present ⊢
    cases present with
    | none => simpa using SameAnswer.nothing
    | some records => simpa using entry_same_iff records

theorem ledger_insert_ok {effect : Uuid} {req : EffectRequest} {after : LedgerTable}
    (inserted : LedgerTable.insert pg effect req table = .ok (some after)) :
    table.lookup req.idempotencyKey = none ∧ ∃ members, after = table ++
      [(req.idempotencyKey, LedgerTable.prepared effect req (.obj members))] := by
  obtain ⟨doc, written, rest⟩ := bind_ok inserted
  obtain ⟨members, rfl⟩ := column_obj written
  cases present : (table.lookup req.idempotencyKey).isSome with
  | true => simp [present, pure, Except.pure] at rest
  | false =>
    simp only [present, Bool.false_eq_true, if_false] at rest
    split_ifs at rest
    refine ⟨by simpa using present, members, ?_⟩
    simpa [pure, Except.pure, eq_comm] using rest

inductive LedgerFate : Option LedgerRow → Option LedgerRow → Prop where
  | kept (row : Option LedgerRow) : LedgerFate row row
  | prepared (effect : Uuid) (req : EffectRequest) (members : Members) :
      LedgerFate none (some (LedgerTable.prepared effect req (.obj members)))
  | completed (row : LedgerRow) (doc : Json) (now : DateTime) :
      LedgerFate (some row) (some (LedgerTable.completed doc now row))

theorem ledger_fate (key : String) :
    LedgerFate (table.lookup key)
      (((sideEffectLedger pg digits double).next call table).lookup key) := by
  cases call with
  | prepare effect req =>
    simp only [next, sideEffectLedger, LedgerTable.prepare]
    cases inserted : LedgerTable.insert pg effect req table with
    | error err => exact .kept _
    | ok after =>
      cases after with
      | none => exact .kept _
      | some after =>
        obtain ⟨absent, members, rfl⟩ := ledger_insert_ok inserted
        rw [lookup_append_fresh absent]
        split_ifs with same
        · rw [same, absent]
          exact .prepared effect req members
        · exact .kept _
  | complete other res now =>
    simp only [next, sideEffectLedger, LedgerTable.complete]
    cases pg.column (Json.dumpsSorted res) with
    | error err => exact .kept _
    | ok doc =>
      cases found : table.lookup other with
      | none => exact .kept _
      | some row =>
        simp only [lookup_set]
        split_ifs with same
        · rw [same, found]
          exact .completed row doc now
        · exact .kept _
  | get other => exact .kept _

theorem identifier_next {entry : String × LedgerRow}
    (mem : entry ∈ (sideEffectLedger pg digits double).next call table) :
    (∃ past ∈ table, past.2.effectId = entry.2.effectId) ∨
      call.drawn? = some entry.2.effectId := by
  cases call with
  | prepare effect req =>
    simp only [next, sideEffectLedger, LedgerTable.prepare] at mem
    cases inserted : LedgerTable.insert pg effect req table with
    | error err =>
      rw [inserted] at mem
      exact Or.inl ⟨entry, mem, rfl⟩
    | ok after =>
      cases after with
      | none =>
        rw [inserted] at mem
        exact Or.inl ⟨entry, mem, rfl⟩
      | some after =>
        obtain ⟨_, members, rfl⟩ := ledger_insert_ok inserted
        simp only [inserted, List.mem_append, List.mem_singleton] at mem
        rcases mem with old | rfl
        · exact Or.inl ⟨entry, old, rfl⟩
        · exact Or.inr rfl
  | complete key res now =>
    simp only [next, sideEffectLedger, LedgerTable.complete] at mem
    cases written : pg.column (Json.dumpsSorted res) with
    | error err =>
      rw [written] at mem
      exact Or.inl ⟨entry, mem, rfl⟩
    | ok doc =>
      cases found : table.lookup key with
      | none =>
        simp only [written, found] at mem
        exact Or.inl ⟨entry, mem, rfl⟩
      | some row =>
        simp only [written, found] at mem
        rcases mem_of_mem_set mem with old | rfl
        · exact Or.inl ⟨entry, old, rfl⟩
        · refine Or.inl ⟨(key, row), mem_of_lookup found, ?_⟩
          simp only [LedgerTable.completed]
          split_ifs <;> rfl
  | get key => exact Or.inl ⟨entry, mem, rfl⟩

theorem identifiers_drawn (calls : List LedgerCall) :
    ∀ entry ∈ (sideEffectLedger pg digits double).run calls [],
      entry.2.effectId ∈ calls.filterMap LedgerCall.drawn? := by
  induction calls using List.reverseRecOn with
  | nil => simp [run]
  | append_singleton past call ih =>
    intro entry mem
    rw [run_concat] at mem
    rw [List.filterMap_append, List.mem_append]
    rcases identifier_next mem with ⟨old, before, same⟩ | drawn
    · exact Or.inl (same ▸ ih old before)
    · exact Or.inr (by simp [drawn])

theorem drawn_fresh {calls : List LedgerCall}
    (distinct : ((calls ++ [call]).filterMap LedgerCall.drawn?).Nodup) :
    ∀ effect, call.drawn? = some effect →
      ∀ entry ∈ (sideEffectLedger pg digits double).run calls [],
      entry.2.effectId ≠ effect := by
  rintro effect drawn entry mem rfl
  rw [List.filterMap_append, List.nodup_append] at distinct
  exact distinct.2.2 _ (identifiers_drawn calls entry mem) _ (by simp [drawn]) rfl

theorem represents_run {calls : List LedgerCall} (kept : ∀ made ∈ calls, made.Kept pg)
    (distinct : (calls.filterMap LedgerCall.drawn?).Nodup) :
    Represents ((sideEffectLedger pg digits double).run calls [])
      (exactlyOnce.run calls []) := by
  induction calls using List.reverseRecOn with
  | nil => exact fun _ => .none
  | append_singleton past call ih =>
    have before := ih (fun made mem => kept made (List.mem_append_left _ mem))
      (distinct.sublist ((List.sublist_append_left past [call]).filterMap _))
    rw [run_concat, run_concat]
    exact represents_next before (kept call (by simp)) (drawn_fresh distinct)

end steps

/-- Calls of any number of workers reach the ledger, drawing identifiers that are all
different, and the columns hand out documents that equal those of the calls. Then each
call is answered as a ledger that prepares and completes each key once answers it, exactly
when it is settled. -/
theorem effects_once_iff (pg : Postgres) (digits : UInt64 → String)
    (double : List Char → UInt64) (calls : List LedgerCall) (call : LedgerCall)
    (kept : ∀ made ∈ calls ++ [call], made.Kept pg)
    (distinct : ((calls ++ [call]).filterMap LedgerCall.drawn?).Nodup) :
    SameAnswer ((sideEffectLedger pg digits double).answer call
      ((sideEffectLedger pg digits double).run calls []))
      (exactlyOnce.answer call (exactlyOnce.run calls [])) ↔
      call.Settled ((sideEffectLedger pg digits double).run calls []) := by
  have before : Represents ((sideEffectLedger pg digits double).run calls []) _ :=
    represents_run (fun made mem => kept made (List.mem_append_left _ mem))
    (distinct.sublist ((List.sublist_append_left calls [call]).filterMap _))
  exact answer_same_iff before (kept call (by simp)) (drawn_fresh distinct)

def sampleRequest (key : String) : EffectRequest :=
  { tenantId := "tenant", workspaceId := "space", runId := ⟨5⟩, invocationId := "invocation"
    idempotencyKey := key, capabilityId := "capability", request := [("amount", .int 1)] }

def sampleLedger : Machine LedgerCall LedgerTable (Except PyError (Option SideEffectLedgerEntry)) :=
  sideEffectLedger .exact (fun _ => "") fun _ => 0

/-- A prepared effect is completed with a number. -/
theorem number_completes_once :
    SameAnswer (sampleLedger.answer (.complete "key" (.int 1) DateTime.epoch)
      (sampleLedger.run [.prepare ⟨1⟩ (sampleRequest "key")] []))
      (exactlyOnce.answer (.complete "key" (.int 1) DateTime.epoch)
      (exactlyOnce.run [.prepare ⟨1⟩ (sampleRequest "key")] [])) := by
  refine (effects_once_iff .exact (fun _ => "") (fun _ => 0)
    [.prepare ⟨1⟩ (sampleRequest "key")] (.complete "key" (.int 1) DateTime.epoch) ?_
    (by decide)).mpr ?_
  · intro made mem
    simp only [List.cons_append, List.nil_append, List.mem_cons, List.not_mem_nil,
      or_false] at mem
    rcases mem with rfl | rfl
    · exact ⟨.obj (sampleRequest "key").request, by decide +kernel, by decide +kernel⟩
    · exact ⟨.int 1, by decide +kernel, by decide +kernel⟩
  · intro row found text same
    have stored : (sampleLedger.run [.prepare ⟨1⟩ (sampleRequest "key")] []).lookup "key" =
        some (LedgerTable.prepared ⟨1⟩ (sampleRequest "key") (.obj [("amount", .int 1)])) := by
      decide +kernel
    have rows : LedgerTable.prepared ⟨1⟩ (sampleRequest "key") (.obj [("amount", .int 1)]) = row :=
      Option.some.inj (stored.symm.trans found)
    rw [← rows] at same
    exact absurd same (by simp [LedgerTable.prepared])

/-- The first `prepare` of a key files its row and raises. -/
theorem first_prepare_raises :
    (sampleLedger.answer (.prepare ⟨1⟩ (sampleRequest "key")) []) =
      .error ⟨.other "IndexError", "tuple index out of range"⟩ ∧
      keys (sampleLedger.next (.prepare ⟨1⟩ (sampleRequest "key")) []) = ["key"] ∧
      ¬SameAnswer (sampleLedger.answer (.prepare ⟨1⟩ (sampleRequest "key")) [])
      (exactlyOnce.answer (.prepare ⟨1⟩ (sampleRequest "key")) []) := by
  have raised : sampleLedger.answer (.prepare ⟨1⟩ (sampleRequest "key")) [] =
      .error ⟨.other "IndexError", "tuple index out of range"⟩ := by decide +kernel
  refine ⟨raised, by decide +kernel, ?_⟩
  rw [raised]
  intro same
  cases same

end Ois.Autonomy
