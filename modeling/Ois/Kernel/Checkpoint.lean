import Ois.Kernel.Recovery

/-!
# Checkpoint stores

The three stores of `checkpoint.py`. The in-memory store keeps copies of the contexts themselves;
the JSON-file store keeps one envelope per execution and the SQLite store one row per execution,
both with a hash of the state they hold.
-/

namespace Ois.Kernel

open Ois.Library ExecutionContext Json

structure CheckpointRow where
  schemaVersion : Int
  stateJson : Json.Text
  stateHash : String
  updatedAt : String
  deriving DecidableEq, Repr

inductive CheckpointStore where
  | inMemory (store : Dict Uuid ExecutionContext)
  | jsonFile (files : Dict String Json.Text)
  | sqlite (rows : Dict String CheckpointRow)
  deriving DecidableEq, Repr

namespace CheckpointStore

/-- The context as `save` leaves it: the JSON-file store does not touch it. -/
def touched (now : DateTime) (ctx : ExecutionContext) : CheckpointStore → ExecutionContext
  | jsonFile _ => ctx
  | _ => ctx.touch now

def envelope (sha256 : Json.Text → String) (body : Members) : Members :=
  [("schema_version", .int 1), ("state_hash", .str (sha256 (dumpsSorted (.obj body)))),
    ("state", .obj body)]

/-- What `save` does once the context is touched. -/
def write (sha256 : Json.Text → String) (ctx : ExecutionContext) :
    CheckpointStore → Except PyError CheckpointStore
  | inMemory store => .ok (inMemory (store.set ctx.identity.executionId ctx))
  | jsonFile files => do
    let body ← ctx.toDict
    return jsonFile (files.set ctx.identity.executionId.str
      (dumpsSorted (.obj (envelope sha256 body))))
  | sqlite rows => do
    let body ← ctx.toDict
    let serialized := dumpsSorted (.obj body)
    return sqlite (rows.set ctx.identity.executionId.str {
      schemaVersion := 1
      stateJson := serialized
      stateHash := sha256 serialized
      updatedAt := ctx.updatedAt.isoformat })

/-- `save(context)`: the store it leaves. -/
def save (sha256 : Json.Text → String) (now : DateTime) (ctx : ExecutionContext)
    (store : CheckpointStore) : Except PyError CheckpointStore :=
  store.write sha256 (store.touched now ctx)

def notFound (msg : String) : PyError := ⟨.checkpointNotFound, msg⟩

def unsupportedVersion : PyError :=
  ⟨.checkpointError, "Unsupported checkpoint schema version"⟩

def hashMismatch : PyError :=
  ⟨.checkpointError, "Checkpoint integrity hash mismatch"⟩

/-- What a text that no `save` wrote raises is not modelled further. -/
def illTyped : PyError := ⟨.other "TypeError", "ill-typed checkpoint"⟩

def readState (fresh : Uuid) (now : DateTime) (state : Json) :
    Except PyError ExecutionContext :=
  match state.asMembers?.bind (fromDict fresh now) with
  | some ctx => .ok ctx
  | none => .error illTyped

def loadEnvelope (sha256 : Json.Text → String) (fresh : Uuid) (now : DateTime)
    (text : Json.Text) : Except PyError ExecutionContext :=
  match (loads text).asMembers? with
  | none => .error illTyped
  | some envelope =>
    if envelope.lookup "schema_version" ≠ some (.int 1) then .error unsupportedVersion
    else match envelope.lookup "state" with
      | none => .error ⟨.other "KeyError", reprStr "state"⟩
      | some body =>
        if envelope.lookup "state_hash" ≠ some (.str (sha256 (dumpsSorted body)))
        then .error hashMismatch
        else readState fresh now body

def loadRow (sha256 : Json.Text → String) (fresh : Uuid) (now : DateTime)
    (row : CheckpointRow) : Except PyError ExecutionContext :=
  if row.schemaVersion ≠ 1 then .error unsupportedVersion
  else if sha256 row.stateJson ≠ row.stateHash then .error hashMismatch
  else readState fresh now (loads row.stateJson)

/-- `load(execution_id)`. `fresh` and `now` are what building a context draws. -/
def load (sha256 : Json.Text → String) (fresh : Uuid) (now : DateTime) (execId : Uuid) :
    CheckpointStore → Except PyError ExecutionContext
  | inMemory store =>
    match store.lookup execId with
    | none => .error (notFound ("No checkpoint for execution " ++ execId.str))
    | some ctx => .ok ctx
  | jsonFile files =>
    match files.lookup execId.str with
    | none => .error (notFound execId.str)
    | some text => loadEnvelope sha256 fresh now text
  | sqlite rows =>
    match rows.lookup execId.str with
    | none => .error (notFound execId.str)
    | some row => loadRow sha256 fresh now row

def keepsText : CheckpointStore → Bool
  | inMemory _ => false
  | _ => true

def restored (ctx : ExecutionContext) : CheckpointStore → ExecutionContext
  | inMemory _ => ctx
  | _ => { ctx.sorted with lastFailure := ctx.lastFailure.restored }

end CheckpointStore

theorem LastFailure.read_dict_value {lastFailure : LastFailure} {written : Json}
    (accepted : lastFailure.dictValue = .ok written) :
    readLastFailure written = some lastFailure.restored ∧ sortKeys written = written := by
  cases lastFailure with
  | none =>
    have same : written = .null := by simpa [dictValue] using accepted.symm
    subst same
    exact ⟨rfl, by simp⟩
  | failureClass fail =>
    have same : written = .str fail.value := by simpa [dictValue] using accepted.symm
    subst same
    exact ⟨rfl, by simp⟩
  | text value =>
    simp only [dictValue] at accepted
    split_ifs at accepted with empty
    have same : written = .null := by simpa using accepted.symm
    subst same
    exact ⟨rfl, by simp⟩

namespace CheckpointStore

variable {sha256 : Json.Text → String}

variable (fresh : Uuid) (now : DateTime)

theorem read_state_sorted (ctx : ExecutionContext)
    (body : Members) (accepted : ctx.toDict = .ok body) :
    readState fresh now (.obj (sortMembers body)) =
      .ok { ctx.sorted with lastFailure := ctx.lastFailure.restored } := by
  unfold toDict at accepted
  cases written : ctx.lastFailure.dictValue with
  | error err => simp [written, bind, Except.bind] at accepted
  | ok value =>
    simp only [written, bind, Except.bind, pure, Except.pure, Except.ok.injEq] at accepted
    subst accepted
    obtain ⟨reads, plain⟩ := LastFailure.read_dict_value written
    have decoded := from_dict_sorted_members fresh now ctx value
      ctx.lastFailure.restored plain reads
    simp only [readState, asMembers?, Option.bind_some, decoded]

theorem load_envelope_written (body : Members) :
    loadEnvelope sha256 fresh now (dumpsSorted (.obj (envelope sha256 body))) =
      readState fresh now (.obj (sortMembers body)) := by
  simp only [loadEnvelope, loads_dumps_sorted, sort_keys_obj, asMembers?, lookup_sort_members]
  simp [envelope, List.lookup_cons, dumpsSorted]

variable (ctx : ExecutionContext) {store written : CheckpointStore}

theorem write_cases {ctx : ExecutionContext}
    (accepted : store.write sha256 ctx = .ok written) :
    (∃ entries, store = inMemory entries ∧
      written = inMemory (entries.set ctx.identity.executionId ctx)) ∨
    (∃ files body, store = jsonFile files ∧ ctx.toDict = .ok body ∧
      written = jsonFile (files.set ctx.identity.executionId.str
      (dumpsSorted (.obj (envelope sha256 body))))) ∨
    (∃ rows body, store = sqlite rows ∧ ctx.toDict = .ok body ∧
      written = sqlite (rows.set ctx.identity.executionId.str {
      schemaVersion := 1
      stateJson := dumpsSorted (.obj body)
      stateHash := sha256 (dumpsSorted (.obj body))
      updatedAt := ctx.updatedAt.isoformat })) := by
  cases store with
  | inMemory entries => exact Or.inl ⟨entries, rfl, by simpa [write] using accepted.symm⟩
  | jsonFile files =>
    cases dictForm : ctx.toDict with
    | error err => simp [write, dictForm, bind, Except.bind] at accepted
    | ok body =>
      simp only [write, dictForm, bind, Except.bind, pure, Except.pure, Except.ok.injEq] at accepted
      exact Or.inr (Or.inl ⟨files, body, rfl, rfl, accepted.symm⟩)
  | sqlite rows =>
    cases dictForm : ctx.toDict with
    | error err => simp [write, dictForm, bind, Except.bind] at accepted
    | ok body =>
      simp only [write, dictForm, bind, Except.bind, pure, Except.pure, Except.ok.injEq] at accepted
      exact Or.inr (Or.inr ⟨rows, body, rfl, rfl, accepted.symm⟩)

theorem load_write (ctx : ExecutionContext)
    (store written : CheckpointStore) (accepted : store.write sha256 ctx = .ok written) :
    written.load sha256 fresh now ctx.identity.executionId = .ok (store.restored ctx) := by
  obtain ⟨entries, rfl, rfl⟩ | ⟨files, body, rfl, dictForm, rfl⟩ |
    ⟨rows, body, rfl, dictForm, rfl⟩ := write_cases accepted
  · simp [load, restored]
  · simp only [load, Dict.lookup_set_same, load_envelope_written]
    exact read_state_sorted fresh now ctx body dictForm
  · simp only [load, Dict.lookup_set_same, loadRow, loads_dumps_sorted, sort_keys_obj]
    rw [if_neg (by simp), if_neg (by simp)]
    exact read_state_sorted fresh now ctx body dictForm

theorem write_same_kind {ctx : ExecutionContext}
    (accepted : store.write sha256 ctx = .ok written) :
    written.keepsText = store.keepsText ∧
      (∀ now other, written.touched now other = store.touched now other) ∧
      ∀ other, written.restored other = store.restored other := by
  obtain ⟨entries, rfl, rfl⟩ | ⟨files, body, rfl, _, rfl⟩ |
    ⟨rows, body, rfl, _, rfl⟩ := write_cases accepted
  · exact ⟨rfl, fun _ _ => rfl, fun _ => rfl⟩
  · exact ⟨rfl, fun _ _ => rfl, fun _ => rfl⟩
  · exact ⟨rfl, fun _ _ => rfl, fun _ => rfl⟩

theorem sort_members_map_sort_member (members : Members) :
    sortMembers (members.map sortMember) = sortMembers members := by
  simp only [sort_members_eq, map_sort_member_idempotent]

theorem sort_payload_sorted (written : Json) (plain : sortKeys written = written) :
    sortMembers (ctx.sorted.members written) = sortMembers (ctx.members written) := by
  rw [← map_sort_member_members ctx written plain, sort_members_map_sort_member]

theorem dumps_envelope_congr (left right : Members)
    (same : sortMembers left = sortMembers right) :
    dumpsSorted (.obj (envelope sha256 left)) = dumpsSorted (.obj (envelope sha256 right)) := by
  have hashed : dumpsSorted (.obj left) = dumpsSorted (.obj right) := by
    simp only [dumpsSorted, sort_keys_obj, same]
  have members : (envelope sha256 left).map sortMember =
      (envelope sha256 right).map sortMember := by
    simp [envelope, sortMember, hashed, same]
  simp only [dumpsSorted, sort_keys_obj]
  rw [sort_members_eq, members, ← sort_members_eq]

theorem write_sorted (store : CheckpointStore) (text : store.keepsText = true) :
    store.write sha256 ctx.sorted = store.write sha256 ctx := by
  cases dictValue : ctx.lastFailure.dictValue with
  | error err =>
    cases store <;>
      simp [write, toDict, sorted, dictValue, bind, Except.bind, keepsText] at text ⊢
  | ok value =>
    have body := sort_payload_sorted ctx value (LastFailure.read_dict_value dictValue).2
    have dictForm : ctx.toDict = .ok (ctx.members value) := by
      simp [toDict, dictValue, bind, Except.bind, pure, Except.pure]
    have sortedForm : ctx.sorted.toDict = .ok (ctx.sorted.members value) := by
      simp [toDict, sorted, dictValue, bind, Except.bind, pure, Except.pure]
    cases store with
    | inMemory entries => simp [keepsText] at text
    | jsonFile files =>
      simp only [write, dictForm, sortedForm, bind, Except.bind, pure, Except.pure]
      rw [dumps_envelope_congr _ _ body]
      rfl
    | sqlite rows =>
      simp only [write, dictForm, sortedForm, bind, Except.bind, pure, Except.pure,
        dumpsSorted, sort_keys_obj, body]
      rfl

theorem write_accepted (sha256 : Json.Text → String) (ctx : ExecutionContext)
    (store : CheckpointStore) (storable : store.keepsText = true →
      ∃ value, ctx.lastFailure.dictValue = .ok value) :
    ∃ written, store.write sha256 ctx = .ok written := by
  cases store with
  | inMemory entries => exact ⟨_, rfl⟩
  | jsonFile | sqlite =>
    obtain ⟨value, accepted⟩ := storable rfl
    simp [write, toDict, accepted, bind, Except.bind, pure, Except.pure]

theorem dict_value_of_write {ctx : ExecutionContext}
    (accepted : store.write sha256 ctx = .ok written) (text : store.keepsText = true) :
    ∃ value, ctx.lastFailure.dictValue = .ok value := by
  have dictForm : ∃ body, ctx.toDict = .ok body := by
    obtain ⟨entries, rfl, _⟩ | ⟨_, body, _, dictForm, _⟩ | ⟨_, body, _, dictForm, _⟩ :=
      write_cases accepted
    · simp [keepsText] at text
    · exact ⟨body, dictForm⟩
    · exact ⟨body, dictForm⟩
  obtain ⟨body, dictForm⟩ := dictForm
  cases dictValue : ctx.lastFailure.dictValue with
  | ok value => exact ⟨value, rfl⟩
  | error err => simp [toDict, dictValue, bind, Except.bind] at dictForm

/-- What a checkpoint owes a context: its dictionary form restores it, and a
context that was saved and loaded again is stored exactly as the one that was
saved would be. -/
structure RoundTrips (sha256 : Json.Text → String) (ctx : ExecutionContext) : Prop where
  dictionary : ∀ fresh now, ∃ body, ctx.toDict = .ok body ∧
    fromDict fresh now body = some ctx
  stored : ∀ (store : CheckpointStore) (fresh : Uuid) (first now second : DateTime),
    store.keepsText = true → ∃ saved loaded resaved, store.save sha256 first ctx = .ok saved ∧
      saved.load sha256 fresh now ctx.identity.executionId = .ok loaded ∧
      loaded.sorted = (store.touched first ctx).sorted ∧
      saved.save sha256 second loaded = .ok resaved ∧
      saved.save sha256 second ctx = .ok resaved

theorem round_trips_of_no_failure (plain : ctx.lastFailure = .none) :
    RoundTrips sha256 ctx := by
  constructor
  · intro fresh now
    refine ⟨ctx.members .null, ?_, ?_⟩
    · simp [toDict, plain, LastFailure.dictValue, bind, Except.bind, pure, Except.pure]
    · rw [from_dict_members fresh now ctx .null .none rfl, ← plain]
  · intro store fresh first now second text
    have touchedPlain : (store.touched first ctx).lastFailure = .none := by
      cases store <;> exact plain
    have touchedId : (store.touched first ctx).identity = ctx.identity := by
      cases store <;> rfl
    obtain ⟨saved, accepted⟩ := write_accepted sha256
      (store.touched first ctx) store (fun _ => ⟨.null, by rw [touchedPlain]; rfl⟩)
    have loads := load_write fresh now _ store saved accepted
    obtain ⟨savedText, sameTouch, _⟩ := write_same_kind accepted
    have back : store.restored (store.touched first ctx) =
        (store.touched first ctx).sorted := by
      cases store with
      | inMemory entries => simp [keepsText] at text
      | jsonFile | sqlite => simp [restored, touchedPlain, LastFailure.restored, sorted]
    have retouched : saved.touched second (store.touched first ctx).sorted =
        (saved.touched second ctx).sorted := by
      rw [sameTouch, sameTouch]
      cases store <;> rfl
    have againPlain : (saved.touched second ctx).lastFailure = .none := by
      cases saved <;> exact plain
    obtain ⟨resaved, again⟩ := write_accepted sha256
      (saved.touched second ctx) saved (fun _ => ⟨.null, by rw [againPlain]; rfl⟩)
    rw [touchedId, back] at loads
    refine ⟨saved, _, resaved, accepted, loads, ?_, ?_, again⟩
    · exact sorted_idempotent _
    · rw [save, retouched, write_sorted _ saved (by rw [savedText, text])]
      exact again

theorem no_failure_of_round_trips (roundTrips : RoundTrips sha256 ctx) :
    ctx.lastFailure = .none := by
  obtain ⟨body, dictForm, restores⟩ := roundTrips.dictionary ⟨0⟩ DateTime.epoch
  cases written : ctx.lastFailure.dictValue with
  | error err => simp [toDict, written, bind, Except.bind] at dictForm
  | ok value =>
    have reads := (LastFailure.read_dict_value written).1
    simp only [toDict, written, bind, Except.bind, pure, Except.pure, Except.ok.injEq] at dictForm
    subst dictForm
    rw [from_dict_members _ _ ctx value _ reads, Option.some.injEq] at restores
    have unchanged : ctx.lastFailure.restored = ctx.lastFailure :=
      congrArg lastFailure restores
    cases fail : ctx.lastFailure with
    | none => rfl
    | failureClass | text => simp [fail, LastFailure.restored] at unchanged

/-- A context survives its checkpoints exactly when it carries no failure. -/
theorem round_trips_iff (sha256 : Json.Text → String) (ctx : ExecutionContext) :
    RoundTrips sha256 ctx ↔ ctx.lastFailure = .none :=
  ⟨no_failure_of_round_trips ctx, round_trips_of_no_failure ctx⟩

/-- A fresh context after one TOOL failure. -/
def failedContext : ExecutionContext :=
  (RecoveryPolicy.apply {} DateTime.epoch
    { identity := { executionId := ⟨1⟩ }, objective := "publish"
      createdAt := DateTime.epoch, updatedAt := DateTime.epoch } .tool).1

theorem failed_context_does_not_round_trip :
    ¬RoundTrips (fun _ => "digest") failedContext := by
  intro roundTrips
  have fail := no_failure_of_round_trips failedContext roundTrips
  revert fail
  decide

end CheckpointStore

end Ois.Kernel
