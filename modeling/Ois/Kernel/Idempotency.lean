import Ois.Kernel.Contracts

/-!
# Idempotency stores

The process-local and the SQLite store of `idempotency.py`. Both keep the first
result put under a key. A row of the SQLite table is the text of a result, and
every row was written by `put`, which is what the field `written` says.
-/

namespace Ois.Kernel

open Ois.Library

/-- The text `json.dumps({...}, sort_keys=True)` of a result. -/
def resultJson (res : InvocationResult) : Json.Text :=
  Json.dumpsSorted (.obj res.toDict)

theorem written_nil : ∀ row ∈ ([] : Dict String Json.Text),
    ∃ res, row.2 = resultJson res := by
  simp

structure SqliteIdempotencyRows where
  rows : Dict String Json.Text := []
  written : ∀ row ∈ rows, ∃ res, row.2 = resultJson res := by exact written_nil

inductive IdempotencyStore where
  | inMemory (store : Dict String InvocationResult)
  | sqlite (table : SqliteIdempotencyRows)

/-- The result in a row, as `get` builds it from `json.loads`. -/
def readResult (text : Json.Text) : Option InvocationResult := do
  let data ← (Json.loads text).asMembers?
  InvocationResult.fromDict data

theorem read_result_json (res : InvocationResult) :
    readResult (resultJson res) = some res.sorted := by
  simp [readResult, resultJson, Json.asMembers?, InvocationResult.from_dict_sort_members]

theorem mem_of_mem_setdefault {key : String} {text : Json.Text} {rows : Dict String Json.Text}
    {row : String × Json.Text} (mem : row ∈ Dict.setdefault key text rows) :
    row ∈ rows ∨ row.2 = text := by
  unfold Dict.setdefault at mem
  split at mem
  · exact Or.inl mem
  · rcases List.mem_append.mp mem with old | new
    · exact Or.inl old
    · exact Or.inr (by simp_all)

/-- `INSERT OR IGNORE`. -/
def SqliteIdempotencyRows.insertOrIgnore (table : SqliteIdempotencyRows) (key : String)
    (res : InvocationResult) : SqliteIdempotencyRows where
  rows := Dict.setdefault key (resultJson res) table.rows
  written := by
    intro row mem
    rcases mem_of_mem_setdefault mem with old | new
    · exact table.written row old
    · exact ⟨res, new⟩

namespace IdempotencyStore

def get (callId : String) : IdempotencyStore → Option InvocationResult
  | inMemory store => store.lookup callId
  | sqlite table => (table.rows.lookup callId).bind readResult

/-- Only the SQLite store looks at the status of what it is given. -/
def put (callId : String) (res : InvocationResult) :
    IdempotencyStore → IdempotencyStore
  | inMemory store => inMemory (store.setdefault callId res)
  | sqlite table =>
    if res.isTerminal then sqlite (table.insertOrIgnore callId res)
    else sqlite table

/-- What `get` will return for a result that was put. -/
def kept (res : InvocationResult) : IdempotencyStore → InvocationResult
  | inMemory _ => res
  | sqlite _ => res.sorted

theorem lookup_row_written (table : SqliteIdempotencyRows) {key : String} {text : Json.Text}
    (found : table.rows.lookup key = some text) : ∃ res, text = resultJson res := by
  have mem : (key, text) ∈ table.rows := by
    obtain ⟨before, after, split, _⟩ := List.lookup_eq_some_iff.mp found
    simp [split]
  exact table.written (key, text) mem

theorem get_put (store : IdempotencyStore) (key other : String) (res : InvocationResult)
    (terminal : res.isTerminal = true) :
    (store.put key res).get other =
      (store.get other).or (if other = key then some (store.kept res) else none) := by
  cases store with
  | inMemory entries => exact Dict.lookup_setdefault key other res entries
  | sqlite table =>
    simp only [put, terminal, if_true, get, kept,
      SqliteIdempotencyRows.insertOrIgnore, Dict.lookup_setdefault]
    cases found : table.rows.lookup other with
    | some text =>
      obtain ⟨stored, rfl⟩ := lookup_row_written table found
      simp [read_result_json]
    | none => split_ifs <;> simp [read_result_json]

@[simp] theorem kept_sorted (store : IdempotencyStore) (res : InvocationResult) :
    (store.kept res).sorted = res.sorted := by
  cases store with
  | inMemory entries => rfl
  | sqlite table => exact InvocationResult.sorted_idempotent res

@[simp] theorem kept_status (store : IdempotencyStore) (res : InvocationResult) :
    (store.kept res).status = res.status := by
  cases store <;> rfl

end IdempotencyStore

end Ois.Kernel
