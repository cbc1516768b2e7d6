import Mathlib.Data.List.TakeWhile
import Ois.Library.HashChain
import Ois.Library.Machine
import Ois.Kernel.PyValues

/-!
# The evidence chain in PostgreSQL

`PostgresEvidenceChain.append` of `production_resilience.py`, for the calls on one thread of one
tenant.
-/

namespace Ois.Kernel

open Ois.Library Machine Dict

/-- A row of `ois_attestation_evidence`. -/
structure EvidenceRow where
  sequenceNo : Nat
  eventType : String
  payloadHash : String
  contextSnapshot : Json.Text
  previousEventHash : Option String
  eventHash : String
  attestationSignature : String
  deriving DecidableEq, Repr

/-- One call of `append`; the clock is read in it. -/
structure EvidenceAppend where
  number : Nat
  eventType : String
  context : Members
  recordedAt : String
  deriving DecidableEq, Repr

inductive AppendStage where
  | selected (prev : Option String)
  | waiting (row : EvidenceRow)
  | inserted (row : EvidenceRow)
  | ended
  deriving DecidableEq, Repr

def AppendStage.inserts (eventHash : String) : AppendStage → Bool
  | .inserted row => row.eventHash == eventHash
  | _ => false

def AppendStage.row? : AppendStage → Option EvidenceRow
  | .waiting row => some row
  | .inserted row => some row
  | _ => none

/-- The committed rows in the order of `sequence_no`, the identity column, and the
transactions. -/
structure EvidenceDatabase where
  rows : List EvidenceRow := []
  nextNumber : Nat := 1
  appends : Dict EvidenceAppend AppendStage := []
  deriving DecidableEq, Repr

inductive AppendStep where
  | select (call : EvidenceAppend)
  | insert (call : EvidenceAppend)
  | commit (call : EvidenceAppend)
  | rollback (call : EvidenceAppend)
  /-- An `INSERT` for another thread. -/
  | elsewhere
  deriving DecidableEq, Repr

/-- The `sha256` of a text, and the HMAC of a text under the secret. -/
structure PostgresEvidenceChain where
  tenantId : String
  threadId : String
  sha256 : Json.Text → String
  attested : String → String

namespace PostgresEvidenceChain

variable (chain : PostgresEvidenceChain)

def payload (call : EvidenceAppend) : Json :=
  .obj [("tenant_id", .str chain.tenantId), ("thread_id", .str chain.threadId),
    ("event_type", .str call.eventType), ("context", .obj call.context),
    ("recorded_at", .str call.recordedAt)]

/-- `_event_hash`. -/
def eventHash (payload : Json) (prev : Option String) : String :=
  chain.sha256 (Json.dumpsSorted
    (.obj [("previous", Json.ofOption .str prev), ("payload", payload)]))

/-- `_signature`. -/
def signature (eventHash : String) : String :=
  chain.attested (chain.tenantId ++ ":" ++ chain.threadId ++ ":" ++ eventHash)

def row (call : EvidenceAppend) (prev : Option String) (sequenceNo : Nat) :
    EvidenceRow where
  sequenceNo := sequenceNo
  eventType := call.eventType
  payloadHash := chain.sha256 (Json.dumpsSorted (chain.payload call))
  contextSnapshot := Json.dumpsSorted (.obj call.context)
  previousEventHash := prev
  eventHash := chain.eventHash (chain.payload call) prev
  attestationSignature := chain.signature (chain.eventHash (chain.payload call) prev)

/-- The hash that the `SELECT` of the tail returns. -/
def tailHash (rows : List EvidenceRow) : Option String := rows.getLast?.map (·.eventHash)

def SequenceOrder (left right : EvidenceRow) : Prop := left.sequenceNo ≤ right.sequenceNo

instance : DecidableRel SequenceOrder :=
  fun left right => inferInstanceAs (Decidable (left.sequenceNo ≤ right.sequenceNo))

def insertRow (row : EvidenceRow) (rows : List EvidenceRow) : List EvidenceRow :=
  rows.orderedInsert SequenceOrder row

def place (call : EvidenceAppend) (row : EvidenceRow) (db : EvidenceDatabase) :
    EvidenceDatabase :=
  let stage : AppendStage :=
    if row.eventHash ∈ db.rows.map (·.eventHash) then .ended
    else if db.appends.any fun entry => entry.2.inserts row.eventHash then
      .waiting row
    else .inserted row
  { db with appends := db.appends.set call stage }

def select (call : EvidenceAppend) (db : EvidenceDatabase) : EvidenceDatabase :=
  match db.appends.lookup call with
  | some _ => db
  | none => { db with
      appends := db.appends.set call (.selected (tailHash db.rows)) }

def insert (call : EvidenceAppend) (db : EvidenceDatabase) : EvidenceDatabase :=
  match db.appends.lookup call with
  | some (.selected prev) =>
    place call (chain.row call prev db.nextNumber)
      { db with nextNumber := db.nextNumber + 1 }
  | some (.waiting row) => place call row db
  | _ => db

def commit (call : EvidenceAppend) (db : EvidenceDatabase) : EvidenceDatabase :=
  match db.appends.lookup call with
  | some (.inserted row) => { db with
      rows := insertRow row db.rows
      appends := db.appends.set call .ended }
  | _ => db

/-- Whatever ends the transaction without a commit. -/
def rollback (call : EvidenceAppend) (db : EvidenceDatabase) : EvidenceDatabase :=
  match db.appends.lookup call with
  | some _ => { db with appends := db.appends.set call .ended }
  | none => db

def transactions : Machine AppendStep EvidenceDatabase Unit := fun step db =>
  match step with
  | .select call => (select call db, ())
  | .insert call => (chain.insert call db, ())
  | .commit call => (commit call db, ())
  | .rollback call => (rollback call db, ())
  | .elsewhere => ({ db with nextNumber := db.nextNumber + 1 }, ())

def databaseAfter (steps : List AppendStep) : EvidenceDatabase := chain.transactions.run steps {}

def Linked (rows : List EvidenceRow) : Prop :=
  HashChain.Linked (·.previousEventHash) (fun row => some row.eventHash) none rows

structure OneChain (rows : List EvidenceRow) : Prop where
  linked : Linked rows
  unshared : (rows.map (·.previousEventHash)).Nodup

/-- Whenever an append commits, the thread has the rows that it had at its `SELECT`. -/
def Undisturbed (steps : List AppendStep) : Prop :=
  ∀ first call second third row, steps = first ++ .select call :: second ++ .commit call :: third →
    (chain.databaseAfter first).appends.lookup call = none →
    (chain.databaseAfter (first ++ .select call :: second)).appends.lookup call =
      some (.inserted row) →
    (chain.databaseAfter (first ++ .select call :: second)).rows = (chain.databaseAfter first).rows

section steps

variable {chain}

/-- The row that an `INSERT` of the call is for, and the next number after it. -/
inductive Opens (chain : PostgresEvidenceChain) (call : EvidenceAppend)
    (db : EvidenceDatabase) : EvidenceRow → Nat → Prop where
  | first (prev)
      (read : db.appends.lookup call = some (.selected prev)) :
      Opens chain call db (chain.row call prev db.nextNumber)
        (db.nextNumber + 1)
  | again (row) (waited : db.appends.lookup call = some (.waiting row)) :
      Opens chain call db row db.nextNumber

inductive StepMoves (chain : PostgresEvidenceChain) (step : AppendStep)
    (db : EvidenceDatabase) : EvidenceDatabase → Prop where
  | kept : StepMoves chain step db db
  | counted : StepMoves chain step db { db with nextNumber := db.nextNumber + 1 }
  | selected (call) (made : step = .select call)
      (unused : db.appends.lookup call = none) :
      StepMoves chain step db { db with
        appends := db.appends.set call (.selected (tailHash db.rows)) }
  | ended (call n stage) (used : db.appends.lookup call = some stage)
      (later : db.nextNumber ≤ n) :
      StepMoves chain step db { db with
        nextNumber := n, appends := db.appends.set call .ended }
  | waits (call row n) (opens : Opens chain call db row n) :
      StepMoves chain step db { db with
        nextNumber := n, appends := db.appends.set call (.waiting row) }
  | inserted (call row n) (opens : Opens chain call db row n)
      (uncommitted : row.eventHash ∉ db.rows.map (·.eventHash))
      (alone : ∀ other stage, db.appends.lookup other = some stage →
        stage.inserts row.eventHash = false) :
      StepMoves chain step db { db with
        nextNumber := n, appends := db.appends.set call (.inserted row) }
  | committed (call row) (made : step = .commit call)
      (held : db.appends.lookup call = some (.inserted row)) :
      StepMoves chain step db { db with
        rows := insertRow row db.rows, appends := db.appends.set call .ended }

variable {call : EvidenceAppend}

theorem Opens.used {db : EvidenceDatabase} {row : EvidenceRow}
    {n : Nat} (opens : Opens chain call db row n) :
    db.nextNumber ≤ n ∧ ∃ stage, db.appends.lookup call = some stage := by
  cases opens with
  | first prev read => exact ⟨Nat.le_succ _, _, read⟩
  | again _ waited => exact ⟨Nat.le_refl _, _, waited⟩

variable {step : AppendStep}

theorem place_moves {call : EvidenceAppend} {db : EvidenceDatabase}
    {row : EvidenceRow} {n : Nat} (opens : Opens chain call db row n) :
    StepMoves chain step db (place call row { db with nextNumber := n }) := by
  unfold place
  by_cases taken : row.eventHash ∈ db.rows.map (·.eventHash)
  · simp only [if_pos taken]
    obtain ⟨later, stage, used⟩ := opens.used
    exact .ended call n stage used later
  · simp only [if_neg taken]
    split_ifs with blocked
    · exact .waits call row n opens
    · refine .inserted call row n opens taken ?_
      intro other stage found
      by_contra held
      apply blocked
      rw [List.any_eq_true]
      exact ⟨(other, stage), mem_of_lookup found, by simpa using held⟩

theorem step_moves (step : AppendStep) (db : EvidenceDatabase) :
    StepMoves chain step db (chain.transactions.next step db) := by
  simp only [next, transactions]
  cases step with
  | elsewhere => exact .counted
  | select call =>
    simp only [select]
    cases read : db.appends.lookup call with
    | some stage => exact .kept
    | none => exact .selected call rfl read
  | insert call =>
    simp only [insert]
    cases read : db.appends.lookup call with
    | none => exact .kept
    | some stage =>
      cases stage with
      | selected prev => exact place_moves (.first prev read)
      | waiting row => exact place_moves (.again row read)
      | inserted row => exact .kept
      | ended => exact .kept
  | commit call =>
    simp only [commit]
    cases read : db.appends.lookup call with
    | none => exact .kept
    | some stage =>
      cases stage with
      | inserted row => exact .committed call row rfl read
      | selected | waiting | ended => exact .kept
  | rollback call =>
    simp only [rollback]
    cases read : db.appends.lookup call with
    | none => exact .kept
    | some stage => exact .ended call db.nextNumber stage read (Nat.le_refl _)

structure Unique (db : EvidenceDatabase) : Prop where
  committed : (db.rows.map (·.eventHash)).Nodup
  pending : ∀ call row, db.appends.lookup call = some (.inserted row) →
    row.eventHash ∉ db.rows.map (·.eventHash)
  apart : ∀ call other row otherRow, db.appends.lookup call = some (.inserted row) →
    db.appends.lookup other = some (.inserted otherRow) →
      row.eventHash = otherRow.eventHash → call = other

theorem insert_row_split (row : EvidenceRow) (rows : List EvidenceRow) :
    ∃ before after, rows = before ++ after ∧ insertRow row rows = before ++ row :: after :=
  ⟨_, _, List.takeWhile_append_dropWhile.symm, List.orderedInsert_eq_take_drop _ _ _⟩

theorem insert_row_perm (row : EvidenceRow) (rows : List EvidenceRow) :
    (insertRow row rows).Perm (row :: rows) :=
  List.perm_orderedInsert _ row rows

variable {db : EvidenceDatabase}

theorem Unique.stage_set (unique : Unique db)
    {call : EvidenceAppend} {stage : AppendStage} (n : Nat)
    (holds : ∀ row, stage ≠ .inserted row) :
    Unique { db with
      nextNumber := n, appends := db.appends.set call stage } := by
  have back : ∀ other row, (db.appends.set call stage).lookup other =
      some (.inserted row) → db.appends.lookup other = some (.inserted row) := by
    intro other row found
    rw [lookup_set] at found
    split_ifs at found
    · exact absurd (Option.some.inj found) (holds row)
    · exact found
  refine ⟨unique.committed, ?_, ?_⟩
  · intro other row found
    exact unique.pending other row (back other row found)
  · intro first second row otherRow found otherFound
    exact unique.apart first second row otherRow (back first row found)
      (back second otherRow otherFound)

theorem Unique.inserted (unique : Unique db)
    {call : EvidenceAppend} {row : EvidenceRow} (n : Nat)
    (uncommitted : row.eventHash ∉ db.rows.map (·.eventHash))
    (alone : ∀ other stage, db.appends.lookup other = some stage →
      stage.inserts row.eventHash = false) :
    Unique { db with
      nextNumber := n, appends := db.appends.set call (.inserted row) } := by
  have others : ∀ other held, (db.appends.set call (.inserted row)).lookup other =
      some (.inserted held) → other = call ∧ held = row ∨
        other ≠ call ∧ db.appends.lookup other = some (.inserted held) ∧
          held.eventHash ≠ row.eventHash := by
    intro other held found
    rw [lookup_set] at found
    split_ifs at found with same
    · cases found
      exact Or.inl ⟨same, rfl⟩
    · refine Or.inr ⟨same, found, ?_⟩
      simpa [AppendStage.inserts] using alone other _ found
  refine ⟨unique.committed, ?_, ?_⟩
  · intro other held found
    rcases others other held found with ⟨_, rfl⟩ | ⟨_, past, _⟩
    · exact uncommitted
    · exact unique.pending other held past
  · intro first second held otherHeld found otherFound same
    rcases others first held found with ⟨rfl, rfl⟩ | ⟨_, past, different⟩
    · rcases others second otherHeld otherFound with ⟨rfl, _⟩ | ⟨_, _, different⟩
      · rfl
      · exact absurd same.symm different
    · rcases others second otherHeld otherFound with ⟨_, rfl⟩ | ⟨_, otherEarlier, _⟩
      · exact absurd same different
      · exact unique.apart first second held otherHeld past otherEarlier same

theorem Unique.committed_row (unique : Unique db) {call : EvidenceAppend} {row : EvidenceRow}
    (held : db.appends.lookup call = some (.inserted row)) :
    Unique { db with
      rows := insertRow row db.rows, appends := db.appends.set call .ended } := by
  have hashes : ((insertRow row db.rows).map (·.eventHash)).Perm
      (row.eventHash :: db.rows.map (·.eventHash)) :=
    (insert_row_perm row db.rows).map _
  have ended := @Unique.stage_set db unique call .ended db.nextNumber nofun
  refine ⟨?_, ?_, ended.apart⟩
  · rw [hashes.nodup_iff, List.nodup_cons]
    exact ⟨unique.pending call row held, unique.committed⟩
  · intro other otherRow found
    rw [hashes.mem_iff, List.mem_cons]
    rintro (same | past)
    · rw [lookup_set] at found
      split_ifs at found with this
      · cases found
      · exact this (unique.apart other call otherRow row found held same)
    · exact ended.pending other otherRow found past

theorem Unique.next {db after : EvidenceDatabase}
    (unique : Unique db) (moves : StepMoves chain step db after) :
    Unique after := by
  cases moves with
  | kept => exact unique
  | counted => exact ⟨unique.committed, unique.pending, unique.apart⟩
  | selected call made unused => exact unique.stage_set db.nextNumber nofun
  | ended call n stage used later
  | waits call row n opens => exact unique.stage_set n nofun
  | inserted call row n opens uncommitted alone =>
    exact unique.inserted n uncommitted alone
  | committed call row made held => exact unique.committed_row held

theorem unique_after (steps : List AppendStep) : Unique (chain.databaseAfter steps) := by
  apply run_invariant
  · intro step db unique
    exact unique.next (step_moves step db)
  · exact ⟨List.nodup_nil, nofun, nofun⟩

structure Numbered (db : EvidenceDatabase) : Prop where
  committed : ∀ row ∈ db.rows, row.sequenceNo < db.nextNumber
  pending : ∀ call stage row, db.appends.lookup call = some stage →
    stage.row? = some row → row.sequenceNo < db.nextNumber

theorem Numbered.stage_set (numbered : Numbered db)
    {call : EvidenceAppend} {stage : AppendStage} {n : Nat}
    (later : db.nextNumber ≤ n)
    (below : ∀ row, stage.row? = some row → row.sequenceNo < n) :
    Numbered { db with
      nextNumber := n, appends := db.appends.set call stage } := by
  constructor
  · intro row mem
    exact Nat.lt_of_lt_of_le (numbered.committed row mem) later
  · intro other held row found has
    rw [lookup_set] at found
    split_ifs at found
    · cases found
      exact below row has
    · exact Nat.lt_of_lt_of_le (numbered.pending other held row found has) later

theorem Opens.below {db : EvidenceDatabase} {row : EvidenceRow}
    {n : Nat} (opens : Opens chain call db row n)
    (numbered : Numbered db) : row.sequenceNo < n := by
  cases opens with
  | first prev read => exact Nat.lt_succ_self _
  | again _ waited => exact numbered.pending call _ row waited rfl

theorem Numbered.next {db after : EvidenceDatabase}
    (numbered : Numbered db) (moves : StepMoves chain step db after) :
    Numbered after := by
  cases moves with
  | kept => exact numbered
  | counted =>
    exact ⟨fun row mem => Nat.lt_succ_of_lt (numbered.committed row mem),
      fun call stage row found has =>
        Nat.lt_succ_of_lt (numbered.pending call stage row found has)⟩
  | selected call made unused => exact numbered.stage_set (Nat.le_refl _) nofun
  | ended call n stage used later => exact numbered.stage_set later nofun
  | waits call row n opens | inserted call row n opens uncommitted alone =>
    refine numbered.stage_set opens.used.1 ?_
    rintro held ⟨rfl⟩
    exact opens.below numbered
  | committed call row made held =>
    have ended := @Numbered.stage_set db numbered call .ended _ (Nat.le_refl _) nofun
    refine ⟨?_, ended.pending⟩
    intro other mem
    rw [(insert_row_perm row db.rows).mem_iff, List.mem_cons] at mem
    rcases mem with rfl | past
    · exact numbered.pending call _ other held rfl
    · exact numbered.committed other past

theorem numbered_after (steps : List AppendStep) : Numbered (chain.databaseAfter steps) := by
  apply run_invariant
  · intro step db numbered
    exact numbered.next (step_moves step db)
  · exact ⟨nofun, nofun⟩

/-- The call goes on from the hash that its `SELECT` returned, and its row has a number
from the bound on. -/
def AppendStage.GoesOnFrom (prev : Option String) (bound : Nat) : AppendStage → Prop
  | .selected read => read = prev
  | .waiting row | .inserted row =>
    row.previousEventHash = prev ∧ bound ≤ row.sequenceNo
  | .ended => True

/-- What stays true of a call from its `SELECT` on. -/
structure Reads (call : EvidenceAppend) (prev : Option String) (bound : Nat)
    (db : EvidenceDatabase) : Prop where
  later : bound ≤ db.nextNumber
  goesOn : ∃ stage, db.appends.lookup call = some stage ∧
    AppendStage.GoesOnFrom prev bound stage

theorem Reads.stage_set {call other : EvidenceAppend} {prev : Option String}
    {bound n : Nat} {db : EvidenceDatabase} {stage : AppendStage}
    (reads : Reads call prev bound db) (later : db.nextNumber ≤ n)
    (goesOn : other = call → AppendStage.GoesOnFrom prev bound stage) :
    Reads call prev bound { db with
      nextNumber := n, appends := db.appends.set other stage } := by
  refine ⟨Nat.le_trans reads.later later, ?_⟩
  rw [lookup_set]
  split_ifs with same
  · exact ⟨stage, rfl, goesOn same.symm⟩
  · exact reads.goesOn

theorem Reads.opens {prev : Option String} {bound n : Nat}
    {db : EvidenceDatabase} {row : EvidenceRow}
    (reads : Reads call prev bound db)
    (opens : Opens chain call db row n) :
    row.previousEventHash = prev ∧ bound ≤ row.sequenceNo := by
  obtain ⟨stage, found, goesOn⟩ := reads.goesOn
  cases opens with
  | first read selected =>
    rw [selected] at found
    cases found
    exact ⟨goesOn, reads.later⟩
  | again _ waited =>
    rw [waited] at found
    cases found
    exact goesOn

theorem Reads.next {prev : Option String} {bound : Nat}
    {step : AppendStep} {db after : EvidenceDatabase}
    (reads : Reads call prev bound db)
    (moves : StepMoves chain step db after) : Reads call prev bound after := by
  cases moves with
  | kept => exact reads
  | counted => exact ⟨Nat.le_succ_of_le reads.later, reads.goesOn⟩
  | selected other made unused =>
    refine reads.stage_set (Nat.le_refl _) ?_
    rintro rfl
    obtain ⟨stage, found, _⟩ := reads.goesOn
    rw [unused] at found
    cases found
  | ended other n stage used later => exact reads.stage_set later fun _ => trivial
  | waits other row n opens | inserted other row n opens uncommitted alone =>
    refine reads.stage_set opens.used.1 ?_
    rintro rfl
    exact reads.opens opens
  | committed other row made held =>
    have ended := @Reads.stage_set call other prev bound _ db .ended reads
      (Nat.le_refl _) fun _ => trivial
    exact ⟨ended.later, ended.goesOn⟩

theorem database_after_append (first second : List AppendStep) :
    chain.databaseAfter (first ++ second) =
      chain.transactions.run second (chain.databaseAfter first) :=
  chain.transactions.run_append first second {}

theorem reads_since_select {first second : List AppendStep} {call : EvidenceAppend}
    (unused : (chain.databaseAfter first).appends.lookup call = none) {row : EvidenceRow}
    (held : (chain.databaseAfter (first ++ .select call :: second)).appends.lookup call =
      some (.inserted row)) :
    row.previousEventHash = tailHash (chain.databaseAfter first).rows ∧
      (chain.databaseAfter first).nextNumber ≤ row.sequenceNo := by
  have selected : Reads call (tailHash (chain.databaseAfter first).rows)
      (chain.databaseAfter first).nextNumber
      (chain.transactions.next (.select call) (chain.databaseAfter first)) := by
    simp only [next, transactions, select, unused]
    refine ⟨Nat.le_refl _, _, lookup_set_same _ _ _, rfl⟩
  have still := run_invariant (fun step db reads =>
    Reads.next reads (@step_moves chain step db)) second selected
  rw [database_after_append, run] at held
  obtain ⟨stage, found, goesOn⟩ := still.goesOn
  rw [held] at found
  cases found
  exact goesOn

end steps

section chains

variable {chain}

theorem tail_hash_eq_tip (rows : List EvidenceRow) :
    tailHash rows = HashChain.tip (fun row => some row.eventHash) none rows := by
  rw [HashChain.tip_eq_getLast, tailHash]
  cases rows.getLast? with
  | none => rfl
  | some last => rfl

theorem one_chain_of_linked {rows : List EvidenceRow} (linked : Linked rows)
    (distinct : (rows.map (·.eventHash)).Nodup) : OneChain rows := by
  refine ⟨linked, HashChain.names_nodup linked ?_⟩
  rw [List.nodup_cons]
  constructor
  · simp
  · have boxed := distinct.map (Option.some_injective String)
    rwa [List.map_map] at boxed

variable {rows : List EvidenceRow} {row : EvidenceRow}

theorem linked_concat
    (linked : Linked rows) (read : row.previousEventHash = tailHash rows) :
    Linked (rows ++ [row]) :=
  HashChain.linked_concat.mpr ⟨linked, read.trans (tail_hash_eq_tip rows)⟩

theorem insert_row_last (before : Linked rows) (after : Linked (insertRow row rows))
    (fresh : row.eventHash ∉ rows.map (·.eventHash)) :
    insertRow row rows = rows ++ [row] ∧ row.previousEventHash = tailHash rows := by
  obtain ⟨lower, upper, split, inserted⟩ := insert_row_split row rows
  rw [inserted] at after ⊢
  rw [split] at before fresh ⊢
  rw [Linked, HashChain.linked_append, ← tail_hash_eq_tip] at before after
  cases upper with
  | nil =>
    rw [List.append_nil]
    exact ⟨rfl, after.2.1⟩
  | cons next rest =>
    -- the next row would name two predecessors
    have named : tailHash lower = some row.eventHash := before.2.1.symm.trans after.2.2.1
    obtain ⟨last, found, same⟩ := Option.map_eq_some_iff.mp named
    have mem : last ∈ lower := List.mem_of_getLast? found
    refine absurd ?_ fresh
    rw [← same]
    exact List.mem_map_of_mem (List.mem_append_left _ mem)

theorem insert_row_above
    (above : ∀ other ∈ rows, other.sequenceNo < row.sequenceNo) :
    insertRow row rows = rows ++ [row] := by
  have low : ∀ other ∈ rows, decide (¬SequenceOrder row other) = true := by
    intro other mem
    exact decide_eq_true (Nat.not_le.mpr (above other mem))
  rw [insertRow, List.orderedInsert_eq_take_drop, List.takeWhile_eq_self_iff.mpr low,
    List.dropWhile_eq_nil_iff.mpr low]

theorem prefix_eq_of_tail {rows longer : List EvidenceRow} (isPrefix : rows <+: longer)
    (distinct : (longer.map (·.eventHash)).Nodup) (same : tailHash rows = tailHash longer) :
    longer = rows := by
  obtain ⟨added, rfl⟩ := isPrefix
  rcases List.eq_nil_or_concat added with rfl | ⟨others, last, rfl⟩
  · exact List.append_nil rows
  · rw [List.concat_eq_append, ← List.append_assoc, tail_hash_eq_tip (_ ++ [last]),
      HashChain.tip_concat] at same
    obtain ⟨early, found, hash⟩ := Option.map_eq_some_iff.mp same
    rw [List.map_append, List.nodup_append] at distinct
    have apart := distinct.2.2 early.eventHash
      (List.mem_map_of_mem (List.mem_of_getLast? found)) last.eventHash (by simp)
    exact absurd hash apart

/-- Every state that the run reaches is one chain. -/
def AlwaysOneChain (chain : PostgresEvidenceChain) (steps : List AppendStep) : Prop :=
  ∀ before after, steps = before ++ after → OneChain (chain.databaseAfter before).rows

theorem lookup_set_used {call other : EvidenceAppend} {db : EvidenceDatabase}
    {stage : AppendStage} (used : db.appends.lookup other = some stage)
    (unused : db.appends.lookup call = none) (next : AppendStage) :
    (db.appends.set other next).lookup call = none := by
  rw [lookup_set, if_neg]
  · exact unused
  · rintro rfl
    rw [unused] at used
    cases used

theorem StepMoves.begins {step : AppendStep} {db after : EvidenceDatabase}
    {call : EvidenceAppend} (moves : StepMoves chain step db after)
    (unused : db.appends.lookup call = none)
    (used : after.appends.lookup call ≠ none) : step = .select call := by
  cases moves with
  | kept | counted => exact absurd unused used
  | selected other made free =>
    by_cases same : call = other
    · rw [made, same]
    · rw [lookup_set, if_neg same] at used
      exact absurd unused used
  | ended other n stage taken later => exact absurd (lookup_set_used taken unused _) used
  | waits other row n opens | inserted other row n opens uncommitted alone =>
    obtain ⟨_, stage, taken⟩ := opens.used
    exact absurd (lookup_set_used taken unused _) used
  | committed other row made held => exact absurd (lookup_set_used held unused _) used

variable {steps : List AppendStep}

theorem select_of_used {call : EvidenceAppend} {stage : AppendStage}
    (used : (chain.databaseAfter steps).appends.lookup call = some stage) :
    ∃ first second, steps = first ++ .select call :: second ∧
      (chain.databaseAfter first).appends.lookup call = none := by
  let unusedIn (db : EvidenceDatabase) : Prop := db.appends.lookup call = none
  have start : unusedIn {} := rfl
  have broken : ¬unusedIn (chain.databaseAfter steps) := by
    intro unused
    exact Option.some_ne_none stage (used.symm.trans unused)
  obtain ⟨first, step, second, split, unused, now⟩ := run_breaks start broken
  have begins := (step_moves step _).begins unused now
  exact ⟨first, second, by rw [split, begins], unused⟩

theorem database_after_concat (steps : List AppendStep) (step : AppendStep) :
    chain.databaseAfter (steps ++ [step]) =
      chain.transactions.next step (chain.databaseAfter steps) :=
  chain.transactions.run_concat steps step {}

theorem rows_after_commit {call : EvidenceAppend} {row : EvidenceRow}
    (held : (chain.databaseAfter steps).appends.lookup call = some (.inserted row)) :
    (chain.databaseAfter (steps ++ [.commit call])).rows =
      insertRow row (chain.databaseAfter steps).rows := by
  rw [database_after_concat]
  simp only [next, transactions, commit, held]

theorem rows_prefix_next {step : AppendStep} (before : OneChain (chain.databaseAfter steps).rows)
    (after : OneChain (chain.databaseAfter (steps ++ [step])).rows) :
    (chain.databaseAfter steps).rows <+: (chain.databaseAfter (steps ++ [step])).rows := by
  rw [database_after_concat] at after ⊢
  have unique : Unique (chain.databaseAfter steps) := unique_after steps
  have moves := @step_moves chain step (chain.databaseAfter steps)
  generalize chain.transactions.next step (chain.databaseAfter steps) = next at moves after ⊢
  cases moves with
  | committed call row made held =>
    rw [(insert_row_last before.linked after.linked (unique.pending call row held)).1]
    exact List.prefix_append _ _
  | kept | counted | selected | ended | waits | inserted => exact List.prefix_rfl

theorem rows_prefix_along {first second third : List AppendStep}
    (always : AlwaysOneChain chain (first ++ second ++ third)) :
    (chain.databaseAfter first).rows <+: (chain.databaseAfter (first ++ second)).rows := by
  induction second using List.reverseRecOn generalizing third with
  | nil => simp
  | append_singleton past step ih =>
    have middle : AlwaysOneChain chain (first ++ past ++ (step :: third)) := by
      simpa using always
    refine (ih middle).trans ?_
    rw [← List.append_assoc]
    apply rows_prefix_next
    · exact middle (first ++ past) (step :: third) rfl
    · exact always (first ++ past ++ [step]) third (by simp)

theorem undisturbed_of_always (always : AlwaysOneChain chain steps) :
    Undisturbed chain steps := by
  rintro first call second third row rfl unused held
  have before := always (first ++ .select call :: second) (.commit call :: third) rfl
  have after := always (first ++ .select call :: second ++ [.commit call]) third (by simp)
  have unique : Unique (chain.databaseAfter (first ++ .select call :: second)) :=
    unique_after (first ++ .select call :: second)
  rw [rows_after_commit held] at after
  have appended := insert_row_last before.linked after.linked (unique.pending call row held)
  have read := (reads_since_select unused held).1
  exact prefix_eq_of_tail (rows_prefix_along always) unique.committed (read.symm.trans appended.2)

theorem always_of_undisturbed (undisturbed : Undisturbed chain steps) :
    AlwaysOneChain chain steps := by
  intro before after split
  induction before using List.reverseRecOn generalizing after with
  | nil => exact ⟨trivial, List.nodup_nil⟩
  | append_singleton past step ih =>
    have linked := (ih (step :: after) (by simpa using split)).linked
    refine one_chain_of_linked ?_ (unique_after _).committed
    rw [database_after_concat]
    have moves := @step_moves chain step (chain.databaseAfter past)
    generalize chain.transactions.next step (chain.databaseAfter past) = next at moves ⊢
    cases moves with
    | committed call row made held =>
      obtain ⟨first, second, rfl, unused⟩ := select_of_used held
      have same := undisturbed first call second after row (by simp [split, made]) unused held
      obtain ⟨read, later⟩ := reads_since_select unused held
      have above : ∀ other ∈ (chain.databaseAfter (first ++ .select call :: second)).rows,
          other.sequenceNo < row.sequenceNo := by
        intro other mem
        rw [same] at mem
        exact Nat.lt_of_lt_of_le ((numbered_after first).committed other mem) later
      rw [← same] at read
      dsimp only
      rw [insert_row_above above]
      exact linked_concat linked read
    | kept | counted | selected | ended | waits | inserted => exact linked

/-- Every state that a run reaches is one chain exactly when no append commits between the
`SELECT` and the `COMMIT` of another. -/
theorem always_one_chain_iff (chain : PostgresEvidenceChain) (steps : List AppendStep) :
    AlwaysOneChain chain steps ↔ Undisturbed chain steps :=
  ⟨undisturbed_of_always, always_of_undisturbed⟩

/-- A digest that tells documents apart. -/
def auditChain : PostgresEvidenceChain where
  tenantId := "00000000-0000-0000-0000-000000000001"
  threadId := "thread"
  sha256 := fun text => reprOf (fun _ => "") text.document
  attested := id

def startedAppend : EvidenceAppend := ⟨0, "STARTED", [], "2026-01-01T00:00:00+00:00"⟩

def finishedAppend : EvidenceAppend := ⟨1, "FINISHED", [], "2026-01-01T00:00:01+00:00"⟩

def forkedAppends : List AppendStep :=
  [.select startedAppend, .select finishedAppend, .insert startedAppend,
    .insert finishedAppend, .commit startedAppend, .commit finishedAppend]

theorem forked_appends_share_predecessor :
    (auditChain.databaseAfter forkedAppends).rows.map (·.previousEventHash) = [none, none] ∧
      ¬AlwaysOneChain auditChain forkedAppends := by
  have shared : (auditChain.databaseAfter forkedAppends).rows.map (·.previousEventHash) =
      [none, none] := by decide +kernel
  refine ⟨shared, ?_⟩
  intro always
  have unshared := (always forkedAppends [] (List.append_nil _).symm).unshared
  rw [shared] at unshared
  revert unshared
  decide

end chains

end PostgresEvidenceChain

end Ois.Kernel
