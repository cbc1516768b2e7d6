import Ois.Library.Interleaving
import Ois.Library.Dict
import Ois.Library.DateTime
import Ois.Kernel.Types

/-!
# Source cursors

`SQLiteCursorStore.advance` of `source_gateway/cursors.py` as a call of two statements: the
version is read, and the row of the next version is written.
-/

namespace Ois.Sources

open Ois.Library Ois.Kernel

/-- The primary key of `source_cursors`. -/
structure CursorKey where
  tenantId : String
  workspaceId : String
  sourceId : String
  deriving DecidableEq

structure CursorRow where
  cursor : String
  version : Int
  updatedAt : DateTime

structure SourceCursor extends CursorKey, CursorRow

structure AdvanceCall where
  key : CursorKey
  cursor : String
  expectedVersion : Option Int := none

abbrev CursorTable := Dict CursorKey CursorRow

structure AdvancePoint where
  call : AdvanceCall
  version : Int

inductive AdvanceSaid where
  | silent
  | raised (err : PyError)
  | advanced (call : AdvanceCall) (cursor : SourceCursor)

open AdvanceSaid

/-- `advance` up to the check of the version. -/
def readVersion (call : AdvanceCall) (table : CursorTable) :
    Stride AdvancePoint CursorTable AdvanceSaid :=
  let cur := table.lookup call.key
  if call.expectedVersion.isSome ∧ cur.map (·.version) ≠ call.expectedVersion then
    .ending table (.raised ⟨.valueError, "source cursor version conflict"⟩)
  else .going table ⟨call, match cur with
    | none => 1
    | some row => row.version + 1⟩ .silent

/-- `INSERT ... ON CONFLICT DO UPDATE`, whatever the version of the row is. -/
def writeVersion (point : AdvancePoint) (now : DateTime) (table : CursorTable) :
    Stride AdvancePoint CursorTable AdvanceSaid :=
  let row := { cursor := point.call.cursor, version := point.version, updatedAt := now }
  .ending (table.set point.call.key row) (.advanced point.call ⟨point.call.key, row⟩)

def cursorStores : Program AdvanceCall DateTime AdvancePoint CursorTable AdvanceSaid where
  enter call _ table := readVersion call table
  proceed point now table := writeVersion point now table

abbrev CursorStatement := Statement AdvanceCall DateTime

abbrev CursorScene := Scene AdvancePoint CursorTable

def AdvanceSaid.success? (key : CursorKey) : Option AdvanceSaid → Option (Option Int × Int)
  | some (.advanced call cursor) =>
    if call.key = key then some (call.expectedVersion, cursor.version) else none
  | _ => none

def successes (key : CursorKey) (stmts : List CursorStatement) :
    List (Option Int × Int) :=
  (cursorStores.machine.answers stmts (.quiet [])).filterMap (success? key)

def storedVersion (key : CursorKey) (table : CursorTable) : Int :=
  match table.lookup key with
  | none => 0
  | some row => row.version

/-- No update of the cursor is lost: an expected version succeeds once, the versions are distinct,
and the stored one counts them. -/
structure NoneLost (key : CursorKey) (stmts : List CursorStatement) : Prop where
  once : ∀ expected : Int, (successes key stmts).countP (·.1 = some expected) ≤ 1
  distinct : ((successes key stmts).map Prod.snd).Nodup
  counted : storedVersion key (cursorStores.machine.run stmts (.quiet [])).shared =
    (successes key stmts).length

/-- Nothing was written to the cursor since the call read its version. -/
def Unmoved (point : AdvancePoint) (table : CursorTable) : Prop :=
  point.version = storedVersion point.call.key table + 1

instance (point : AdvancePoint) (table : CursorTable) : Decidable (Unmoved point table) :=
  inferInstanceAs (Decidable (_ = _))

structure Successive (advances : List (Option Int × Int)) : Prop where
  versions : advances.map Prod.snd = (List.range advances.length).map fun n : Nat =>
    (n : Int) + 1
  expected : ∀ advance ∈ advances, ∀ version ∈ advance.1, advance.2 = version + 1

variable {advances : List (Option Int × Int)}

theorem successive_concat {advance : Option Int × Int} (successive : Successive advances)
    (next : advance.2 = advances.length + 1)
    (expected : ∀ version ∈ advance.1, advance.2 = version + 1) :
    Successive (advances ++ [advance]) := by
  constructor
  · rw [List.map_append, successive.versions, List.length_append, List.length_singleton,
      List.range_succ, List.map_append]
    simp [next]
  · intro other mem
    rcases List.mem_append.mp mem with past | last
    · exact successive.expected other past
    · rw [List.mem_singleton.mp last]
      exact expected

theorem versions_distinct (successive : Successive advances) : (advances.map Prod.snd).Nodup := by
  rw [successive.versions]
  refine List.Nodup.map ?_ List.nodup_range
  intro n other same
  simpa using same

theorem expected_once (successive : Successive advances) (expected : Int) :
    advances.countP (·.1 = some expected) ≤ 1 := by
  have counted : advances.countP (fun advance => advance.1 = some expected) ≤
      (advances.map Prod.snd).count (expected + 1) := by
    rw [List.count, List.countP_map]
    apply List.countP_mono_left
    intro advance mem holds
    simpa using successive.expected advance mem expected (by simpa using holds)
  exact counted.trans (List.nodup_iff_count_le_one.mp (versions_distinct successive) _)

structure CursorKept (key : CursorKey) (stmts : List CursorStatement) (scene : CursorScene) :
    Prop where
  successive : Successive (successes key stmts)
  counted : storedVersion key scene.shared = (successes key stmts).length
  reads : ∀ n point, scene.calls n = some point →
    ∀ version ∈ point.call.expectedVersion, point.version = version + 1

theorem read_version_cases (call : AdvanceCall) (table : CursorTable) :
    readVersion call table =
      .ending table (.raised ⟨.valueError, "source cursor version conflict"⟩) ∨
      ∃ version, readVersion call table = .going table ⟨call, version⟩ .silent ∧
      ∀ expected ∈ call.expectedVersion, version = expected + 1 := by
  simp only [readVersion]
  by_cases conflict : call.expectedVersion.isSome ∧
      (table.lookup call.key).map (·.version) ≠ call.expectedVersion
  · exact Or.inl (if_pos conflict)
  · refine Or.inr ⟨_, if_neg conflict, fun expected expects => ?_⟩
    rw [Option.mem_def] at expects
    simp only [expects, Option.isSome_some, true_and, not_not] at conflict
    cases row : table.lookup call.key with
    | none =>
      rw [row] at conflict
      cases conflict
    | some cur =>
      rw [row] at conflict
      rw [← Option.some.inj conflict]

theorem reads_next {stmt : CursorStatement} {scene : CursorScene}
    (reads : ∀ n point, scene.calls n = some point →
      ∀ version ∈ point.call.expectedVersion, point.version = version + 1) :
    ∀ n point, (cursorStores.machine.next stmt scene).calls n = some point →
      ∀ version ∈ point.call.expectedVersion, point.version = version + 1 := by
  refine cursorStores.points_next (fun _ point => ∀ version ∈ point.call.expectedVersion,
    point.version = version + 1) stmt scene ?_ ?_ (fun _ => id) reads
  · intro n call now point _ reached
    rcases read_version_cases call scene.shared with conflict | ⟨version, read, expected⟩
    · rw [show cursorStores.enter call now scene.shared = _ from conflict] at reached
      cases reached
    · rw [show cursorStores.enter call now scene.shared = _ from read] at reached
      obtain rfl := Option.some.inj reached
      exact expected
  · intro n past now point _ _ _ reached
    cases reached

theorem statement_cases (stmt : CursorStatement) (scene : CursorScene) (key : CursorKey) :
    success? key (cursorStores.machine.answer stmt scene) = none ∧
      (cursorStores.machine.next stmt scene).shared = scene.shared ∨
      ∃ n now point, stmt = .proceed n now ∧ scene.calls n = some point ∧
      cursorStores.machine.answer stmt scene =
      some (writeVersion point now scene.shared).said ∧
      (cursorStores.machine.next stmt scene).shared =
      (writeVersion point now scene.shared).shared := by
  have happens := cursorStores.machine_happens stmt scene
  simp only [Machine.answer, Machine.next]
  generalize cursorStores.machine stmt scene = res at happens ⊢
  cases happens with
  | ignored | crashed => exact Or.inl ⟨rfl, rfl⟩
  | entered n call now free =>
    refine Or.inl ?_
    rcases read_version_cases call scene.shared with conflict | ⟨version, read, -⟩
    · rw [show cursorStores.enter call now scene.shared = _ from conflict]
      exact ⟨rfl, rfl⟩
    · rw [show cursorStores.enter call now scene.shared = _ from read]
      exact ⟨rfl, rfl⟩
  | proceeded n point now here =>
    exact Or.inr ⟨n, now, point, rfl, here, rfl, rfl⟩

theorem steady_next (key : CursorKey) {stmts : List CursorStatement}
    {stmt : CursorStatement}
    (unmoved : stmt.GoesOn Unmoved (cursorStores.machine.run stmts (.quiet [])))
    (steady : CursorKept key stmts (cursorStores.machine.run stmts (.quiet []))) :
    CursorKept key (stmts ++ [stmt])
      (cursorStores.machine.run (stmts ++ [stmt]) (.quiet [])) := by
  have told : successes key (stmts ++ [stmt]) = _ :=
    cursorStores.machine.filter_map_answers_concat (success? key) stmts stmt (.quiet [])
  rw [Machine.run_concat]
  generalize cursorStores.machine.run stmts (.quiet []) = scene at unmoved steady told ⊢
  obtain ⟨successive, counted, reads⟩ := steady
  have nothing (none : success? key (cursorStores.machine.answer stmt scene) =
      none) : successes key (stmts ++ [stmt]) = successes key stmts := by
    rw [told, none]
    exact List.append_nil _
  rcases statement_cases stmt scene key with
    ⟨silent, same⟩ | ⟨n, now, point, rfl, here, answered, written⟩
  · have same' := nothing silent
    exact ⟨same' ▸ successive, by rw [same', same, counted], reads_next reads⟩
  · have next : point.version = storedVersion point.call.key scene.shared + 1 :=
      unmoved point here
    by_cases own : point.call.key = key
    · have found : success? key (cursorStores.machine.answer (.proceed n now) scene) =
            some (point.call.expectedVersion, point.version) := by
        rw [answered]
        exact if_pos own
      have added : successes key (stmts ++ [.proceed n now]) =
          successes key stmts ++ [(point.call.expectedVersion, point.version)] := by
        rw [told, found]
        rfl
      rw [own, counted] at next
      refine ⟨?_, ?_, reads_next reads⟩
      · rw [added]
        exact successive_concat successive next (reads n point here)
      · rw [added, written, List.length_append, List.length_singleton]
        simp only [storedVersion, writeVersion, Stride.ending_shared, own, Dict.lookup_set_same]
        exact next
    · have same := nothing (by rw [answered]; exact if_neg own)
      refine ⟨same ▸ successive, ?_, reads_next reads⟩
      rw [same, written, ← counted, storedVersion, storedVersion]
      simp [writeVersion, Dict.lookup_set, Ne.symm own]

theorem steady_run (key : CursorKey) {stmts : List CursorStatement}
    (unmoved : cursorStores.machine.Throughout (Statement.GoesOn Unmoved) stmts (.quiet [])) :
    CursorKept key stmts (cursorStores.machine.run stmts (.quiet [])) := by
  induction stmts using List.reverseRecOn with
  | nil => exact ⟨⟨rfl, nofun⟩, rfl, nofun⟩
  | append_singleton past stmt ih =>
    rw [Machine.throughout_append] at unmoved
    exact steady_next key unmoved.2.1 (ih unmoved.1)

/-- As long as no call writes after another call has written what it read, no update is lost. -/
theorem advances_not_lost (stmts : List CursorStatement)
    (unmoved : cursorStores.machine.Throughout (Statement.GoesOn Unmoved) stmts (.quiet []))
    (key : CursorKey) : NoneLost key stmts := by
  have steady := steady_run key unmoved
  exact ⟨expected_once steady.successive, versions_distinct steady.successive, steady.counted⟩

section examples

def pageCursor : CursorKey := ⟨"acme", "main", "posts"⟩

def advanceTo (cursor : String) (expected : Option Int) : AdvanceCall :=
  ⟨pageCursor, cursor, expected⟩

theorem clock_valid : DateTime.Valid 2026 1 1 0 0 0 0 (some 0) := by decide

def cursorClock : DateTime := ⟨2026, 1, 1, 0, 0, 0, 0, some 0, clock_valid⟩

/-- One store after the other. -/
theorem successive_advances_not_lost :
    NoneLost pageCursor [.enter 0 (advanceTo "page-1" none) cursorClock, .proceed 0 cursorClock,
      .enter 1 (advanceTo "page-2" (some 1)) cursorClock, .proceed 1 cursorClock] :=
  advances_not_lost _ (by decide) pageCursor

/-- Two stores read version 1 before either of them writes: both succeed with version 2. -/
theorem concurrent_advances_lost :
    ¬∀ stmts : List CursorStatement, ∀ key, NoneLost key stmts := by
  intro noneLost
  have once := (noneLost [.enter 0 (advanceTo "page-1" none) cursorClock, .proceed 0 cursorClock,
      .enter 1 (advanceTo "page-2" (some 1)) cursorClock,
      .enter 2 (advanceTo "page-3" (some 1)) cursorClock, .proceed 1 cursorClock,
      .proceed 2 cursorClock] pageCursor).once 1
  exact absurd once (by decide)

end examples

end Ois.Sources
