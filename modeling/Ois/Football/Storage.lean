import Ois.Library.Histories
import Ois.Library.Places
import Ois.Football.Calibration

/-!
# The football store

`FootballStore` of `storage.py` on one connection. Both tables are read in the order of their
rows, to which an index adds a row after those with the same kickoff text.
-/

namespace Ois.Football

open Ois.Library Ois.Kernel

/-- `FixtureRecord` with the fields that only the store reads. -/
structure FullFixtureRecord (Real : Type) extends FixtureRecord Real where
  competition : String
  homeTeam : String
  awayTeam : String
  status : String := "scheduled"
  sourceId : String := "unknown"
  observedAt : DateTime := DateTime.epoch

/-- A row of `fixtures` beside its primary key. -/
structure FixtureRow (Real : Type) where
  competition : String
  kickoffAt : String
  homeTeamId : String
  homeTeam : String
  awayTeamId : String
  awayTeam : String
  homeGoals : Option Int
  awayGoals : Option Int
  homeXg : Option Real
  awayXg : Option Real
  status : String
  sourceId : String
  observedAt : String

/-- A row of `predictions` beside its primary key. -/
structure PredictionRow (Real : Type) where
  createdAt : String
  home : Real
  draw : Real
  away : Real
  expectedHomeGoals : Real
  expectedAwayGoals : Real
  abstain : Int
  evidenceIds : Json.Text

structure FootballStore (Real : Type) where
  fixtures : Dict String (FixtureRow Real) := []
  predictions : Dict (String × String) (PredictionRow Real) := []

/-- The columns that `init` gives to `predictions`. -/
def predictionColumns : List String :=
  ["fixture_id", "created_at", "model_version", "home", "draw", "away", "expected_home_goals",
    "expected_away_goals", "abstain", "evidence_ids"]

/-- The question marks of `INSERT OR REPLACE INTO predictions VALUES`. -/
def predictionPlaceholders : Nat := 11

def tooLarge : PyError :=
  ⟨.other "OverflowError", "Python int too large to convert to SQLite INTEGER"⟩

def bindable (value : Int) : Bool := -(2 ^ 63) ≤ value && value < 2 ^ 63

namespace FootballStore

variable {Real : Type} (floats : Floats Real)

def realColumn (value : Option Real) : Option Real :=
  value.filter fun n => floats.equal n n

def storable (fixture : FullFixtureRecord Real) : Bool :=
  fixture.homeGoals.all bindable && fixture.awayGoals.all bindable

def fixtureRow (fixture : FullFixtureRecord Real) : FixtureRow Real where
  competition := fixture.competition
  kickoffAt := fixture.kickoffAt.isoformat
  homeTeamId := fixture.homeTeamId
  homeTeam := fixture.homeTeam
  awayTeamId := fixture.awayTeamId
  awayTeam := fixture.awayTeam
  homeGoals := fixture.homeGoals
  awayGoals := fixture.awayGoals
  homeXg := realColumn floats fixture.homeXg
  awayXg := realColumn floats fixture.awayXg
  status := fixture.status
  sourceId := fixture.sourceId
  observedAt := fixture.observedAt.isoformat

/-- `ON CONFLICT(fixture_id) DO UPDATE SET`, which does not set the teams. -/
def refreshed (row excluded : FixtureRow Real) : FixtureRow Real :=
  { row with
    competition := excluded.competition, kickoffAt := excluded.kickoffAt
    homeGoals := excluded.homeGoals, awayGoals := excluded.awayGoals
    homeXg := excluded.homeXg, awayXg := excluded.awayXg, status := excluded.status
    sourceId := excluded.sourceId, observedAt := excluded.observedAt }

/-- The `INSERT` for one fixture. -/
def insertFixture (table : Dict String (FixtureRow Real)) (fixture : FullFixtureRecord Real) :
    Dict String (FixtureRow Real) :=
  let excluded := fixtureRow floats fixture
  match table.lookup fixture.fixtureId with
  | none => table.set fixture.fixtureId excluded
  | some row => table.set fixture.fixtureId (refreshed row excluded)

/-- `executemany`, which ends at the first fixture that cannot be bound. The rows before it stay. -/
def upsertFixtures (games : List (FullFixtureRecord Real)) (store : FootballStore Real) :
    FootballStore Real × Except PyError Unit :=
  ({ store with
      fixtures := (games.takeWhile storable).foldl (insertFixture floats) store.fixtures },
    if games.all storable then .ok () else .error tooLarge)

def predictionRow (pred : PredictionRecord Real) : PredictionRow Real where
  createdAt := pred.createdAt.isoformat
  home := pred.home
  draw := pred.draw
  away := pred.away
  expectedHomeGoals := pred.expectedHomeGoals
  expectedAwayGoals := pred.expectedAwayGoals
  abstain := if pred.abstain then 1 else 0
  evidenceIds := ⟨.arr (pred.evidenceIds.map .str)⟩

def predictionReals (pred : PredictionRecord Real) : Dict String Real :=
  [("home", pred.home), ("draw", pred.draw), ("away", pred.away),
    ("expected_home_goals", pred.expectedHomeGoals),
    ("expected_away_goals", pred.expectedAwayGoals)]

def savePrediction (pred : PredictionRecord Real) (store : FootballStore Real) :
    FootballStore Real × Except PyError Unit :=
  if predictionPlaceholders ≠ predictionColumns.length then
    (store, .error ⟨.other "sqlite3.OperationalError",
      "table predictions has " ++ toString predictionColumns.length ++ " columns but " ++
        toString predictionPlaceholders ++ " values were supplied"⟩)
  else
    match (predictionReals pred).find? fun entry => !floats.equal entry.2 entry.2 with
    | some entry => (store, .error ⟨.other "sqlite3.IntegrityError",
        "NOT NULL constraint failed: predictions." ++ entry.1⟩)
    | none =>
      let key := (pred.fixtureId, pred.modelVersion)
      ({ store with predictions := store.predictions.set key (predictionRow pred) }, .ok ())

/-- `datetime.fromisoformat(text)`. -/
def readMoment (text : String) : Except PyError DateTime :=
  match DateTime.fromisoformat? text with
  | some moment => .ok moment
  | none => .error ⟨.valueError, "Invalid isoformat string: " ++ Kernel.reprStr text⟩

def readFixture (entry : String × FixtureRow Real) : Except PyError (FullFixtureRecord Real) := do
  let row := entry.2
  let kickoffAt ← readMoment row.kickoffAt
  let observedAt ← readMoment row.observedAt
  return {
    fixtureId := entry.1, competition := row.competition, kickoffAt := kickoffAt
    homeTeamId := row.homeTeamId, homeTeam := row.homeTeam
    awayTeamId := row.awayTeamId, awayTeam := row.awayTeam
    homeGoals := row.homeGoals, awayGoals := row.awayGoals
    homeXg := row.homeXg, awayXg := row.awayXg
    status := row.status, sourceId := row.sourceId, observedAt := observedAt }

/-- `WHERE home_goals IS NOT NULL AND away_goals IS NOT NULL ORDER BY kickoff_at`. -/
def completedRows (store : FootballStore Real) : List (String × FixtureRow Real) :=
  (store.fixtures.filter fun entry => entry.2.homeGoals.isSome && entry.2.awayGoals.isSome)
    |>.insertionSort fun first second => first.2.kickoffAt ≤ second.2.kickoffAt

def recentCompleted (limit : Int) (store : FootballStore Real) :
    Except PyError (List (FullFixtureRecord Real)) :=
  if limit ≤ 0 then .ok []
  else if bindable limit then (store.completedRows.take limit.toNat).mapM readFixture
  else .error tooLarge

end FootballStore

inductive StoreCall (Real : Type) where
  | upsert (games : List (FullFixtureRecord Real))
  | save (pred : PredictionRecord Real)
  | recent (limit : Int)

/-- A call of the store. Only `recent_completed` answers with fixtures. -/
def footballStore {Real : Type} (floats : Floats Real) :
    Machine (StoreCall Real) (FootballStore Real)
      (Except PyError (List (FullFixtureRecord Real))) := fun call store =>
  match call with
  | .upsert games =>
    let done := store.upsertFixtures floats games
    (done.1, done.2.map fun _ => [])
  | .save pred =>
    let done := store.savePrediction floats pred
    (done.1, done.2.map fun _ => [])
  | .recent limit => (store, store.recentCompleted limit)

structure FixtureVersions (Real : Type) where
  first : FullFixtureRecord Real
  last : FullFixtureRecord Real

namespace FixtureVersions

variable {Real : Type}

def add (versions : Dict String (FixtureVersions Real)) (fixture : FullFixtureRecord Real) :
    Dict String (FixtureVersions Real) :=
  let first := ((versions.lookup fixture.fixtureId).map FixtureVersions.first).getD fixture
  versions.set fixture.fixtureId ⟨first, fixture⟩

def table (games : List (FullFixtureRecord Real)) : Dict String (FixtureVersions Real) :=
  games.foldl add []

def completed (games : List (FullFixtureRecord Real)) : List (FixtureVersions Real) :=
  ((table games).map Prod.snd).filter fun versions => versions.last.completed

variable (games : List (FullFixtureRecord Real))

theorem table_concat (fixture : FullFixtureRecord Real) :
    table (games ++ [fixture]) = add (table games) fixture := by
  rw [table, List.foldl_append]
  rfl

theorem table_distinct : (Dict.keys (table games)).Nodup := by
  induction games using List.reverseRecOn with
  | nil => exact List.nodup_nil
  | append_singleton past fixture ih =>
    rw [table_concat]
    exact Dict.nodup_keys_set ih

theorem table_keyed : ∀ entry ∈ table games, entry.1 = entry.2.last.fixtureId := by
  induction games using List.reverseRecOn with
  | nil => simp [table]
  | append_singleton past fixture ih =>
    intro entry mem
    rw [table_concat] at mem
    cases Dict.mem_of_mem_set mem with
    | inl held => exact ih entry held
    | inr new => rw [new]

theorem identifiers_distinct :
    ((completed games).map fun versions => versions.last.fixtureId).Nodup := by
  have keyed : ((table games).map Prod.snd).map (fun versions => versions.last.fixtureId) =
      Dict.keys (table games) := by
    rw [List.map_map, Dict.keys]
    apply List.map_congr_left
    intro entry mem
    exact (table_keyed games entry mem).symm
  have distinct := table_distinct games
  rw [← keyed] at distinct
  exact distinct.sublist (List.filter_sublist.map _)

end FixtureVersions

namespace FootballStore

open FixtureVersions

variable {Real : Type} (floats : Floats Real)

/-- What is read back of a fixture. -/
def kept (versions : FixtureVersions Real) : FullFixtureRecord Real :=
  { versions.last with
    homeTeamId := versions.first.homeTeamId, homeTeam := versions.first.homeTeam
    awayTeamId := versions.first.awayTeamId, awayTeam := versions.first.awayTeam
    homeXg := realColumn floats versions.last.homeXg
    awayXg := realColumn floats versions.last.awayXg }

def rows (versions : Dict String (FixtureVersions Real)) : Dict String (FixtureRow Real) :=
  versions.map fun entry => (entry.1, fixtureRow floats (kept floats entry.2))

theorem real_column_again (value : Option Real) :
    realColumn floats (realColumn floats value) = realColumn floats value := by
  simp [realColumn, Option.filter_filter]

theorem row_of_first (fixture : FullFixtureRecord Real) :
    fixtureRow floats (kept floats ⟨fixture, fixture⟩) = fixtureRow floats fixture := by
  simp [fixtureRow, kept, real_column_again]

variable (versions : FixtureVersions Real) (games : List (FullFixtureRecord Real))
  (calls : List (StoreCall Real)) (before : List (StoreCall Real))

theorem row_of_later (fixture : FullFixtureRecord Real) :
    refreshed (fixtureRow floats (kept floats versions)) (fixtureRow floats fixture) =
      fixtureRow floats (kept floats ⟨versions.first, fixture⟩) := by
  simp [refreshed, fixtureRow, kept, real_column_again]

theorem rows_set (identifier : String) (held : FixtureVersions Real)
    (versions : Dict String (FixtureVersions Real)) :
    rows floats (versions.set identifier held) =
      (rows floats versions).set identifier (fixtureRow floats (kept floats held)) :=
  Dict.map_values_set (fun held => fixtureRow floats (kept floats held)) identifier held versions

theorem insert_fixture_rows (versions : Dict String (FixtureVersions Real))
    (fixture : FullFixtureRecord Real) :
    insertFixture floats (rows floats versions) fixture = rows floats (add versions fixture) := by
  have found : (rows floats versions).lookup fixture.fixtureId =
      (versions.lookup fixture.fixtureId).map fun held => fixtureRow floats (kept floats held) :=
    Dict.lookup_map_values (fun held => fixtureRow floats (kept floats held)) versions _
  unfold insertFixture add
  rw [found, rows_set]
  cases versions.lookup fixture.fixtureId with
  | none => rw [Option.map_none, Option.map_none, Option.getD_none, row_of_first]
  | some held => rw [Option.map_some, Option.map_some, Option.getD_some,
      ← row_of_later floats held fixture]

theorem insert_fixtures_rows (versions : Dict String (FixtureVersions Real))
    (games : List (FullFixtureRecord Real)) :
    games.foldl (insertFixture floats) (rows floats versions) =
      rows floats (games.foldl add versions) := by
  induction games generalizing versions with
  | nil => rfl
  | cons fixture rest ih =>
    rw [List.foldl_cons, List.foldl_cons, insert_fixture_rows, ih]

def upserted (calls : List (StoreCall Real)) : List (FullFixtureRecord Real) :=
  calls.flatMap fun call =>
    match call with
    | .upsert games => games.takeWhile storable
    | _ => []

def after (calls : List (StoreCall Real)) : FootballStore Real :=
  (footballStore floats).run calls {}

theorem after_concat (call : StoreCall Real) :
    after floats (calls ++ [call]) = (footballStore floats).next call (after floats calls) :=
  Machine.run_concat (footballStore floats) calls call {}

theorem save_prediction_refused (pred : PredictionRecord Real)
    (store : FootballStore Real) :
    ∃ err, store.savePrediction floats pred = (store, .error err) :=
  ⟨_, if_pos (by decide)⟩

theorem after_holds :
    (after floats calls).fixtures = rows floats (table (upserted calls)) ∧
      (after floats calls).predictions = [] := by
  induction calls using List.reverseRecOn with
  | nil => exact ⟨rfl, rfl⟩
  | append_singleton past call ih =>
    rw [after_concat]
    cases call with
    | upsert games =>
      have grown : upserted (past ++ [.upsert games]) =
          upserted past ++ games.takeWhile storable := by
        simp [upserted]
      rw [grown, table, List.foldl_append]
      refine ⟨?_, ih.2⟩
      change (games.takeWhile storable).foldl (insertFixture floats)
        (after floats past).fixtures = _
      rw [ih.1]
      exact insert_fixtures_rows floats _ _
    | save pred =>
      have same : upserted (past ++ [.save pred]) = upserted past := by
        simp [upserted]
      obtain ⟨err, refused⟩ := save_prediction_refused floats pred (after floats past)
      have unmoved : (footballStore floats).next (.save pred) (after floats past) =
          after floats past := congrArg Prod.fst refused
      rw [same, unmoved]
      exact ih
    | recent limit =>
      have same : upserted (past ++ [.recent limit]) = upserted past := by
        simp [upserted]
      rw [same]
      exact ih

def TextOrder (left right : FixtureVersions Real) : Prop :=
  left.last.kickoffAt.isoformat ≤ right.last.kickoffAt.isoformat

instance : DecidableRel (@TextOrder Real) := fun _ _ => inferInstanceAs (Decidable (_ ≤ _))

instance : IsTrans (FixtureVersions Real) TextOrder := ⟨fun _ _ _ => le_trans⟩

instance : Std.Total (@TextOrder Real) := ⟨fun _ _ => le_total _ _⟩

theorem read_fixture_row :
    readFixture (versions.last.fixtureId, fixtureRow floats (kept floats versions)) =
      .ok (kept floats versions) := by
  simp only [readFixture, fixtureRow, readMoment, DateTime.fromisoformat_isoformat,
    real_column_again, kept]
  rfl

theorem completed_rows_after :
    (after floats calls).completedRows =
      ((completed (upserted calls)).insertionSort TextOrder).map fun versions =>
      (versions.last.fixtureId, fixtureRow floats (kept floats versions)) := by
  have keyed : rows floats (table (upserted calls)) =
      ((table (upserted calls)).map Prod.snd).map fun versions =>
        (versions.last.fixtureId, fixtureRow floats (kept floats versions)) := by
    rw [rows, List.map_map]
    apply List.map_congr_left
    intro entry mem
    rw [table_keyed _ entry mem]
    rfl
  unfold completedRows
  rw [(after_holds floats calls).1, keyed, List.filter_map]
  symm
  apply List.map_insertionSort
  intro left _ right _
  rfl

theorem map_m_rows (versions : List (FixtureVersions Real)) :
    (versions.map fun held => (held.last.fixtureId, fixtureRow floats (kept floats held))).mapM
      readFixture = .ok (versions.map (kept floats)) := by
  induction versions with
  | nil => rfl
  | cons held rest ih =>
    rw [List.map_cons, List.mapM_cons, read_fixture_row, ih]
    rfl

def completedFixtures (games : List (FullFixtureRecord Real)) :
    List (FullFixtureRecord Real) :=
  (completed games).map FixtureVersions.last

structure LatestCompleted (games : List (FullFixtureRecord Real)) (limit : Int)
    (answered : List (FullFixtureRecord Real)) : Prop where
  count : answered.length = min limit.toNat (completedFixtures games).length
  distinct : (answered.map fun fixture => fixture.fixtureId).Nodup
  current : ∀ fixture ∈ answered, fixture ∈ completedFixtures games
  newest : ∀ fixture ∈ answered, ∀ other ∈ completedFixtures games, other ∉ answered →
    other.kickoffAt.instant ≤ fixture.kickoffAt.instant

structure Unchanged (versions : FixtureVersions Real) : Prop where
  homeTeamId : versions.last.homeTeamId = versions.first.homeTeamId
  homeTeam : versions.last.homeTeam = versions.first.homeTeam
  awayTeamId : versions.last.awayTeamId = versions.first.awayTeamId
  awayTeam : versions.last.awayTeam = versions.first.awayTeam
  homeXg : ∀ n ∈ versions.last.homeXg, floats.equal n n = true
  awayXg : ∀ n ∈ versions.last.awayXg, floats.equal n n = true

theorem real_column_eq_iff (value : Option Real) :
    realColumn floats value = value ↔ ∀ n ∈ value, floats.equal n n = true := by
  cases value with
  | none => simp [realColumn]
  | some n => simp [realColumn, Option.filter]

theorem kept_eq_iff : kept floats versions = versions.last ↔ Unchanged floats versions := by
  obtain ⟨first, ⟨⟨identifier, kickoffAt, homeTeamId, awayTeamId, homeGoals, awayGoals, homeXg,
    awayXg⟩, competition, homeTeam, awayTeam, status, source, observedAt⟩⟩ := versions
  simp only [kept, FullFixtureRecord.mk.injEq, FixtureRecord.mk.injEq, true_and, and_true,
    real_column_eq_iff]
  constructor
  · intro same
    exact ⟨same.1.1.symm, same.2.1.symm, same.1.2.1.symm, same.2.2.symm, same.1.2.2.1, same.1.2.2.2⟩
  · intro same
    exact ⟨⟨same.homeTeamId.symm, same.awayTeamId.symm, same.homeXg, same.awayXg⟩,
      same.homeTeam.symm, same.awayTeam.symm⟩

def Within (games : List (FullFixtureRecord Real)) (limit : Nat)
    (versions : FixtureVersions Real) : Prop :=
  Places.Among TextOrder limit (completed games) versions

structure OrderedByText (games : List (FullFixtureRecord Real)) (limit : Nat) : Prop where
  unchanged : ∀ versions ∈ completed games, Within games limit versions →
    Unchanged floats versions
  latest : ∀ versions ∈ completed games, ∀ other ∈ completed games,
    Within games limit versions → ¬Within games limit other →
      other.last.kickoffAt.instant ≤ versions.last.kickoffAt.instant

/-- The versions that are read back. -/
def taken (games : List (FullFixtureRecord Real)) (limit : Nat) :
    List (FixtureVersions Real) :=
  ((completed games).insertionSort TextOrder).take limit

variable (limit : Nat)

theorem mem_taken_iff (versions : FixtureVersions Real) :
    versions ∈ taken games limit ↔ Within games limit versions :=
  Places.mem_take_iff (List.Nodup.of_map _ (identifiers_distinct games)) limit versions

theorem completed_of_taken {games : List (FullFixtureRecord Real)} {limit : Nat}
    {versions : FixtureVersions Real} (mem : versions ∈ taken games limit) :
    versions ∈ completed games :=
  (List.mem_insertionSort TextOrder).mp (List.mem_of_mem_take mem)

theorem completed_inj {games : List (FullFixtureRecord Real)}
    {versions other : FixtureVersions Real} (mem : versions ∈ completed games)
    (among : other ∈ completed games)
    (same : versions.last.fixtureId = other.last.fixtureId) : versions = other :=
  List.inj_on_of_nodup_map (identifiers_distinct games) mem among same

theorem taken_length :
    (taken games limit).length = min limit (completedFixtures games).length := by
  rw [taken, List.length_take, List.length_insertionSort, completedFixtures, List.length_map]

theorem taken_distinct :
    ((taken games limit).map fun versions => versions.last.fixtureId).Nodup := by
  have sorted := (List.perm_insertionSort TextOrder (completed games)).map
    fun versions => versions.last.fixtureId
  have all := sorted.nodup_iff.mpr (identifiers_distinct games)
  exact all.sublist ((List.take_sublist _ _).map _)

theorem latest_completed_iff (limit : Int) :
    LatestCompleted games limit ((taken games limit.toNat).map (kept floats)) ↔
      OrderedByText floats games limit.toNat := by
  constructor
  · intro latest
    have unchanged : ∀ versions ∈ taken games limit.toNat,
        kept floats versions = versions.last := by
      intro versions mem
      have cur := latest.current _ (List.mem_map_of_mem mem)
      obtain ⟨other, among, same⟩ := List.mem_map.mp cur
      have equal := completed_inj (completed_of_taken mem) among
        (congrArg (fun fixture => fixture.fixtureId) same).symm
      rw [← same, equal]
    constructor
    · intro versions _ within
      exact (kept_eq_iff floats versions).mp (unchanged versions ((mem_taken_iff _ _ _).mpr within))
    · intro versions _ other among within outside
      have mem := (mem_taken_iff games limit.toNat versions).mpr within
      rw [← unchanged versions mem]
      apply latest.newest _ (List.mem_map_of_mem mem) _ (List.mem_map_of_mem among)
      intro answered
      obtain ⟨found, present, same⟩ := List.mem_map.mp answered
      rw [unchanged found present] at same
      have equal := completed_inj (completed_of_taken present) among
        (congrArg (fun fixture => fixture.fixtureId) same)
      exact outside ((mem_taken_iff _ _ _).mp (equal ▸ present))
  · intro ordered
    have unchanged : (taken games limit.toNat).map (kept floats) =
        (taken games limit.toNat).map FixtureVersions.last := by
      apply List.map_congr_left
      intro versions mem
      exact (kept_eq_iff floats versions).mpr
        (ordered.unchanged versions (completed_of_taken mem) ((mem_taken_iff _ _ _).mp mem))
    rw [unchanged]
    constructor
    · rw [List.length_map, taken_length]
    · rw [List.map_map]
      exact taken_distinct games limit.toNat
    · intro fixture mem
      obtain ⟨versions, present, same⟩ := List.mem_map.mp mem
      exact same ▸ List.mem_map_of_mem (completed_of_taken present)
    · intro fixture mem other among missing
      obtain ⟨versions, present, same⟩ := List.mem_map.mp mem
      obtain ⟨left, listed, also⟩ := List.mem_map.mp among
      rw [← same, ← also]
      apply ordered.latest versions (completed_of_taken present) left listed
        ((mem_taken_iff _ _ _).mp present)
      intro within
      apply missing
      rw [← also]
      exact List.mem_map_of_mem ((mem_taken_iff _ _ _).mpr within)

def savedPredictions (calls : List (StoreCall Real)) : List (PredictionRecord Real) :=
  calls.filterMap fun call =>
    match call with
    | .save pred => some pred
    | _ => none

def latestPrediction (calls : List (StoreCall Real)) (key : String × String) :
    Option (PredictionRecord Real) :=
  (savedPredictions calls).reverse.find? fun pred =>
    (pred.fixtureId, pred.modelVersion) == key

/-- What a call does after the calls before it: a prediction is saved, the latest predictions are
stored, and the latest completed fixtures are answered. -/
structure Faithful (before : List (StoreCall Real)) (call : StoreCall Real) : Prop where
  saved : ∀ pred, call = .save pred →
    ∃ answered, (footballStore floats).answer call (after floats before) = .ok answered
  stored : ∀ key, (after floats (before ++ [call])).predictions.lookup key =
    (latestPrediction (before ++ [call]) key).map predictionRow
  answered : ∀ limit, call = .recent limit → ∃ answered,
    (footballStore floats).answer call (after floats before) = .ok answered ∧
      LatestCompleted (upserted before) limit answered

/-- No prediction is saved. A limit can be bound, and the texts of the kickoffs are in order. -/
def KeepsFaith (before : List (StoreCall Real)) : StoreCall Real → Prop
  | .upsert _ => True
  | .save _ => False
  | .recent limit =>
    limit ≤ 0 ∨ limit < 2 ^ 63 ∧ OrderedByText floats (upserted before) limit.toNat

theorem recent_answered (limit : Int) :
    (after floats before).recentCompleted limit = if limit < 2 ^ 63 then
      .ok ((taken (upserted before) limit.toNat).map (kept floats))
      else .error tooLarge := by
  unfold recentCompleted
  rw [completed_rows_after, ← List.map_take, map_m_rows]
  by_cases none : limit ≤ 0
  · have small : limit < 2 ^ 63 := by omega
    have zero : limit.toNat = 0 := by omega
    rw [if_pos none, if_pos small, zero]
    rfl
  · rw [if_neg none]
    by_cases small : limit < 2 ^ 63
    · have fits : bindable limit = true := by
        simp [bindable]
        omega
      rw [if_pos fits, if_pos small]
      rfl
    · have large : ¬bindable limit = true := by
        simp [bindable]
        omega
      rw [if_neg large, if_neg small]

theorem ordered_of_none : OrderedByText floats games 0 := by
  constructor
  · intro versions _ within
    obtain ⟨_, _, _, few⟩ := within
    omega
  · intro versions _ other _ within
    obtain ⟨_, _, _, few⟩ := within
    omega

theorem stored_of_unsaved {calls : List (StoreCall Real)} (unsaved : savedPredictions calls = [])
    (key : String × String) :
    (after floats calls).predictions.lookup key =
      (latestPrediction calls key).map predictionRow := by
  rw [(after_holds floats calls).2, latestPrediction, unsaved]
  rfl

theorem recent_faithful_iff (limit : Int) :
    (∃ answered, (after floats before).recentCompleted limit = .ok answered ∧
      LatestCompleted (upserted before) limit answered) ↔
      KeepsFaith floats before (.recent limit) := by
  rw [recent_answered]
  constructor
  · intro ⟨answered, answers, latest⟩
    split_ifs at answers with small
    · injection answers with same
      right
      exact ⟨small, (latest_completed_iff floats _ limit).mp (same ▸ latest)⟩
  · intro keeps
    have small : limit < 2 ^ 63 := by
      cases keeps with
      | inl none => omega
      | inr fits => exact fits.1
    rw [if_pos small]
    refine ⟨_, rfl, (latest_completed_iff floats _ limit).mpr ?_⟩
    cases keeps with
    | inl none =>
      have zero : limit.toNat = 0 := by omega
      rw [zero]
      exact ordered_of_none floats _
    | inr fits => exact fits.2

theorem faithful_iff (call : StoreCall Real) (unsaved : savedPredictions before = []) :
    Faithful floats before call ↔ KeepsFaith floats before call := by
  have still (other : StoreCall Real) (none : savedPredictions [other] = []) :
      savedPredictions (before ++ [other]) = [] := by
    rw [savedPredictions, List.filterMap_append] at *
    exact List.append_eq_nil_iff.mpr ⟨unsaved, none⟩
  cases call with
  | upsert games =>
    apply iff_of_true _ trivial
    constructor
    · intro pred same
      cases same
    · exact stored_of_unsaved floats (still _ rfl)
    · intro limit same
      cases same
  | save pred =>
    apply iff_of_false _ not_false
    intro faithful
    obtain ⟨answered, accepted⟩ := faithful.saved pred rfl
    obtain ⟨err, refused⟩ := save_prediction_refused floats pred (after floats before)
    rw [Machine.answer, footballStore, refused] at accepted
    cases accepted
  | recent limit =>
    rw [← recent_faithful_iff]
    constructor
    · intro faithful
      exact faithful.answered limit rfl
    · intro answers
      constructor
      · intro pred same
        cases same
      · exact stored_of_unsaved floats (still _ rfl)
      · intro other same
        injection same with same
        exact same ▸ answers

/-- The store is faithful exactly in the runs that save no prediction, and read back only where the
first fixtures by the texts of their kickoffs are the last to kick off and have kept their
teams. -/
theorem football_store_faithful_iff (calls : List (StoreCall Real)) :
    Historically (Faithful floats) calls ↔ Historically (KeepsFaith floats) calls := by
  apply historically_congr fun before => savedPredictions before = []
  · intro before call unsaved keeps
    rw [savedPredictions, List.filterMap_append]
    cases call with
    | save pred => exact absurd keeps not_false
    | upsert games => exact List.append_eq_nil_iff.mpr ⟨unsaved, rfl⟩
    | recent limit => exact List.append_eq_nil_iff.mpr ⟨unsaved, rfl⟩
  · rfl
  · exact faithful_iff floats

/-- A match that ended one to nil, from three on a day of January. -/
def endedAt (fixtureId : String) (day : Fin 28) : FullFixtureRecord ℚ where
  fixtureId := fixtureId
  kickoffAt := ⟨2026, 1, day + 1, 15, 0, 0, 0, some 0, by revert day; decide⟩
  homeTeamId := "a"
  awayTeamId := "b"
  homeGoals := some 1
  awayGoals := some 0
  competition := "cup"
  homeTeam := "A"
  awayTeam := "B"

def evenPrediction : PredictionRecord ℚ where
  fixtureId := "first"
  createdAt := DateTime.epoch
  modelVersion := "v1"
  home := 1 / 3
  draw := 1 / 3
  away := 1 / 3
  expectedHomeGoals := 1
  expectedAwayGoals := 1
  abstain := false

def wholeFloats : Floats ℚ := exactFloats id id fun _ _ => 0

/-- No prediction is saved, and of two matches the earlier one is read back as the latest. -/
theorem earliest_match_read_back :
    ¬Historically (Faithful wholeFloats) [.save evenPrediction] ∧
      ¬Historically (Faithful wholeFloats)
      [.upsert [endedAt "first" 0, endedAt "second" 7], .recent 1] := by
  constructor
  · intro faithful
    obtain ⟨answered, accepted⟩ := (faithful [] _ [] rfl).saved evenPrediction rfl
    cases accepted
  · intro faithful
    have step := faithful [.upsert [endedAt "first" 0, endedAt "second" 7]] _ [] rfl
    obtain ⟨answered, said, latest⟩ := step.answered 1 rfl
    have read : ((footballStore wholeFloats).answer (.recent 1) (after wholeFloats
        [.upsert [endedAt "first" 0, endedAt "second" 7]])).toOption.map
          (·.map fun fixture => (fixture.fixtureId, fixture.kickoffAt.instant)) =
        some [("first", (endedAt "first" 0).kickoffAt.instant)] := by
      decide +kernel
    rw [said] at read
    obtain ⟨fixture, single, same⟩ := List.map_eq_singleton_iff.mp (Option.some.inj read)
    have ended : completedFixtures (upserted [.upsert [endedAt "first" 0, endedAt "second" 7]]) =
          [endedAt "first" 0, endedAt "second" 7] := rfl
    injection same with named early
    have later := latest.newest fixture (by rw [single]; exact List.mem_singleton_self _)
      (endedAt "second" 7) (by rw [ended]; simp) (by
        rw [single, List.mem_singleton]
        intro equal
        rw [← equal] at named
        exact absurd named (by decide))
    rw [early] at later
    exact absurd later (by decide)

end FootballStore

end Ois.Football
