import Ois.Library.Machine
import Ois.Football.Calibration

/-!
# Backtests that follow each other

`BacktestEngine` of `origin.py`. The engine keeps the state of the teams from one run to the next.
An update that raises may have written a part of what it writes.
-/

namespace Ois.Football

open Ois.Library Ois.Kernel Dict FixtureRecord DateTime

variable {Real : Type} (floats : Floats Real)

namespace TeamStrengthModel

def ratingChange (model : TeamStrengthModel Real) (home away : String) (homeGoals awayGoals : Int) :
    Except PyError Real := do
  let gap := floats.add
    (floats.sub (model.rating floats home) (model.rating floats away)) model.homeAdvantage
  let exponent ← floats.div (floats.neg gap) (floats.literal 400)
  let odds ← floats.pow (floats.literal 10) exponent
  let expected ← floats.div (floats.literal 1) (floats.add (floats.literal 1) odds)
  let actual := if homeGoals > awayGoals then floats.literal 1
    else if homeGoals < awayGoals then floats.literal 0 else floats.literal (1 / 2)
  return floats.mul model.k (floats.sub actual expected)

/-- `_goals_for.setdefault(team_id, [])`. -/
def opened (model : TeamStrengthModel Real) (teamId : String) : TeamStrengthModel Real :=
  { model with goalsFor := setdefault teamId [] model.goalsFor }

/-- `update(fixture)`: the state that it leaves, and whether it raises. -/
def updated (model : TeamStrengthModel Real) (fixture : FixtureRecord Real) :
    TeamStrengthModel Real × Except PyError Unit :=
  match fixture.homeGoals, fixture.awayGoals with
  | some homeGoals, some awayGoals =>
    let home := fixture.homeTeamId
    let away := fixture.awayTeamId
    match model.ratingChange floats home away homeGoals awayGoals with
    | .error err => (model, .error err)
    | .ok delta =>
      let rated := model.rated floats home away delta
      match floats.ofInt homeGoals with
      | .error err => (rated.opened home, .error err)
      | .ok homeScore =>
        match floats.ofInt awayGoals with
        | .error err =>
          let entered := { rated with goalsFor := append home homeScore rated.goalsFor }
          (entered.opened away, .error err)
        | .ok awayScore =>
          let scored := rated.scored home away homeScore awayScore
            (xgOr fixture.homeXg homeScore) (xgOr fixture.awayXg awayScore)
          ((scored.counted home).counted away, .ok ())
  | _, _ => (model, .ok ())

end TeamStrengthModel

open TeamStrengthModel

/-- The loop of `run`: the predictions, the state that is left, and whether it raises. -/
def backtestLoop (now : Nat → DateTime) :
    Nat → TeamStrengthModel Real → List (FixtureRecord Real) →
      List (PredictionRecord Real) × TeamStrengthModel Real × Except PyError Unit
  | _, model, [] => ([], model, .ok ())
  | n, model, fixture :: rest =>
    match predictFixture floats (poisson1x2 floats) "football.xg.baseline.v1" (now n) model
        fixture with
    | .error err => ([], model, .error err)
    | .ok pred =>
      match model.updated floats fixture with
      | (next, .error err) => ([pred], next, .error err)
      | (next, .ok ()) =>
        let later := backtestLoop now (n + 1) next rest
        (pred :: later.1, later.2)

/-- The fixtures of `run`, and what the clock shows at each prediction. -/
structure BacktestCall (Real : Type) where
  fixtures : List (FixtureRecord Real)
  now : Nat → DateTime

/-- `run(fixtures)`. -/
def backtest : Machine (BacktestCall Real) (TeamStrengthModel Real)
    (Except PyError (BacktestReport Real)) := fun call model =>
  match sortedByKickoff (call.fixtures.filter completed) with
  | .error err => (model, .error err)
  | .ok ordered =>
    let made := backtestLoop floats call.now 0 model ordered
    (made.2.1, do
      made.2.2
      let report ← calibrationReport floats made.1 (ordered.map fun fixture =>
        fixture.outcome.getD "")
      return {
        count := report.count, brier := report.brier, logLoss := report.logLoss
        accuracy := report.accuracy, status := report.status })

theorem updated_eq_update (model : TeamStrengthModel Real) (fixture : FixtureRecord Real) :
    model.update floats fixture =
      (model.updated floats fixture).2.map fun _ => (model.updated floats fixture).1 := by
  unfold update updated ratingChange
  cases fixture.homeGoals with
  | none => rfl
  | some homeGoals =>
    cases fixture.awayGoals with
    | none => rfl
    | some awayGoals =>
      dsimp only
      cases floats.div (floats.neg (floats.add (floats.sub
          (model.rating floats fixture.homeTeamId) (model.rating floats fixture.awayTeamId))
          model.homeAdvantage)) (floats.literal 400) with
      | error err => rfl
      | ok exponent =>
        simp only [bind, Except.bind]
        cases floats.pow (floats.literal 10) exponent with
        | error err => rfl
        | ok odds =>
          dsimp only
          cases floats.div (floats.literal 1) (floats.add (floats.literal 1) odds) with
          | error err => rfl
          | ok expected =>
            dsimp only [pure, Except.pure]
            cases floats.ofInt homeGoals with
            | error err => rfl
            | ok homeScore =>
              dsimp only
              cases floats.ofInt awayGoals <;> rfl

namespace TeamStrengthModel

structure SameTeam (left right : TeamStrengthModel Real) (teamId : String) : Prop where
  ratings : right.ratings.lookup teamId = left.ratings.lookup teamId
  goalsFor : right.goalsFor.lookup teamId = left.goalsFor.lookup teamId
  goalsAgainst : right.goalsAgainst.lookup teamId = left.goalsAgainst.lookup teamId
  xgFor : right.xgFor.lookup teamId = left.xgFor.lookup teamId
  xgAgainst : right.xgAgainst.lookup teamId = left.xgAgainst.lookup teamId
  matchCounts : right.matchCounts.lookup teamId = left.matchCounts.lookup teamId

structure SameWeights (left right : TeamStrengthModel Real) : Prop where
  k : right.k = left.k
  homeAdvantage : right.homeAdvantage = left.homeAdvantage

structure Unknown (model : TeamStrengthModel Real) (teamId : String) : Prop where
  ratings : model.ratings.lookup teamId = none
  goalsFor : model.goalsFor.lookup teamId = none
  goalsAgainst : model.goalsAgainst.lookup teamId = none
  xgFor : model.xgFor.lookup teamId = none
  xgAgainst : model.xgAgainst.lookup teamId = none
  matchCounts : model.matchCounts.lookup teamId = none

end TeamStrengthModel

def Meets (call : BacktestCall Real) (teamId : String) : Prop :=
  ∃ fixture ∈ call.fixtures, fixture.completed = true ∧
    (teamId = fixture.homeTeamId ∨ teamId = fixture.awayTeamId)

/-- The engine holds nothing of the teams that the run meets. -/
def MeetsNewTeams (call : BacktestCall Real) (model : TeamStrengthModel Real) : Prop :=
  ∀ teamId, Meets call teamId → model.Unknown teamId

/-- The run gives what a fresh engine would give at any time. -/
def Reproduces (floats : Floats Real) (call : BacktestCall Real)
    (model : TeamStrengthModel Real) : Prop :=
  ∀ clock, (backtest floats).answer { call with now := clock }
      (initial floats) = (backtest floats).answer call model

variable {floats} {left right : TeamStrengthModel Real}

theorem rating_same {teamId : String} (same : SameTeam left right teamId) :
    right.rating floats teamId = left.rating floats teamId := by
  unfold rating
  rw [same.ratings]

theorem snapshot_same {teamId : String} (same : SameTeam left right teamId) :
    right.snapshot floats teamId = left.snapshot floats teamId := by
  unfold snapshot
  rw [rating_same same, same.goalsFor, same.goalsAgainst, same.xgFor, same.xgAgainst,
    same.matchCounts]

def PredictionRecord.undated (pred : PredictionRecord Real) : PredictionRecord Real :=
  { pred with createdAt := epoch }

theorem predict_same {version : String} {now clock : DateTime} {fixture : FixtureRecord Real}
    (home : SameTeam left right fixture.homeTeamId)
    (away : SameTeam left right fixture.awayTeamId) :
    (predictFixture floats (poisson1x2 floats) version clock right fixture).map (·.undated) =
      (predictFixture floats (poisson1x2 floats) version now left fixture).map (·.undated) := by
  unfold predictFixture
  rw [snapshot_same home, snapshot_same away]
  cases left.snapshot floats fixture.homeTeamId with
  | error err => rfl
  | ok homeRating =>
    simp only [bind, Except.bind]
    cases left.snapshot floats fixture.awayTeamId with
    | error err => rfl
    | ok awayRating =>
      dsimp only
      cases poisson1x2 floats (predictXg floats homeRating awayRating).1
          (predictXg floats homeRating awayRating).2 <;> rfl

theorem lookup_append_team (teamId other : String) (value : Real)
    (values : Dict String (List Real)) :
    (append teamId value values).lookup other =
      if other = teamId then some ((values.lookup teamId).getD [] ++ [value])
      else values.lookup other := lookup_set _ _ _ _

section steps

variable {home away teamId : String}

theorem rated_same (first : SameTeam left right home) (second : SameTeam left right away)
    (same : SameTeam left right teamId) (delta : Real) :
    SameTeam (left.rated floats home away delta) (right.rated floats home away delta) teamId := by
  refine ⟨?_, same.goalsFor, same.goalsAgainst, same.xgFor, same.xgAgainst, same.matchCounts⟩
  unfold rated rating
  simp only [lookup_set, first.ratings, second.ratings, same.ratings]

theorem scored_same (first : SameTeam left right home) (second : SameTeam left right away)
    (same : SameTeam left right teamId) (homeGoals awayGoals homeXg awayXg : Real) :
    SameTeam (left.scored home away homeGoals awayGoals homeXg awayXg)
      (right.scored home away homeGoals awayGoals homeXg awayXg) teamId := by
  refine ⟨same.ratings, ?_, ?_, ?_, ?_, same.matchCounts⟩ <;>
    simp only [scored, lookup_append_team, first.goalsFor, second.goalsFor,
      same.goalsFor, first.goalsAgainst, second.goalsAgainst, same.goalsAgainst, first.xgFor,
      second.xgFor, same.xgFor, first.xgAgainst, second.xgAgainst, same.xgAgainst]

theorem counted_same (first : SameTeam left right home) (same : SameTeam left right teamId) :
    SameTeam (left.counted home) (right.counted home) teamId := by
  refine ⟨same.ratings, same.goalsFor, same.goalsAgainst, same.xgFor, same.xgAgainst, ?_⟩
  unfold counted
  simp only [lookup_set, first.matchCounts, same.matchCounts]

theorem opened_same (same : SameTeam left right teamId) :
    SameTeam (left.opened home) (right.opened home) teamId := by
  refine ⟨same.ratings, ?_, same.goalsAgainst, same.xgFor, same.xgAgainst, same.matchCounts⟩
  unfold opened
  simp only [lookup_setdefault, same.goalsFor]

theorem entered_same (first : SameTeam left right home) (same : SameTeam left right teamId)
    (value : Real) :
    SameTeam { left with goalsFor := append home value left.goalsFor }
      { right with goalsFor := append home value right.goalsFor } teamId := by
  refine ⟨same.ratings, ?_, same.goalsAgainst, same.xgFor, same.xgAgainst, same.matchCounts⟩
  simp only [lookup_append_team, first.goalsFor, same.goalsFor]

theorem rating_change_same (weights : SameWeights left right) (first : SameTeam left right home)
    (second : SameTeam left right away) (homeGoals awayGoals : Int) :
    right.ratingChange floats home away homeGoals awayGoals =
      left.ratingChange floats home away homeGoals awayGoals := by
  unfold ratingChange
  rw [rating_same first, rating_same second, weights.k, weights.homeAdvantage]

end steps

theorem updated_same (weights : SameWeights left right) {fixture : FixtureRecord Real}
    (home : SameTeam left right fixture.homeTeamId)
    (away : SameTeam left right fixture.awayTeamId) :
    (right.updated floats fixture).2 = (left.updated floats fixture).2 ∧
      ∀ teamId, SameTeam left right teamId →
      SameTeam (left.updated floats fixture).1 (right.updated floats fixture).1 teamId := by
  unfold updated
  cases fixture.homeGoals with
  | none => exact ⟨rfl, fun _ same => same⟩
  | some homeGoals =>
    cases fixture.awayGoals with
    | none => exact ⟨rfl, fun _ same => same⟩
    | some awayGoals =>
      dsimp only
      rw [rating_change_same weights home away]
      cases left.ratingChange floats fixture.homeTeamId fixture.awayTeamId homeGoals awayGoals with
      | error err => exact ⟨rfl, fun _ same => same⟩
      | ok delta =>
        have rated {teamId : String} (same : SameTeam left right teamId) :=
          @rated_same _ floats _ _ _ _ _ home away same delta
        dsimp only
        cases floats.ofInt homeGoals with
        | error err => exact ⟨rfl, fun _ same => opened_same (rated same)⟩
        | ok homeScore =>
          dsimp only
          cases floats.ofInt awayGoals with
          | error err =>
            exact ⟨rfl, fun _ same =>
              opened_same (entered_same (rated home) (rated same) homeScore)⟩
          | ok awayScore =>
            have scored {teamId : String} (same : SameTeam left right teamId) :=
              scored_same (rated home) (rated away) (rated same) homeScore awayScore
                (xgOr fixture.homeXg homeScore) (xgOr fixture.awayXg awayScore)
            refine ⟨rfl, fun teamId same => ?_⟩
            exact counted_same (counted_same (scored home) (scored away))
              (counted_same (scored home) (scored same))

theorem updated_frame (model : TeamStrengthModel Real) (fixture : FixtureRecord Real) :
    SameWeights model (model.updated floats fixture).1 ∧
      ∀ teamId, teamId ≠ fixture.homeTeamId → teamId ≠ fixture.awayTeamId →
      SameTeam model (model.updated floats fixture).1 teamId := by
  have kept : SameWeights model model ∧ ∀ teamId, teamId ≠ fixture.homeTeamId →
      teamId ≠ fixture.awayTeamId → SameTeam model model teamId :=
    ⟨⟨rfl, rfl⟩, fun _ _ _ => ⟨rfl, rfl, rfl, rfl, rfl, rfl⟩⟩
  unfold updated
  cases fixture.homeGoals with
  | none => exact kept
  | some homeGoals =>
    cases fixture.awayGoals with
    | none => exact kept
    | some awayGoals =>
      dsimp only
      cases model.ratingChange floats fixture.homeTeamId fixture.awayTeamId homeGoals awayGoals with
      | error err => exact kept
      | ok delta =>
        dsimp only
        cases floats.ofInt homeGoals with
        | error err =>
          refine ⟨⟨rfl, rfl⟩, fun teamId home away => ?_⟩
          constructor <;>
            simp [opened, rated, lookup_set, lookup_setdefault, home, away]
        | ok homeScore =>
          dsimp only
          cases floats.ofInt awayGoals with
          | error err =>
            refine ⟨⟨rfl, rfl⟩, fun teamId home away => ?_⟩
            constructor <;>
              simp [opened, rated, lookup_append_team, lookup_set, lookup_setdefault, home, away]
          | ok awayScore =>
            refine ⟨⟨rfl, rfl⟩, fun teamId home away => ?_⟩
            constructor <;>
              simp [counted, scored, rated, lookup_append_team, lookup_set, home, away]

theorem same_weights_trans {first second third : TeamStrengthModel Real}
    (one : SameWeights first second) (two : SameWeights second third) :
    SameWeights first third :=
  ⟨two.k.trans one.k, two.homeAdvantage.trans one.homeAdvantage⟩

theorem updated_weights (weights : SameWeights left right) (fixture : FixtureRecord Real) :
    SameWeights (left.updated floats fixture).1 (right.updated floats fixture).1 := by
  have one := (@updated_frame _ floats left fixture).1
  have two := (@updated_frame _ floats right fixture).1
  exact ⟨two.k.trans (weights.k.trans one.k.symm),
    two.homeAdvantage.trans (weights.homeAdvantage.trans one.homeAdvantage.symm)⟩

theorem loop_same {now clock : Nat → DateTime} {games : List (FixtureRecord Real)}
    (weights : SameWeights left right)
    (teams : ∀ fixture ∈ games, SameTeam left right fixture.homeTeamId ∧
      SameTeam left right fixture.awayTeamId) (n : Nat) :
    (backtestLoop floats clock n right games).1.map (·.undated) =
      (backtestLoop floats now n left games).1.map (·.undated) ∧
      (backtestLoop floats clock n right games).2.2 =
      (backtestLoop floats now n left games).2.2 := by
  induction games generalizing left right n with
  | nil => exact ⟨rfl, rfl⟩
  | cons fixture rest ih =>
    obtain ⟨home, away⟩ := teams fixture (by simp)
    have predicted := @predict_same _ floats left right "football.xg.baseline.v1" (now n)
      (clock n) fixture home away
    obtain ⟨ends, kept⟩ := @updated_same _ floats left right weights fixture home away
    have later := ih (@updated_weights _ floats left right weights fixture)
      (fun other mem => ⟨kept _ (teams other (by simp [mem])).1,
        kept _ (teams other (by simp [mem])).2⟩) (n + 1)
    unfold backtestLoop
    revert predicted
    cases predictFixture floats (poisson1x2 floats) "football.xg.baseline.v1" (now n) left
        fixture with
    | error err =>
      intro predicted
      cases again : predictFixture floats (poisson1x2 floats) "football.xg.baseline.v1"
          (clock n) right fixture with
      | error other =>
        rw [again] at predicted
        have same : other = err := Except.error.inj predicted
        rw [same]
        exact ⟨rfl, rfl⟩
      | ok other =>
        rw [again] at predicted
        cases predicted
    | ok pred =>
      intro predicted
      cases again : predictFixture floats (poisson1x2 floats) "football.xg.baseline.v1"
          (clock n) right fixture with
      | error other =>
        rw [again] at predicted
        cases predicted
      | ok other =>
        rw [again] at predicted
        have same : other.undated = pred.undated := Except.ok.inj predicted
        dsimp only
        generalize left.updated floats fixture = leftStep at ends later ⊢
        generalize right.updated floats fixture = rightStep at ends later ⊢
        obtain ⟨leftNext, leftEnd⟩ := leftStep
        obtain ⟨rightNext, rightEnd⟩ := rightStep
        dsimp only at ends later
        rw [ends]
        cases leftEnd with
        | error err => simp [same]
        | ok done => simp [same, later.1, later.2]

variable (predictions : List (PredictionRecord Real)) (outcomes : List String)

theorem zip_undated :
    (predictions.map (·.undated)).zip outcomes =
      (predictions.zip outcomes).map fun sample => (sample.1.undated, sample.2) := by
  rw [List.zip_map_left]
  rfl

theorem report_undated :
    calibrationReport floats (predictions.map (·.undated)) outcomes =
      calibrationReport floats predictions outcomes := by
  have folded (start : CalibrationSums Real) :
      ((predictions.zip outcomes).map fun sample => (sample.1.undated, sample.2)).foldlM
        (addSample floats) start = (predictions.zip outcomes).foldlM (addSample floats) start :=
    List.foldlM_map
  unfold calibrationReport
  simp only [List.length_map, List.isEmpty_map, zip_undated, folded]

theorem mem_sorted {games ordered : List (FixtureRecord Real)}
    (sorted : sortedByKickoff games = .ok ordered) {fixture : FixtureRecord Real}
    (mem : fixture ∈ ordered) : fixture ∈ games := by
  unfold sortedByKickoff at sorted
  split_ifs at sorted
  · cases sorted
    exact (List.perm_insertionSort _ _).mem_iff.mp mem

theorem initial_unknown (teamId : String) : (initial floats).Unknown teamId :=
  ⟨rfl, rfl, rfl, rfl, rfl, rfl⟩

theorem same_of_unknown {model other : TeamStrengthModel Real} {teamId : String}
    (one : model.Unknown teamId) (two : other.Unknown teamId) : SameTeam model other teamId :=
  ⟨two.ratings.trans one.ratings.symm, two.goalsFor.trans one.goalsFor.symm,
    two.goalsAgainst.trans one.goalsAgainst.symm, two.xgFor.trans one.xgFor.symm,
    two.xgAgainst.trans one.xgAgainst.symm, two.matchCounts.trans one.matchCounts.symm⟩

theorem reproduces_of_new {call : BacktestCall Real} {model : TeamStrengthModel Real}
    (weights : SameWeights model (initial floats))
    (new : MeetsNewTeams call model) : Reproduces floats call model := by
  intro clock
  unfold Machine.answer backtest
  cases sorted : sortedByKickoff (call.fixtures.filter completed) with
  | error err => rfl
  | ok ordered =>
    have teams : ∀ fixture ∈ ordered, SameTeam model (initial floats) fixture.homeTeamId ∧
          SameTeam model (initial floats) fixture.awayTeamId := by
      intro fixture mem
      obtain ⟨listed, completed⟩ := List.mem_filter.mp (mem_sorted sorted mem)
      have home := new _ ⟨fixture, listed, completed, Or.inl rfl⟩
      have away := new _ ⟨fixture, listed, completed, Or.inr rfl⟩
      exact ⟨same_of_unknown home (initial_unknown _), same_of_unknown away (initial_unknown _)⟩
    obtain ⟨predicted, ends⟩ :=
      @loop_same _ floats model (initial floats) call.now clock ordered weights teams 0
    dsimp only
    rw [ends, ← report_undated, predicted, report_undated]

theorem loop_frame (now : Nat → DateTime) (n : Nat) (model : TeamStrengthModel Real)
    (games : List (FixtureRecord Real)) :
    SameWeights model (backtestLoop floats now n model games).2.1 ∧
      ∀ teamId, (∀ fixture ∈ games, teamId ≠ fixture.homeTeamId ∧
      teamId ≠ fixture.awayTeamId) →
      SameTeam model (backtestLoop floats now n model games).2.1 teamId := by
  have kept (model : TeamStrengthModel Real) (teamId : String) : SameTeam model model teamId :=
    ⟨rfl, rfl, rfl, rfl, rfl, rfl⟩
  induction games generalizing model n with
  | nil => exact ⟨⟨rfl, rfl⟩, fun teamId _ => kept model teamId⟩
  | cons fixture rest ih =>
    obtain ⟨weights, frame⟩ := @updated_frame _ floats model fixture
    have later := ih (n + 1) (model.updated floats fixture).1
    unfold backtestLoop
    cases predictFixture floats (poisson1x2 floats) "football.xg.baseline.v1" (now n) model
        fixture with
    | error err => exact ⟨⟨rfl, rfl⟩, fun teamId _ => kept model teamId⟩
    | ok pred =>
      dsimp only
      generalize model.updated floats fixture = step at weights frame later ⊢
      obtain ⟨next, ends⟩ := step
      cases ends with
      | error err =>
        refine ⟨weights, fun teamId others => ?_⟩
        have other := others fixture (by simp)
        exact frame teamId other.1 other.2
      | ok done =>
        refine ⟨same_weights_trans weights later.1, fun teamId others => ?_⟩
        have other := others fixture (by simp)
        have first := frame teamId other.1 other.2
        have second := later.2 teamId fun fixture mem =>
          others fixture (by simp [mem])
        exact ⟨second.ratings.trans first.ratings, second.goalsFor.trans first.goalsFor,
          second.goalsAgainst.trans first.goalsAgainst, second.xgFor.trans first.xgFor,
          second.xgAgainst.trans first.xgAgainst,
          second.matchCounts.trans first.matchCounts⟩

theorem next_frame (call : BacktestCall Real) (model : TeamStrengthModel Real) :
    SameWeights model ((backtest floats).next call model) ∧ ∀ teamId, ¬Meets call teamId →
      SameTeam model ((backtest floats).next call model) teamId := by
  unfold Machine.next backtest
  cases sorted : sortedByKickoff (call.fixtures.filter completed) with
  | error err => exact ⟨⟨rfl, rfl⟩, fun _ _ => ⟨rfl, rfl, rfl, rfl, rfl, rfl⟩⟩
  | ok ordered =>
    obtain ⟨weights, frame⟩ := @loop_frame _ floats call.now 0 model ordered
    refine ⟨weights, fun teamId absent => frame teamId ?_⟩
    intro fixture mem
    obtain ⟨listed, completed⟩ := List.mem_filter.mp (mem_sorted sorted mem)
    constructor
    · intro home
      exact absent ⟨fixture, listed, completed, Or.inl home⟩
    · intro away
      exact absent ⟨fixture, listed, completed, Or.inr away⟩

variable (floats) in
theorem run_unknown (calls : List (BacktestCall Real)) :
    SameWeights ((backtest floats).run calls (initial floats)) (initial floats) ∧
      ∀ teamId, (∀ call ∈ calls, ¬Meets call teamId) →
      ((backtest floats).run calls (initial floats)).Unknown teamId := by
  induction calls using List.reverseRecOn with
  | nil => exact ⟨⟨rfl, rfl⟩, fun teamId _ => initial_unknown teamId⟩
  | append_singleton past call ih =>
    obtain ⟨weights, frame⟩ := @next_frame _ floats call
      ((backtest floats).run past (initial floats))
    rw [Machine.run_concat]
    refine ⟨⟨ih.1.k.trans weights.k.symm, ih.1.homeAdvantage.trans weights.homeAdvantage.symm⟩,
      fun teamId absent => ?_⟩
    have unknown := ih.2 teamId fun other mem => absent other (by simp [mem])
    have same := frame teamId (absent call (by simp))
    exact ⟨same.ratings.trans unknown.ratings, same.goalsFor.trans unknown.goalsFor,
      same.goalsAgainst.trans unknown.goalsAgainst, same.xgFor.trans unknown.xgFor,
      same.xgAgainst.trans unknown.xgAgainst, same.matchCounts.trans unknown.matchCounts⟩

theorem meets_new_teams {before : List (BacktestCall Real)} {call : BacktestCall Real}
    (apart : ∀ teamId, Meets call teamId → ∀ past ∈ before, ¬Meets past teamId) :
    MeetsNewTeams call ((backtest floats).run before (initial floats)) := by
  intro teamId met
  exact (run_unknown floats before).2 teamId (apart teamId met)

/-- Every run of an engine gives the report of a fresh one, if the engine holds nothing of the teams
that each run meets when it starts. -/
theorem backtests_reproducible (floats : Floats Real) (calls : List (BacktestCall Real))
    (new : (backtest floats).Throughout MeetsNewTeams calls (initial floats)) :
    (backtest floats).Throughout (Reproduces floats) calls (initial floats) := by
  rw [Machine.throughout_iff] at new ⊢
  intro before call after split
  exact reproduces_of_new (run_unknown floats before).1 (new before call after split)

section series

def toTwelvePlaces (x : ℚ) : ℚ := ⌊x * 1000000000000⌋ / 1000000000000

def expSeries (x : ℚ) : ℚ :=
  toTwelvePlaces ((List.range 24).foldr (fun index rest => 1 + x / (index + 1) * rest) 1)

def logSeries (x : ℚ) : ℚ :=
  let y := toTwelvePlaces ((x - 1) / (x + 1))
  toTwelvePlaces (2 * y *
    (List.range 40).foldr (fun index rest => 1 / (2 * index + 1) + y * y * rest) 0)

def seriesFloats : Floats ℚ :=
  exactFloats expSeries logSeries fun x y => expSeries (y * logSeries x)

def upsetRun (home away : String) : BacktestCall ℚ where
  fixtures :=
    [{ fixtureId := "m1", kickoffAt := epoch, homeTeamId := home, awayTeamId := away
       homeGoals := some 0, awayGoals := some 3 }]
  now := fun _ => epoch

theorem meets_upset (home away teamId : String) :
    Meets (upsetRun home away) teamId ↔ teamId = home ∨ teamId = away := by
  simp [Meets, upsetRun, completed]

/-- Two runs on different teams give the reports of fresh engines. -/
theorem separate_upsets_reproducible :
    (backtest seriesFloats).Throughout (Reproduces seriesFloats)
      [upsetRun "a" "b", upsetRun "c" "d"] (initial seriesFloats) := by
  apply backtests_reproducible
  have first : MeetsNewTeams (upsetRun "a" "b") (initial seriesFloats) :=
    fun teamId _ => initial_unknown teamId
  have second : MeetsNewTeams (upsetRun "c" "d") ((backtest seriesFloats).run [upsetRun "a" "b"]
        (initial seriesFloats)) := by
    apply meets_new_teams
    intro teamId met past mem
    rw [List.mem_singleton.mp mem, meets_upset]
    rcases (meets_upset "c" "d" teamId).mp met with here | here <;> rw [here] <;> decide
  exact ⟨first, second, trivial⟩

/-- The second run on the same match predicts what the first one has seen. -/
theorem repeated_upset_differs :
    ¬(backtest seriesFloats).Throughout (Reproduces seriesFloats)
      [upsetRun "a" "b", upsetRun "a" "b"] (initial seriesFloats) := by
  intro reproduces
  have second := reproduces.2.1 fun _ => epoch
  have accuracies : ((backtest seriesFloats).answers [upsetRun "a" "b", upsetRun "a" "b"]
      (initial seriesFloats)).map (·.toOption.map (·.accuracy)) = [some 0, some 1] := by
    decide +kernel
  have fresh : (backtest seriesFloats).answer { upsetRun "a" "b" with now := fun _ => epoch }
        (initial seriesFloats) =
      (backtest seriesFloats).answer (upsetRun "a" "b") (initial seriesFloats) := rfl
  simp only [Machine.answers, List.map_cons, List.map_nil, ← second, fresh, List.cons.injEq]
    at accuracies
  rw [accuracies.1] at accuracies
  exact absurd accuracies.2.1 (by decide)

end series

end Ois.Football
