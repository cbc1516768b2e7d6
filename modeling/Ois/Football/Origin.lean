import Mathlib.Data.Nat.Factorial.Basic
import Ois.Library.Json
import Ois.Library.DateTime
import Ois.Kernel.Types

/-!
# The football origin

`TeamStrengthModel`, `XGModel` and `WalkForwardEvaluator` of `origin.py` and
`FootballIntelligenceOrigin.build_predictions` of `lifecycle.py`, which differ in how they turn the
sums over scores into probabilities. The arithmetic of floats is a
parameter whose operations may raise.
-/

namespace Ois.Football

open Ois.Library Ois.Kernel

/-- The operations on floats. `literal` is a decimal constant of the source. -/
structure Floats (Real : Type) where
  literal : Rat → Real
  ofInt : Int → Except PyError Real
  add : Real → Real → Real
  sub : Real → Real → Real
  mul : Real → Real → Real
  neg : Real → Real
  abs : Real → Real
  div : Real → Real → Except PyError Real
  pow : Real → Real → Except PyError Real
  exp : Real → Except PyError Real
  log : Real → Except PyError Real
  less : Real → Real → Bool
  atMost : Real → Real → Bool
  equal : Real → Real → Bool
  sum : List Real → Real
  fmean : List Real → Except PyError Real
  truncate : Real → Except PyError Int

structure FixtureRecord (Real : Type) where
  fixtureId : String
  kickoffAt : DateTime
  homeTeamId : String
  awayTeamId : String
  homeGoals : Option Int := none
  awayGoals : Option Int := none
  homeXg : Option Real := none
  awayXg : Option Real := none

structure TeamRating (Real : Type) where
  teamId : String
  elo : Real
  attack : Real
  defense : Real
  xgFor : Real
  xgAgainst : Real
  matchCount : Int

structure PredictionRecord (Real : Type) where
  fixtureId : String
  createdAt : DateTime
  modelVersion : String
  home : Real
  draw : Real
  away : Real
  expectedHomeGoals : Real
  expectedAwayGoals : Real
  abstain : Bool
  evidenceIds : List String := []

namespace FixtureRecord

variable {Real : Type} (fixture : FixtureRecord Real)

def completed : Bool := fixture.homeGoals.isSome && fixture.awayGoals.isSome

def outcome : Option String :=
  match fixture.homeGoals, fixture.awayGoals with
  | some home, some away =>
    if home > away then some "home" else if home < away then some "away" else some "draw"
  | _, _ => none

end FixtureRecord

/-- The state of `TeamStrengthModel`, by team. -/
structure TeamStrengthModel (Real : Type) where
  k : Real
  homeAdvantage : Real
  ratings : Dict String Real := []
  goalsFor : Dict String (List Real) := []
  goalsAgainst : Dict String (List Real) := []
  xgFor : Dict String (List Real) := []
  xgAgainst : Dict String (List Real) := []
  matchCounts : Dict String Int := []

section model

variable {Real : Type} (floats : Floats Real)

/-- `max(a, b)`: the first unless the second is greater. -/
def Floats.max (first second : Real) : Real := if floats.less first second then second else first

namespace TeamStrengthModel

/-- `TeamStrengthModel()`. -/
def initial : TeamStrengthModel Real :=
  { k := floats.literal 20, homeAdvantage := floats.literal 55 }

variable (model : TeamStrengthModel Real)

def rating (teamId : String) : Real := (model.ratings.lookup teamId).getD (floats.literal 1500)

/-- `values.setdefault(team_id, []).append(value)`. -/
def append (teamId : String) (value : Real) (values : Dict String (List Real)) :
    Dict String (List Real) :=
  values.set teamId ((values.lookup teamId).getD [] ++ [value])

/-- `float(xg if xg is not None else goals)`. -/
def xgOr (xg : Option Real) (goals : Real) : Real := xg.getD goals

def rated (home away : String) (delta : Real) : TeamStrengthModel Real :=
  let first := { model with
    ratings := model.ratings.set home (floats.add (model.rating floats home) delta) }
  { first with ratings := first.ratings.set away (floats.sub (first.rating floats away) delta) }

def scored (home away : String) (homeGoals awayGoals homeXg awayXg : Real) :
    TeamStrengthModel Real :=
  { model with
    goalsFor := append away awayGoals (append home homeGoals model.goalsFor)
    goalsAgainst := append away homeGoals (append home awayGoals model.goalsAgainst)
    xgFor := append away awayXg (append home homeXg model.xgFor)
    xgAgainst := append away homeXg (append home awayXg model.xgAgainst) }

/-- `matches[team_id] = matches.get(team_id, 0) + 1`. -/
def counted (teamId : String) : TeamStrengthModel Real :=
  { model with
    matchCounts := model.matchCounts.set teamId ((model.matchCounts.lookup teamId).getD 0 + 1) }

def update (fixture : FixtureRecord Real) : Except PyError (TeamStrengthModel Real) :=
  match fixture.homeGoals, fixture.awayGoals with
  | some homeGoals, some awayGoals => do
    let home := fixture.homeTeamId
    let away := fixture.awayTeamId
    let gap := floats.add
      (floats.sub (model.rating floats home) (model.rating floats away)) model.homeAdvantage
    let exponent ← floats.div (floats.neg gap) (floats.literal 400)
    let odds ← floats.pow (floats.literal 10) exponent
    let expected ← floats.div (floats.literal 1) (floats.add (floats.literal 1) odds)
    let actual := if homeGoals > awayGoals then floats.literal 1
      else if homeGoals < awayGoals then floats.literal 0 else floats.literal (1 / 2)
    let delta := floats.mul model.k (floats.sub actual expected)
    let homeScore ← floats.ofInt homeGoals
    let awayScore ← floats.ofInt awayGoals
    let scored := (model.rated floats home away delta).scored home away homeScore awayScore
      (xgOr fixture.homeXg homeScore) (xgOr fixture.awayXg awayScore)
    return (scored.counted home).counted away
  | _, _ => .ok model

def snapshot (teamId : String) : Except PyError (TeamRating Real) := do
  let unseen := [floats.literal (14 / 10)]
  let goalsFor := (model.goalsFor.lookup teamId).getD unseen
  let goalsAgainst := (model.goalsAgainst.lookup teamId).getD unseen
  let xgFor := (model.xgFor.lookup teamId).getD goalsFor
  let xgAgainst := (model.xgAgainst.lookup teamId).getD goalsAgainst
  return {
    teamId := teamId, elo := model.rating floats teamId
    attack := ← floats.fmean goalsFor, defense := ← floats.fmean goalsAgainst
    xgFor := ← floats.fmean xgFor, xgAgainst := ← floats.fmean xgAgainst
    matchCount := (model.matchCounts.lookup teamId).getD 0 }

end TeamStrengthModel

/-- `XGModel.predict`. -/
def predictXg (home away : TeamRating Real) : Real × Real :=
  let blend := fun forward against => floats.max (floats.literal (5 / 100))
    (floats.add (floats.mul (floats.literal (55 / 100)) forward)
      (floats.mul (floats.literal (45 / 100)) against))
  (floats.mul (blend home.xgFor away.xgAgainst) (floats.literal (108 / 100)),
    blend away.xgFor home.xgAgainst)

/-- `_normalize(values)`. -/
def normalize (values : List Real) : Except PyError (List Real) := do
  let xs := values.map (floats.max (floats.literal 0))
  let total := floats.sum xs
  if floats.atMost total (floats.literal 0) then
    let share ← floats.div (floats.literal 1) (floats.literal xs.length)
    return xs.map fun _ => share
  else xs.mapM fun x => floats.div x total

/-- `_poisson(k, lam)`. -/
def poisson (k : Nat) (lam : Real) : Except PyError Real := do
  let decay ← floats.exp (floats.neg lam)
  let power ← floats.pow lam (floats.literal k)
  floats.div (floats.mul decay power) (floats.literal k.factorial)

/-- What `_poisson_1x2(home_xg, away_xg)` adds up for home, draw and away, with up to ten goals
each. -/
def scoreTotals (homeXg awayXg : Real) : Except PyError (Real × Real × Real) :=
  let scores := (List.range 11).flatMap fun home => (List.range 11).map fun away => (home, away)
  scores.foldlM (fun totals score => do
      let p := floats.mul (← poisson floats score.1 homeXg) (← poisson floats score.2 awayXg)
      if score.1 > score.2 then return (floats.add totals.1 p, totals.2.1, totals.2.2)
      else if score.1 = score.2 then return (totals.1, floats.add totals.2.1 p, totals.2.2)
      else return (totals.1, totals.2.1, floats.add totals.2.2 p))
    (floats.literal 0, floats.literal 0, floats.literal 0)

/-- `_poisson_1x2` of `origin.py`. -/
def poisson1x2 (homeXg awayXg : Real) : Except PyError (Real × Real × Real) := do
  let totals ← scoreTotals floats homeXg awayXg
  match ← normalize floats [totals.1, totals.2.1, totals.2.2] with
  | [home, draw, away] => return (home, draw, away)
  | _ => throw ⟨.valueError, "not enough values to unpack (expected 3)"⟩

/-- `_poisson_1x2` of `lifecycle.py`, which divides by the sum as it is. -/
def lifecyclePoisson1x2 (homeXg awayXg : Real) : Except PyError (Real × Real × Real) := do
  let values ← scoreTotals floats homeXg awayXg
  let total := floats.sum [values.1, values.2.1, values.2.2]
  return (← floats.div values.1 total, ← floats.div values.2.1 total, ← floats.div values.2.2 total)

variable (pricing : Real → Real → Except PyError (Real × Real × Real))

/-- A prediction, with the `_poisson_1x2` of its module. -/
def predictFixture (version : String) (now : DateTime) (model : TeamStrengthModel Real)
    (fixture : FixtureRecord Real) : Except PyError (PredictionRecord Real) := do
  let home ← model.snapshot floats fixture.homeTeamId
  let away ← model.snapshot floats fixture.awayTeamId
  let expected := predictXg floats home away
  let probs ← pricing expected.1 expected.2
  return {
    fixtureId := fixture.fixtureId, createdAt := now, modelVersion := version
    home := probs.1, draw := probs.2.1, away := probs.2.2
    expectedHomeGoals := expected.1, expectedAwayGoals := expected.2, abstain := false }

abbrev Run (Real Result : Type) := List (PredictionRecord Real) × Except PyError Result

abbrev Turn (Real : Type) :=
  Option (PredictionRecord Real) × Except PyError (TeamStrengthModel Real)

def runTurns (turn : Nat → TeamStrengthModel Real → FixtureRecord Real → Turn Real) :
    Nat → TeamStrengthModel Real → List (FixtureRecord Real) → Run Real Unit
  | _, _, [] => ([], .ok ())
  | number, model, fixture :: rest =>
    match turn number model fixture with
    | (made, .error err) => (made.toList, .error err)
    | (made, .ok next) =>
      let later := runTurns turn (number + 1) next rest
      (made.toList ++ later.1, later.2)

/-- A turn that predicts a fixture and then `observe`s it. -/
def predictThen (version : String) (now : DateTime)
    (observe : TeamStrengthModel Real → FixtureRecord Real →
      Except PyError (TeamStrengthModel Real))
    (model : TeamStrengthModel Real) (fixture : FixtureRecord Real) : Turn Real :=
  match predictFixture floats pricing version now model fixture with
  | .error err => (none, .error err)
  | .ok pred => (some pred, observe model fixture)

def mixedKickoffs : PyError :=
  ⟨.other "TypeError", "can't compare offset-naive and offset-aware datetimes"⟩

/-- `sorted(fixtures, key=lambda f: f.kickoff_at)`, which is stable and raises where a
naive and an aware kickoff are compared. -/
def sortedByKickoff (games : List (FixtureRecord Real)) :
    Except PyError (List (FixtureRecord Real)) :=
  if games.all (fun fixture => fixture.kickoffAt.utcoffset.isSome) ||
      games.all (fun fixture => fixture.kickoffAt.utcoffset.isNone) then
    .ok (games.insertionSort fun left right =>
      left.kickoffAt.instant ≤ right.kickoffAt.instant)
  else .error mixedKickoffs

structure FootballRunResult (Real : Type) where
  status : String
  stage : String
  predictions : List (PredictionRecord Real)
  evidenceIds : List String

structure OriginHashing where
  sha256 : Json.Text → String
  sha256Text : String → String

/-- `evidence_event("football.prediction", "ois.football", ...).event_id`. -/
def evidenceEventId (hashing : OriginHashing) (version fixtureId : String) : String :=
  let body : Members :=
    [("fixture_id", .str fixtureId), ("model_version", .str version)]
  let digest := hashing.sha256 (Json.dumpsSorted (.obj body))
  String.ofList ((hashing.sha256Text
    ("football.prediction" ++ "|" ++ "ois.football" ++ "|" ++ digest)).toList.take 32)

/-- A turn of `build_predictions`: only completed fixtures are learned from. -/
def originTurn (version : String) (now : Nat → DateTime) (number : Nat) :
    TeamStrengthModel Real → FixtureRecord Real → Turn Real :=
  predictThen floats (lifecyclePoisson1x2 floats) version (now number) fun model fixture =>
    if fixture.completed then model.update floats fixture else .ok model

/-- `FootballIntelligenceOrigin(version).build_predictions(fixtures)`; `now number` is the
clock in the turn of that number. -/
def buildPredictions (hashing : OriginHashing) (version : String) (now : Nat → DateTime)
    (games : List (FixtureRecord Real)) : Run Real (FootballRunResult Real) :=
  match sortedByKickoff games with
  | .error err => ([], .error err)
  | .ok ordered =>
    let made := runTurns (originTurn floats version now) 0
      (TeamStrengthModel.initial floats) ordered
    (made.1, made.2.map fun _ => {
      status := "COMPUTED", stage := "F3-F5", predictions := made.1
      evidenceIds := ordered.map fun fixture =>
        evidenceEventId hashing version fixture.fixtureId })

structure BacktestReport (Real : Type) where
  count : Nat
  brier : Real
  logLoss : Real
  accuracy : Real
  roi : Option Real := none
  maxDrawdown : Option Real := none
  status : String

def PredictionRecord.probabilities (pred : PredictionRecord Real) :
    Dict String Real :=
  [("home", pred.home), ("draw", pred.draw), ("away", pred.away)]

/-- `probs[outcome]`. -/
def probabilityOf (pred : PredictionRecord Real) (outcome : String) :
    Except PyError Real :=
  match pred.probabilities.lookup outcome with
  | some prob => .ok prob
  | none => .error ⟨.other "KeyError", Kernel.reprStr outcome⟩

/-- `max(probs, key=lambda name: probs[name])`: the first of the greatest. -/
def favourite (pred : PredictionRecord Real) : String :=
  (pred.probabilities.tail.foldl (fun best entry =>
    if floats.less best.2 entry.2 then entry else best) ("home", pred.home)).1

/-- `float(condition)`. -/
def indicator (condition : Bool) : Real :=
  if condition then floats.literal 1 else floats.literal 0

/-- `bins[min(9, int(p * 10))].append(float(p == 1.0))`. A negative index counts from the
end. -/
def binned (bins : List (List Real)) (p : Real) : Except PyError (List (List Real)) := do
  let scaled ← floats.truncate (floats.mul p (floats.literal 10))
  let index := if 0 ≤ min 9 scaled then min 9 scaled else min 9 scaled + 10
  if 0 ≤ index then
    return bins.modify index.toNat (· ++ [indicator floats (floats.equal p (floats.literal 1))])
  else throw ⟨.other "IndexError", "list index out of range"⟩

/-- What `calibration_report` adds up over the samples. -/
structure CalibrationSums (Real : Type) where
  brier : Real
  logLoss : Real
  correct : Real
  bins : List (List Real)

def addSample (sums : CalibrationSums Real)
    (sample : PredictionRecord Real × String) : Except PyError (CalibrationSums Real) := do
  let squares ← ["home", "draw", "away"].mapM fun name => do
    floats.pow (floats.sub (← probabilityOf sample.1 name)
      (indicator floats (name == sample.2))) (floats.literal 2)
  let p ← probabilityOf sample.1 sample.2
  let loss ← floats.log (floats.max p (floats.literal (1 / 1000000000000000)))
  return {
    brier := floats.add sums.brier (floats.sum squares)
    logLoss := floats.sub sums.logLoss loss
    correct := floats.add sums.correct (indicator floats (favourite floats sample.1 == sample.2))
    bins := ← binned floats sums.bins p }

structure CalibrationReport (Real : Type) where
  count : Nat
  brier : Real
  logLoss : Real
  accuracy : Real
  calibrationError : Real
  status : String

def calibrationReport (predictions : List (PredictionRecord Real)) (outcomes : List String) :
    Except PyError (CalibrationReport Real) := do
  let zero := floats.literal 0
  if predictions.length ≠ outcomes.length then
    throw ⟨.valueError, "predictions and outcomes must be aligned"⟩
  if predictions.isEmpty then
    return {
      count := 0, brier := zero, logLoss := zero, accuracy := zero, calibrationError := zero
      status := "INSUFFICIENT_DATA" }
  let sums ← (predictions.zip outcomes).foldlM (addSample floats)
    { brier := zero, logLoss := zero, correct := zero, bins := List.replicate 10 [] }
  let n := floats.literal predictions.length
  let ece ← sums.bins.foldlM (fun ece bucket =>
    if bucket.isEmpty then return ece
    else do
      let share ← floats.div (floats.literal bucket.length) n
      let mean ← floats.fmean bucket
      return floats.add ece
        (floats.mul share (floats.abs (floats.sub mean (floats.literal (1 / 2)))))) zero
  return {
    count := predictions.length, brier := ← floats.div sums.brier n
    logLoss := ← floats.div sums.logLoss n, accuracy := ← floats.div sums.correct n
    calibrationError := ece, status := "EVALUATED" }

/-- A turn of `WalkForwardEvaluator.evaluate`: the first fixtures are learned from
without a prediction. -/
def walkTurn (minTrain : Int) (now : Nat → DateTime) (number : Nat)
    (model : TeamStrengthModel Real) (fixture : FixtureRecord Real) : Turn Real :=
  if (number : Int) < minTrain then (none, model.update floats fixture)
  else predictThen floats (poisson1x2 floats) "football.xg.baseline.v1" (now number)
    (fun model fixture => model.update floats fixture) model fixture

/-- `WalkForwardEvaluator().evaluate(fixtures, min_train)`. The outcomes are those of the
predicted fixtures. -/
def walkForward (now : Nat → DateTime) (minTrain : Int)
    (games : List (FixtureRecord Real)) : Run Real (BacktestReport Real) :=
  match sortedByKickoff (games.filter FixtureRecord.completed) with
  | .error err => ([], .error err)
  | .ok ordered =>
    if (ordered.length : Int) ≤ minTrain then
      ([], .ok {
        count := 0, brier := floats.literal 0, logLoss := floats.literal 0
        accuracy := floats.literal 0, status := "INSUFFICIENT_DATA" })
    else
      let made := runTurns (walkTurn floats minTrain now) 0
        (TeamStrengthModel.initial floats) ordered
      let outcomes := (ordered.drop minTrain.toNat).map fun fixture =>
        fixture.outcome.getD ""
      (made.1, do
        made.2
        let report ← calibrationReport floats made.1 outcomes
        return {
          count := report.count, brier := report.brier, logLoss := report.logLoss
          accuracy := report.accuracy, status := "WALK_FORWARD_EVALUATED" })

end model

end Ois.Football
