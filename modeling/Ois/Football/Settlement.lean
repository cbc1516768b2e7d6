import Mathlib.Algebra.Order.Ring.Cast
import Mathlib.Algebra.Order.Ring.Rat
import Ois.Kernel.Types

/-!
# Markets and their settlement

`domains/football_market_intelligence`: the markets of `markets.py`, the contract of a
`MarketEvent` of `schemas.py`, and `settlement.py`. Lines are elements of an ordered ring, and
goals are cast to it where a line is compared with them.
-/

namespace Ois.Football

open Ois.Kernel

inductive MarketType where
  | result | doubleChance | totalGoals | teamGoals | btts | handicap | special
  deriving DecidableEq, Repr

inductive Selection where
  | homeWin | draw | awayWin
  | homeOrDraw | drawOrAway | homeOrAway
  | «over» | under
  | homeOver | homeUnder | awayOver | awayUnder
  | bttsYes | bttsNo
  | homeHandicap | awayHandicap
  | home1up | away1up
  deriving DecidableEq, Repr

def MarketType.value : MarketType → String
  | result => "result"
  | doubleChance => "double_chance"
  | totalGoals => "total_goals"
  | teamGoals => "team_goals"
  | btts => "btts"
  | handicap => "handicap"
  | special => "special"

def Selection.value : Selection → String
  | homeWin => "home_win"
  | draw => "draw"
  | awayWin => "away_win"
  | homeOrDraw => "1x"
  | drawOrAway => "x2"
  | homeOrAway => "12"
  | «over» => "over"
  | under => "under"
  | homeOver => "home_over"
  | homeUnder => "home_under"
  | awayOver => "away_over"
  | awayUnder => "away_under"
  | bttsYes => "btts_yes"
  | bttsNo => "btts_no"
  | homeHandicap => "home_handicap"
  | awayHandicap => "away_handicap"
  | home1up => "home_1up"
  | away1up => "away_1up"

/-- The name of the member of the enumeration. -/
def Selection.name : Selection → String
  | homeWin => "HOME_WIN"
  | draw => "DRAW"
  | awayWin => "AWAY_WIN"
  | homeOrDraw => "HOME_OR_DRAW"
  | drawOrAway => "DRAW_OR_AWAY"
  | homeOrAway => "HOME_OR_AWAY"
  | «over» => "OVER"
  | under => "UNDER"
  | homeOver => "HOME_OVER"
  | homeUnder => "HOME_UNDER"
  | awayOver => "AWAY_OVER"
  | awayUnder => "AWAY_UNDER"
  | bttsYes => "BTTS_YES"
  | bttsNo => "BTTS_NO"
  | homeHandicap => "HOME_HANDICAP"
  | awayHandicap => "AWAY_HANDICAP"
  | home1up => "HOME_1UP"
  | away1up => "AWAY_1UP"

/-- `RESULT_SELECTIONS` and the other sets of selections. -/
def MarketType.selections : MarketType → List Selection
  | result => [.homeWin, .draw, .awayWin]
  | doubleChance => [.homeOrDraw, .drawOrAway, .homeOrAway]
  | totalGoals => [.over, .under]
  | teamGoals => [.homeOver, .homeUnder, .awayOver, .awayUnder]
  | btts => [.bttsYes, .bttsNo]
  | handicap => [.homeHandicap, .awayHandicap]
  | special => [.home1up, .away1up]

def selectionInvalid (marketType : MarketType) (selection : Selection) : PyError :=
  ⟨.valueError, "Selection " ++ Kernel.reprStr selection.value ++ " is invalid for " ++
    Kernel.reprStr marketType.value⟩

def lineRequired (marketType : MarketType) : PyError :=
  ⟨.valueError, "line is required for " ++ marketType.value⟩

def negativeGoals : PyError := ⟨.valueError, "Goals cannot be negative"⟩

def selectionMissing (selection : Selection) : PyError :=
  ⟨.other "KeyError",
    "<Selection." ++ selection.name ++ ": " ++ Kernel.reprStr selection.value ++ ">"⟩

def assertionFailed : PyError := ⟨.other "AssertionError", ""⟩

def validateMarketSelection (marketType : MarketType) (selection : Selection) :
    Except PyError Unit :=
  if selection ∉ marketType.selections then .error (selectionInvalid marketType selection)
  else .ok ()

/-- `validate_contract()`. -/
def validateContract {Line : Type} (marketType : MarketType) (selection : Selection)
    (line : Option Line) : Except PyError Unit := do
  validateMarketSelection marketType selection
  if line.isNone ∧ marketType ∈ [.totalGoals, .teamGoals, .handicap] then
    .error (lineRequired marketType)
  else return ()

structure MarketEvent (Line : Type) where
  eventId : String
  marketType : MarketType
  selection : Selection
  line : Option Line := none
  valid : validateContract marketType selection line = .ok ()

inductive OutcomeStatus where
  | win | loss | push | void | unknown
  deriving DecidableEq, Repr

structure MarketOutcome (Line : Type) where
  eventId : String
  status : OutcomeStatus
  actualValue : Option Line := none
  deriving DecidableEq, Repr

section settlement

variable {Line : Type} [Ring Line] [LinearOrder Line]

/-- `_over_under_status(value, line, selection)`. -/
def overUnderStatus (value line : Line) (selection : Selection) : OutcomeStatus :=
  if value = line then .push
  else if decide (line < value) = decide (selection = .over) then .win
  else .loss

def won (condition : Prop) [Decidable condition] : OutcomeStatus :=
  if condition then .win else .loss

def resultValue : Selection → Except PyError Int
  | .homeWin => .ok 1
  | .draw => .ok 0
  | .awayWin => .ok (-1)
  | selection => .error (selectionMissing selection)

def doubleChanceHolds (margin : Int) : Selection → Except PyError Bool
  | .homeOrDraw => .ok (decide (0 ≤ margin))
  | .drawOrAway => .ok (decide (margin ≤ 0))
  | .homeOrAway => .ok (decide (margin ≠ 0))
  | selection => .error (selectionMissing selection)

/-- `assert line is not None`. -/
def asserted (line : Option Line) : Except PyError Line :=
  match line with
  | none => .error assertionFailed
  | some line => .ok line

def settledStatus (marketType : MarketType) (selection : Selection) (line : Option Line)
    (home away : Int) : Except PyError OutcomeStatus :=
  let total := home + away
  let margin := home - away
  match marketType with
  | .result => do
    let selectedValue ← resultValue selection
    let actual : Int := if 0 < margin then 1 else if margin = 0 then 0 else -1
    return won (actual = selectedValue)
  | .doubleChance => do
    let actual ← doubleChanceHolds margin selection
    return won (actual = true)
  | .totalGoals => do
    let line ← asserted line
    return overUnderStatus (total : Line) line selection
  | .teamGoals => do
    let line ← asserted line
    let value := if selection ∈ [Selection.homeOver, .homeUnder] then home else away
    let wanted : Selection :=
      if selection ∈ [Selection.homeOver, .awayOver] then .over else .under
    return overUnderStatus (value : Line) line wanted
  | .btts =>
    let btts := decide (0 < home ∧ 0 < away)
    let expected := decide (selection = .bttsYes)
    return won (btts = expected)
  | .handicap => do
    let line ← asserted line
    let adjusted : Line := if selection = .homeHandicap then margin + line else -margin + line
    return if 0 < adjusted then .win else if adjusted < 0 then .loss else .push
  | .special =>
    if selection = .home1up then return won (1 ≤ margin) else return won (margin ≤ -1)

/-- `settle_market(event, home_goals, away_goals)`. -/
def settleMarket (event : MarketEvent Line) (home away : Int) :
    Except PyError (MarketOutcome Line) := do
  if home < 0 ∨ away < 0 then .error negativeGoals
  let status ← settledStatus event.marketType event.selection event.line home away
  let total := home + away
  return { eventId := event.eventId, status := status, actualValue := some (total : Line) }

end settlement

end Ois.Football
