import Mathlib
import Ois.Football.Settlement

/-!
# Prices and the settlement

`domains/football_intelligence/market_models.py` in exact arithmetic: numbers are elements of an
ordered field with a floor. The weights of the counts at a mean (`_poisson_pmf`), the exponential
and the text of a number are parameters.
-/

namespace Ois.Football

section probs

variable {K : Type} [Field K] [LinearOrder K]

/-- `_poisson_pmf(k, lam)`. -/
def poissonPmf (exp : K → K) (lam : K) (k : Nat) : K := exp (-lam) * lam ^ k / (k.factorial : K)

/-- `_poisson_cdf(k, lam)`. -/
def poissonCdf (pmf : K → Nat → K) (k : Int) (lam : K) : K :=
  ∑ i ∈ Finset.range ((max k 0).toNat + 1), pmf lam i

/-- `_poisson_tail(k, lam)`. -/
def poissonTail (pmf : K → Nat → K) (k : Int) (lam : K) : K :=
  max 0 (min 1 (1 - poissonCdf pmf (k - 1) lam))

/-- `int(line)`: the fraction is dropped. -/
def truncated [FloorRing K] (line : K) : Int := if 0 ≤ line then ⌊line⌋ else ⌈line⌉

/-- `_probability_event(count, line, over)`. -/
def probabilityEvent [FloorRing K] (pmf : K → Nat → K) (count line : K) (above : Bool) : K :=
  if Int.fract line = 1 / 2 then
    let threshold := ⌊line⌋ + 1
    if above then poissonTail pmf threshold count else poissonCdf pmf (threshold - 1) count
  else
    let threshold := truncated line
    if above then poissonTail pmf (threshold + 1) count else poissonCdf pmf threshold count

end probs

structure MarketProbability (K : Type) [Field K] [LinearOrder K] where
  modelId : String
  market : String
  selection : String
  probability : K
  fairOdds : K
  probability_nonneg : 0 ≤ probability
  probability_le_one : probability ≤ 1
  fairOdds_pos : 0 < fairOdds

structure MarketPrediction (K : Type) [Field K] [LinearOrder K] where
  modelId : String
  marketFamily : String
  probabilities : List (MarketProbability K)
  featureSnapshot : List (String × K)

structure TeamSnapshot (K : Type) where
  attackStrength : K
  defenseStrength : K
  homeAdvantage : K
  xgFor : K

structure MatchState (K : Type) where
  home : TeamSnapshot K
  away : TeamSnapshot K

structure GoalMarketModel where
  modelId : String := "football.goal_market.v1"

structure CountMarketModel (K : Type) where
  modelId : String
  marketFamily : String
  homeMean : K
  awayMean : K

structure LiveStateModel where
  modelId : String := "football.live_state.v1"

section models

variable {K : Type} [Field K] [LinearOrder K]

/-- `GoalMarketModel.expected_goals(match)`. -/
def expectedGoals (game : MatchState K) : K × K :=
  let home := max (5 / 100)
    (game.home.xgFor * game.home.attackStrength / max game.away.defenseStrength (1 / 10))
  let away := max (5 / 100)
    (game.away.xgFor * game.away.attackStrength / max game.home.defenseStrength (1 / 10))
  (home * (1 + game.home.homeAdvantage), away)

/-- `LiveStateModel.remaining_goal_rate(home_lambda, away_lambda, minute)`. -/
def remainingGoalRate (homeLambda awayLambda : K) (minute : Int) : K :=
  let remaining := max 0 (min 1 ((90 - minute) / 90))
  let base := max (1 / 100) (homeLambda + awayLambda)
  base * remaining

def published (prob : K) : K := max (1 / 10 ^ 9) (min 1 prob)

variable [IsStrictOrderedRing K]

theorem published_pos (prob : K) : 0 < published prob :=
  lt_max_of_lt_left (by positivity)

theorem published_le_one (prob : K) : published prob ≤ 1 := by
  apply max_le
  · norm_num
  · exact min_le_left 1 prob

/-- `_result(market, selection, probability)`, which the models share. -/
def result (modelId market selection : String) (prob : K) : MarketProbability K where
  modelId := modelId
  market := market
  selection := selection
  probability := published prob
  fairOdds := 1 / published prob
  probability_nonneg := (published_pos prob).le
  probability_le_one := published_le_one prob
  fairOdds_pos := one_div_pos.mpr (published_pos prob)

def overUnder (modelId market : String) (text : K → String) (line prob : K) :
    List (MarketProbability K) :=
  [result modelId market ("over_" ++ text line) prob,
    result modelId market ("under_" ++ text line) (1 - prob)]

variable [FloorRing K] (pmf : K → Nat → K) (exp : K → K) (text : K → String)

/-- `GoalMarketModel.predict(match, lines)`. -/
def GoalMarketModel.predict (model : GoalMarketModel) (game : MatchState K) (lines : List K) :
    MarketPrediction K :=
  let (home, away) := expectedGoals game
  let total := home + away
  let btts := (1 - exp (-home)) * (1 - exp (-away))
  { modelId := model.modelId
    marketFamily := "goals"
    probabilities :=
      (lines.flatMap fun line =>
        overUnder model.modelId "goals_ou" text line (probabilityEvent pmf total line true)) ++
      [result model.modelId "btts" "yes" btts, result model.modelId "btts" "no" (1 - btts)] ++
      [("home", home), ("away", away)].flatMap fun (side, lam) =>
        [1 / 2, 3 / 2, 5 / 2].flatMap fun line =>
          overUnder model.modelId (side ++ "_goals_ou") text line
            (probabilityEvent pmf lam line true)
    featureSnapshot := [("home_lambda", home), ("away_lambda", away)] }

/-- `CountMarketModel.predict(lines)`. -/
def CountMarketModel.predict (model : CountMarketModel K) (lines : List K) : MarketPrediction K :=
  let total := max (5 / 100) (model.homeMean + model.awayMean)
  { modelId := model.modelId
    marketFamily := model.marketFamily
    probabilities := lines.flatMap fun line =>
      overUnder model.modelId (model.marketFamily ++ "_ou") text line
        (probabilityEvent pmf total line true)
    featureSnapshot := [("home_mean", model.homeMean), ("away_mean", model.awayMean)] }

/-- `LiveStateModel.predict(home_lambda, away_lambda, minute, current_total_goals, lines)`. -/
def LiveStateModel.predict (model : LiveStateModel) (homeLambda awayLambda : K) (minute : Int)
    (currentTotalGoals : Int) (lines : List K) : MarketPrediction K :=
  let remainingRate := remainingGoalRate homeLambda awayLambda minute
  { modelId := model.modelId
    marketFamily := "live"
    probabilities := lines.flatMap fun line =>
      let needed := line - (currentTotalGoals : K)
      let above :=
        if needed ≤ 0 then 1 else probabilityEvent pmf remainingRate (needed - 1 / 2) true
      overUnder model.modelId "live_total" text line above
    featureSnapshot := [("minute", (minute : K)), ("remaining_goal_rate", remainingRate),
      ("current_total_goals", (currentTotalGoals : K))] }

end models

structure Distribution (weights : Nat → ℝ) : Prop where
  nonneg : ∀ count, 0 ≤ weights count
  sums : HasSum weights 1

noncomputable def total (weights : Nat → ℝ) (counts : Set Nat) : ℝ :=
  tsum (counts.indicator weights)

section totals

variable {weights : Nat → ℝ}

theorem total_finset (counts : Finset Nat) :
    total weights counts = ∑ count ∈ counts, weights count := by
  have outside : ∀ count ∉ counts, (counts : Set Nat).indicator weights count = 0 := by
    intro count out
    exact Set.indicator_of_notMem (by simpa using out) weights
  unfold total
  rw [tsum_eq_sum outside]
  apply Finset.sum_congr rfl
  intro count within
  exact Set.indicator_of_mem (by simpa using within) weights

namespace Distribution

section

variable (distribution : Distribution weights) (counts : Set Nat)

include distribution

theorem summable :
    Summable (counts.indicator weights) :=
  distribution.sums.summable.indicator counts

theorem total_nonneg :
    0 ≤ total weights counts := by
  apply tsum_nonneg
  intro count
  exact Set.indicator_nonneg (fun count _ => distribution.nonneg count) count

theorem total_compl :
    total weights countsᶜ = 1 - total weights counts := by
  have whole : total weights counts + total weights countsᶜ = 1 := by
    unfold total
    rw [← (distribution.summable counts).tsum_add (distribution.summable countsᶜ)]
    rw [← distribution.sums.tsum_eq]
    apply tsum_congr
    intro count
    exact congrFun (Set.indicator_self_add_compl counts weights) count
  linarith

theorem total_le_one :
    total weights counts ≤ 1 := by
  have rest := distribution.total_nonneg countsᶜ
  rw [distribution.total_compl] at rest
  linarith

end

theorem total_univ (distribution : Distribution weights) : total weights Set.univ = 1 := by
  unfold total
  rw [Set.indicator_univ]
  exact distribution.sums.tsum_eq

end Distribution

end totals

theorem poisson_distribution {lam : ℝ} (nonneg : 0 ≤ lam) :
    Distribution (poissonPmf Real.exp lam) where
  nonneg count := by
    unfold poissonPmf
    positivity
  sums := ProbabilityTheory.hasSum_one_poissonMeasure ⟨lam, nonneg⟩

def winning (selection : Selection) (line : ℝ) (goals : Int) : Set Nat :=
  {count | overUnderStatus ((goals + count : Int) : ℝ) line selection = .win}

def unlost (selection : Selection) (line : ℝ) (goals : Int) : Set Nat :=
  {count | overUnderStatus ((goals + count : Int) : ℝ) line selection ≠ .loss}

def beyond (line : ℝ) : Set Nat := {count | line < count}

theorem over_wins_iff (value line : ℝ) :
    overUnderStatus value line .over = .win ↔ line < value := by
  unfold overUnderStatus
  by_cases same : value = line
  · simp [same]
  · simp [same]

theorem under_unlost_iff (value line : ℝ) :
    overUnderStatus value line .under ≠ .loss ↔ value ≤ line := by
  unfold overUnderStatus
  by_cases same : value = line
  · simp [same]
  · simp [same]

theorem winning_over (line : ℝ) (goals : Int) :
    winning .over line goals = beyond (line - goals) := by
  ext count
  unfold winning beyond
  rw [Set.mem_ofPred_eq, Set.mem_ofPred_eq, over_wins_iff, Int.cast_add, Int.cast_natCast,
    sub_lt_iff_lt_add']

theorem unlost_under (line : ℝ) (goals : Int) :
    unlost .under line goals = (beyond (line - goals))ᶜ := by
  ext count
  unfold unlost beyond
  rw [Set.mem_compl_iff, Set.mem_ofPred_eq, Set.mem_ofPred_eq, under_unlost_iff, Int.cast_add,
    Int.cast_natCast, sub_lt_iff_lt_add', not_lt]

theorem unlost_of_fract {line : ℝ} (broken : Int.fract line ≠ 0) (selection : Selection)
    (goals : Int) : unlost selection line goals = winning selection line goals := by
  ext count
  have apart : ((goals + count : Int) : ℝ) ≠ line := by
    intro same
    apply broken
    rw [← same, Int.fract_intCast]
  unfold unlost winning overUnderStatus
  rw [Set.mem_ofPred_eq, Set.mem_ofPred_eq, if_neg apart]
  split_ifs
  · simp
  · simp

section events

variable (pmf : ℝ → Nat → ℝ) (lam : ℝ)

theorem truncated_of_nonneg {line : ℝ} (nonneg : 0 ≤ line) : truncated line = ⌊line⌋ :=
  if_pos nonneg

theorem event_of_nonneg {line : ℝ} (nonneg : 0 ≤ line) :
    probabilityEvent pmf lam line true = poissonTail pmf (⌊line⌋ + 1) lam := by
  unfold probabilityEvent
  rw [truncated_of_nonneg nonneg]
  by_cases half : Int.fract line = 1 / 2
  · rw [if_pos half]
    rfl
  · rw [if_neg half]
    rfl

structure Unshifted (line : ℝ) : Prop where
  nonzero : line ≠ 0
  half : line < 1 / 2 ∨ 1 / 2 ≤ Int.fract line

theorem event_of_shifted {line : ℝ} (unshifted : Unshifted line) (more : 0 < line) :
    probabilityEvent pmf lam (line - 1 / 2) true = poissonTail pmf (⌊line⌋ + 1) lam := by
  rcases lt_or_ge line (1 / 2) with less | least
  · have floor : ⌊line⌋ = 0 := Int.floor_eq_zero_iff.mpr ⟨more.le, by linarith⟩
    have negative : ¬0 ≤ line - 1 / 2 := by linarith
    have ceil : ⌈line - 1 / 2⌉ = 0 := by
      rw [Int.ceil_eq_iff]
      constructor
      · push_cast
        linarith
      · push_cast
        linarith
    have fract : Int.fract (line - 1 / 2) ≠ 1 / 2 := by
      have below : ⌊line - 1 / 2⌋ = -1 := by
        rw [Int.floor_eq_iff]
        constructor
        · push_cast
          linarith
        · push_cast
          linarith
      unfold Int.fract
      rw [below]
      push_cast
      intro same
      linarith
    unfold probabilityEvent truncated
    rw [if_neg fract, if_neg negative, ceil, floor]
    rfl
  · have half : 1 / 2 ≤ Int.fract line := unshifted.half.resolve_left (not_lt.mpr least)
    have floor : ⌊line - 1 / 2⌋ = ⌊line⌋ := by
      have parts := Int.floor_add_fract line
      have small := Int.fract_lt_one line
      rw [Int.floor_eq_iff]
      constructor
      · linarith
      · linarith
    rw [event_of_nonneg pmf lam (by linarith), floor]

variable {pmf} {lam}

theorem tail_eq_total (distribution : Distribution (pmf lam)) {line : ℝ} (nonneg : 0 ≤ line) :
    poissonTail pmf (⌊line⌋ + 1) lam = total (pmf lam) (beyond line) := by
  have floor : 0 ≤ ⌊line⌋ := Int.floor_nonneg.mpr nonneg
  have within : beyond line = (↑(Finset.range (⌊line⌋.toNat + 1)) : Set Nat)ᶜ := by
    ext count
    have step : line < count ↔ ⌊line⌋ < (count : Int) := by
      rw [Int.floor_lt, Int.cast_natCast]
    rw [Set.mem_compl_iff, Finset.mem_coe, Finset.mem_range]
    change line < count ↔ _
    rw [step]
    omega
  have cdf : poissonCdf pmf (⌊line⌋ + 1 - 1) lam =
      total (pmf lam) ↑(Finset.range (⌊line⌋.toNat + 1)) := by
    rw [total_finset, add_sub_cancel_right]
    unfold poissonCdf
    rw [max_eq_left floor]
  unfold poissonTail
  rw [cdf, ← distribution.total_compl, ← within, min_eq_right (distribution.total_le_one _),
    max_eq_right (distribution.total_nonneg _)]

end events

def MarketPrediction.quotes {K : Type} [Field K] [LinearOrder K] (pred : MarketPrediction K)
    (market : String) : List (String × K) :=
  (pred.probabilities.filter (·.market = market)).map fun price =>
    (price.selection, price.probability)

/-- What settlement makes of the lines of a market: over with the counts that win it, and under
with those that do not lose it. -/
noncomputable def settledQuotes (text : ℝ → String) (weights : Nat → ℝ) (goals : Int)
    (lines : List ℝ) : List (String × ℝ) :=
  lines.flatMap fun line =>
    [("over_" ++ text line, published (total weights (winning .over line goals))),
      ("under_" ++ text line, published (total weights (unlost .under line goals)))]

section quotes

variable (text : ℝ → String)

noncomputable def lineQuotes (line prob : ℝ) : List (String × ℝ) :=
  [("over_" ++ text line, published prob),
    ("under_" ++ text line, published (1 - prob))]

theorem quotes_of_lines (modelId other market : String) (price : ℝ → ℝ) (lines : List ℝ) :
    ((lines.flatMap fun line => overUnder modelId other text line (price line)).filter
      (·.market = market)).map (fun price => (price.selection, price.probability)) =
      if other = market then lines.flatMap fun line => lineQuotes text line (price line)
      else [] := by
  induction lines with
  | nil => simp
  | cons line lines ih =>
    rw [List.flatMap_cons, List.filter_append, List.map_append, ih]
    by_cases same : other = market
    · rw [if_pos same, if_pos same, List.flatMap_cons]
      simp [overUnder, result, lineQuotes, same]
    · rw [if_neg same, if_neg same]
      simp [overUnder, result, same]

variable (pmf : ℝ → Nat → ℝ) (exp : ℝ → ℝ)

variable (model : GoalMarketModel) (game : MatchState ℝ) (lines : List ℝ)

theorem goal_model_quotes {market : String} (lined : market ≠ "btts") :
    (model.predict pmf exp text game lines).quotes market =
      (if "goals_ou" = market then lines.flatMap fun line => lineQuotes text line
      (probabilityEvent pmf ((expectedGoals game).1 + (expectedGoals game).2) line true)
      else []) ++
      (if "home_goals_ou" = market then [1 / 2, 3 / 2, 5 / 2].flatMap fun line =>
      lineQuotes text line (probabilityEvent pmf (expectedGoals game).1 line true)
      else []) ++
      (if "away_goals_ou" = market then [1 / 2, 3 / 2, 5 / 2].flatMap fun line =>
      lineQuotes text line (probabilityEvent pmf (expectedGoals game).2 line true)
      else []) := by
  have home : "home" ++ "_goals_ou" = "home_goals_ou" := by decide
  have away : "away" ++ "_goals_ou" = "away_goals_ou" := by decide
  have others (prob : ℝ) : [result model.modelId "btts" "yes" prob,
      result model.modelId "btts" "no" (1 - prob)].filter (·.market = market) = [] := by
    simp [result, lined.symm]
  unfold MarketPrediction.quotes GoalMarketModel.predict
  dsimp only
  rw [List.filter_append, List.filter_append, others, List.append_nil, List.map_append,
    quotes_of_lines, List.flatMap_cons, List.flatMap_singleton, home, away, List.filter_append,
    List.map_append, quotes_of_lines, quotes_of_lines, List.append_assoc]

theorem goal_quotes :
    (model.predict pmf exp text game lines).quotes "goals_ou" =
      lines.flatMap fun line => lineQuotes text line
      (probabilityEvent pmf ((expectedGoals game).1 + (expectedGoals game).2) line true) := by
  rw [goal_model_quotes text pmf exp model game lines (by decide), if_pos rfl,
    if_neg (by decide), if_neg (by decide), List.append_nil, List.append_nil]

theorem home_quotes :
    (model.predict pmf exp text game lines).quotes "home_goals_ou" =
      [1 / 2, 3 / 2, 5 / 2].flatMap fun line => lineQuotes text line
      (probabilityEvent pmf (expectedGoals game).1 line true) := by
  rw [goal_model_quotes text pmf exp model game lines (by decide), if_neg (by decide),
    if_pos rfl, if_neg (by decide), List.nil_append, List.append_nil]

theorem away_quotes :
    (model.predict pmf exp text game lines).quotes "away_goals_ou" =
      [1 / 2, 3 / 2, 5 / 2].flatMap fun line => lineQuotes text line
      (probabilityEvent pmf (expectedGoals game).2 line true) := by
  rw [goal_model_quotes text pmf exp model game lines (by decide), if_neg (by decide),
    if_neg (by decide), if_pos rfl, List.nil_append, List.nil_append]

theorem count_quotes (model : CountMarketModel ℝ) (lines : List ℝ) :
    (model.predict pmf text lines).quotes (model.marketFamily ++ "_ou") =
      lines.flatMap fun line => lineQuotes text line
      (probabilityEvent pmf (max (5 / 100) (model.homeMean + model.awayMean)) line true) :=
  (quotes_of_lines text _ _ _ _ lines).trans (if_pos rfl)

theorem live_quotes (model : LiveStateModel) (homeLambda awayLambda : ℝ) (minute goals : Int)
    (lines : List ℝ) :
    (model.predict pmf text homeLambda awayLambda minute goals lines).quotes "live_total" =
      lines.flatMap fun line => lineQuotes text line
      (if line - goals ≤ 0 then 1
      else probabilityEvent pmf (remainingGoalRate homeLambda awayLambda minute)
      (line - goals - 1 / 2) true) :=
  (quotes_of_lines text _ _ _ _ lines).trans (if_pos rfl)

theorem quotes_settled {weights : Nat → ℝ} (distribution : Distribution weights) (goals : Int)
    {lines : List ℝ} {price : ℝ → ℝ}
    (prices : ∀ line ∈ lines, price line = total weights (beyond (line - goals))) :
    (lines.flatMap fun line => lineQuotes text line (price line)) =
      settledQuotes text weights goals lines := by
  unfold settledQuotes
  apply List.flatMap_congr
  intro line mem
  unfold lineQuotes
  rw [winning_over, unlost_under, distribution.total_compl, prices line mem]

theorem event_settled {lam : ℝ} (distribution : Distribution (pmf lam)) {lines : List ℝ}
    (nonneg : ∀ line ∈ lines, 0 ≤ line) :
    (lines.flatMap fun line => lineQuotes text line (probabilityEvent pmf lam line true)) =
      settledQuotes text (pmf lam) 0 lines := by
  apply quotes_settled text distribution
  intro line mem
  rw [event_of_nonneg pmf lam (nonneg line mem), tail_eq_total distribution (nonneg line mem),
    Int.cast_zero, sub_zero]

end quotes

structure PricedAsSettled (pmf : ℝ → Nat → ℝ) (exp : ℝ → ℝ) (text : ℝ → String) (lines : List ℝ) :
    Prop where
  goals : ∀ (model : GoalMarketModel) (game : MatchState ℝ),
    Distribution (pmf ((expectedGoals game).1 + (expectedGoals game).2)) →
      (model.predict pmf exp text game lines).quotes "goals_ou" =
        settledQuotes text (pmf ((expectedGoals game).1 + (expectedGoals game).2)) 0 lines
  home : ∀ (model : GoalMarketModel) (game : MatchState ℝ),
    Distribution (pmf (expectedGoals game).1) →
      (model.predict pmf exp text game lines).quotes "home_goals_ou" =
        settledQuotes text (pmf (expectedGoals game).1) 0 [1 / 2, 3 / 2, 5 / 2]
  away : ∀ (model : GoalMarketModel) (game : MatchState ℝ),
    Distribution (pmf (expectedGoals game).2) →
      (model.predict pmf exp text game lines).quotes "away_goals_ou" =
        settledQuotes text (pmf (expectedGoals game).2) 0 [1 / 2, 3 / 2, 5 / 2]
  counts : ∀ model : CountMarketModel ℝ,
    Distribution (pmf (max (5 / 100) (model.homeMean + model.awayMean))) →
      (model.predict pmf text lines).quotes (model.marketFamily ++ "_ou") =
        settledQuotes text (pmf (max (5 / 100) (model.homeMean + model.awayMean))) 0 lines
  live : ∀ (model : LiveStateModel) (homeLambda awayLambda : ℝ) (minute goals : Int),
    Distribution (pmf (remainingGoalRate homeLambda awayLambda minute)) →
      (∀ line ∈ lines, Unshifted (line - goals)) →
        (model.predict pmf text homeLambda awayLambda minute goals lines).quotes "live_total" =
          settledQuotes text (pmf (remainingGoalRate homeLambda awayLambda minute)) goals lines
  start : ∀ (model : LiveStateModel) (goalModel : GoalMarketModel) (game : MatchState ℝ),
    1 / 100 ≤ (expectedGoals game).1 + (expectedGoals game).2 → (∀ line ∈ lines, Unshifted line) →
        (model.predict pmf text (expectedGoals game).1 (expectedGoals game).2 0 0 lines).quotes
            "live_total" =
          (goalModel.predict pmf exp text game lines).quotes "goals_ou"
  unpushed : ∀ line ∈ lines, Int.fract line ≠ 0 → ∀ goals,
    unlost .under line goals = winning .under line goals

theorem rate_at_start {homeLambda awayLambda : ℝ} (least : 1 / 100 ≤ homeLambda + awayLambda) :
    remainingGoalRate homeLambda awayLambda 0 = homeLambda + awayLambda := by
  unfold remainingGoalRate
  rw [max_eq_right least]
  norm_num

theorem live_settled {pmf : ℝ → Nat → ℝ} {lam line : ℝ} (distribution : Distribution (pmf lam))
    (unshifted : Unshifted line) :
    (if line ≤ 0 then 1 else probabilityEvent pmf lam (line - 1 / 2) true) =
      total (pmf lam) (beyond line) := by
  by_cases passed : line ≤ 0
  · have below : line < 0 := lt_of_le_of_ne passed unshifted.nonzero
    have all : beyond line = Set.univ := by
      apply Set.eq_univ_of_forall
      intro count
      exact below.trans_le (Nat.cast_nonneg count)
    rw [if_pos passed, all, distribution.total_univ]
  · have more : 0 < line := not_le.mp passed
    rw [if_neg passed, event_of_shifted pmf lam unshifted more, tail_eq_total distribution more.le]

/-- Over is priced with the counts that win it, and under with the counts that do not lose it. -/
theorem priced_as_settled (pmf : ℝ → Nat → ℝ) (exp : ℝ → ℝ) (text : ℝ → String) {lines : List ℝ}
    (nonneg : ∀ line ∈ lines, 0 ≤ line) : PricedAsSettled pmf exp text lines := by
  have halves : ∀ line ∈ [(1 / 2 : ℝ), 3 / 2, 5 / 2], 0 ≤ line := by
    intro line mem
    fin_cases mem
    · norm_num
    · norm_num
    · norm_num
  constructor
  · intro model game distribution
    rw [goal_quotes]
    exact event_settled text pmf distribution nonneg
  · intro model game distribution
    rw [home_quotes]
    exact event_settled text pmf distribution halves
  · intro model game distribution
    rw [away_quotes]
    exact event_settled text pmf distribution halves
  · intro model distribution
    rw [count_quotes]
    exact event_settled text pmf distribution nonneg
  · intro model homeLambda awayLambda minute goals distribution unshifted
    rw [live_quotes]
    apply quotes_settled text distribution
    intro line mem
    exact live_settled distribution (unshifted line mem)
  · intro model goalModel game least unshifted
    rw [live_quotes, goal_quotes, rate_at_start least]
    apply List.flatMap_congr
    intro line mem
    have more : 0 < line := lt_of_le_of_ne (nonneg line mem) (unshifted line mem).nonzero.symm
    rw [Int.cast_zero, sub_zero, if_neg (not_le.mpr more),
      event_of_shifted pmf _ (unshifted line mem) more, event_of_nonneg pmf _ more.le]
  · intro line mem broken goals
    exact unlost_of_fract broken .under goals

theorem half_line_priced :
    ((⟨"football.corner_market.v1", "corners", 5, 4⟩ : CountMarketModel ℝ).predict
      (poissonPmf Real.exp) (fun _ => "8.5") [17 / 2]).quotes "corners_ou" =
      settledQuotes (fun _ => "8.5") (poissonPmf Real.exp (max (5 / 100) (5 + 4))) 0 [17 / 2] :=
  (priced_as_settled (poissonPmf Real.exp) Real.exp (fun _ => "8.5") (by norm_num)).counts _
    (poisson_distribution (by norm_num))

def certain (count : Nat) : Nat → ℝ := fun other => if other = count then 1 else 0

theorem certain_distribution (count : Nat) : Distribution (certain count) where
  nonneg other := by
    unfold certain
    split_ifs
    · exact zero_le_one
    · exact le_rfl
  sums := hasSum_ite_eq count 1

theorem total_certain (count : Nat) (counts : Set Nat) :
    total (certain count) counts = counts.indicator (certain count) count := by
  apply tsum_eq_single count
  intro other apart
  rw [Set.indicator_apply_eq_zero]
  intro _
  exact if_neg apart

theorem total_within {count : Nat} {counts : Set Nat} (within : count ∈ counts) :
    total (certain count) counts = 1 := by
  rw [total_certain, Set.indicator_of_mem within]
  exact if_pos rfl

theorem total_outside {count : Nat} {counts : Set Nat} (outside : count ∉ counts) :
    total (certain count) counts = 0 := by
  rw [total_certain, Set.indicator_of_notMem outside]

theorem event_certain (count : Nat) (mean : ℝ) {line : ℝ} (nonneg : 0 ≤ line) :
    probabilityEvent (fun _ => certain count) mean line true =
      total (certain count) (beyond line) := by
  have tail : poissonTail (fun _ => certain count) (⌊line⌋ + 1) mean =
      total (certain count) (beyond line) := tail_eq_total (certain_distribution count) nonneg
  rw [event_of_nonneg _ _ nonneg, tail]

theorem published_zero : published (0 : ℝ) = 1 / 10 ^ 9 := by
  norm_num [published]

theorem published_one : published (1 : ℝ) = 1 := by
  norm_num [published]

/-- With one goal for certain, under at one goal is priced at one and settled as a push, over at
that line is priced above zero, and the live price of over is one. Rates that total less than a
hundredth are raised by the live model alone. -/
theorem pushed_line_priced :
    Distribution (certain 1) ∧
    ((⟨"football.corner_market.v1", "corners", 5, 4⟩ : CountMarketModel ℝ).predict
      (fun _ => certain 1) (fun _ => "1.0") [1]).quotes "corners_ou" =
      [("over_1.0", 1 / 10 ^ 9), ("under_1.0", 1)] ∧
    total (certain 1) (winning .over 1 0) = 0 ∧ total (certain 1) (winning .under 1 0) = 0 ∧
    (({} : LiveStateModel).predict (fun _ => certain 1) (fun _ => "1.0") 1 1 0 0 [1]).quotes
      "live_total" = [("over_1.0", 1), ("under_1.0", 1 / 10 ^ 9)] ∧
    remainingGoalRate (1 / 1000 : ℝ) (1 / 1000) 0 ≠ 1 / 1000 + 1 / 1000 := by
  have above : "over_" ++ "1.0" = "over_1.0" := by decide
  have below : "under_" ++ "1.0" = "under_1.0" := by decide
  have atOne : 1 ∉ beyond 1 := by norm_num [beyond]
  have atHalf : 1 ∈ beyond (1 - ((0 : Int) : ℝ) - 1 / 2) := by norm_num [beyond]
  have pushed : 1 ∉ winning .under 1 0 := by simp [winning, overUnderStatus]
  apply And.intro (certain_distribution 1)
  constructor
  · refine (count_quotes (fun _ => "1.0") (fun _ => certain 1) _ [1]).trans ?_
    rw [List.flatMap_singleton, event_certain _ _ zero_le_one, total_outside atOne]
    rw [lineQuotes, sub_zero, published_zero, published_one, above, below]
  constructor
  · rw [winning_over, Int.cast_zero, sub_zero]
    exact total_outside atOne
  constructor
  · exact total_outside pushed
  constructor
  · rw [live_quotes, List.flatMap_singleton, if_neg (by norm_num), event_certain _ _ (by norm_num),
      total_within atHalf]
    rw [lineQuotes, sub_self, published_zero, published_one, above, below]
  · norm_num [remainingGoalRate]

end Ois.Football
