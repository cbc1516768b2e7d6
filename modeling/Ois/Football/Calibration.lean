import Ois.Library.Calibration
import Ois.Football.Origin

/-!
# The calibration error of a report

What `calibration_report` of `origin.py` gives as the calibration error, over exact numbers.
-/

namespace Ois.Football

open Ois.Library Ois.Kernel

/-- Rational numbers as floats. The functions that leave them are parameters. -/
def exactFloats (exponential logarithm : ℚ → ℚ) (power : ℚ → ℚ → ℚ) : Floats ℚ where
  literal := id
  ofInt number := .ok number
  add := (· + ·)
  sub := (· - ·)
  mul := (· * ·)
  neg := (- ·)
  abs := (|·|)
  div x y := if y = 0 then .error ⟨.other "ZeroDivisionError", "float division by zero"⟩
    else .ok (x / y)
  pow x y :=
    if y.den ≠ 1 then .ok (power x y)
    else if 0 ≤ y.num then .ok (x ^ y.num.toNat)
    else if x = 0 then
      .error ⟨.other "ZeroDivisionError", "zero to a negative power"⟩
    else .ok (x⁻¹ ^ y.num.natAbs)
  exp x := .ok (exponential x)
  log x := if 0 < x then .ok (logarithm x) else .error ⟨.valueError, "math domain error"⟩
  less x y := decide (x < y)
  atMost x y := decide (x ≤ y)
  equal x y := decide (x = y)
  sum := List.sum
  fmean values := if values = [] then
      .error ⟨.other "StatisticsError", "fmean requires at least one data point"⟩
    else .ok (values.sum / values.length)
  truncate x := .ok (if 0 ≤ x then ⌊x⌋ else ⌈x⌉)

def realised (sample : PredictionRecord ℚ × String) : ℚ :=
  (sample.1.probabilities.lookup sample.2).getD 0

/-- The forecasts that the report puts into bins: each came to pass. -/
def realisedForecasts (predictions : List (PredictionRecord ℚ)) (outcomes : List String) :
    List (ℚ × Bool) :=
  (predictions.zip outcomes).map fun sample => (realised sample, true)

/-- As many outcomes as predictions, and some of them. The predictions give probabilities, and the
outcomes are those of a match. -/
structure Forecasts (predictions : List (PredictionRecord ℚ)) (outcomes : List String) : Prop where
  aligned : predictions.length = outcomes.length
  filled : predictions ≠ []
  probable : ∀ pred ∈ predictions, ∀ entry ∈ pred.probabilities,
    0 ≤ entry.2 ∧ entry.2 ≤ 1
  known : ∀ out ∈ outcomes, out ∈ ["home", "draw", "away"]

/-- The realised probabilities miss twice as much to one as there are probabilities under nine
tenths, and as the ones among the others are more or less than half of them. -/
def MissesBalance (probs : List ℚ) : Prop :=
  2 * (probs.map fun prob => 1 - prob).sum =
    probs.countP (· < 9 / 10) +
      |2 * (probs.countP (· = 1) : ℚ) - probs.countP (9 / 10 ≤ ·)|

section reports

variable {exponential logarithm : ℚ → ℚ} {power : ℚ → ℚ → ℚ}

structure Realises (sample : PredictionRecord ℚ × String) : Prop where
  known : sample.2 ∈ ["home", "draw", "away"]
  positive : 0 ≤ realised sample
  bounded : realised sample ≤ 1

theorem probability_of_known (pred : PredictionRecord ℚ) {out : String}
    (known : out ∈ ["home", "draw", "away"]) :
    probabilityOf pred out = .ok (realised (pred, out)) ∧
      (out, realised (pred, out)) ∈ pred.probabilities := by
  unfold probabilityOf realised PredictionRecord.probabilities
  simp only [List.mem_cons, List.not_mem_nil, or_false] at known
  rcases known with here | here | here <;> rw [here] <;> simp [List.lookup_cons]

def mark (prob : ℚ) : ℚ := if prob = 1 then 1 else 0

def markBins (probs : List ℚ) : List (List ℚ) :=
  (List.range 10).map fun index =>
    (probs.filter fun prob => Calibration.bin 10 prob = index).map mark

theorem mark_bins_concat (probs : List ℚ) (prob : ℚ) :
    markBins (probs ++ [prob]) =
      (markBins probs).modify (Calibration.bin 10 prob)
        (· ++ [mark prob]) := by
  apply List.ext_getElem?
  intro index
  rw [List.getElem?_modify, markBins, markBins, List.getElem?_map, List.getElem?_map]
  by_cases inside : index < 10
  · rw [List.getElem?_range inside]
    by_cases same : Calibration.bin 10 prob = index
    · simp [List.filter_append, same]
    · simp [List.filter_append, same]
  · rw [List.getElem?_eq_none (by simp; omega)]
    rfl

theorem binned_exact (bins : List (List ℚ)) {prob : ℚ} (positive : 0 ≤ prob) :
    binned (exactFloats exponential logarithm power) bins prob =
      .ok (bins.modify (Calibration.bin 10 prob) (· ++ [mark prob])) := by
  have scaled : 0 ≤ prob * 10 := by linarith
  have whole : ((⌊prob * 10⌋₊ : Nat) : Int) = ⌊prob * 10⌋ :=
    Int.natCast_floor_eq_floor scaled
  have index : min 9 ⌊prob * 10⌋ = ((Calibration.bin 10 prob : Nat) : Int) := by
    unfold Calibration.bin
    push_cast
    rw [whole]
  have marked : indicator (exactFloats exponential logarithm power)
      (decide (prob = 1)) = mark prob := by
    unfold indicator mark
    by_cases one : prob = 1 <;> simp [one, exactFloats]
  unfold binned
  simp only [exactFloats, id, if_pos scaled, bind, Except.bind, index]
  rw [if_pos (Int.natCast_nonneg _), if_pos (Int.natCast_nonneg _), Int.toNat_natCast]
  exact congrArg (fun value => Except.ok (bins.modify _ (· ++ [value]))) marked

theorem squares_exact {sample : PredictionRecord ℚ × String} :
    ∃ squares, ["home", "draw", "away"].mapM (fun name => do
      (exactFloats exponential logarithm power).pow
        ((exactFloats exponential logarithm power).sub (← probabilityOf sample.1 name)
          (indicator (exactFloats exponential logarithm power) (name == sample.2)))
        ((exactFloats exponential logarithm power).literal 2)) = .ok squares := by
  have home := (@probability_of_known sample.1 "home" (by simp)).1
  have draw := (@probability_of_known sample.1 "draw" (by simp)).1
  have away := (@probability_of_known sample.1 "away" (by simp)).1
  simp only [List.mapM_cons, List.mapM_nil, home, draw, away, bind, Except.bind]
  exact ⟨_, rfl⟩

theorem add_sample_exact (sums : CalibrationSums ℚ) {sample : PredictionRecord ℚ × String}
    (realises : Realises sample) :
    ∃ next, addSample (exactFloats exponential logarithm power) sums sample = .ok next ∧
      next.bins = sums.bins.modify (Calibration.bin 10 (realised sample))
        (· ++ [mark (realised sample)]) := by
  obtain ⟨squares, squared⟩ :=
    @squares_exact exponential logarithm power sample
  have prob := (probability_of_known sample.1 realises.known).1
  have marked := @binned_exact exponential logarithm power sums.bins _ realises.positive
  have clipped : (0 : ℚ) < (exactFloats exponential logarithm power).max (realised sample)
      (1 / 1000000000000000) := by
    have positive := realises.positive
    unfold Floats.max exactFloats
    dsimp only
    split_ifs with under
    · norm_num
    · simp only [decide_eq_true_eq, not_lt] at under
      apply lt_of_lt_of_le _ under
      norm_num
  have logged : (exactFloats exponential logarithm power).log
      ((exactFloats exponential logarithm power).max (realised sample) (1 / 1000000000000000)) =
        .ok (logarithm ((exactFloats exponential logarithm power).max (realised sample)
          (1 / 1000000000000000))) := if_pos clipped
  unfold addSample
  rw [squared]
  simp only [bind, Except.bind, prob]
  have literal : (exactFloats exponential logarithm power).literal (1 / 1000000000000000) =
      1 / 1000000000000000 := rfl
  rw [literal, logged]
  dsimp only
  rw [marked]
  exact ⟨_, rfl, rfl⟩

theorem samples_exact {samples : List (PredictionRecord ℚ × String)}
    (realise : ∀ sample ∈ samples, Realises sample) (zero : ℚ) :
    ∃ sums, samples.foldlM (addSample (exactFloats exponential logarithm power))
        { brier := zero, logLoss := zero, correct := zero, bins := List.replicate 10 [] } =
          .ok sums ∧
      sums.bins = markBins (samples.map realised) := by
  induction samples using List.reverseRecOn with
  | nil =>
    have none : List.replicate 10 [] = markBins [] := by decide
    exact ⟨_, rfl, none⟩
  | append_singleton past sample ih =>
    obtain ⟨sums, folded, bins⟩ := ih fun other mem => realise other (by simp [mem])
    obtain ⟨next, added, marked⟩ :=
      @add_sample_exact exponential logarithm power sums sample (realise sample (by simp))
    refine ⟨next, ?_, ?_⟩
    · rw [List.foldlM_append, folded]
      simp only [bind, Except.bind, List.foldlM_cons, List.foldlM_nil, added]
      rfl
    · rw [marked, bins, List.map_append]
      exact (mark_bins_concat _ _).symm

def binError (total : ℚ) (bucket : List ℚ) : ℚ :=
  bucket.length / total * |bucket.sum / bucket.length - 1 / 2|

theorem fold_adds {Item : Type} {step : ℚ → Item → Except PyError ℚ} {value : Item → ℚ}
    (adds : ∀ sum item, step sum item = .ok (sum + value item)) (items : List Item) (start : ℚ) :
    items.foldlM step start = .ok (start + (items.map value).sum) := by
  induction items generalizing start with
  | nil => simp [pure, Except.pure]
  | cons item rest ih =>
    rw [List.foldlM_cons, adds]
    simp only [bind, Except.bind, ih, List.map_cons, List.sum_cons, add_assoc]

theorem bin_lt_nine {prob : ℚ} (positive : 0 ≤ prob) :
    Calibration.bin 10 prob < 9 ↔ prob < 9 / 10 := by
  have scaled : 0 ≤ prob * 10 := by linarith
  have floor : Calibration.bin 10 prob < 9 ↔ ⌊prob * 10⌋₊ < 9 := by
    unfold Calibration.bin
    push_cast
    omega
  rw [floor, Nat.floor_lt scaled]
  push_cast
  constructor
  · intro less
    linarith
  · intro less
    linarith

theorem bin_error_under {probs : List ℚ} (total : ℚ)
    (under : ∀ prob ∈ probs, prob ≠ 1) :
    binError total (probs.map mark) = (probs.map fun _ => 1 / (2 * total)).sum := by
  have marks : probs.map mark = List.replicate probs.length 0 := by
    apply List.map_eq_replicate_iff.mpr
    intro prob mem
    exact if_neg (under prob mem)
  have halves : (probs.map fun _ => 1 / (2 * total)) =
      List.replicate probs.length (1 / (2 * total)) := by
    apply List.map_eq_replicate_iff.mpr
    intro prob _
    rfl
  rw [binError, marks, halves, List.length_replicate, List.sum_replicate, List.sum_replicate]
  norm_num
  ring

theorem bin_error_last {total : ℚ} (positive : 0 < total) (probs : List ℚ) :
    binError total (probs.map mark) =
      |2 * (probs.countP (· = 1) : ℚ) - probs.length| / (2 * total) := by
  have ones : (probs.map mark).sum = (probs.countP (· = 1) : ℚ) := by
    induction probs with
    | nil => simp
    | cons prob rest ih =>
      rw [List.map_cons, List.sum_cons, ih, List.countP_cons, mark]
      by_cases one : prob = 1 <;> simp [one, add_comm]
  rw [binError, ones, List.length_map]
  cases probs with
  | nil => simp
  | cons first rest =>
    have size : (0 : ℚ) < ((first :: rest).length : ℚ) := by
      exact_mod_cast Nat.succ_pos rest.length
    generalize ((first :: rest).countP (· = 1) : ℚ) = count
    generalize ((first :: rest).length : ℚ) = length at size
    have off : count / length - 1 / 2 = (2 * count - length) / (2 * length) := by
      field_simp
    rw [off, abs_div, abs_of_pos (by linarith : (0 : ℚ) < 2 * length)]
    field_simp

theorem bins_error {probs : List ℚ} {total : ℚ} (positive : 0 < total)
    (bounds : ∀ prob ∈ probs, 0 ≤ prob ∧ prob ≤ 1) :
    ((markBins probs).map (binError total)).sum = ((probs.countP (· < 9 / 10) : ℚ) +
        |2 * (probs.countP (· = 1) : ℚ) - probs.countP (9 / 10 ≤ ·)|) /
          (2 * total) := by
  have inside (index : Nat) :=
    fun prob (mem : prob ∈ probs.filter
      fun prob => Calibration.bin 10 prob = index) =>
        And.intro (bounds prob (List.mem_of_mem_filter mem))
          (of_decide_eq_true (List.mem_filter.mp mem).2)
  have under : ((List.range 9).map fun index => binError total ((probs.filter
      fun prob => Calibration.bin 10 prob = index).map mark)).sum =
        (probs.countP (· < 9 / 10) : ℚ) / (2 * total) := by
    have terms : (List.range 9).map (fun index => binError total ((probs.filter
        fun prob => Calibration.bin 10 prob = index).map mark)) =
        (List.range 9).map fun index => ((probs.filter
          fun prob => Calibration.bin 10 prob = index).map
            fun _ => 1 / (2 * total)).sum := by
      apply List.map_congr_left
      intro index below
      apply bin_error_under
      intro prob mem one
      obtain ⟨bound, place⟩ := inside index prob mem
      have less := (bin_lt_nine bound.1).mp (by rw [place]; exact List.mem_range.mp below)
      rw [one] at less
      norm_num at less
    have kept : (probs.filter fun prob => Calibration.bin 10 prob < 9) =
        probs.filter fun prob => prob < 9 / 10 := by
      apply List.filter_congr
      intro prob mem
      exact decide_eq_decide.mpr (bin_lt_nine (bounds prob mem).1)
    rw [terms, Calibration.sum_over_bins, kept, List.map_const', List.sum_replicate,
      List.countP_eq_length_filter, nsmul_eq_mul]
    ring
  have last : (probs.filter fun prob => Calibration.bin 10 prob = 9) =
      probs.filter fun prob => 9 / 10 ≤ prob := by
    apply List.filter_congr
    intro prob mem
    have place := bin_lt_nine (bounds prob mem).1
    have bound := Calibration.bin_lt (by omega : 0 < 10) prob
    apply decide_eq_decide.mpr
    rw [← not_lt, ← place]
    omega
  have ones : (probs.filter fun prob => 9 / 10 ≤ prob).countP (· = 1) =
      probs.countP (· = 1) := by
    rw [List.countP_filter]
    apply List.countP_congr
    intro prob _
    simp only [Bool.and_eq_true, decide_eq_true_eq]
    constructor
    · exact And.left
    · intro one
      rw [one]
      norm_num
  rw [markBins, List.map_map, List.range_succ, List.map_append, List.sum_append]
  simp only [List.map_cons, List.map_nil, List.sum_cons, List.sum_nil, add_zero, Function.comp_def]
  rw [under, last, bin_error_last positive, ones, ← List.countP_eq_length_filter]
  ring

theorem samples_realise {predictions : List (PredictionRecord ℚ)} {outcomes : List String}
    (forecasts : Forecasts predictions outcomes) :
    ∀ sample ∈ predictions.zip outcomes, Realises sample := by
  intro sample mem
  obtain ⟨predicted, happened⟩ := List.of_mem_zip mem
  have known := forecasts.known sample.2 happened
  have bounds := forecasts.probable sample.1 predicted _ (probability_of_known sample.1 known).2
  exact ⟨known, bounds.1, bounds.2⟩

def realisedProbabilities (predictions : List (PredictionRecord ℚ)) (outcomes : List String) :
    List ℚ := (predictions.zip outcomes).map realised

def errorStep {Real : Type} (floats : Floats Real) (n ece : Real) (bucket : List Real) :
    Except PyError Real :=
  if bucket.isEmpty then return ece
  else do
    let share ← floats.div (floats.literal bucket.length) n
    let mean ← floats.fmean bucket
    return floats.add ece (floats.mul share (floats.abs (floats.sub mean (floats.literal (1 / 2)))))

theorem error_step_exact {n : ℚ} (positive : 0 < n) (ece : ℚ) (bucket : List ℚ) :
    errorStep (exactFloats exponential logarithm power) n ece bucket =
      .ok (ece + binError n bucket) := by
  unfold errorStep
  cases bucket with
  | nil => simp [binError, pure, Except.pure]
  | cons first rest =>
    simp [exactFloats, positive.ne', binError, bind, Except.bind, pure, Except.pure]

theorem report_of_sums {Real : Type} {floats : Floats Real}
    {predictions : List (PredictionRecord Real)} {outcomes : List String}
    (aligned : predictions.length = outcomes.length) (filled : predictions ≠ [])
    {sums : CalibrationSums Real}
    (folded : (predictions.zip outcomes).foldlM (addSample floats)
      { brier := floats.literal 0, logLoss := floats.literal 0, correct := floats.literal 0
        bins := List.replicate 10 [] } = .ok sums)
    {ece brier logLoss accuracy : Real}
    (err : sums.bins.foldlM (errorStep floats (floats.literal predictions.length))
      (floats.literal 0) = .ok ece)
    (first : floats.div sums.brier (floats.literal predictions.length) = .ok brier)
    (second : floats.div sums.logLoss (floats.literal predictions.length) = .ok logLoss)
    (third : floats.div sums.correct (floats.literal predictions.length) = .ok accuracy) :
    ∃ report, calibrationReport floats predictions outcomes = .ok report ∧
      report.calibrationError = ece := by
  unfold errorStep at err
  unfold calibrationReport
  rw [if_neg (not_not.mpr aligned), if_neg (by simpa using filled)]
  simp only [folded, bind, Except.bind, pure, Except.pure] at err ⊢
  simp only [err, first, second, third]
  exact ⟨_, rfl, rfl⟩

variable (exponential logarithm power) in
theorem report_exact {predictions : List (PredictionRecord ℚ)} {outcomes : List String}
    (forecasts : Forecasts predictions outcomes) :
    ∃ report, calibrationReport (exactFloats exponential logarithm power) predictions outcomes =
        .ok report ∧
      report.calibrationError =
        (((realisedProbabilities predictions outcomes).countP (· < 9 / 10) : ℚ) +
          |2 * ((realisedProbabilities predictions outcomes).countP (· = 1) : ℚ) -
            (realisedProbabilities predictions outcomes).countP (9 / 10 ≤ ·)|) /
          (2 * predictions.length) := by
  have realise := samples_realise forecasts
  have size : (0 : ℚ) < (predictions.length : ℚ) := by
    exact_mod_cast List.length_pos_of_ne_nil forecasts.filled
  have bounds : ∀ prob ∈ realisedProbabilities predictions outcomes,
      0 ≤ prob ∧ prob ≤ 1 := by
    intro prob mem
    obtain ⟨sample, present, same⟩ := List.mem_map.mp mem
    rw [← same]
    exact ⟨(realise sample present).positive, (realise sample present).bounded⟩
  obtain ⟨sums, folded, bins⟩ := @samples_exact exponential logarithm power _ realise 0
  have err := fold_adds (@error_step_exact exponential logarithm power _ size) sums.bins 0
  have quotient (value : ℚ) : (exactFloats exponential logarithm power).div value
      predictions.length = .ok (value / predictions.length) := if_neg size.ne'
  obtain ⟨report, returns, reported⟩ := report_of_sums forecasts.aligned forecasts.filled folded
    err (quotient sums.brier) (quotient sums.logLoss) (quotient sums.correct)
  refine ⟨report, returns, ?_⟩
  rw [reported, zero_add, bins]
  exact bins_error size bounds

theorem halved_iff {n left right : ℚ} (positive : 0 < n) :
    left / (2 * n) = right / n ↔ 2 * right = left := by
  have cleared : right / n * (2 * n) = 2 * right := by
    field_simp
  rw [div_eq_iff (by linarith), cleared]
  exact eq_comm

/-- The reported calibration error is the calibration error exactly if what the realised
probabilities miss to one is in balance with how many of them are one. -/
theorem calibration_error_iff {predictions : List (PredictionRecord ℚ)} {outcomes : List String}
    (exponential logarithm : ℚ → ℚ) (power : ℚ → ℚ → ℚ)
    (forecasts : Forecasts predictions outcomes) :
    (∃ report, calibrationReport (exactFloats exponential logarithm power) predictions outcomes =
        .ok report ∧
      report.calibrationError = Calibration.error 10 (realisedForecasts predictions outcomes)) ↔
      MissesBalance (realisedProbabilities predictions outcomes) := by
  have realise := samples_realise forecasts
  have size : (0 : ℚ) < (predictions.length : ℚ) := by
    exact_mod_cast List.length_pos_of_ne_nil forecasts.filled
  -- all forecasts of a report came to pass
  obtain ⟨report, returns, reported⟩ := report_exact exponential logarithm power forecasts
  have happened : ∀ forecast ∈ realisedForecasts predictions outcomes,
      forecast.2 = true ∧ forecast.1 ≤ 1 := by
    intro forecast mem
    obtain ⟨sample, present, same⟩ := List.mem_map.mp mem
    rw [← same]
    exact ⟨rfl, (realise sample present).bounded⟩
  have length : (realisedForecasts predictions outcomes).length = predictions.length := by
    rw [realisedForecasts, List.length_map, List.length_zip, ← forecasts.aligned, Nat.min_self]
  have misses : ((realisedForecasts predictions outcomes).map fun forecast => 1 - forecast.1) =
      (realisedProbabilities predictions outcomes).map fun prob => 1 - prob := by
    rw [realisedForecasts, realisedProbabilities, List.map_map, List.map_map]
    rfl
  have err : Calibration.error 10 (realisedForecasts predictions outcomes) =
      ((realisedProbabilities predictions outcomes).map fun prob =>
        1 - prob).sum / predictions.length := by
    rw [Calibration.error_of_happened (by omega)
      (fun forecast mem => (happened forecast mem).1)
      (fun forecast mem => (happened forecast mem).2), length, misses]
  have equation : report.calibrationError =
      Calibration.error 10 (realisedForecasts predictions outcomes) ↔
        MissesBalance (realisedProbabilities predictions outcomes) := by
    rw [err, reported, MissesBalance]
    exact halved_iff size
  rw [← equation]
  constructor
  · intro some
    obtain ⟨other, again, same⟩ := some
    rw [returns] at again
    cases again
    exact same
  · intro same
    exact ⟨report, returns, same⟩

end reports

def forecast (home draw away : ℚ) : PredictionRecord ℚ where
  fixtureId := "m1"
  createdAt := DateTime.epoch
  modelVersion := "football.xg.baseline.v1"
  home := home
  draw := draw
  away := away
  expectedHomeGoals := 1
  expectedAwayGoals := 1
  abstain := false

/-- The logarithms of the chances of the winners, as doubles. -/
def logarithmOf (x : ℚ) : ℚ :=
  if x = 3 / 5 then -2300554088843817 / 4503599627370496
  else if x = 2 / 5 then -8253213197262967 / 9007199254740992
  else -6243314768165359 / 9007199254740992

def balanced : List (PredictionRecord ℚ) :=
  [forecast (3 / 5) (1 / 5) (1 / 5), forecast (1 / 4) (2 / 5) (7 / 20),
    forecast (1 / 4) (1 / 4) (1 / 2)]

/-- The chances of the winners miss a half on the average, which is what the report says. -/
theorem balanced_chances_reported :
    Forecasts balanced ["home", "draw", "away"] ∧
      ∃ report, calibrationReport (exactFloats id logarithmOf fun x _ => x)
          balanced ["home", "draw", "away"] = .ok report ∧
        report.calibrationError =
          Calibration.error 10 (realisedForecasts balanced ["home", "draw", "away"]) := by
  have forecasts : Forecasts balanced ["home", "draw", "away"] := by
    constructor
    · decide
    · exact List.cons_ne_nil _ _
    · decide +kernel
    · decide
  have balance :
      MissesBalance (realisedProbabilities balanced ["home", "draw", "away"]) := by
    unfold MissesBalance
    decide +kernel
  exact ⟨forecasts, (calibration_error_iff id logarithmOf (fun x _ => x)
    forecasts).mpr balance⟩

/-- A prediction that is sure of the winner is reported with an error of a half. The logarithm of
one is zero. -/
theorem certain_forecast_reported :
    Forecasts [forecast 1 0 0] ["home"] ∧
      Calibration.error 10 (realisedForecasts [forecast 1 0 0] ["home"]) = 0 ∧
        ∃ report, calibrationReport (exactFloats id (fun _ => 0) fun x _ => x)
            [forecast 1 0 0] ["home"] = .ok report ∧ report.calibrationError = 1 / 2 := by
  have forecasts : Forecasts [forecast 1 0 0] ["home"] := by
    constructor
    · decide
    · exact List.cons_ne_nil _ _
    · decide +kernel
    · decide
  refine ⟨forecasts, ?_, ?_⟩
  · apply Calibration.error_of_certain (by omega)
    intro forecast mem
    rw [List.mem_singleton.mp mem]
    decide +kernel
  · obtain ⟨report, returns, reported⟩ := report_exact id (fun _ => 0) (fun x _ => x) forecasts
    refine ⟨report, returns, ?_⟩
    rw [reported]
    decide +kernel

end Ois.Football
