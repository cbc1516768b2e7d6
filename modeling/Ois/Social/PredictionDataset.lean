import Mathlib.Algebra.BigOperators.Group.Finset.Basic
import Mathlib.Algebra.Order.Field.Basic
import Mathlib.Algebra.Order.Ring.Rat
import Mathlib.Tactic.Positivity
import Ois.Library.Histories
import Ois.Library.Separator
import Ois.Kernel.PyValues

/-!
# The prediction dataset

`PredictionDataset` of `domains/social_intelligence/prediction_store.py`. Records are filed under
joined keys with `INSERT OR REPLACE`, and calibration bins cover the numbers from 0 to 1.
-/

namespace Ois.Social

open Ois.Library Ois.Kernel

structure Prediction where
  contentId : String
  modelId : String
  modelVersion : String
  metrics : Members
  confidence : Json
  evidence : List String
  deriving DecidableEq, Repr

structure PerformanceObservation where
  contentId : String
  metrics : Members
  source : String
  observedAt : String
  deriving DecidableEq, Repr

/-- A row of `predictions`. -/
structure PredictionRow where
  contentId : String
  modelVersion : String
  payload : Json.Text
  deriving DecidableEq

/-- A row of `outcomes`. -/
structure OutcomeRow where
  contentId : String
  source : String
  observedAt : String
  payload : Json.Text
  deriving DecidableEq

structure PredictionDataset where
  predictions : Dict String PredictionRow := []
  outcomes : Dict String OutcomeRow := []

def predictionKey (pred : Prediction) : String :=
  pred.contentId ++ ":" ++ pred.modelId ++ ":" ++ pred.modelVersion

def predictionRow (pred : Prediction) : PredictionRow where
  contentId := pred.contentId
  modelVersion := pred.modelVersion
  payload := Json.dumpsSorted (.obj [("metrics", .obj pred.metrics),
    ("confidence", pred.confidence), ("evidence", .arr (pred.evidence.map .str))])

def outcomeKey (out : PerformanceObservation) : String :=
  out.contentId ++ ":" ++ out.source ++ ":" ++ out.observedAt

def outcomeRow (out : PerformanceObservation) : OutcomeRow where
  contentId := out.contentId
  source := out.source
  observedAt := out.observedAt
  payload := Json.dumpsSorted (.obj out.metrics)

inductive DatasetCall where
  | prediction (pred : Prediction)
  | outcome (out : PerformanceObservation)

namespace PredictionDataset

/-- `INSERT OR REPLACE`: a row of the same key is deleted first. -/
def replaceRow {Row : Type} (key : String) (row : Row) (rows : Dict String Row) :
    Dict String Row :=
  rows.filter (fun entry => entry.1 != key) ++ [(key, row)]

/-- `record_prediction` and `record_outcome`, which return the key. -/
def record : Machine DatasetCall PredictionDataset String
  | .prediction pred, dataset =>
    ({ dataset with
      predictions := replaceRow (predictionKey pred) (predictionRow pred)
        dataset.predictions },
      predictionKey pred)
  | .outcome out, dataset =>
    ({ dataset with
      outcomes := replaceRow (outcomeKey out) (outcomeRow out) dataset.outcomes },
      outcomeKey out)

def sample? (metric : String) (predicted : PredictionRow) (observed : OutcomeRow) :
    Option (PyNumber × PyNumber) := do
  let metrics ← (← (Json.loads predicted.payload).asMembers?.bind (·.lookup "metrics")).asMembers?
  let pred ← (metrics.lookup metric).bind number?
  let out ← ((Json.loads observed.payload).asMembers?.bind (·.lookup metric)).bind number?
  return (pred, out)

def joined (dataset : PredictionDataset) : List (PredictionRow × OutcomeRow) :=
  dataset.predictions.flatMap fun predicted => dataset.outcomes.filterMap fun observed =>
    if predicted.2.contentId = observed.2.contentId then some (predicted.2, observed.2) else none

/-- `paired(metric)`. Of rows observed at the same time the server returns any first. -/
def paired (metric : String) (dataset : PredictionDataset) : List (PyNumber × PyNumber) :=
  (dataset.joined.insertionSort fun left right => left.2.observedAt ≤ right.2.observedAt).filterMap
    fun row => sample? metric row.1 row.2

end PredictionDataset

/-- What floats make of the bins. The lower bound of a bin is `index * (1.0 / bins)`, and a
greater factor makes no smaller product. -/
structure BinArithmetic where
  lower : Nat → Nat → Rat
  lower_zero : ∀ bins, lower bins 0 = 0
  lower_mono : ∀ bins index, lower bins index ≤ lower bins (index + 1)
  mean : List PyNumber → PyNumber
  distance : PyNumber → PyNumber → PyNumber

namespace PyNumber

/-- `bound <= value`. -/
def atLeast (bound : Rat) : PyNumber → Bool
  | .finite numerator denominator => decide (bound ≤ mkRat numerator denominator)
  | .infinite negative => !negative
  | .nan => false

/-- `value <= bound`. -/
def atMost (bound : Rat) : PyNumber → Bool
  | .finite numerator denominator => decide (mkRat numerator denominator ≤ bound)
  | .infinite negative => negative
  | .nan => false

/-- `value < bound`. -/
def below (bound : Rat) : PyNumber → Bool
  | .finite numerator denominator => decide (mkRat numerator denominator < bound)
  | .infinite negative => negative
  | .nan => false

def rat? : PyNumber → Option Rat
  | .finite numerator denominator => some (mkRat numerator denominator)
  | _ => none

def ofRat (value : Rat) : PyNumber := .finite value.num value.den

end PyNumber

open PyNumber

/-- Bounds without rounding, and averages of finite numbers. -/
def BinArithmetic.exact : BinArithmetic where
  lower := fun bins index => index * (1 / bins)
  lower_zero := by simp
  lower_mono := by
    intro bins index
    apply mul_le_mul_of_nonneg_right
    · exact_mod_cast Nat.le_succ index
    · positivity
  mean := fun values =>
    match values.mapM rat? with
    | some rats => ofRat (rats.sum / rats.length)
    | none => .nan
  distance := fun left right =>
    match rat? left, rat? right with
    | some first, some second => ofRat |first - second|
    | _, _ => .nan

structure CalibrationBin where
  lower : Rat
  upper : Rat
  count : Nat
  predictedMean : PyNumber
  observedMean : PyNumber
  absoluteError : PyNumber

structure CalibrationReport where
  metric : String
  sampleCount : Nat
  meanAbsoluteError : PyNumber
  bins : List CalibrationBin

section calibration

variable (arith : BinArithmetic)

def upperBound (bins index : Nat) : Rat :=
  if index + 1 = bins then 1 else arith.lower bins (index + 1)

def inBin (bins index : Nat) (value : PyNumber) : Bool :=
  atLeast (arith.lower bins index) value && atMost (upperBound arith bins index) value &&
      (decide (index + 1 = bins) || below (upperBound arith bins index) value)

def InUnit (value : PyNumber) : Prop :=
  atLeast 0 value = true ∧ atMost 1 value = true

instance (value : PyNumber) : Decidable (InUnit value) := inferInstanceAs (Decidable (_ ∧ _))

end calibration

namespace PredictionDataset

variable {Row : Type}

theorem lookup_replace_row (key other : String) (row : Row)
    (rows : Dict String Row) :
    (replaceRow key row rows).lookup other =
      if other = key then some row else rows.lookup other := by
  unfold replaceRow
  rw [Dict.lookup_append, Dict.lookup_without]
  by_cases same : other = key
  · rw [if_pos same, if_pos same, same, Option.none_or, List.lookup_cons_self]
  · have unequal : (other == key) = false := by simpa using same
    rw [if_neg same, if_neg same, List.lookup_cons, unequal, List.lookup_nil, Option.or_none]

theorem mem_replace_row {key : String} {row : Row} {rows : Dict String Row}
    {entry : String × Row} :
    entry ∈ replaceRow key row rows ↔ (entry ∈ rows ∧ entry.1 ≠ key) ∨ entry = (key, row) := by
  simp [replaceRow]

theorem lookup_replace_of_free {key other : String} {row held : Row}
    {rows : Dict String Row} (free : ∀ found, rows.lookup key = some found → found = row)
    (there : rows.lookup other = some held) :
    (replaceRow key row rows).lookup other = some held := by
  rw [lookup_replace_row]
  split_ifs with same
  · rw [same] at there
    rw [free held there]
  · exact there

theorem forall_mem_replace_row {holds : String × Row → Prop} {key : String}
    {row : Row} {rows : Dict String Row} (each : ∀ entry ∈ rows, holds entry)
    (new : holds (key, row)) : ∀ entry ∈ replaceRow key row rows, holds entry := by
  intro entry mem
  cases mem_replace_row.mp mem with
  | inl older => exact each entry older.1
  | inr replaced =>
    rw [replaced]
    exact new

theorem mem_paired {metric : String} {dataset : PredictionDataset}
    {pair : PyNumber × PyNumber} :
    pair ∈ dataset.paired metric ↔ ∃ predicted ∈ dataset.predictions,
      ∃ observed ∈ dataset.outcomes, predicted.2.contentId = observed.2.contentId ∧
      sample? metric predicted.2 observed.2 = some pair := by
  simp only [paired, joined, List.mem_filterMap, List.mem_insertionSort, List.mem_flatMap,
    Option.ite_none_right_eq_some, Option.some.injEq]
  constructor
  · intro found
    obtain ⟨rows, listed, sampled⟩ := found
    obtain ⟨predicted, mem, observed, alsoMember, content, same⟩ := listed
    rw [← same] at sampled
    exact ⟨predicted, mem, observed, alsoMember, content, sampled⟩
  · intro found
    obtain ⟨predicted, mem, observed, alsoMember, content, sampled⟩ := found
    exact ⟨_, ⟨predicted, mem, observed, alsoMember, content, rfl⟩, sampled⟩

end PredictionDataset

namespace DatasetCall

open PredictionDataset

/-- The table and the key under which the call records. -/
def key : DatasetCall → String ⊕ String
  | .prediction made => .inl (predictionKey made)
  | .outcome seen => .inr (outcomeKey seen)

/-- What the call records something about. -/
def identity : DatasetCall → (String × String × String) ⊕ (String × String × String)
  | .prediction made => .inl (made.contentId, made.modelId, made.modelVersion)
  | .outcome seen => .inr (seen.contentId, seen.source, seen.observedAt)

def Stored (dataset : PredictionDataset) : DatasetCall → Prop
  | .prediction made => dataset.predictions.lookup (predictionKey made) = some (predictionRow made)
  | .outcome seen => dataset.outcomes.lookup (outcomeKey seen) = some (outcomeRow seen)

/-- The key of the call is new, or holds what the call records, and no number that the call pairs
lies outside the bins. -/
def Fits (call : DatasetCall) (dataset : PredictionDataset) : Prop :=
  match call with
  | .prediction made =>
    (∀ row, dataset.predictions.lookup (predictionKey made) = some row → row = predictionRow made) ∧
    ∀ observed ∈ dataset.outcomes, made.contentId = observed.2.contentId →
      ∀ metric pair, sample? metric (predictionRow made) observed.2 = some pair → InUnit pair.1
  | .outcome seen =>
    (∀ row, dataset.outcomes.lookup (outcomeKey seen) = some row → row = outcomeRow seen) ∧
    ∀ predicted ∈ dataset.predictions, predicted.2.contentId = seen.contentId →
      ∀ metric pair, sample? metric predicted.2 (outcomeRow seen) = some pair → InUnit pair.1

structure Recorded (before : List DatasetCall) (dataset : PredictionDataset) : Prop where
  stored : ∀ past ∈ before, Stored dataset past
  predicted : ∀ entry ∈ dataset.predictions, ∃ made, .prediction made ∈ before ∧
    entry = (predictionKey made, predictionRow made)
  observed : ∀ entry ∈ dataset.outcomes, ∃ seen, .outcome seen ∈ before ∧
    entry = (outcomeKey seen, outcomeRow seen)
  inUnit : ∀ metric, ∀ pair ∈ dataset.paired metric, InUnit pair.1

section steps

variable {before : List DatasetCall} {dataset : PredictionDataset}

theorem recorded_prediction {made : Prediction} (recorded : Recorded before dataset)
    (fits : Fits (.prediction made) dataset) :
    Recorded (before ++ [.prediction made]) (record.next (.prediction made) dataset) := by
  obtain ⟨free, values⟩ := fits
  constructor
  · intro past mem
    cases List.mem_append.mp mem with
    | inr last =>
      rw [List.mem_singleton.mp last]
      exact (lookup_replace_row _ _ _ _).trans (if_pos rfl)
    | inl older =>
      have held := recorded.stored past older
      cases past with
      | outcome seen => exact held
      | prediction other => exact lookup_replace_of_free free held
  · apply forall_mem_replace_row
    · intro entry mem
      obtain ⟨other, listed, same⟩ := recorded.predicted entry mem
      exact ⟨other, List.mem_append_left _ listed, same⟩
    · exact ⟨made, by simp, rfl⟩
  · intro entry mem
    obtain ⟨seen, listed, same⟩ := recorded.observed entry mem
    exact ⟨seen, List.mem_append_left _ listed, same⟩
  · intro metric pair mem
    obtain ⟨predicted, inside, observed, alsoInside, content, sampled⟩ := mem_paired.mp mem
    cases mem_replace_row.mp inside with
    | inl older =>
      exact recorded.inUnit metric pair
        (mem_paired.mpr ⟨predicted, older.1, observed, alsoInside, content, sampled⟩)
    | inr new =>
      rw [new] at content sampled
      exact values observed alsoInside content metric pair sampled

theorem recorded_outcome {seen : PerformanceObservation} (recorded : Recorded before dataset)
    (fits : Fits (.outcome seen) dataset) :
    Recorded (before ++ [.outcome seen]) (record.next (.outcome seen) dataset) := by
  obtain ⟨free, values⟩ := fits
  constructor
  · intro past mem
    cases List.mem_append.mp mem with
    | inr last =>
      rw [List.mem_singleton.mp last]
      exact (lookup_replace_row _ _ _ _).trans (if_pos rfl)
    | inl older =>
      have held := recorded.stored past older
      cases past with
      | prediction made => exact held
      | outcome other => exact lookup_replace_of_free free held
  · intro entry mem
    obtain ⟨made, listed, same⟩ := recorded.predicted entry mem
    exact ⟨made, List.mem_append_left _ listed, same⟩
  · apply forall_mem_replace_row
    · intro entry mem
      obtain ⟨other, listed, same⟩ := recorded.observed entry mem
      exact ⟨other, List.mem_append_left _ listed, same⟩
    · exact ⟨seen, by simp, rfl⟩
  · intro metric pair mem
    obtain ⟨predicted, inside, observed, alsoInside, content, sampled⟩ := mem_paired.mp mem
    cases mem_replace_row.mp alsoInside with
    | inl older =>
      exact recorded.inUnit metric pair
        (mem_paired.mpr ⟨predicted, inside, observed, older.1, content, sampled⟩)
    | inr new =>
      rw [new] at content sampled
      exact values predicted inside content metric pair sampled

theorem recorded_next (call : DatasetCall) (recorded : Recorded before dataset)
    (fits : Fits call dataset) :
    Recorded (before ++ [call]) (record.next call dataset) := by
  cases call with
  | prediction made => exact recorded_prediction recorded fits
  | outcome seen => exact recorded_outcome recorded fits

end steps

end DatasetCall

def scored (contentId modelId : String) (score : Int) : Prediction where
  contentId := contentId
  modelId := modelId
  modelVersion := "1"
  metrics := [("score", .int score)]
  confidence := .int 1
  evidence := []

end Ois.Social
