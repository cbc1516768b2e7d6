import Mathlib.Algebra.Order.Field.Basic
import Mathlib.Algebra.Order.Ring.Rat
import Mathlib.Data.List.MinMax
import Mathlib.Tactic.Positivity

/-!
# Experiments of the social growth domain

`evaluate_experiment` of `social_growth/experimentation.py`, on exact numbers. It compares all
that was observed of the metric, of whichever experiment and variant.
-/

namespace Ois.Social

structure ExperimentVariant where
  variantId : String

structure ExperimentSpec where
  experimentId : String
  metric : String
  control : ExperimentVariant
  variants : List ExperimentVariant
  successThreshold : ℚ := 0

structure ExperimentObservation where
  experimentId : String
  variantId : String
  metric : String
  value : ℚ
  sampleSize : Int
  deriving DecidableEq

structure ExperimentResult where
  experimentId : String
  metric : String
  controlValue : ℚ
  variantValues : List (String × ℚ)
  winningVariantId : Option String
  lift : ℚ
  confidence : ℚ
  sufficientSample : Bool
  deriving DecidableEq

/-- `(winner.value - control.value) / abs(control.value)`. -/
def liftOver (control winner : ExperimentObservation) : ℚ :=
  (winner.value - control.value) / |control.value|

namespace ExperimentSpec

variable (spec : ExperimentSpec) (minimum : Int)

def observedControl (obs : List ExperimentObservation) : Option ExperimentObservation :=
  obs.find? fun o => o.variantId = spec.control.variantId ∧ o.metric = spec.metric

def observedVariants (obs : List ExperimentObservation) : List ExperimentObservation :=
  obs.filter fun o => o.variantId ≠ spec.control.variantId ∧ o.metric = spec.metric

def report (control : ExperimentObservation) (variants : List ExperimentObservation) :
    ExperimentResult :=
  let res : ExperimentResult :=
    { experimentId := spec.experimentId, metric := spec.metric, controlValue := control.value
      variantValues := variants.map fun o => (o.variantId, o.value), winningVariantId := none
      lift := 0, confidence := 0, sufficientSample := false }
  match variants.argmax (·.value) with
  | none => res
  | some winner =>
    if control.value = 0 then res else
    let sufficient := decide (minimum ≤ control.sampleSize) &&
      decide (minimum ≤ winner.sampleSize)
    { res with
      winningVariantId :=
        if sufficient ∧ spec.successThreshold ≤ liftOver control winner
        then some winner.variantId else none
      lift := liftOver control winner
      confidence := if sufficient
        then min 1 ((min control.sampleSize winner.sampleSize : Int) / 100) else 0
      sufficientSample := sufficient }

/-- `evaluate_experiment(spec, observations, minimum_sample_size)`. -/
def evaluate (obs : List ExperimentObservation) : ExperimentResult :=
  match spec.observedControl obs with
  | none =>
    { experimentId := spec.experimentId, metric := spec.metric, controlValue := 0
      variantValues := [], winningVariantId := none, lift := 0, confidence := 0
      sufficientSample := false }
  | some control => spec.report minimum control (spec.observedVariants obs)

def Owns (observation : ExperimentObservation) : Prop :=
  observation.experimentId = spec.experimentId ∧ observation.metric = spec.metric ∧
    (observation.variantId = spec.control.variantId ∨
      observation.variantId ∈ spec.variants.map (·.variantId))

instance (observation : ExperimentObservation) : Decidable (spec.Owns observation) :=
  inferInstanceAs (Decidable (_ ∧ _))

def own (obs : List ExperimentObservation) : List ExperimentObservation :=
  obs.filter spec.Owns

/-- An observed variant with a sufficient sample whose lift reaches the threshold. -/
def Succeeds (control observation : ExperimentObservation) : Prop :=
  minimum ≤ observation.sampleSize ∧ spec.successThreshold ≤ liftOver control observation

/-- The result is that of the data of the experiment, a winner is one of its variants that
succeeded, and one is declared if some variant did. -/
structure JudgesOwnData (obs : List ExperimentObservation) : Prop where
  own : spec.evaluate minimum obs =
    spec.evaluate minimum (spec.own obs)
  sound : ∀ winner, (spec.evaluate minimum obs).winningVariantId = some winner →
      winner ∈ spec.variants.map (·.variantId) ∧
        ∃ control, spec.observedControl (spec.own obs) = some control ∧
          ∃ observation ∈ spec.observedVariants (spec.own obs),
            observation.variantId = winner ∧ spec.Succeeds minimum control observation
  declared : ∀ control, spec.observedControl (spec.own obs) = some control →
    minimum ≤ control.sampleSize → control.value ≠ 0 →
    (∃ observation ∈ spec.observedVariants (spec.own obs),
      spec.Succeeds minimum control observation) →
    (spec.evaluate minimum obs).winningVariantId ≠ none

def SameSamples (control own winner : ExperimentObservation) : Prop :=
  winner.sampleSize < minimum ∨
    (control.sampleSize < minimum ∧ own.sampleSize < minimum) ∨
    (minimum ≤ control.sampleSize ∧ minimum ≤ own.sampleSize ∧
      min 100 (min control.sampleSize winner.sampleSize) =
        min 100 (min own.sampleSize winner.sampleSize))

def Unmasked (control winner : ExperimentObservation)
    (variants : List ExperimentObservation) : Prop :=
  minimum ≤ control.sampleSize →
    (∃ observation ∈ variants, spec.Succeeds minimum control observation) →
      minimum ≤ winner.sampleSize

/-- Only data of the experiment was observed of its metric, as far as it counts, and the first
variant of the largest value masks none. -/
def Unmixed (obs : List ExperimentObservation) : Prop :=
  match spec.observedControl obs, spec.observedControl (spec.own obs) with
  | none, _ => True
  | some control, none => control.value = 0 ∧ spec.observedVariants obs = []
  | some control, some own =>
    control.value = own.value ∧ (∀ o ∈ spec.observedVariants obs, spec.Owns o) ∧
      ∀ winner ∈ (spec.observedVariants obs).argmax (·.value), control.value = 0 ∨
        (SameSamples minimum control own winner ∧
          spec.Unmasked minimum own winner (spec.observedVariants obs))

variable {spec minimum} {obs variants : List ExperimentObservation}
  {control other winner : ExperimentObservation}

theorem own_variants (obs : List ExperimentObservation) :
    spec.observedVariants (spec.own obs) =
      (spec.observedVariants obs).filter spec.Owns := by
  simp only [observedVariants, own, List.filter_filter, Bool.and_comm]

theorem own_control_none (unobserved : spec.observedControl obs = none) :
    spec.observedControl (spec.own obs) = none := by
  simp only [observedControl, own, List.find?_eq_none] at unobserved ⊢
  exact fun o mem => unobserved o (List.mem_of_mem_filter mem)

theorem largest_confident (control winner : ExperimentObservation) :
    min (1 : ℚ) ((min control.sampleSize winner.sampleSize : Int) / 100) =
      (min 100 (min control.sampleSize winner.sampleSize) : Int) / 100 := by
  generalize min control.sampleSize winner.sampleSize = size
  rw [Int.cast_min, ← min_div_div_right (by norm_num : (0 : ℚ) ≤ 100)]
  norm_num

theorem report_same_iff (largest : winner ∈ variants.argmax (·.value))
    (value : control.value = other.value) :
    spec.report minimum control variants = spec.report minimum other variants ↔
      control.value = 0 ∨ SameSamples minimum control other winner := by
  have lifts : liftOver control = liftOver other := by
    funext observation
    rw [liftOver, liftOver, value]
  by_cases zero : control.value = 0
  · simp [report, Option.mem_def.mp largest, zero, value ▸ zero]
  · have apart : other.value ≠ 0 := value ▸ zero
    simp only [report, Option.mem_def.mp largest, apart, if_false, false_or, lifts, value,
      ExperimentResult.mk.injEq, true_and, largest_confident, SameSamples]
    by_cases enough : minimum ≤ winner.sampleSize
    · by_cases first : minimum ≤ control.sampleSize <;>
        by_cases second : minimum ≤ other.sampleSize
      · simp only [enough, first, second, Int.not_lt.mpr, decide_true, Bool.and_true, if_true,
          div_left_inj' (by norm_num : (100 : ℚ) ≠ 0), Int.cast_inj, true_and, false_or,
          false_and, and_true]
      · simp [enough, first, second]
      · simp [enough, first, second]
      · simp [first, second, Int.not_le.mp first, Int.not_le.mp second]
    · simp [enough, Int.not_le.mp enough]

theorem report_shown (control : ExperimentObservation) (variants : List ExperimentObservation) :
    (spec.report minimum control variants).controlValue = control.value ∧
      (spec.report minimum control variants).variantValues =
      variants.map fun o => (o.variantId, o.value) := by
  unfold report
  cases variants.argmax (·.value) with
  | none => exact ⟨rfl, rfl⟩
  | some winner => by_cases zero : control.value = 0 <;> simp [zero]

theorem report_own_iff (control other : ExperimentObservation)
    (variants : List ExperimentObservation) :
    spec.report minimum control variants =
      spec.report minimum other (variants.filter spec.Owns) ↔
      control.value = other.value ∧ (∀ o ∈ variants, spec.Owns o) ∧
      ∀ winner ∈ variants.argmax (·.value), control.value = 0 ∨
      SameSamples minimum control other winner := by
  have whole (all : ∀ o ∈ variants, spec.Owns o) : variants.filter spec.Owns = variants :=
    List.filter_eq_self.mpr fun o mem => decide_eq_true (all o mem)
  constructor
  · intro same
    have value : control.value = other.value := by
      rw [← (report_shown control variants).1, same, (report_shown other _).1]
    have all : ∀ o ∈ variants, spec.Owns o := by
      have values := congrArg List.length ((report_shown control variants).2.symm.trans
        ((congrArg ExperimentResult.variantValues same).trans (report_shown other _).2))
      rw [List.length_map, List.length_map, eq_comm, List.length_filter_eq_length_iff] at values
      exact fun o mem => of_decide_eq_true (values o mem)
    rw [whole all] at same
    exact ⟨value, all, fun winner largest => (report_same_iff largest value).mp same⟩
  · rintro ⟨value, all, samples⟩
    rw [whole all]
    cases largest : variants.argmax (·.value) with
    | none => simp [report, largest, value]
    | some winner => exact (report_same_iff largest value).mpr (samples winner largest)

theorem winning_iff {winning : String} :
    (spec.report minimum control variants).winningVariantId = some winning ↔
      ∃ winner ∈ variants.argmax (·.value), control.value ≠ 0 ∧
      minimum ≤ control.sampleSize ∧
      spec.Succeeds minimum control winner ∧ winner.variantId = winning := by
  unfold report
  cases largest : variants.argmax (·.value) with
  | none => simp
  | some winner =>
    by_cases zero : control.value = 0
    · simp [zero]
    · simp [zero, Succeeds, and_assoc]

theorem lift_le (control : ExperimentObservation) {observation winner : ExperimentObservation}
    (less : observation.value ≤ winner.value) :
    liftOver control observation ≤ liftOver control winner :=
  div_le_div_of_nonneg_right (sub_le_sub_right less _) (abs_nonneg _)

theorem declared_iff (nonzero : control.value ≠ 0)
    (largest : winner ∈ variants.argmax (·.value)) :
    (minimum ≤ control.sampleSize →
      (∃ o ∈ variants, spec.Succeeds minimum control o) →
      (spec.report minimum control variants).winningVariantId ≠ none) ↔
      spec.Unmasked minimum control winner variants := by
  constructor
  · intro declared enough succeeding
    obtain ⟨winning, named⟩ := Option.ne_none_iff_exists'.mp (declared enough succeeding)
    obtain ⟨other, same, _, _, succeeds, _⟩ := winning_iff.mp named
    rw [Option.mem_unique largest same]
    exact succeeds.1
  · intro unmasked enough succeeding
    obtain ⟨o, mem, succeeds⟩ := succeeding
    have reaches := succeeds.2.trans
      (lift_le control (List.le_of_mem_argmax (f := (·.value)) mem largest))
    rw [winning_iff.mpr ⟨winner, largest, nonzero, enough,
      ⟨unmasked enough ⟨o, mem, succeeds⟩, reaches⟩, rfl⟩]
    simp

theorem judges_of_controls (observed : spec.observedControl obs = some control)
    (own : spec.observedControl (spec.own obs) = some other) :
    spec.JudgesOwnData minimum obs ↔
      control.value = other.value ∧ (∀ o ∈ spec.observedVariants obs, spec.Owns o) ∧
      ∀ winner ∈ (spec.observedVariants obs).argmax (·.value), control.value = 0 ∨
      (SameSamples minimum control other winner ∧
      spec.Unmasked minimum other winner (spec.observedVariants obs)) := by
  have all_result : spec.evaluate minimum obs =
      spec.report minimum control (spec.observedVariants obs) := by
    rw [evaluate, observed]
  have own_result : spec.evaluate minimum (spec.own obs) =
      spec.report minimum other
        ((spec.observedVariants obs).filter spec.Owns) := by
    rw [evaluate, own, own_variants]
  have whole (all : ∀ o ∈ spec.observedVariants obs, spec.Owns o) :
      (spec.observedVariants obs).filter spec.Owns = spec.observedVariants obs :=
    List.filter_eq_self.mpr fun o mem => decide_eq_true (all o mem)
  constructor
  · rintro ⟨same, _, declared⟩
    have res := all_result.symm.trans same
    rw [own_result] at res
    obtain ⟨value, all, samples⟩ := (report_own_iff _ _ _).mp res
    refine ⟨value, all, fun winner largest => ?_⟩
    by_cases zero : control.value = 0
    · exact Or.inl zero
    · refine Or.inr ⟨(samples winner largest).resolve_left zero, ?_⟩
      have apart : other.value ≠ 0 := value ▸ zero
      apply (declared_iff apart largest).mp
      intro enough succeeding
      rw [← whole all, ← own_result, ← same]
      exact declared other own enough apart (by rwa [own_variants, whole all])
  · rintro ⟨value, all, samples⟩
    have res := (@report_own_iff spec minimum control other _).mpr
      ⟨value, all, fun winner largest => (samples winner largest).imp_right And.left⟩
    rw [whole all] at res own_result
    refine ⟨by rw [all_result, own_result, res], ?_, ?_⟩
    · intro winning named
      rw [all_result, res] at named
      obtain ⟨winner, largest, _, _, succeeds, rfl⟩ := winning_iff.mp named
      have mem := List.argmax_mem largest
      have elsewhere := (of_decide_eq_true (List.mem_filter.mp mem).2).1
      refine ⟨(all winner mem).2.2.resolve_left elsewhere, other, own, winner, ?_, rfl, succeeds⟩
      rwa [own_variants, whole all]
    · intro control' observed' enough nonzero succeeding
      obtain rfl : other = control' := Option.some.inj (own.symm.trans observed')
      rw [own_variants, whole all] at succeeding
      rw [all_result, res]
      obtain ⟨o, mem, _⟩ := id succeeding
      cases largest : (spec.observedVariants obs).argmax (·.value) with
      | none => exact absurd (List.argmax_eq_none.mp largest) (List.ne_nil_of_mem mem)
      | some winner =>
        have unmasked := ((samples winner largest).resolve_left (value ▸ nonzero)).2
        exact (declared_iff nonzero largest).mpr unmasked enough succeeding

/-- An experiment is judged on its own data exactly if nothing else was observed that counts, and
no variant of the largest value masks one that succeeded. -/
theorem judges_own_data_iff (spec : ExperimentSpec) (minimum : Int)
    (obs : List ExperimentObservation) :
    spec.JudgesOwnData minimum obs ↔
      spec.Unmixed minimum obs := by
  unfold Unmixed
  cases observed : spec.observedControl obs with
  | none =>
    have own := own_control_none observed
    simp only [iff_true]
    refine ⟨?_, ?_, fun control held => absurd (own.symm.trans held) nofun⟩
    · rw [evaluate, observed, evaluate, own]
    · intro winner named
      rw [evaluate, observed] at named
      cases named
  | some control =>
    cases own : spec.observedControl (spec.own obs) with
    | some other => exact judges_of_controls observed own
    | none =>
      constructor
      · intro judges
        have same := judges.own
        rw [evaluate, observed, evaluate, own] at same
        have shown := @report_shown spec minimum control
          (spec.observedVariants obs)
        simp only at same
        rw [same] at shown
        exact ⟨shown.1.symm, List.map_eq_nil_iff.mp shown.2.symm⟩
      · rintro ⟨zero, alone⟩
        have res : spec.evaluate minimum obs =
            spec.evaluate minimum (spec.own obs) := by
          rw [evaluate, observed, evaluate, own]
          simp [report, alone, zero]
        refine ⟨res, ?_, fun control held => absurd (own.symm.trans held) nofun⟩
        intro winner named
        rw [res, evaluate, own] at named
        cases named

def clickTest : ExperimentSpec :=
  { experimentId := "clicks", metric := "rate", control := ⟨"a"⟩, variants := [⟨"b"⟩]
    successThreshold := 1 / 10 }

def clickRates : List ExperimentObservation :=
  [{ experimentId := "clicks", variantId := "a", metric := "rate", value := 2, sampleSize := 100 },
    { experimentId := "clicks", variantId := "b", metric := "rate", value := 1, sampleSize := 100 },
    { experimentId := "views", variantId := "b", metric := "rate", value := 4, sampleSize := 100 }]

theorem other_experiment_wins :
    ¬∀ (spec : ExperimentSpec) (minimum : Int)
      (obs : List ExperimentObservation),
      spec.JudgesOwnData minimum obs := by
  intro judged
  have same := (judged clickTest 30 clickRates).own
  revert same
  decide +kernel

end ExperimentSpec

end Ois.Social
