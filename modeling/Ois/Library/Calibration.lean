import Mathlib.Algebra.BigOperators.Ring.List
import Mathlib.Algebra.Order.BigOperators.Group.List
import Mathlib.Data.Rat.Floor
import Mathlib.Tactic.FieldSimp
import Mathlib.Tactic.Linarith
import Mathlib.Tactic.Ring

/-!
# Calibration of forecasts

A forecast is a probability and whether what it was given for came to pass.
-/

namespace Ois.Library

namespace Calibration

def bin (count : Nat) (prob : ℚ) : Nat := min (count - 1) ⌊prob * count⌋₊

def inBin (count index : Nat) (forecasts : List (ℚ × Bool)) : List (ℚ × Bool) :=
  forecasts.filter fun forecast => bin count forecast.1 = index

def mean (values : List ℚ) : ℚ := values.sum / values.length

def frequency (forecasts : List (ℚ × Bool)) : ℚ := forecasts.countP (·.2) / forecasts.length

/-- The sum over the bins of how far the mean probability is from the frequency, weighted by their
sizes. -/
def error (count : Nat) (forecasts : List (ℚ × Bool)) : ℚ :=
  ((List.range count).map fun index =>
    ((inBin count index forecasts).length : ℚ) / forecasts.length *
      |mean ((inBin count index forecasts).map Prod.fst) -
        frequency (inBin count index forecasts)|).sum

variable {count : Nat}

theorem bin_lt (positive : 0 < count) (prob : ℚ) :
    bin count prob < count := by
  unfold bin
  omega

theorem sum_over_bins {Item : Type} (place : Item → Nat) (value : Item → ℚ) (items : List Item)
    (count : Nat) :
    ((List.range count).map fun index =>
      ((items.filter fun item => place item = index).map value).sum).sum =
      ((items.filter fun item => place item < count).map value).sum := by
  induction count with
  | zero => simp
  | succ count ih =>
    rw [List.range_succ, List.map_append, List.sum_append, ih]
    simp only [List.map_cons, List.map_nil, List.sum_cons, List.sum_nil, add_zero]
    clear ih
    induction items with
    | nil => simp
    | cons item rest ih =>
      simp only [List.filter_cons, decide_eq_true_eq]
      rcases Nat.lt_trichotomy (place item) count with less | same | more
      · have below : place item < count + 1 := by omega
        have other : ¬place item = count := by omega
        rw [if_pos less, if_pos below, if_neg other, List.map_cons, List.map_cons,
          List.sum_cons, List.sum_cons, ← ih]
        ring
      · have below : place item < count + 1 := by omega
        have none : ¬place item < count := by omega
        rw [if_neg none, if_pos below, if_pos same, List.map_cons, List.map_cons,
          List.sum_cons, List.sum_cons, ← ih]
        ring
      · have none : ¬place item < count + 1 := by omega
        have less : ¬place item < count := by omega
        have other : ¬place item = count := by omega
        rw [if_neg less, if_neg none, if_neg other]
        exact ih

theorem sum_map_div {Item : Type} (value : Item → ℚ) (total : ℚ) (items : List Item) :
    (items.map fun item => value item / total).sum = (items.map value).sum / total := by
  simp only [div_eq_mul_inv]
  exact List.sum_map_mul_right items value total⁻¹

theorem gap_of_happened {forecasts : List (ℚ × Bool)}
    (happened : ∀ forecast ∈ forecasts, forecast.2 = true)
    (probable : ∀ forecast ∈ forecasts, forecast.1 ≤ 1) (total : ℚ) :
    (forecasts.length : ℚ) / total * |mean (forecasts.map Prod.fst) - frequency forecasts| =
      (forecasts.map fun forecast => 1 - forecast.1).sum / total := by
  have missing : (forecasts.map fun forecast => 1 - forecast.1).sum =
      forecasts.length - (forecasts.map Prod.fst).sum := by
    clear happened probable
    induction forecasts with
    | nil => simp
    | cons forecast rest ih =>
      simp only [List.map_cons, List.sum_cons, ih, List.length_cons]
      push_cast
      ring
  have positive : 0 ≤ (forecasts.map fun forecast => 1 - forecast.1).sum := by
    apply List.sum_nonneg
    intro value mem
    obtain ⟨forecast, present, same⟩ := List.mem_map.mp mem
    have bound := probable forecast present
    linarith
  cases forecasts with
  | nil => simp
  | cons forecast rest =>
    have size : (0 : ℚ) < ((forecast :: rest).length : ℚ) := by
      exact_mod_cast Nat.succ_pos rest.length
    have all : (forecast :: rest).countP (·.2) = (forecast :: rest).length :=
      List.countP_eq_length.mpr happened
    have off : mean ((forecast :: rest).map Prod.fst) - frequency (forecast :: rest) =
        -(((forecast :: rest).map fun forecast => 1 - forecast.1).sum /
          (forecast :: rest).length) := by
      rw [mean, frequency, all, List.length_map, missing]
      field_simp
      ring
    rw [off, abs_neg, abs_of_nonneg (div_nonneg positive size.le)]
    field_simp

theorem error_of_happened (bins : 0 < count) {forecasts : List (ℚ × Bool)}
    (happened : ∀ forecast ∈ forecasts, forecast.2 = true)
    (probable : ∀ forecast ∈ forecasts, forecast.1 ≤ 1) :
    error count forecasts =
      (forecasts.map fun forecast => 1 - forecast.1).sum / forecasts.length := by
  have gaps (index : Nat) : ((inBin count index forecasts).length : ℚ) / forecasts.length *
      |mean ((inBin count index forecasts).map Prod.fst) -
        frequency (inBin count index forecasts)| =
      ((inBin count index forecasts).map fun forecast => 1 - forecast.1).sum /
        forecasts.length := by
    apply gap_of_happened
    · intro forecast mem
      exact happened forecast (List.mem_of_mem_filter mem)
    · intro forecast mem
      exact probable forecast (List.mem_of_mem_filter mem)
  have every : (forecasts.filter fun forecast => bin count forecast.1 < count) = forecasts := by
    rw [List.filter_eq_self]
    intro forecast _
    exact decide_eq_true (bin_lt bins forecast.1)
  have sums := sum_over_bins (fun forecast : ℚ × Bool => bin count forecast.1)
    (fun forecast => 1 - forecast.1) forecasts count
  rw [every] at sums
  unfold error
  simp only [gaps]
  rw [sum_map_div]
  exact congrArg (· / (forecasts.length : ℚ)) sums

theorem error_of_certain (bins : 0 < count) {forecasts : List (ℚ × Bool)}
    (certain : ∀ forecast ∈ forecasts, forecast = (1, true)) : error count forecasts = 0 := by
  rw [error_of_happened bins]
  · have missing : (forecasts.map fun forecast => 1 - forecast.1) =
        List.replicate forecasts.length 0 := by
      apply List.map_eq_replicate_iff.mpr
      intro forecast mem
      rw [certain forecast mem, sub_self]
    rw [missing]
    simp
  · intro forecast mem
    rw [certain forecast mem]
  · intro forecast mem
    rw [certain forecast mem]

end Calibration

end Ois.Library
