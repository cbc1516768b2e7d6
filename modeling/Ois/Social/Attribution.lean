import Mathlib.Algebra.Order.Field.Basic
import Mathlib.Algebra.Order.Ring.Rat
import Mathlib.Data.Finset.Card
import Mathlib.Data.List.Sort
import Mathlib.Data.String.Basic
import Mathlib.Algebra.BigOperators.Group.List.Basic
import Mathlib.Tactic.FieldSimp

/-!
# Attribution of conversions

`linear_attribution` and `SQLiteAttributionStore` of the social growth domain, on exact numbers.
-/

namespace Ois.Social

structure AttributionTouchpoint where
  touchpointId : String

structure AttributionResult where
  conversionId : String
  creditedTouchpoints : List (String × ℚ)
  totalValue : ℚ
  confidence : ℚ

/-- `linear_attribution(conversion_id, touchpoints, conversion_value)`. -/
def linearAttribution (conversionId : String) (touchpoints : List AttributionTouchpoint)
    (conversionValue : ℚ) : AttributionResult :=
  if touchpoints.isEmpty then
    { conversionId, creditedTouchpoints := [], totalValue := 0, confidence := 0 }
  else
    let share := conversionValue / touchpoints.length
    { conversionId, creditedTouchpoints := touchpoints.map fun tp => (tp.touchpointId, share)
      totalValue := conversionValue, confidence := min 1 (1 / 2 + 1 / 10 * touchpoints.length) }

/-- A row of `attribution_results`. -/
structure AttributionRow where
  conversionId : String
  touchpointId : String
  credit : ℚ
  totalValue : ℚ
  confidence : ℚ

namespace AttributionStore

/-- `INSERT OR IGNORE`, and whether a row was inserted. -/
def insertOrIgnore (row : AttributionRow) (rows : List AttributionRow) :
    List AttributionRow × Bool :=
  if rows.any fun held =>
      held.conversionId = row.conversionId ∧ held.touchpointId = row.touchpointId
  then (rows, false) else (rows ++ [row], true)

/-- `append(result)`: the rows, and how many were inserted. -/
def append (res : AttributionResult) (rows : List AttributionRow) :
    List AttributionRow × Nat :=
  res.creditedTouchpoints.foldl (fun (rows, inserted) (touchpointId, credit) =>
    let (after, fresh) := insertOrIgnore
      { conversionId := res.conversionId, touchpointId, credit
        totalValue := res.totalValue, confidence := res.confidence } rows
    (after, inserted + fresh.toNat)) (rows, 0)

/-- `get(conversion_id)`. -/
def get (conversionId : String) (rows : List AttributionRow) : List (String × ℚ) :=
  ((rows.filter fun row => row.conversionId = conversionId).insertionSort
    fun row other => row.touchpointId ≤ other.touchpointId).map
      fun row => (row.touchpointId, row.credit)

/-- The result credits the value, and so do the rows that are read back of it. -/
def Conserves (conversionId : String) (touchpoints : List AttributionTouchpoint)
    (conversionValue : ℚ) (rows : List AttributionRow) : Prop :=
  let res := linearAttribution conversionId touchpoints conversionValue
  (res.creditedTouchpoints.map Prod.snd).sum = conversionValue ∧
    ((get conversionId (append res rows).1).map Prod.snd).sum = conversionValue

structure Credits (conversionId : String) (share : ℚ) (met : List String)
    (rows : List AttributionRow) : Prop where
  touchpoints : ∀ touchpointId, touchpointId ∈ met ↔ ∃ row ∈ rows,
    row.conversionId = conversionId ∧ row.touchpointId = touchpointId
  sum : ((rows.filter fun row => row.conversionId = conversionId).map (·.credit)).sum =
    share * met.toFinset.card

theorem credits_insert {share : ℚ} {met : List String} {rows : List AttributionRow}
    {row : AttributionRow} (credits : Credits row.conversionId share met rows)
    (credited : row.credit = share) :
    Credits row.conversionId share (met ++ [row.touchpointId]) (insertOrIgnore row rows).1 := by
  have held_iff : (rows.any fun held => held.conversionId = row.conversionId ∧
      held.touchpointId = row.touchpointId) = true ↔ row.touchpointId ∈ met := by
    rw [credits.touchpoints, List.any_eq_true]
    simp only [decide_eq_true_eq]
  have grown : (met ++ [row.touchpointId]).toFinset =
      insert row.touchpointId met.toFinset := by
    simp [List.toFinset_append]
  unfold insertOrIgnore
  by_cases again : row.touchpointId ∈ met
  · rw [if_pos (held_iff.mpr again)]
    constructor
    · intro touchpointId
      rw [← credits.touchpoints, List.mem_append, List.mem_singleton]
      exact or_iff_left_of_imp fun same => same ▸ again
    · rw [credits.sum, grown, Finset.insert_eq_self.mpr (List.mem_toFinset.mpr again)]
  · rw [if_neg (mt held_iff.mp again)]
    constructor
    · intro touchpointId
      simp only [List.mem_append, List.mem_singleton, credits.touchpoints, or_and_right,
        exists_or, exists_eq_left, true_and]
      rw [@eq_comm _ touchpointId]
    · rw [grown, Finset.card_insert_of_notMem (mt List.mem_toFinset.mp again), List.filter_append,
        List.map_append, List.sum_append, credits.sum]
      simp [credited, mul_add]

theorem credits_append {res : AttributionResult} {share : ℚ} {met : List String}
    {rows : List AttributionRow} (credits : Credits res.conversionId share met rows)
    (shares : ∀ credited ∈ res.creditedTouchpoints, credited.2 = share) :
    Credits res.conversionId share (met ++ res.creditedTouchpoints.map Prod.fst)
      (append res rows).1 := by
  unfold append
  generalize 0 = inserted
  generalize res.creditedTouchpoints = credited at shares ⊢
  induction credited generalizing met rows inserted with
  | nil => simpa using credits
  | cons first rest ih =>
    rw [List.map_cons, List.append_cons, List.foldl_cons]
    let row : AttributionRow :=
      { conversionId := res.conversionId, touchpointId := first.1, credit := first.2
        totalValue := res.totalValue, confidence := res.confidence }
    exact ih (@credits_insert _ _ _ row credits (shares first List.mem_cons_self)) _
      fun credited later => shares credited (List.mem_cons_of_mem _ later)

theorem get_sum (conversionId : String) (rows : List AttributionRow) :
    ((get conversionId rows).map Prod.snd).sum =
      ((rows.filter fun row => row.conversionId = conversionId).map (·.credit)).sum := by
  rw [get, List.map_map]
  exact ((List.perm_insertionSort _ _).map _).sum_eq

theorem append_get_sum {conversionId : String} {touchpoints : List AttributionTouchpoint}
    (conversionValue : ℚ) {rows : List AttributionRow} (met : touchpoints ≠ [])
    (unstored : ∀ row ∈ rows, row.conversionId ≠ conversionId) :
    ((get conversionId (append (linearAttribution conversionId touchpoints conversionValue)
      rows).1).map Prod.snd).sum = conversionValue / touchpoints.length *
        (touchpoints.map (·.touchpointId)).toFinset.card := by
  have absent : rows.filter (fun row => row.conversionId = conversionId) = [] :=
    List.filter_eq_nil_iff.mpr fun row mem => by simpa using unstored row mem
  have start : Credits conversionId (conversionValue / touchpoints.length) [] rows :=
    ⟨fun touchpointId => by simpa using fun row mem same => absurd same (unstored row mem),
      by simp [absent]⟩
  have res := linearAttribution.eq_1 conversionId touchpoints conversionValue
  rw [if_neg (by simpa using met)] at res
  have credits := @credits_append (linearAttribution conversionId touchpoints conversionValue)
    (conversionValue / touchpoints.length) [] rows (by rw [res]; exact start)
    (by rw [res]; simp)
  simp only [res] at credits ⊢
  rw [get_sum, credits.sum]
  simp [Function.comp_def]

/-- The credits that are read back add up to the value exactly if no touchpoint was met twice, or
the value is zero. -/
theorem credit_conserved_iff (conversionId : String) (touchpoints : List AttributionTouchpoint)
    (conversionValue : ℚ) (rows : List AttributionRow) (met : touchpoints ≠ [])
    (unstored : ∀ row ∈ rows, row.conversionId ≠ conversionId) :
    Conserves conversionId touchpoints conversionValue rows ↔
      (touchpoints.map (·.touchpointId)).Nodup ∨ conversionValue = 0 := by
  have counted : (touchpoints.length : ℚ) ≠ 0 := by
    exact_mod_cast mt List.length_eq_zero_iff.mp met
  have credited : ((linearAttribution conversionId touchpoints
      conversionValue).creditedTouchpoints.map Prod.snd).sum = conversionValue := by
    rw [linearAttribution, if_neg (by simpa using met)]
    simp only [List.map_map, Function.comp_def, List.map_const', List.sum_replicate, nsmul_eq_mul]
    field_simp
  rw [Conserves]
  simp only [credited, true_and]
  rw [append_get_sum conversionValue met unstored, div_mul_eq_mul_div, div_eq_iff counted,
    mul_eq_mul_left_iff, Nat.cast_inj]
  apply or_congr_left
  rw [← List.length_map (·.touchpointId), ← Multiset.coe_card, ← Multiset.coe_nodup]
  exact Multiset.toFinset_card_eq_card_iff_nodup

def visitedTwice : List AttributionTouchpoint := [⟨"video"⟩, ⟨"video"⟩]

theorem repeated_touchpoint_loses :
    ¬∀ (conversionId : String) (touchpoints : List AttributionTouchpoint) (conversionValue : ℚ)
        (rows : List AttributionRow), touchpoints ≠ [] →
      (∀ row ∈ rows, row.conversionId ≠ conversionId) →
        Conserves conversionId touchpoints conversionValue rows := by
  intro conserved
  have lost := (conserved "order" visitedTwice 10 [] (by decide) (by simp)).2
  revert lost
  decide +kernel

theorem distinct_touchpoints_conserved :
    Conserves "order" [⟨"video"⟩, ⟨"post"⟩] 10 [] :=
  (credit_conserved_iff "order" [⟨"video"⟩, ⟨"post"⟩] 10 [] (by simp) (by simp)).mpr
    (Or.inl (by decide))

end AttributionStore

end Ois.Social
