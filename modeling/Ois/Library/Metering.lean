import Mathlib.Algebra.Order.Field.Basic
import Mathlib.Tactic.Linarith
import Mathlib.Tactic.Ring
import Ois.Library.Machine

/-!
# Metered machines

A machine is metered if its state has a level that rises by a rate over time, up to a capacity,
and that what its calls spend is taken from.
-/

namespace Ois.Library

structure Meter (Amount Call State : Type) where
  capacity : Amount
  rate : Amount
  time : Call → Amount
  spent : Call → State → Amount
  level : State → Amount
  moment : State → Amount

namespace Meter

variable {Amount Call State Answer : Type} [Field Amount] [LinearOrder Amount]
  [IsStrictOrderedRing Amount]

section laws

variable (meter : Meter Amount Call State) (machine : Machine Call State Answer)

structure Within (state : State) : Prop where
  nonneg : 0 ≤ meter.level state
  bounded : meter.level state ≤ meter.capacity

structure Draws (call : Call) (state after : State) : Prop where
  moment : meter.moment after = meter.time call
  spends : 0 ≤ meter.spent call state
  nonneg : 0 ≤ meter.level after
  bounded : meter.level after + meter.spent call state ≤ meter.capacity
  filled : meter.level after + meter.spent call state ≤
    meter.level state + meter.rate * (meter.time call - meter.moment state)

structure Meters : Prop where
  rate : 0 ≤ meter.rate
  law : ∀ call state, meter.Within state → meter.moment state ≤ meter.time call →
    (machine.next call state = state ∧ meter.spent call state = 0) ∨
      meter.Draws call state (machine.next call state)

def Timed (calls : List Call) (state : State) : Prop :=
  (meter.moment state :: calls.map meter.time).Pairwise (· ≤ ·)

/-- What a run spends from `first` to `last`. -/
def spentWithin (first last : Amount) : List Call → State → Amount
  | [], _ => 0
  | call :: rest, state =>
    (if first ≤ meter.time call ∧ meter.time call ≤ last then meter.spent call state else 0) +
      spentWithin first last rest (machine.next call state)

end laws

section windows

variable {meter : Meter Amount Call State} {machine : Machine Call State Answer}
  (meters : meter.Meters machine)

variable {call : Call} {rest : List Call} {state : State}

omit [Field Amount] [IsStrictOrderedRing Amount] in
theorem timed_cons :
    meter.Timed (call :: rest) state ↔
      meter.moment state ≤ meter.time call ∧ (∀ later ∈ rest, meter.time call ≤ meter.time later) ∧
      meter.Timed rest state := by
  unfold Timed
  simp only [List.map_cons, List.pairwise_cons, List.mem_cons, List.mem_map, forall_eq_or_imp,
    forall_exists_index, and_imp, forall_apply_eq_imp_iff₂]
  tauto

variable {first last : Amount}

omit [IsStrictOrderedRing Amount] in
theorem spent_after (calls : List Call) (state : State)
    (past : ∀ call ∈ calls, last < meter.time call) :
    meter.spentWithin machine first last calls state = 0 := by
  induction calls generalizing state with
  | nil => rfl
  | cons call rest ih =>
    rw [List.forall_mem_cons] at past
    rw [spentWithin, if_neg fun inside => not_lt.mpr inside.2 past.1, zero_add]
    exact ih _ past.2

omit [Field Amount] [IsStrictOrderedRing Amount] in
theorem over_of_late {last : Amount}
    (timed : meter.Timed (call :: rest) state) (late : last < meter.time call) :
    ∀ later ∈ rest, last < meter.time later := by
  intro later mem
  exact lt_of_lt_of_le late ((timed_cons.mp timed).2.1 later mem)

include meters

omit [IsStrictOrderedRing Amount] in
theorem timed_next (within : meter.Within state)
    (timed : meter.Timed (call :: rest) state) : meter.Timed rest (machine.next call state) := by
  obtain ⟨here, later, others⟩ := timed_cons.mp timed
  cases meters.law call state within here with
  | inl nothing =>
    rw [nothing.1]
    exact others
  | inr draws =>
    unfold Timed at others ⊢
    rw [draws.moment]
    rw [List.pairwise_cons] at others ⊢
    apply And.intro _ others.2
    intro time mem
    obtain ⟨other, inside, rfl⟩ := List.mem_map.mp mem
    exact later other inside

theorem within_next (call : Call) {state : State} (within : meter.Within state)
    (here : meter.moment state ≤ meter.time call) : meter.Within (machine.next call state) := by
  cases meters.law call state within here with
  | inl nothing =>
    rw [nothing.1]
    exact within
  | inr draws =>
    have bounded := draws.bounded
    have spends := draws.spends
    exact ⟨draws.nonneg, by linarith⟩

theorem within_run (calls : List Call) {state : State} (within : meter.Within state)
    (timed : meter.Timed calls state) : meter.Within (machine.run calls state) := by
  induction calls generalizing state with
  | nil => exact within
  | cons call rest ih =>
    apply ih
    · exact within_next meters call within (timed_cons.mp timed).1
    · exact timed_next meters within timed

theorem spent_inside (calls : List Call) {state : State}
    (within : meter.Within state) (timed : meter.Timed calls state)
    (started : first ≤ meter.moment state) (running : meter.moment state ≤ last) :
    meter.spentWithin machine first last calls state ≤
      meter.level state + meter.rate * (last - meter.moment state) := by
  have rate := meters.rate
  induction calls generalizing state with
  | nil =>
    have added : 0 ≤ meter.rate * (last - meter.moment state) :=
      mul_nonneg rate (by linarith)
    have nonneg := within.nonneg
    rw [spentWithin]
    linarith
  | cons call rest ih =>
    have here := (timed_cons.mp timed).1
    have next := timed_next meters within timed
    have kept := within_next meters call within here
    by_cases late : last < meter.time call
    · have added : 0 ≤ meter.rate * (last - meter.moment state) :=
        mul_nonneg rate (by linarith)
      have nonneg := within.nonneg
      rw [spentWithin, if_neg fun inside => not_lt.mpr inside.2 late,
        spent_after rest _ (over_of_late timed late)]
      linarith
    · have inTime : meter.time call ≤ last := not_lt.mp late
      rw [spentWithin, if_pos ⟨started.trans here, inTime⟩]
      cases meters.law call state within here with
      | inl nothing =>
        rw [nothing.1] at next
        rw [nothing.1, nothing.2, zero_add]
        exact ih within next started running
      | inr draws =>
        have later := ih kept next (draws.moment ▸ started.trans here) (draws.moment ▸ inTime)
        rw [draws.moment] at later
        have filled := draws.filled
        have split : meter.rate * (last - meter.moment state) =
            meter.rate * (meter.time call - meter.moment state) +
              meter.rate * (last - meter.time call) := by ring
        rw [split]
        linarith

theorem spent_within_le (window : first ≤ last) (calls : List Call)
    {state : State} (within : meter.Within state) (timed : meter.Timed calls state) :
    meter.spentWithin machine first last calls state ≤
      meter.capacity + meter.rate * (last - first) := by
  have rate := meters.rate
  have added : 0 ≤ meter.rate * (last - first) := mul_nonneg rate (by linarith)
  induction calls generalizing state with
  | nil =>
    have nonneg := within.nonneg
    have bounded := within.bounded
    rw [spentWithin]
    linarith
  | cons call rest ih =>
    have here := (timed_cons.mp timed).1
    have next := timed_next meters within timed
    have kept := within_next meters call within here
    have later := ih kept next
    by_cases inside : first ≤ meter.time call ∧ meter.time call ≤ last
    · rw [spentWithin, if_pos inside]
      cases meters.law call state within here with
      | inl nothing =>
        rw [nothing.2, zero_add]
        exact later
      | inr draws =>
        -- The window starts with this call, whatever the level rose to before.
        have rest := spent_inside meters rest kept next (draws.moment ▸ inside.1)
          (draws.moment ▸ inside.2)
        rw [draws.moment] at rest
        have bounded := draws.bounded
        have shorter : meter.rate * (last - meter.time call) ≤ meter.rate * (last - first) :=
          mul_le_mul_of_nonneg_left (by linarith [inside.1]) rate
        linarith
    · rw [spentWithin, if_neg inside, zero_add]
      exact later

end windows

end Meter

end Ois.Library
