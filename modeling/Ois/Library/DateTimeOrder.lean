import Ois.Library.DateTime

/-!
# The order of moments and of their texts

A moment in UTC is before another exactly when its text is: fields of a fixed width come one
after another, the longest time first, and the sign of the offset is before the point of a
fraction.
-/

namespace Ois.Library

namespace Numeral

theorem digit_char_lt {digit other : Nat} (fits : digit < 10) (otherFits : other < 10) :
    Nat.digitChar digit < Nat.digitChar other ↔ digit < other := by
  have all : ∀ digit < 10, ∀ other < 10,
      Nat.digitChar digit < Nat.digitChar other ↔ digit < other := by decide
  exact all digit fits other otherFits

theorem digit_char_inj {digit other : Nat} (fits : digit < 10) (otherFits : other < 10) :
    Nat.digitChar digit = Nat.digitChar other ↔ digit = other := by
  have all : ∀ digit < 10, ∀ other < 10,
      Nat.digitChar digit = Nat.digitChar other ↔ digit = other := by decide
  exact all digit fits other otherFits

theorem leading_lt {unit low lower high higher : Nat} (fits : low < unit)
    (lowerFits : lower < unit) :
    low + unit * high < lower + unit * higher ↔ high < higher ∨ high = higher ∧ low < lower := by
  constructor
  · intro less
    rcases Nat.lt_trichotomy high higher with before | same | after
    · exact Or.inl before
    · subst same
      exact Or.inr ⟨rfl, by omega⟩
    · have room : unit * (higher + 1) ≤ unit * high := Nat.mul_le_mul_left unit after
      rw [Nat.mul_add, Nat.mul_one] at room
      omega
  · rintro (before | ⟨rfl, less⟩)
    · have room : unit * (high + 1) ≤ unit * higher := Nat.mul_le_mul_left unit before
      rw [Nat.mul_add, Nat.mul_one] at room
      omega
    · omega

theorem leading_inj {unit low lower high higher : Nat} (fits : low < unit)
    (lowerFits : lower < unit) (same : low + unit * high = lower + unit * higher) :
    high = higher ∧ low = lower := by
  have before : ¬(high < higher ∨ high = higher ∧ low < lower) :=
    (leading_lt fits lowerFits).not.mp same.not_lt
  have after : ¬(higher < high ∨ higher = high ∧ lower < low) :=
    (leading_lt lowerFits fits).not.mp same.not_gt
  omega

theorem render_mod_lt (width value other : Nat) (rest tail : List Char) :
    render 10 width value ++ rest < render 10 width other ++ tail ↔
      value % 10 ^ width < other % 10 ^ width ∨
      value % 10 ^ width = other % 10 ^ width ∧ rest < tail := by
  induction width with
  | zero => simp [render, digits, Nat.mod_one]
  | succ width ih =>
    have positive : 0 < 10 ^ width := Nat.pow_pos (by omega)
    have low := Nat.mod_lt value positive
    have lower := Nat.mod_lt other positive
    have digit : value / 10 ^ width % 10 < 10 := Nat.mod_lt _ (by omega)
    have otherDigit : other / 10 ^ width % 10 < 10 := Nat.mod_lt _ (by omega)
    have less : _ + 10 ^ width * (value / 10 ^ width % 10) <
        _ + 10 ^ width * (other / 10 ^ width % 10) ↔ _ := leading_lt low lower
    rw [render_succ, render_succ, List.cons_append, List.cons_append, List.cons_lt_cons_iff, ih,
      digit_char_lt digit otherDigit, digit_char_inj digit otherDigit, Nat.mod_pow_succ,
      Nat.mod_pow_succ, less]
    constructor
    · rintro (before | ⟨same, before | ⟨equal, shorter⟩⟩)
      · exact Or.inl (Or.inl before)
      · exact Or.inl (Or.inr ⟨same, before⟩)
      · exact Or.inr ⟨by rw [same, equal], shorter⟩
    · rintro ((before | ⟨same, before⟩) | ⟨equal, shorter⟩)
      · exact Or.inl before
      · exact Or.inr ⟨same, Or.inl before⟩
      · obtain ⟨high, low⟩ := leading_inj low lower equal
        exact Or.inr ⟨high, Or.inr ⟨low, shorter⟩⟩

theorem render_lt {width value other : Nat} (fits : value < 10 ^ width)
    (otherFits : other < 10 ^ width) (rest tail : List Char) :
    render 10 width value ++ rest < render 10 width other ++ tail ↔
      value < other ∨ value = other ∧ rest < tail := by
  rw [render_mod_lt, Nat.mod_eq_of_lt fits, Nat.mod_eq_of_lt otherFits]

end Numeral

namespace DateTime

def Earlier (moment other : DateTime) : Prop :=
  moment.year < other.year ∨ moment.year = other.year ∧
    (moment.month < other.month ∨ moment.month = other.month ∧
      (moment.day < other.day ∨ moment.day = other.day ∧
        (moment.hour < other.hour ∨ moment.hour = other.hour ∧
          (moment.minute < other.minute ∨ moment.minute = other.minute ∧
            (moment.second < other.second ∨ moment.second = other.second ∧
              moment.microsecond < other.microsecond)))))

section texts

theorem two_lt {value other : Nat} (fits : value < 100) (otherFits : other < 100)
    (rest tail : List Char) :
    two value ++ rest < two other ++ tail ↔ value < other ∨ value = other ∧ rest < tail :=
  Numeral.render_lt (by simpa using fits) (by simpa using otherFits) rest tail

theorem fraction_lt {value other : Nat} (fits : value < 1000000) (otherFits : other < 1000000)
    (rest : List Char) :
    fraction value ++ '+' :: rest < fraction other ++ '+' :: rest ↔ value < other := by
  unfold fraction
  split_ifs with zero otherZero otherZero
  · simp [zero, otherZero]
  · have positive : value < other := by omega
    simp only [List.nil_append, List.cons_append, List.cons_lt_cons_iff, positive, iff_true]
    exact Or.inl (by decide)
  · have least : ¬value < other := by omega
    simp only [List.nil_append, List.cons_append, List.cons_lt_cons_iff, least, iff_false]
    rintro (sign | ⟨same, _⟩)
    · exact absurd sign (by decide)
    · exact absurd same (by decide)
  · rw [List.cons_append, List.cons_append, List.cons_lt_cons_self,
      Numeral.render_lt (by simpa using fits) (by simpa using otherFits)]
    simp

theorem isoformat_lt_iff {moment other : DateTime} (utc : moment.utcoffset = some 0)
    (otherUtc : other.utcoffset = some 0) :
    moment.isoformat < other.isoformat ↔ Earlier moment other := by
  have days (year month : Nat) : daysInMonth year month ≤ 31 := by
    unfold daysInMonth
    split_ifs <;> omega
  obtain ⟨year, month, day, time, _⟩ := moment.valid
  obtain ⟨otherYear, otherMonth, otherDay, otherTime, _⟩ := other.valid
  have length := days moment.year moment.month
  have otherLength := days other.year other.month
  rw [isoformat, isoformat, String.lt_iff, String.toList_ofList, String.toList_ofList]
  simp only [chars, utc, otherUtc, Option.elim, offsetChars, List.append_assoc, List.cons_append]
  rw [Numeral.render_lt (by omega) (by omega), List.cons_lt_cons_self, two_lt (by omega) (by omega),
    List.cons_lt_cons_self, two_lt (by omega) (by omega),
    List.cons_lt_cons_self, two_lt (by omega) (by omega),
    List.cons_lt_cons_self, two_lt (by omega) (by omega),
    List.cons_lt_cons_self, two_lt (by omega) (by omega)]
  simp only [lt_self_iff_false, if_false]
  rw [fraction_lt time.2.2.2 otherTime.2.2.2]
  exact Iff.rfl

end texts

section calendar

theorem days_before_next_month (year : Nat) {month : Nat} (positive : 1 ≤ month) :
    daysBeforeMonth year (month + 1) = daysBeforeMonth year month + daysInMonth year month := by
  obtain ⟨previous, rfl⟩ := Nat.exists_eq_add_of_le' positive
  simp [daysBeforeMonth, List.range_succ]

theorem days_before_month_le (year : Nat) {month later : Nat} (positive : 1 ≤ month)
    (before : month < later) :
    daysBeforeMonth year month + daysInMonth year month ≤ daysBeforeMonth year later := by
  induction later, before using Nat.le_induction with
  | base => exact (days_before_next_month year positive).ge
  | succ later reached ih =>
    have next : daysBeforeMonth year (later + 1) = _ :=
      days_before_next_month year (by omega)
    omega

theorem days_before_year_end (year : Nat) :
    daysBeforeMonth year 13 = if isLeapYear year then 366 else 365 := by
  unfold daysBeforeMonth daysInMonth
  cases isLeapYear year <;> rfl

theorem days_before_next_year {year : Nat} (positive : 1 ≤ year) :
    daysBeforeYear (year + 1) = daysBeforeYear year + daysBeforeMonth year 13 := by
  obtain ⟨previous, rfl⟩ := Nat.exists_eq_add_of_le' positive
  have centuries : previous / 100 ≤ previous / 4 := Nat.div_le_div_left (by decide) (by decide)
  have century : 100 ∣ previous + 1 → 4 ∣ previous + 1 := Dvd.dvd.trans (by decide)
  have leap : isLeapYear (previous + 1) = true ↔
      4 ∣ previous + 1 ∧ (¬100 ∣ previous + 1 ∨ 400 ∣ previous + 1) := by
    simp [isLeapYear, Nat.dvd_iff_mod_eq_zero]
  have quarter : 400 ∣ previous + 1 → 100 ∣ previous + 1 := Dvd.dvd.trans (by decide)
  rw [days_before_year_end]
  simp only [daysBeforeYear, Nat.add_sub_cancel, Nat.succ_div, leap]
  generalize previous / 4 = fours at *
  generalize previous / 100 = hundreds at *
  by_cases fourth : 4 ∣ previous + 1
  · by_cases hundredth : 100 ∣ previous + 1
    · simp only [fourth, hundredth, not_true, false_or, true_and, if_true]
      split_ifs
      · omega
      · omega
    · have last : ¬400 ∣ previous + 1 := fun whole => hundredth (quarter whole)
      simp only [fourth, hundredth, last, not_false_eq_true, true_or, and_true, if_true, if_false]
      omega
  · have none : ¬100 ∣ previous + 1 := fun whole => fourth (century whole)
    have last : ¬400 ∣ previous + 1 := fun whole => none (quarter whole)
    simp only [fourth, none, last, false_and, if_false]
    omega

theorem days_before_year_le {year later : Nat} (positive : 1 ≤ year) (before : year < later) :
    daysBeforeYear year + daysBeforeMonth year 13 ≤ daysBeforeYear later := by
  induction later, before using Nat.le_induction with
  | base => exact (days_before_next_year positive).ge
  | succ later reached ih =>
    have next : daysBeforeYear (later + 1) = _ := days_before_next_year (by omega)
    omega

def days (moment : DateTime) : Nat :=
  daysBeforeYear moment.year + daysBeforeMonth moment.year moment.month + (moment.day - 1)

theorem days_lt_year_end (moment : DateTime) :
    moment.days < daysBeforeYear moment.year + daysBeforeMonth moment.year 13 := by
  obtain ⟨_, month, day, _⟩ := moment.valid
  have within : _ ≤ daysBeforeMonth moment.year 13 :=
    days_before_month_le moment.year month.1 (by omega)
  unfold days
  omega

variable {moment other : DateTime}

theorem days_lt (before : moment.year < other.year ∨ moment.year = other.year ∧
      (moment.month < other.month ∨ moment.month = other.month ∧ moment.day < other.day)) :
    moment.days < other.days := by
  obtain ⟨year, month, day, _⟩ := moment.valid
  obtain ⟨_, _, otherDay, _⟩ := other.valid
  rcases before with years | ⟨sameYear, months | ⟨sameMonth, past⟩⟩
  · have least := days_lt_year_end moment
    have passed := days_before_year_le year.1 years
    have started : daysBeforeYear other.year ≤ other.days := by
      unfold days
      omega
    omega
  · have passed := days_before_month_le moment.year month.1 months
    unfold days
    rw [← sameYear]
    omega
  · unfold days
    rw [← sameYear, ← sameMonth]
    omega

theorem instant_eq (moment : DateTime) :
    moment.instant = (((((moment.days * 24 + moment.hour) * 60 + moment.minute) * 60 +
      moment.second) * 1000000 + moment.microsecond : Nat) : Int) -
      moment.utcoffset.getD 0 := rfl

theorem instant_lt_of_earlier (utc : moment.utcoffset = some 0)
    (otherUtc : other.utcoffset = some 0) (past : Earlier moment other) :
    moment.instant < other.instant := by
  obtain ⟨_, _, _, time, _⟩ := moment.valid
  obtain ⟨_, _, _, otherTime, _⟩ := other.valid
  rw [instant_eq, instant_eq, utc, otherUtc]
  simp only [Option.getD_some, sub_zero, Int.ofNat_lt]
  have dayOrder : moment.days < other.days ∨ moment.days = other.days ∧
      (moment.hour < other.hour ∨ moment.hour = other.hour ∧
        (moment.minute < other.minute ∨ moment.minute = other.minute ∧
          (moment.second < other.second ∨ moment.second = other.second ∧
            moment.microsecond < other.microsecond))) := by
    rcases past with years | ⟨sameYear, months | ⟨sameMonth, days | ⟨sameDay, time⟩⟩⟩
    · exact Or.inl (days_lt (Or.inl years))
    · exact Or.inl (days_lt (Or.inr ⟨sameYear, Or.inl months⟩))
    · exact Or.inl (days_lt (Or.inr ⟨sameYear, Or.inr ⟨sameMonth, days⟩⟩))
    · exact Or.inr ⟨by rw [days, days, sameYear, sameMonth, sameDay], time⟩
  omega

theorem earlier_or_eq (same : moment.utcoffset = other.utcoffset) :
    Earlier moment other ∨ Earlier other moment ∨ moment = other := by
  by_cases before : Earlier moment other
  · exact Or.inl before
  by_cases after : Earlier other moment
  · exact Or.inr (Or.inl after)
  unfold Earlier at before after
  have fields : moment.year = other.year ∧ moment.month = other.month ∧ moment.day = other.day ∧
      moment.hour = other.hour ∧ moment.minute = other.minute ∧ moment.second = other.second ∧
        moment.microsecond = other.microsecond := by omega
  apply Or.inr
  apply Or.inr
  cases moment
  cases other
  simpa only [mk.injEq, and_assoc] using And.intro fields same

theorem instant_lt_iff (utc : moment.utcoffset = some 0) (otherUtc : other.utcoffset = some 0) :
    moment.instant < other.instant ↔ Earlier moment other := by
  apply Iff.intro _ (instant_lt_of_earlier utc otherUtc)
  intro before
  rcases earlier_or_eq (utc.trans otherUtc.symm) with past | later | same
  · exact past
  · have reversed := instant_lt_of_earlier otherUtc utc later
    omega
  · rw [same] at before
    exact absurd before (lt_irrefl _)

end calendar

theorem isoformat_lt_iff_instant {moment other : DateTime} (utc : moment.utcoffset = some 0)
    (otherUtc : other.utcoffset = some 0) :
    moment.isoformat < other.isoformat ↔ moment.instant < other.instant :=
  (isoformat_lt_iff utc otherUtc).trans (instant_lt_iff utc otherUtc).symm

theorem instant_inj {moment other : DateTime} (utc : moment.utcoffset = some 0)
    (otherUtc : other.utcoffset = some 0) :
    moment.instant = other.instant ↔ moment = other := by
  apply Iff.intro _ (congrArg instant)
  intro same
  rcases earlier_or_eq (utc.trans otherUtc.symm) with past | later | equal
  · exact absurd ((instant_lt_iff utc otherUtc).mpr past) same.not_lt
  · exact absurd ((instant_lt_iff otherUtc utc).mpr later) same.not_gt
  · exact equal

end DateTime

end Ois.Library
