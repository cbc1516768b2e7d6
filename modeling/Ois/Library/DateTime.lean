import Ois.Library.Numeral

/-!
# Dates with times and their ISO 8601 text

A calendar date, a time of day to the microsecond and, unless the value is naive, an offset from
UTC below one day.
-/

namespace Ois.Library

open Numeral

namespace DateTime

def isLeapYear (year : Nat) : Bool :=
  year % 4 == 0 && (year % 100 != 0 || year % 400 == 0)

def daysInMonth (year month : Nat) : Nat :=
  if month = 2 then if isLeapYear year then 29 else 28
  else if month = 4 ∨ month = 6 ∨ month = 9 ∨ month = 11 then 30
  else 31

def microsecondsPerDay : Nat := 86400000000

/-- The components name a day of the calendar, a time of day and an offset
strictly between minus and plus one day. -/
def Valid (year month day hour minute second microsecond : Nat) (utcoffset : Option Int) : Prop :=
  (1 ≤ year ∧ year ≤ 9999) ∧ (1 ≤ month ∧ month ≤ 12) ∧ (1 ≤ day ∧ day ≤ daysInMonth year month) ∧
      (hour < 24 ∧ minute < 60 ∧ second < 60 ∧ microsecond < 1000000) ∧
        ∀ offset ∈ utcoffset, offset.natAbs < microsecondsPerDay

instance (year month day hour minute second microsecond : Nat) (utcoffset : Option Int) :
    Decidable (Valid year month day hour minute second microsecond utcoffset) :=
  inferInstanceAs (Decidable (_ ∧ _ ∧ _ ∧ _ ∧ _))

end DateTime

structure DateTime where
  year : Nat
  month : Nat
  day : Nat
  hour : Nat
  minute : Nat
  second : Nat
  microsecond : Nat
  utcoffset : Option Int
  valid : DateTime.Valid year month day hour minute second microsecond utcoffset
  deriving DecidableEq, Repr

namespace DateTime

def daysBeforeYear (year : Nat) : Nat :=
  (year - 1) * 365 + (year - 1) / 4 - (year - 1) / 100 + (year - 1) / 400

def daysBeforeMonth (year month : Nat) : Nat :=
  ((List.range (month - 1)).map fun past => daysInMonth year (past + 1)).sum

def instant (moment : DateTime) : Int :=
  let days := daysBeforeYear moment.year + daysBeforeMonth moment.year moment.month +
    (moment.day - 1)
  let seconds := ((days * 24 + moment.hour) * 60 + moment.minute) * 60 + moment.second
  ((seconds * 1000000 + moment.microsecond : Nat) : Int) - moment.utcoffset.getD 0

def two (value : Nat) : List Char := render 10 2 value

def fraction (microsecond : Nat) : List Char :=
  if microsecond = 0 then [] else '.' :: render 10 6 microsecond

/-- `HH:MM[:SS[.ffffff]]`. -/
def offsetSize (size : Nat) : List Char :=
  two (size / 3600000000) ++ ':' :: two (size / 60000000 % 60) ++
    if size / 1000000 % 60 = 0 ∧ size % 1000000 = 0 then []
    else ':' :: two (size / 1000000 % 60) ++ fraction (size % 1000000)

def offsetChars (offset : Int) : List Char :=
  (if offset < 0 then '-' else '+') :: offsetSize offset.natAbs

def chars (moment : DateTime) : List Char :=
  render 10 4 moment.year ++ '-' :: two moment.month ++ '-' :: two moment.day ++
    'T' :: two moment.hour ++ ':' :: two moment.minute ++ ':' :: two moment.second ++
      (fraction moment.microsecond ++ moment.utcoffset.elim [] offsetChars)

/-- `moment.isoformat()`. -/
def isoformat (moment : DateTime) : String := String.ofList moment.chars

def readTwo (input : List Char) : Option (Nat × List Char) := read 10 2 0 input

def skip (mark : Char) : List Char → Option (List Char)
  | [] => none
  | char :: rest => if char = mark then some rest else none

def readFraction : List Char → Option (Nat × List Char)
  | '.' :: rest => read 10 6 0 rest
  | input => some (0, input)

def readSeconds : List Char → Option (Nat × Nat × List Char)
  | ':' :: rest => do
    let (seconds, rest) ← readTwo rest
    let (micros, rest) ← readFraction rest
    some (seconds, micros, rest)
  | input => some (0, 0, input)

def readOffset (input : List Char) : Option (Nat × List Char) := do
  let (hours, rest) ← readTwo input
  let rest ← skip ':' rest
  let (minutes, rest) ← readTwo rest
  let (seconds, micros, rest) ← readSeconds rest
  some (((hours * 60 + minutes) * 60 + seconds) * 1000000 + micros, rest)

def readUtcoffset : List Char → Option (Option Int)
  | [] => some none
  | '+' :: rest => do
    let (size, tail) ← readOffset rest
    if tail = [] then some (some size) else none
  | '-' :: rest => do
    let (size, tail) ← readOffset rest
    if tail = [] then some (some (-size)) else none
  | _ => none

def readDate (input : List Char) : Option (Nat × Nat × Nat × List Char) := do
  let (year, rest) ← read 10 4 0 input
  let rest ← skip '-' rest
  let (month, rest) ← readTwo rest
  let rest ← skip '-' rest
  let (day, rest) ← readTwo rest
  some (year, month, day, rest)

def readTime (input : List Char) : Option (Nat × Nat × Nat × Nat × List Char) := do
  let (hour, rest) ← readTwo input
  let rest ← skip ':' rest
  let (minute, rest) ← readTwo rest
  let rest ← skip ':' rest
  let (second, rest) ← readTwo rest
  let (microsecond, rest) ← readFraction rest
  some (hour, minute, second, microsecond, rest)

/-- `datetime.fromisoformat(text)`; `none` is its `ValueError`. -/
def fromisoformat? (text : String) : Option DateTime := do
  let (year, month, day, rest) ← readDate text.toList
  let rest ← skip 'T' rest
  let (hour, minute, second, microsecond, rest) ← readTime rest
  let utcoffset ← readUtcoffset rest
  if valid : Valid year month day hour minute second microsecond utcoffset then
    some ⟨year, month, day, hour, minute, second, microsecond, utcoffset, valid⟩
  else none

theorem read_two (value : Nat) (fits : value < 100) (rest : List Char) :
    readTwo (two value ++ rest) = some (value, rest) :=
  read_render decimal_legible 2 value (by simpa using fits) rest

@[simp] theorem skip_cons (mark : Char) (rest : List Char) :
    skip mark (mark :: rest) = some rest := by
  simp [skip]

def NoPoint (rest : List Char) : Prop := ∀ tail, rest ≠ '.' :: tail

theorem read_fraction (microsecond : Nat) (fits : microsecond < 1000000)
    (rest : List Char) (noPoint : NoPoint rest) :
    readFraction (fraction microsecond ++ rest) = some (microsecond, rest) := by
  unfold fraction
  split_ifs with zero
  · subst zero
    rw [List.nil_append]
    unfold readFraction
    split
    · exact absurd rfl (noPoint _)
    · rfl
  · rw [List.cons_append, readFraction]
    exact read_render decimal_legible 6 microsecond (by simpa using fits) rest

theorem read_offset (size : Nat) (fits : size < microsecondsPerDay) :
    readOffset (offsetSize size) = some (size, []) := by
  unfold microsecondsPerDay at fits
  have hours : size / 3600000000 < 100 := by omega
  have minutes : size / 60000000 % 60 < 100 := by omega
  have seconds : size / 1000000 % 60 < 100 := by omega
  have micros : size % 1000000 < 1000000 := by omega
  have total : ((size / 3600000000 * 60 + size / 60000000 % 60) * 60 +
      size / 1000000 % 60) * 1000000 + size % 1000000 = size := by omega
  unfold readOffset offsetSize
  rw [List.append_assoc, read_two _ hours]
  simp only [List.cons_append, Option.bind_eq_bind, Option.bind_some, skip_cons]
  rw [read_two _ minutes]
  simp only [Option.bind_some]
  split_ifs with whole
  · simp only [readSeconds, Option.bind_some]
    rw [whole.1, whole.2] at total
    rw [total]
  · have fractionRead := read_fraction (size % 1000000) micros [] (by intro tail; simp)
    rw [List.append_nil] at fractionRead
    simp only [readSeconds, read_two _ seconds, fractionRead, Option.bind_eq_bind,
      Option.bind_some, total]

theorem read_utcoffset (utcoffset : Option Int)
    (valid : ∀ offset ∈ utcoffset, offset.natAbs < microsecondsPerDay) :
    readUtcoffset (utcoffset.elim [] offsetChars) = some utcoffset := by
  cases utcoffset with
  | none => rfl
  | some offset =>
    have sizeRead := read_offset offset.natAbs (valid offset rfl)
    by_cases negative : offset < 0
    · have restored : -(offset.natAbs : Int) = offset := by omega
      simp only [Option.elim, offsetChars, if_pos negative, readUtcoffset]
      rw [sizeRead]
      simp only [Option.bind_eq_bind, Option.bind_some, restored, if_true]
    · have restored : (offset.natAbs : Int) = offset := by omega
      simp only [Option.elim, offsetChars, if_neg negative, readUtcoffset]
      rw [sizeRead]
      simp only [Option.bind_eq_bind, Option.bind_some, restored, if_true]

theorem utcoffset_no_point (utcoffset : Option Int) :
    NoPoint (utcoffset.elim [] offsetChars) := by
  intro tail
  cases utcoffset with
  | none => simp
  | some offset =>
    by_cases negative : offset < 0
    · simp [offsetChars, negative]
    · simp [offsetChars, negative]

@[simp] theorem fromisoformat_isoformat (moment : DateTime) :
    fromisoformat? moment.isoformat = some moment := by
  obtain ⟨year, month, day, hour, minute, second, microsecond, utcoffset, valid⟩ := moment
  obtain ⟨yearRange, monthRange, dayRange, timeRange, offsetRange⟩ := id valid
  have longestMonth : daysInMonth year month ≤ 31 := by
    unfold daysInMonth
    split_ifs <;> omega
  have yearRead (rest : List Char) : read 10 4 0 (render 10 4 year ++ rest) = some (year, rest) :=
    read_render decimal_legible 4 year (by omega) rest
  have fractionRead := read_fraction microsecond timeRange.2.2.2
    (utcoffset.elim [] offsetChars) (utcoffset_no_point utcoffset)
  have offsetRead := read_utcoffset utcoffset offsetRange
  unfold fromisoformat? isoformat
  rw [String.toList_ofList]
  simp only [chars, List.append_assoc, List.cons_append, readDate, readTime, yearRead,
    read_two month (by omega), read_two day (by omega), read_two hour (by omega),
    read_two minute (by omega), read_two second (by omega), skip_cons,
    Option.bind_eq_bind, Option.bind_some, fractionRead, offsetRead, dif_pos valid]

theorem isoformat_injective {moment other : DateTime}
    (same : moment.isoformat = other.isoformat) : moment = other := by
  have parsed := congrArg fromisoformat? same
  rw [fromisoformat_isoformat, fromisoformat_isoformat] at parsed
  exact Option.some.inj parsed

/-- The first moment of the Unix era. -/
def epoch : DateTime := ⟨1970, 1, 1, 0, 0, 0, 0, some 0, by decide⟩

example : epoch.isoformat = "1970-01-01T00:00:00+00:00" := by decide

end DateTime

end Ois.Library
