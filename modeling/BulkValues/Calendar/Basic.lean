/-
# Dates and times of day

Dates of the proleptic Gregorian calendar and times of day to the nanosecond, with leap
seconds.  A value of either type is valid by construction.  Days are counted from the year
one, so that dates and moments can be stored as distances from an epoch and taken back.
-/

namespace BulkValues.Calendar

-- The zero of a sum is the core library's, also where another one is in scope.
attribute [local instance (high)] Zero.ofOfNat0

/-- Whether a year of the proleptic Gregorian calendar has 366 days. -/
def isLeapYear (year : Int) : Bool :=
  year % 4 == 0 && (year % 100 != 0 || year % 400 == 0)

/-- The number of days in a month. -/
def daysInMonth (year : Int) (month : Nat) : Nat :=
  if month = 2 then if isLeapYear year then 29 else 28
  else if month = 4 ∨ month = 6 ∨ month = 9 ∨ month = 11 then 30 else 31

/-- The first year of the calendar. -/
def firstYear : Int := -262143

/-- The last year of the calendar. -/
def lastYear : Int := 262142

/-- Whether year, month and day name a day of the calendar. -/
def IsDay (year : Int) (month day : Nat) : Prop :=
  firstYear ≤ year ∧ year ≤ lastYear ∧ 1 ≤ month ∧ month ≤ 12 ∧ 1 ≤ day ∧
    day ≤ daysInMonth year month

instance (year : Int) (month day : Nat) : Decidable (IsDay year month day) := by
  unfold IsDay; infer_instance

/-- A day of the calendar. -/
structure Date where
  /-- The year; zero and below are before the common era. -/
  year : Int
  /-- One to twelve. -/
  month : Nat
  /-- One to the length of the month. -/
  day : Nat
  isDay : IsDay year month day
deriving DecidableEq

/-- The day with this year, month and day of the month, if there is one. -/
def Date.ofYmd? (year : Int) (month day : Nat) : Option Date :=
  if h : IsDay year month day then some ⟨year, month, day, h⟩ else none

/-- Whether a count of seconds since midnight and a count of nanoseconds name a time of day.
A nanosecond count from a thousand million up is a leap second, which only follows a
second 59. -/
def IsTime (seconds nanos : Nat) : Prop :=
  seconds < 86400 ∧ nanos < 2000000000 ∧ (1000000000 ≤ nanos → seconds % 60 = 59)

instance (seconds nanos : Nat) : Decidable (IsTime seconds nanos) := by
  unfold IsTime; infer_instance

/-- A time of day. -/
structure TimeOfDay where
  /-- Seconds since midnight. -/
  seconds : Nat
  /-- Nanoseconds within the second, a thousand million and more within a leap second. -/
  nanos : Nat
  isTime : IsTime seconds nanos
deriving DecidableEq

/-- The time of day with these seconds and nanoseconds, if there is one. -/
def TimeOfDay.ofSeconds? (seconds nanos : Nat) : Option TimeOfDay :=
  if h : IsTime seconds nanos then some ⟨seconds, nanos, h⟩ else none

/-- A date with a time of day. -/
structure DateTime where
  /-- The day. -/
  date : Date
  /-- The time on that day. -/
  time : TimeOfDay
deriving DecidableEq

/-! ## Counting days -/

/-- Days before the first of January of a year, counted from that of the year one. -/
def daysBeforeYear (year : Int) : Int :=
  365 * (year - 1) + (year - 1) / 4 - (year - 1) / 100 + (year - 1) / 400

/-- Days of a year before the first of a month. -/
def daysBeforeMonth (year : Int) (month : Nat) : Nat :=
  ((List.range (month - 1)).map fun m => daysInMonth year (m + 1)).sum

/-- The number of a day, counted from the first of January of the year one. -/
def Date.dayNumber (d : Date) : Int :=
  daysBeforeYear d.year + daysBeforeMonth d.year d.month + (d.day - 1)

/-- The month and day of the month at a distance from the start of a year. -/
def monthAndDay (year : Int) (offset : Nat) : Nat × Nat :=
  let month := ((List.range 12).filter fun m => daysBeforeMonth year (m + 1) ≤ offset).length
  (month, offset - daysBeforeMonth year month + 1)

/-- The day with a given number, if the calendar has it. The year is estimated from the mean
length of a year, which is off by at most one. -/
def Date.ofDayNumber? (n : Int) : Option Date :=
  let estimate := n * 400 / 146097 + 1
  let year := if n < daysBeforeYear estimate then estimate - 1
    else if daysBeforeYear (estimate + 1) ≤ n then estimate + 1 else estimate
  let (month, day) := monthAndDay year (n - daysBeforeYear year).toNat
  Date.ofYmd? year month day

/-- The moment `micros` microseconds after the midnight that starts day number `epoch`, if
the calendar has it. -/
def DateTime.ofMicros? (epoch micros : Int) : Option DateTime := do
  let perDay : Int := 86400000000
  let date ← Date.ofDayNumber? (epoch + micros / perDay)
  let rest := (micros % perDay).toNat
  let time ← TimeOfDay.ofSeconds? (rest / 1000000) (rest % 1000000 * 1000)
  pure ⟨date, time⟩

/-- The moment `seconds` earlier, if the calendar has it; a leap second stays one. -/
def DateTime.minusSeconds? (t : DateTime) (seconds : Int) : Option DateTime := do
  let total := t.time.seconds - seconds
  let date ← Date.ofDayNumber? (t.date.dayNumber + total / 86400)
  let time ← TimeOfDay.ofSeconds? (total % 86400).toNat t.time.nanos
  pure ⟨date, time⟩

end BulkValues.Calendar
