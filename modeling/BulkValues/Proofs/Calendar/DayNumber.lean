/-
# Which day numbers are days

A day is found from its number by way of its year.  The year that is estimated from the mean length
of a year is at most one too early, and within the year the months are found by counting.  So a
number is that of a day exactly if it lies in one of the years of the calendar.
-/
import BulkValues.Calendar.Basic
import Mathlib.Data.Int.Notation
import Mathlib.Data.Nat.Notation
import Mathlib.Tactic.ByContra
import Mathlib.Tactic.Lemma

namespace BulkValues.Calendar

/-- A number that lies in a year of the calendar. -/
def IsDayNumber (n : ℤ) : Prop := daysBeforeYear firstYear ≤ n ∧ n < daysBeforeYear (lastYear + 1)

instance (n : ℤ) : Decidable (IsDayNumber n) := by
  unfold IsDayNumber
  infer_instance

/-- The year in which a day number lies. -/
def yearOf (n : ℤ) : ℤ :=
  let estimate := n * 400 / 146097 + 1
  if n < daysBeforeYear estimate then estimate - 1
  else if daysBeforeYear (estimate + 1) ≤ n then estimate + 1 else estimate

variable {n year year' : ℤ} {offset month : ℕ}

/-! ## Years -/

lemma daysBeforeYear_le (h : year ≤ year') : daysBeforeYear year ≤ daysBeforeYear year' := by
  simp only [daysBeforeYear]
  omega

/-- A year has 365 days, and a leap year one more. -/
lemma daysBeforeYear_succ (year : ℤ) :
    daysBeforeYear (year + 1) = daysBeforeYear year + if isLeapYear year then 366 else 365 := by
  have hleap : isLeapYear year = true ↔ year % 4 = 0 ∧ (year % 100 ≠ 0 ∨ year % 400 = 0) := by
    simp [isLeapYear]
  simp only [daysBeforeYear, hleap]
  split
  · omega
  · omega

lemma yearOf_spec (n : ℤ) : daysBeforeYear (yearOf n) ≤ n ∧ n < daysBeforeYear (yearOf n + 1) := by
  rw [yearOf]
  split
  · rename_i hearly
    simp only [daysBeforeYear] at *
    omega
  · rename_i hlate
    split
    · simp only [daysBeforeYear] at *
      omega
    · rename_i hnext
      exact ⟨Int.not_lt.mp hlate, Int.not_le.mp hnext⟩

/-- A number lies in the calendar if its year does. -/
lemma isDayNumber_iff_yearOf (n : ℤ) :
    IsDayNumber n ↔ firstYear ≤ yearOf n ∧ yearOf n ≤ lastYear := by
  obtain ⟨hfrom, hto⟩ := yearOf_spec n
  constructor
  · rintro ⟨hfirst, hlast⟩
    constructor
    · by_contra hbefore
      have hle : daysBeforeYear (yearOf n + 1) ≤ daysBeforeYear firstYear :=
        daysBeforeYear_le (by omega)
      omega
    · by_contra hafter
      have hle : daysBeforeYear (lastYear + 1) ≤ daysBeforeYear (yearOf n) :=
        daysBeforeYear_le (by omega)
      omega
  · rintro ⟨hfirst, hlast⟩
    have hle := daysBeforeYear_le hfirst
    have hle' : daysBeforeYear (yearOf n + 1) ≤ daysBeforeYear (lastYear + 1) :=
      daysBeforeYear_le (by omega)
    exact ⟨by omega, by omega⟩

/-! ## Months -/

lemma daysInMonth_le (year : ℤ) (month : ℕ) : daysInMonth year month ≤ 31 := by
  rw [daysInMonth]
  split
  · split
    · decide
    · decide
  · split
    · decide
    · decide

lemma daysInMonth_congr (h : isLeapYear year = isLeapYear year') (month : ℕ) :
    daysInMonth year month = daysInMonth year' month := by
  simp only [daysInMonth, h]

lemma daysBeforeMonth_congr (h : isLeapYear year = isLeapYear year') (month : ℕ) :
    daysBeforeMonth year month = daysBeforeMonth year' month := by
  rw [daysBeforeMonth, daysBeforeMonth]
  simp only [daysInMonth_congr h]

lemma monthAndDay_congr (h : isLeapYear year = isLeapYear year') (offset : ℕ) :
    monthAndDay year offset = monthAndDay year' offset := by
  have hbefore : daysBeforeMonth year = daysBeforeMonth year' := funext (daysBeforeMonth_congr h)
  rw [monthAndDay, monthAndDay, hbefore]

/-- A month and a day of it. -/
def IsDayOf (year : ℤ) (date : ℕ × ℕ) : Prop :=
  1 ≤ date.1 ∧ date.1 ≤ 12 ∧ 1 ≤ date.2 ∧ date.2 ≤ daysInMonth year date.1

instance (year : ℤ) (date : ℕ × ℕ) : Decidable (IsDayOf year date) := by
  unfold IsDayOf
  infer_instance

lemma isDayOf_congr (h : isLeapYear year = isLeapYear year') (offset : ℕ) :
    IsDayOf year (monthAndDay year offset) ↔ IsDayOf year' (monthAndDay year' offset) := by
  rw [monthAndDay_congr h, IsDayOf, IsDayOf, daysInMonth_congr h]

/-- Every place within a year is a day of a month: the years of either length are all alike. -/
lemma isDayOf_monthAndDay (h : offset < if isLeapYear year then 366 else 365) :
    IsDayOf year (monthAndDay year offset) := by
  have hleap : ∀ offset < 366, IsDayOf 2000 (monthAndDay 2000 offset) := by decide +kernel
  have hcommon : ∀ offset < 365, IsDayOf 2001 (monthAndDay 2001 offset) := by decide +kernel
  rcases hyear : isLeapYear year with _ | _
  · rw [hyear] at h
    exact (isDayOf_congr (hyear.trans (by decide)) offset).mpr (hcommon offset h)
  · rw [hyear] at h
    exact (isDayOf_congr (hyear.trans (by decide)) offset).mpr (hleap offset h)

/-- Whatever holds of the days of one year of either length holds of the days of every year. -/
lemma of_isDayOf {P : ℤ → ℕ → ℕ → Prop}
    (hcongr : ∀ year year' month day, isLeapYear year = isLeapYear year' →
      P year' month day → P year month day)
    (hleap : ∀ month < 13, ∀ day < 32, IsDayOf 2000 (month, day) → P 2000 month day)
    (hcommon : ∀ month < 13, ∀ day < 32, IsDayOf 2001 (month, day) → P 2001 month day)
    {day : ℕ} (h : IsDayOf year (month, day)) : P year month day := by
  have hmonth : month < 13 := Nat.lt_succ_of_le h.2.1
  have hday : day < 32 := Nat.lt_succ_of_le (Nat.le_trans h.2.2.2 (daysInMonth_le ..))
  rcases hyear : isLeapYear year with _ | _
  · have hsame : isLeapYear year = isLeapYear 2001 := hyear.trans (by decide)
    refine hcongr year 2001 month day hsame (hcommon month hmonth day hday ?_)
    rwa [IsDayOf, ← daysInMonth_congr hsame]
  · have hsame : isLeapYear year = isLeapYear 2000 := hyear.trans (by decide)
    refine hcongr year 2000 month day hsame (hleap month hmonth day hday ?_)
    rwa [IsDayOf, ← daysInMonth_congr hsame]

/-- A day of a year comes before its end. -/
lemma offset_lt {day : ℕ} (h : IsDayOf year (month, day)) :
    daysBeforeMonth year month + (day - 1) < if isLeapYear year then 366 else 365 := by
  refine of_isDayOf (P := fun year month day =>
    daysBeforeMonth year month + (day - 1) < if isLeapYear year then 366 else 365) ?_
    (by decide +kernel) (by decide +kernel) h
  intro year year' month day hsame hlt
  rwa [daysBeforeMonth_congr hsame, hsame]

/-- The month and the day are found from the place within the year. -/
lemma monthAndDay_offset {day : ℕ} (h : IsDayOf year (month, day)) :
    monthAndDay year (daysBeforeMonth year month + (day - 1)) = (month, day) := by
  refine of_isDayOf (P := fun year month day =>
    monthAndDay year (daysBeforeMonth year month + (day - 1)) = (month, day)) ?_
    (by decide +kernel) (by decide +kernel) h
  intro year year' month day hsame heq
  rwa [monthAndDay_congr hsame, daysBeforeMonth_congr hsame]

/-! ## Days -/

lemma ofDayNumber?_eq (n : ℤ) : Date.ofDayNumber? n =
    Date.ofYmd? (yearOf n) (monthAndDay (yearOf n) (n - daysBeforeYear (yearOf n)).toNat).1
      (monthAndDay (yearOf n) (n - daysBeforeYear (yearOf n)).toNat).2 := rfl

/-- A number is that of a day exactly if it lies in the calendar. -/
lemma isSome_ofDayNumber?_iff (n : ℤ) : (Date.ofDayNumber? n).isSome = true ↔ IsDayNumber n := by
  obtain ⟨hfrom, hto⟩ := yearOf_spec n
  have hlength := daysBeforeYear_succ (yearOf n)
  have hoffset : (n - daysBeforeYear (yearOf n)).toNat <
      if isLeapYear (yearOf n) then 366 else 365 := by
    split at hlength
    · rename_i hleap
      rw [if_pos hleap]
      omega
    · rename_i hcommon
      rw [if_neg hcommon]
      omega
  have hday := isDayOf_monthAndDay hoffset
  have hsome : ∀ year month day, (Date.ofYmd? year month day).isSome = true ↔
      IsDay year month day := by
    intro year month day
    simp [Date.ofYmd?]
  rw [ofDayNumber?_eq, hsome, isDayNumber_iff_yearOf, IsDay]
  exact ⟨fun h => ⟨h.1, h.2.1⟩, fun h => ⟨h.1, h.2, hday⟩⟩

/-- The days of its year before a day. -/
def Date.place (d : Date) : ℕ := daysBeforeMonth d.year d.month + (d.day - 1)

lemma Date.isDayOf (d : Date) : IsDayOf d.year (d.month, d.day) := d.isDay.2.2

lemma Date.ofYmd?_self (d : Date) : Date.ofYmd? d.year d.month d.day = some d := dif_pos d.isDay

/-- A day is in the calendar by its number: the number lies in the year of the day. -/
lemma Date.yearOf_dayNumber (d : Date) : yearOf d.dayNumber = d.year := by
  have hday : 1 ≤ d.day := d.isDayOf.2.2.1
  have hnumber : d.dayNumber = daysBeforeYear d.year + d.place := by
    rw [Date.dayNumber, Date.place]
    omega
  have hnext : d.dayNumber < daysBeforeYear (d.year + 1) := by
    rw [hnumber, daysBeforeYear_succ]
    have hoffset := offset_lt d.isDayOf
    rw [Date.place]
    split
    · rename_i hleap
      rw [if_pos hleap] at hoffset
      omega
    · rename_i hcommon
      rw [if_neg hcommon] at hoffset
      omega
  obtain ⟨hfrom, hto⟩ := yearOf_spec d.dayNumber
  rcases Int.lt_trichotomy (yearOf d.dayNumber) d.year with hlt | heq | hgt
  · have hle : daysBeforeYear (yearOf d.dayNumber + 1) ≤ daysBeforeYear d.year :=
      daysBeforeYear_le hlt
    omega
  · exact heq
  · have hle : daysBeforeYear (d.year + 1) ≤ daysBeforeYear (yearOf d.dayNumber) :=
      daysBeforeYear_le hgt
    omega

/-- A day is found again by its number. -/
lemma Date.ofDayNumber?_dayNumber (d : Date) : Date.ofDayNumber? d.dayNumber = some d := by
  have hday : 1 ≤ d.day := d.isDayOf.2.2.1
  have hplace : (d.dayNumber - daysBeforeYear d.year).toNat = d.place := by
    rw [Date.dayNumber, Date.place]
    omega
  rw [ofDayNumber?_eq, d.yearOf_dayNumber, hplace, Date.place, monthAndDay_offset d.isDayOf]
  exact d.ofYmd?_self

/-- Every number of microseconds within a day is a time of that day. -/
lemma isSome_ofSeconds? {micros : ℕ} (h : micros < 86400000000) :
    (TimeOfDay.ofSeconds? (micros / 1000000) (micros % 1000000 * 1000)).isSome = true := by
  have htime : IsTime (micros / 1000000) (micros % 1000000 * 1000) := by
    rw [IsTime]
    omega
  rw [TimeOfDay.ofSeconds?, dif_pos htime]
  rfl

end BulkValues.Calendar
