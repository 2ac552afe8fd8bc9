/-
# Dates and times are read back

The text of a date is read as that date, whatever follows it, and the text of a time as that time
if no digit and no point follows.  Years outside of four digits have a sign, and a leap second is
written as second 60; both come back.
-/
import BulkValues.Calendar.Text
import BulkValues.Proofs.Calendar.DayNumber
import BulkValues.Proofs.Number.Digits
import BulkValues.Proofs.Text.Stops
import Mathlib.Algebra.Group.Nat.Defs

namespace BulkValues.Calendar

open BulkValues.Number BulkValues.Text

variable {n width : ℕ} {next : List Char}

/-! ## Numbers -/

lemma toList_padded (width n : ℕ) : (padded width n).toList =
    List.replicate (width - (Nat.toDigits 10 n).length) '0' ++ Nat.toDigits 10 n :=
  String.toList_ofList

lemma isDigits_padded (width n : ℕ) : IsDigits (padded width n).toList := by
  rw [toList_padded]
  refine ⟨List.append_ne_nil_of_right_ne_nil _ Nat.toDigits_ne_nil, fun c hc => ?_⟩
  rcases List.mem_append.mp hc with hc | hc
  · exact isAsciiDigit_of_mem_replicate hc
  · exact isAsciiDigit_of_mem_toDigits hc

lemma digitsValue_padded (width n : ℕ) : digitsValue (padded width n).toList = n := by
  rw [toList_padded, digitsValue_replicate, digitsValue_toDigits]

/-- A number that fits is padded to the width. -/
lemma length_padded (hwidth : 0 < width) (hn : n < 10 ^ width) :
    (padded width n).toList.length = width := by
  have hle := (Nat.length_toDigits_le_iff (b := 10) (by decide) hwidth).mpr hn
  rw [toList_padded, List.length_append, List.length_replicate]
  omega

/-- As many digits are read as the number is wide. -/
lemma readNumber_padded (width n : ℕ) (hwidth : 0 < width) (hn : n < 10 ^ width)
    (next : List Char) :
    readNumber width ((padded width n).toList ++ next) = some (n, next) := by
  have hdigits := isDigits_padded width n
  have hlength := length_padded hwidth hn
  have htake : ((padded width n).toList ++ next).take width = (padded width n).toList :=
    List.take_left' hlength
  have hwhile : (padded width n).toList.takeWhile isAsciiDigit = (padded width n).toList :=
    List.takeWhile_eq_self_iff.mpr hdigits.2
  rw [readNumber, (hdigits.stopsAt_isBlank next).skipBlanks_eq, htake, hwhile,
    if_neg (by simp [hdigits.1]), digitsValue_padded, List.drop_left]

lemma skipBlanks_cons {c : Char} (h : isBlank c = false) (cs : List Char) :
    skipBlanks (c :: cs) = c :: cs := (stopsAt_cons h cs).skipBlanks_eq

lemma readMark_skipBlanks {c : Char} (h : isBlank c = false) (next : List Char) :
    readMark c (skipBlanks (c :: next)) = some next := by
  rw [skipBlanks_cons h, readMark, if_pos rfl]

/-! ## Dates -/

/-- A year with a sign may have any number of digits, and one without has four. -/
lemma readYear_yearText (year : ℤ) (hnext : StopsAt isAsciiDigit next) :
    readYear ((yearText year).toList ++ next) = some (year, next) := by
  rw [yearText]
  split
  · rename_i hshort
    have hnumber := readNumber_padded 4 year.toNat (by decide) (by omega) next
    have hyear : (year.toNat : ℤ) = year := Int.toNat_of_nonneg hshort.1
    have hdigits := isDigits_padded 4 year.toNat
    obtain ⟨c, r, hr⟩ := List.exists_cons_of_ne_nil hdigits.1
    have hc : isAsciiDigit c = true := hdigits.2 c (hr ▸ List.mem_cons_self ..)
    rw [hr, List.cons_append] at hnumber ⊢
    rw [readYear, skipBlanks_cons (isBlank_of_isAsciiDigit hc)]
    dsimp only
    split
    · rename_i heq
      cases heq
      exact absurd hc (by decide)
    · rename_i heq
      cases heq
      exact absurd hc (by decide)
    · rw [hnumber, Option.map_some, hyear]
  · rename_i hlong
    have hdigits := isDigits_padded 4 year.natAbs
    have hwhile := takeWhile_append_of_stopsAt hdigits.2 hnext
    have hne : (padded 4 year.natAbs).toList.isEmpty = false := by simp [hdigits.1]
    split
    · have hyear : -(year.natAbs : ℤ) = year := by omega
      rw [String.toList_append]
      change readYear ('-' :: ((padded 4 year.natAbs).toList ++ next)) = _
      rw [readYear, skipBlanks_cons (by decide)]
      simp only [hwhile, hne, Bool.false_eq_true, if_false, digitsValue_padded, List.drop_left,
        Option.map_some, hyear]
    · have hyear : (year.natAbs : ℤ) = year := by omega
      rw [String.toList_append]
      change readYear ('+' :: ((padded 4 year.natAbs).toList ++ next)) = _
      rw [readYear, skipBlanks_cons (by decide)]
      simp only [hwhile, hne, Bool.false_eq_true, if_false, digitsValue_padded, List.drop_left,
        Option.map_some, hyear]

/-- A date is read from its text, whatever follows. -/
lemma readDate_text (d : Date) (next : List Char) :
    readDate (d.text.toList ++ next) = some (d, next) := by
  have hle : d.day ≤ 31 := Nat.le_trans d.isDayOf.2.2.2 (daysInMonth_le ..)
  have hmonth := readNumber_padded 2 d.month (by decide)
    (Nat.lt_of_le_of_lt d.isDayOf.2.1 (by decide)) ('-' :: ((padded 2 d.day).toList ++ next))
  have hday := readNumber_padded 2 d.day (by decide)
    (Nat.lt_of_le_of_lt hle (by decide)) next
  have htext : d.text.toList ++ next = (yearText d.year).toList ++ '-' ::
      ((padded 2 d.month).toList ++ '-' :: ((padded 2 d.day).toList ++ next)) := by
    simp [Date.text]
  rw [htext, readDate, readYear_yearText d.year (stopsAt_cons (by decide) _)]
  simp only [Option.bind_eq_bind, Option.bind_some,
    readMark_skipBlanks (c := '-') (by decide), hmonth, hday, d.ofYmd?_self]
  rfl

lemma Date.read?_text (d : Date) : Date.read? d.text = some d := by
  have hread := readDate_text d []
  rw [List.append_nil] at hread
  rw [Date.read?, hread]
  rfl

/-! ## Times -/

/-- A kind of characters that a time may go on with. -/
def isTimeChar (c : Char) : Bool := isAsciiDigit c || c == '.'

lemma stopsAt_isAsciiDigit (h : StopsAt isTimeChar next) : StopsAt isAsciiDigit next := by
  intro c hc
  have hchar := h c hc
  rw [isTimeChar, Bool.or_eq_false_iff] at hchar
  exact hchar.1

/-- The digits of a fraction are filled up to nine. -/
lemma fractionNanos_padded (hwidth : 0 < width) (hnine : width ≤ 9) (hn : n < 10 ^ width) :
    fractionNanos (padded width n).toList = n * 10 ^ (9 - width) := by
  have hlength := length_padded hwidth hn
  have htake : (padded width n).toList.take 9 = (padded width n).toList :=
    List.take_of_length_le (by omega)
  rw [fractionNanos, htake, digitsValue_padded, hlength]

lemma readFraction_point (hwidth : 0 < width) (hnine : width ≤ 9) (hn : n < 10 ^ width)
    (hnext : StopsAt isTimeChar next) :
    readFraction (("." ++ padded width n).toList ++ next) = some (n * 10 ^ (9 - width), next) := by
  have hdigits := isDigits_padded width n
  have hwhile := takeWhile_append_of_stopsAt hdigits.2 (stopsAt_isAsciiDigit hnext)
  rw [String.toList_append]
  change readFraction ('.' :: ((padded width n).toList ++ next)) = _
  rw [readFraction, hwhile, if_neg (by simp [hdigits.1]), fractionNanos_padded hwidth hnine hn,
    List.drop_left]

/-- A fraction is read from the groups of digits that it needs. -/
lemma readFraction_fractionText (hn : n < 1000000000) (hnext : StopsAt isTimeChar next) :
    readFraction ((fractionText n).toList ++ next) = some (n, next) := by
  rw [fractionText]
  split
  · rename_i hzero
    rw [hzero]
    change readFraction next = _
    cases next with
    | nil => rfl
    | cons c r =>
      rw [readFraction.eq_2]
      rintro r' ⟨⟩
      exact absurd (hnext '.' rfl) (by decide)
  · split
    · rename_i hmilli
      rw [readFraction_point (by decide) (by decide) (by omega) hnext]
      congr 2
      omega
    · split
      · rename_i hmicro
        rw [readFraction_point (by decide) (by decide) (by omega) hnext]
        congr 2
        omega
      · rw [readFraction_point (by decide) (by decide) (by omega) hnext]
        congr 2
        omega

/-- A time is put together from its parts, in a leap second from those of the second before. -/
lemma TimeOfDay.ofParts?_parts (t : TimeOfDay) :
    ofParts? (t.seconds / 3600) (t.seconds / 60 % 60) (t.seconds % 60 + t.nanos / 1000000000)
      (t.nanos % 1000000000) = some t := by
  obtain ⟨hseconds, hnanos, hleap⟩ := t.isTime
  have hself : ∀ seconds nanos, seconds = t.seconds → nanos = t.nanos →
      ofSeconds? seconds nanos = some t := by
    rintro _ _ rfl rfl
    exact dif_pos t.isTime
  by_cases h : 1000000000 ≤ t.nanos
  · have hlast := hleap h
    rw [ofParts?, if_pos (by omega), if_pos (by omega)]
    exact hself _ _ (by omega) (by omega)
  · rw [ofParts?, if_pos (by omega), if_neg (by omega)]
    exact hself _ _ (by omega) (by omega)

section Times

variable (t : TimeOfDay)

lemma toList_timeText (next : List Char) : t.text.toList ++ next =
    (padded 2 (t.seconds / 3600)).toList ++ ':' :: ((padded 2 (t.seconds / 60 % 60)).toList ++
      ':' :: ((padded 2 (t.seconds % 60 + t.nanos / 1000000000)).toList ++
        ((fractionText (t.nanos % 1000000000)).toList ++ next))) := by
  simp [TimeOfDay.text]

lemma readHourMinute_padded (rest : List Char) :
    readHourMinute ((padded 2 (t.seconds / 3600)).toList ++
      ':' :: ((padded 2 (t.seconds / 60 % 60)).toList ++ rest)) =
      some ((t.seconds / 3600, t.seconds / 60 % 60), rest) := by
  obtain ⟨hseconds, -, -⟩ := t.isTime
  have hhour := readNumber_padded 2 (t.seconds / 3600) (by decide) (by omega)
    (':' :: ((padded 2 (t.seconds / 60 % 60)).toList ++ rest))
  have hminute := readNumber_padded 2 (t.seconds / 60 % 60) (by decide) (by omega)
    rest
  simp only [readHourMinute, hhour, Option.bind_eq_bind, Option.bind_some,
    readMark_skipBlanks (c := ':') (by decide), hminute]
  rfl

lemma readSecond_padded (hnext : StopsAt isTimeChar next) :
    readSecond (':' :: ((padded 2 (t.seconds % 60 + t.nanos / 1000000000)).toList ++
      ((fractionText (t.nanos % 1000000000)).toList ++ next))) =
      some ((t.seconds % 60 + t.nanos / 1000000000, t.nanos % 1000000000), skipBlanks next) := by
  obtain ⟨-, hnanos, -⟩ := t.isTime
  have hsecond := readNumber_padded 2 (t.seconds % 60 + t.nanos / 1000000000) (by decide)
    (by omega)
    ((fractionText (t.nanos % 1000000000)).toList ++ next)
  have hfraction := readFraction_fractionText (n := t.nanos % 1000000000) (by omega) hnext
  simp only [readSecond, readMark_skipBlanks (c := ':') (by decide), Option.bind_eq_bind,
    Option.bind_some, hsecond, hfraction]
  rfl

/-- A time is read from its text, and blanks after it are skipped. -/
lemma readTime_text (hnext : StopsAt isTimeChar next) :
    readTime (t.text.toList ++ next) = some (t, skipBlanks next) := by
  rw [toList_timeText, readTime, readHourMinute_padded]
  simp only [Option.bind_eq_bind, Option.bind_some, readSecond_padded t hnext, t.ofParts?_parts]
  rfl

lemma TimeOfDay.read?_text : TimeOfDay.read? t.text = some t := by
  have htext := toList_timeText t []
  rw [List.append_nil] at htext
  rw [TimeOfDay.read?, htext, readHourMinute_padded]
  simp only [Option.bind_eq_bind, Option.bind_some, readSecond_padded t (stopsAt_nil _),
    Option.getD_some, t.ofParts?_parts]
  rfl

end Times

/-! ## Moments -/

section Moments

variable (t : DateTime)

lemma toList_isoText (next : List Char) :
    t.isoText.toList ++ next = t.date.text.toList ++ 'T' :: (t.time.text.toList ++ next) := by
  simp [DateTime.isoText]

lemma DateTime.read?_isoText : DateTime.read? t.isoText = some t := by
  have htext := toList_isoText t []
  rw [List.append_nil] at htext
  rw [DateTime.read?, htext, readDate_text]
  simp only [Option.bind_eq_bind, Option.bind_some, readMark_skipBlanks (c := 'T') (by decide),
    readTime_text t.time (stopsAt_nil _)]
  rfl

/-- Nothing earlier is the same moment, also within a leap second. -/
lemma DateTime.minusSeconds?_zero : t.minusSeconds? 0 = some t := by
  obtain ⟨hseconds, hnanos, hleap⟩ := t.time.isTime
  have hday : t.date.dayNumber + ((t.time.seconds : ℤ) - 0) / 86400 = t.date.dayNumber := by omega
  have hrest : (((t.time.seconds : ℤ) - 0) % 86400).toNat = t.time.seconds := by omega
  have htime : TimeOfDay.ofSeconds? t.time.seconds t.time.nanos = some t.time :=
    dif_pos t.time.isTime
  rw [DateTime.minusSeconds?]
  simp only [hday, hrest, t.date.ofDayNumber?_dayNumber, htime, Option.bind_eq_bind,
    Option.bind_some]
  rfl

lemma DateTime.readInstant?_isoText : DateTime.readInstant? (t.isoText ++ "Z") = some t := by
  have htext : (t.isoText ++ "Z").toList =
      t.date.text.toList ++ 'T' :: (t.time.text.toList ++ ['Z']) := by
    rw [String.toList_append]
    exact toList_isoText t ['Z']
  have hoffset : readOffset (skipBlanks (skipBlanks ['Z'])) = some (0, []) := by decide
  rw [DateTime.readInstant?, htext, readDate_text]
  simp only [Option.bind_eq_bind, Option.bind_some,
    readTime_text t.time (stopsAt_cons (c := 'Z') (by decide) []), hoffset]
  exact t.minusSeconds?_zero

end Moments

end BulkValues.Calendar
