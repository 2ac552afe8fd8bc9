/-
# Dates and times as text

Dates are written year-month-day; a year outside the four-digit range carries its sign.
Times have a fraction of three, six or nine digits when there is one, and a leap second is
second 60.  Reading accepts what is written, and also blanks between the parts, fewer
digits, and for moments the offset from the universal time.
-/
import BulkValues.Calendar.Basic
import BulkValues.Number.Reader
import BulkValues.Text.Blank

namespace BulkValues.Calendar

open BulkValues.Text BulkValues.Number

-- The power is the core library's, also where another one is in scope.
attribute [local instance (high)] instPowNat

/-- A number in at least `width` digits. -/
def padded (width n : Nat) : String :=
  let ds := Nat.toDigits 10 n
  String.ofList (List.replicate (width - ds.length) '0' ++ ds)

/-! ## Writing -/

/-- A year: four digits, or a sign and at least four digits outside the range they cover. -/
def yearText (year : Int) : String :=
  if 0 ≤ year ∧ year ≤ 9999 then padded 4 year.toNat
  else (if year < 0 then "-" else "+") ++ padded 4 year.natAbs

/-- Year, month and day with hyphens. -/
def Date.text (d : Date) : String :=
  yearText d.year ++ "-" ++ padded 2 d.month ++ "-" ++ padded 2 d.day

/-- The fraction of a second in as few groups of three digits as it takes. -/
def fractionText (nanos : Nat) : String :=
  if nanos = 0 then ""
  else if nanos % 1000000 = 0 then "." ++ padded 3 (nanos / 1000000)
  else if nanos % 1000 = 0 then "." ++ padded 6 (nanos / 1000)
  else "." ++ padded 9 nanos

/-- Hour, minute, second and fraction; a leap second is written as second 60. -/
def TimeOfDay.text (t : TimeOfDay) : String :=
  let leap := t.nanos / 1000000000
  padded 2 (t.seconds / 3600) ++ ":" ++ padded 2 (t.seconds / 60 % 60) ++ ":" ++
    padded 2 (t.seconds % 60 + leap) ++ fractionText (t.nanos % 1000000000)

/-- Date and time with a space between them. -/
def DateTime.text (t : DateTime) : String := t.date.text ++ " " ++ t.time.text

/-- Date and time with the letter T between them. -/
def DateTime.isoText (t : DateTime) : String := t.date.text ++ "T" ++ t.time.text

/-! ## Reading -/

/-- Up to `width` digits after optional blanks, and at least one. -/
def readNumber (width : Nat) (cs : List Char) : Option (Nat × List Char) :=
  let cs := skipBlanks cs
  let ds := (cs.take width).takeWhile isAsciiDigit
  if ds.isEmpty then none else some (digitsValue ds, cs.drop ds.length)

/-- A year after optional blanks: up to four digits, or a sign and any number of them. -/
def readYear (cs : List Char) : Option (Int × List Char) :=
  let cs := skipBlanks cs
  let signed (r : List Char) : Option (Nat × List Char) :=
    let ds := r.takeWhile isAsciiDigit
    if ds.isEmpty then none else some (digitsValue ds, r.drop ds.length)
  match cs with
  | '-' :: r => (signed r).map fun p => (-(p.1 : Int), p.2)
  | '+' :: r => (signed r).map fun p => ((p.1 : Int), p.2)
  | _ => (readNumber 4 cs).map fun p => ((p.1 : Int), p.2)

/-- The character `c` itself. -/
def readMark (c : Char) : List Char → Option (List Char)
  | d :: r => if d = c then some r else none
  | [] => none

/-- Year, month and day with hyphens, blanks allowed between them. -/
def readDate (cs : List Char) : Option (Date × List Char) := do
  let (year, cs) ← readYear cs
  let cs ← readMark '-' (skipBlanks cs)
  let (month, cs) ← readNumber 2 cs
  let cs ← readMark '-' (skipBlanks cs)
  let (day, cs) ← readNumber 2 cs
  let date ← Date.ofYmd? year month day
  pure (date, cs)

/-- A date and nothing else. -/
def Date.read? (s : String) : Option Date := do
  let (date, cs) ← readDate s.toList
  if (skipBlanks cs).isEmpty then some date else none

/-- The nanoseconds that a fraction's digits stand for; digits after the ninth are ignored. -/
def fractionNanos (ds : List Char) : Nat :=
  let kept := ds.take 9
  digitsValue kept * 10 ^ (9 - kept.length)

/-- An optional fraction: a point and at least one digit. -/
def readFraction (cs : List Char) : Option (Nat × List Char) :=
  match cs with
  | '.' :: r =>
    let ds := r.takeWhile isAsciiDigit
    if ds.isEmpty then none else some (fractionNanos ds, r.drop ds.length)
  | _ => some (0, cs)

/-- The time of day with these parts; second 60 is a leap second. -/
def TimeOfDay.ofParts? (hour minute second nanos : Nat) : Option TimeOfDay :=
  if hour < 24 ∧ minute < 60 ∧ second ≤ 60 then
    if second = 60 then TimeOfDay.ofSeconds? (hour * 3600 + minute * 60 + 59) (1000000000 + nanos)
    else TimeOfDay.ofSeconds? (hour * 3600 + minute * 60 + second) nanos
  else none

/-- Hour and minute with a colon. -/
def readHourMinute (cs : List Char) : Option ((Nat × Nat) × List Char) := do
  let (hour, cs) ← readNumber 2 cs
  let cs ← readMark ':' (skipBlanks cs)
  let (minute, cs) ← readNumber 2 cs
  pure ((hour, minute), cs)

/-- A colon, the second and an optional fraction, then blanks. -/
def readSecond (cs : List Char) : Option ((Nat × Nat) × List Char) := do
  let cs ← readMark ':' (skipBlanks cs)
  let (second, cs) ← readNumber 2 cs
  let (nanos, cs) ← readFraction cs
  pure ((second, nanos), skipBlanks cs)

/-- A time of day with its seconds. -/
def readTime (cs : List Char) : Option (TimeOfDay × List Char) := do
  let ((hour, minute), cs) ← readHourMinute cs
  let ((second, nanos), cs) ← readSecond cs
  let time ← TimeOfDay.ofParts? hour minute second nanos
  pure (time, cs)

/-- A time of day and nothing else; the seconds may be left out. -/
def TimeOfDay.read? (s : String) : Option TimeOfDay := do
  let ((hour, minute), cs) ← readHourMinute s.toList
  let ((second, nanos), cs) := (readSecond cs).getD ((0, 0), cs)
  if (skipBlanks cs).isEmpty then TimeOfDay.ofParts? hour minute second nanos else none

/-- A date, the letter T and a time with its seconds, and nothing else. -/
def DateTime.read? (s : String) : Option DateTime := do
  let (date, cs) ← readDate s.toList
  let cs ← readMark 'T' (skipBlanks cs)
  let (time, cs) ← readTime cs
  if cs.isEmpty then some ⟨date, time⟩ else none

/-- Exactly two digits. -/
def readTwoDigits : List Char → Option (Nat × List Char)
  | a :: b :: r => if isAsciiDigit a && isAsciiDigit b then some (digitsValue [a, b], r) else none
  | _ => none

/-- An offset from the universal time in seconds: the letter Z or the word UTC, or a sign,
two digits of hours and two of minutes with blanks or colons between them. -/
def readOffset (cs : List Char) : Option (Int × List Char) :=
  let hoursMinutes (r : List Char) : Option (Nat × List Char) := do
    let (hours, r) ← readTwoDigits r
    let (minutes, r) ← readTwoDigits (r.dropWhile fun c => c == ':' || isBlank c)
    if minutes < 60 then some (hours * 3600 + minutes * 60, r) else none
  if (cs.take 3).map Char.toLower = ['u', 't', 'c'] then some (0, cs.drop 3)
  else match cs with
    | 'Z' :: r => some (0, r)
    | 'z' :: r => some (0, r)
    | '+' :: r => (hoursMinutes r).map fun p => ((p.1 : Int), p.2)
    | '-' :: r => (hoursMinutes r).map fun p => (-(p.1 : Int), p.2)
    | '\u2212' :: r => (hoursMinutes r).map fun p => (-(p.1 : Int), p.2)
    | _ => none

/-- A moment: a date, the letter T or a space, a time with its seconds and an offset of less
than a day, taken to universal time. -/
def DateTime.readInstant? (s : String) : Option DateTime := do
  let (date, cs) ← readDate s.toList
  let cs ← match cs with
    | 't' :: r => some r
    | 'T' :: r => some r
    | ' ' :: r => some r
    | _ => none
  let (time, cs) ← readTime cs
  let (offset, cs) ← readOffset (skipBlanks cs)
  if (skipBlanks cs).isEmpty && offset.natAbs < 86400 then
    DateTime.minusSeconds? ⟨date, time⟩ offset
  else none

end BulkValues.Calendar
