/-
# TOML scalars

Strings in four notations, numbers, booleans, dates and times of day.  A reader takes the
characters before it and returns a value with the characters left, or nothing.
-/
import BulkValues.Number.Reader
import BulkValues.Text.Hex
import BulkValues.Toml.Basic

namespace BulkValues.Toml

open BulkValues.Number BulkValues.Text

-- The power is the core library's, also where another one is in scope.
attribute [local instance (high)] instPowNat

/-- The blanks inside a line. -/
def isSpace (c : Char) : Bool := c == ' ' || c == '\t'

/-- The text after blanks. -/
def skipSpaces (cs : List Char) : List Char := cs.dropWhile isSpace

/-- Whether a character may stand in a comment or a string: no control character but the
tabulator. -/
def isPrintable (c : Char) : Bool := c == '\t' || (0x20 ≤ c.toNat && c.toNat != 0x7F)

/-! ## Strings -/

/-- The character that a letter stands for after a backslash. -/
def unescape? : Char → Option Char
  | 'b' => some '\x08'
  | 'f' => some '\x0c'
  | 'n' => some '\n'
  | 'r' => some '\r'
  | 't' => some '\t'
  | '"' => some '"'
  | '\\' => some '\\'
  | _ => none

/-- The character of a number in hexadecimal digits. -/
def scalar? (digits : List Char) : Option Char := do
  let values ← digits.mapM hexValue?
  let n := values.foldl (fun n d => 16 * n + d) 0
  if h : n.isValidChar then some (Char.ofNatAux n h) else none

/-- A character before what a reader found. -/
def prepend (c : Char) (found : Option (List Char × List Char)) :
    Option (List Char × List Char) :=
  found.map fun p => (c :: p.1, p.2)

/-- The characters of a string on one line, after its opening quote. -/
def readBasic : List Char → Option (List Char × List Char)
  | '"' :: r => some ([], r)
  | '\\' :: 'u' :: a :: b :: c :: d :: r =>
    (scalar? [a, b, c, d]).bind fun ch => prepend ch (readBasic r)
  | '\\' :: 'U' :: a :: b :: c :: d :: e :: f :: g :: h :: r =>
    (scalar? [a, b, c, d, e, f, g, h]).bind fun ch => prepend ch (readBasic r)
  | '\\' :: e :: r => (unescape? e).bind fun ch => prepend ch (readBasic r)
  | c :: r => if isPrintable c && c != '\\' then prepend c (readBasic r) else none
  | [] => none

/-- Whether a line ends here, but for blanks. -/
def endsLine (cs : List Char) : Bool :=
  match skipSpaces cs with
  | '\n' :: _ => true
  | '\r' :: '\n' :: _ => true
  | _ => false

/-- The characters of a string on several lines, after its opening quotes.  After a backslash at
the end of a line blanks and line ends are skipped.  One or two quotes may stand before the
closing ones. -/
def readMultiline (skipping : Bool) : List Char → Option (List Char × List Char)
  | '"' :: '"' :: '"' :: '"' :: '"' :: r => some (['"', '"'], r)
  | '"' :: '"' :: '"' :: '"' :: r => some (['"'], r)
  | '"' :: '"' :: '"' :: r => some ([], r)
  | '\\' :: 'u' :: a :: b :: c :: d :: r =>
    (scalar? [a, b, c, d]).bind fun ch => prepend ch (readMultiline false r)
  | '\\' :: 'U' :: a :: b :: c :: d :: e :: f :: g :: h :: r =>
    (scalar? [a, b, c, d, e, f, g, h]).bind fun ch => prepend ch (readMultiline false r)
  | '\r' :: '\n' :: r =>
    if skipping then readMultiline true r else prepend '\n' (readMultiline false r)
  | '\\' :: e :: r =>
    match unescape? e with
    | some ch => prepend ch (readMultiline false r)
    | none => if endsLine (e :: r) then readMultiline true (e :: r) else none
  | c :: r =>
    if skipping && (isSpace c || c == '\n') then readMultiline true r
    else if (isPrintable c || c == '\n') && c != '\\' then prepend c (readMultiline false r)
    else none
  | [] => none

/-- The characters of a verbatim string on one line, after its opening quote. -/
def readLiteral : List Char → Option (List Char × List Char)
  | '\'' :: r => some ([], r)
  | c :: r => if isPrintable c then prepend c (readLiteral r) else none
  | [] => none

/-- The characters of a verbatim string on several lines, after its opening quotes. -/
def readMultilineLiteral : List Char → Option (List Char × List Char)
  | '\'' :: '\'' :: '\'' :: '\'' :: '\'' :: r => some (['\'', '\''], r)
  | '\'' :: '\'' :: '\'' :: '\'' :: r => some (['\''], r)
  | '\'' :: '\'' :: '\'' :: r => some ([], r)
  | '\r' :: '\n' :: r => prepend '\n' (readMultilineLiteral r)
  | c :: r =>
    if isPrintable c || c == '\n' then prepend c (readMultilineLiteral r) else none
  | [] => none

/-- The text after a line end that stands right at the start. -/
def skipLineEnd : List Char → List Char
  | '\n' :: r => r
  | '\r' :: '\n' :: r => r
  | cs => cs

/-- A string, from its opening quote on. -/
def readString (cs : List Char) : Option (List Char × List Char) :=
  match cs with
  | '"' :: '"' :: '"' :: r => readMultiline false (skipLineEnd r)
  | '"' :: r => readBasic r
  | '\'' :: '\'' :: '\'' :: r => readMultilineLiteral (skipLineEnd r)
  | '\'' :: r => readLiteral r
  | _ => none

/-! ## Numbers -/

/-- Digits of a class with single underscores between them; the digits without the underscores,
and the text after them. -/
def digitRun (isDigit : Char → Bool) : List Char → List Char × List Char
  | '_' :: d :: r =>
    if isDigit d then (d :: (digitRun isDigit r).1, (digitRun isDigit r).2)
    else ([], '_' :: d :: r)
  | d :: r =>
    if isDigit d then (d :: (digitRun isDigit r).1, (digitRun isDigit r).2) else ([], d :: r)
  | [] => ([], [])

/-- A run of digits that starts with a digit. -/
def readRun (isDigit : Char → Bool) (cs : List Char) : Option (List Char × List Char) :=
  match cs with
  | d :: _ => if isDigit d then some (digitRun isDigit cs) else none
  | [] => none

/-- The digits of a whole number without useless zeros. -/
def readWhole (cs : List Char) : Option (List Char × List Char) :=
  match cs with
  | '0' :: r => some (['0'], r)
  | _ => readRun isAsciiDigit cs

/-- The exponent of a float: its mark, an optional sign and digits. -/
def readExponent (cs : List Char) : Option (List Char × List Char) :=
  match cs with
  | e :: r =>
    if e == 'e' || e == 'E' then
      match r with
      | '+' :: r => (readRun isAsciiDigit r).map fun p => ('e' :: p.1, p.2)
      | '-' :: r => (readRun isAsciiDigit r).map fun p => ('e' :: '-' :: p.1, p.2)
      | r => (readRun isAsciiDigit r).map fun p => ('e' :: p.1, p.2)
    else none
  | [] => none

/-- What makes a number a float: places, an exponent, or both.  Nothing stands for a number
without either. -/
def readFraction (cs : List Char) : Option (List Char × List Char) :=
  match cs with
  | '.' :: r => do
    let (places, rest) ← readRun isAsciiDigit r
    let point := '.' :: places
    match readExponent rest with
    | some (e, rest) => pure (point ++ e, rest)
    | none => pure (point, rest)
  | _ =>
    match readExponent cs with
    | some found => some found
    | none => some ([], cs)

/-- An integer of 64 bits. -/
def integer? (n : Int) : Option Toml :=
  if -(2 : Int) ^ (63 : Nat) ≤ n ∧ n < (2 : Int) ^ (63 : Nat) then some (integer n) else none

/-- The words for the special floats. -/
def readSpecial (negative : Bool) (cs : List Char) : Option (Toml × List Char) :=
  match cs with
  | 'i' :: 'n' :: 'f' :: r =>
    some (float (if negative then Binary64.infinity.neg else .infinity), r)
  | 'n' :: 'a' :: 'n' :: r => some (float .nan, r)
  | _ => none

/-- A decimal number after its sign.  A float beyond all floats is refused unless it is
negative. -/
def readDecimal (negative : Bool) (cs : List Char) : Option (Toml × List Char) := do
  let (whole, rest) ← readWhole cs
  let (fraction, rest) ← readFraction rest
  if fraction.isEmpty then
    let size : Int := digitsValue whole
    let v ← integer? (if negative then -size else size)
    pure (v, rest)
  else
    let x ← readUnsignedFloat? (whole ++ fraction)
    if negative then pure (float x.neg, rest)
    else if x.isInfinite then none
    else pure (float x, rest)

/-- Digits of another base after their mark. -/
def readBase (base : Nat) (cs : List Char) : Option (Toml × List Char) := do
  let isDigit := fun c => match hexValue? c with
    | some d => d < base
    | none => false
  let (digits, rest) ← readRun isDigit cs
  let n := digits.foldl (fun n c => base * n + (hexValue? c).getD 0) 0
  let v ← integer? n
  pure (v, rest)

/-- A number. -/
def readNumber (cs : List Char) : Option (Toml × List Char) :=
  match cs with
  | '0' :: 'x' :: r => readBase 16 r
  | '0' :: 'o' :: r => readBase 8 r
  | '0' :: 'b' :: r => readBase 2 r
  | '+' :: r => (readSpecial false r).or (readDecimal false r)
  | '-' :: r => (readSpecial true r).or (readDecimal true r)
  | _ => (readSpecial false cs).or (readDecimal false cs)

/-! ## Dates -/

/-- A number of exactly `width` digits between two bounds. -/
def readField (width low high : Nat) (cs : List Char) : Option (Nat × List Char) :=
  let digits := cs.take width
  if digits.length = width ∧ digits.all isAsciiDigit ∧ low ≤ digitsValue digits ∧
      digitsValue digits ≤ high then
    some (digitsValue digits, cs.drop width)
  else none

/-- A character that must come next. -/
def readMark (mark : Char) (cs : List Char) : Option (List Char) :=
  match cs with
  | c :: r => if c = mark then some r else none
  | [] => none

/-- A number with leading zeros up to a width. -/
def padded (width n : Nat) : List Char :=
  let digits := Nat.toDigits 10 n
  List.replicate (width - digits.length) '0' ++ digits

/-- The length of a month. -/
def monthLength (year month : Nat) : Nat :=
  if month = 2 then
    if year % 4 = 0 ∧ (year % 100 ≠ 0 ∨ year % 400 = 0) then 29 else 28
  else if month = 4 ∨ month = 6 ∨ month = 9 ∨ month = 11 then 30 else 31

/-- A day of the calendar. -/
def readDay (cs : List Char) : Option (List Char × List Char) := do
  let (year, r) ← readField 4 0 9999 cs
  let r ← readMark '-' r
  let (month, r) ← readField 2 1 12 r
  let r ← readMark '-' r
  let (day, r) ← readField 2 1 (monthLength year month) r
  pure (padded 4 year ++ '-' :: padded 2 month ++ '-' :: padded 2 day, r)

/-- A fraction of a second, to at most nine places, without zeros at its end. -/
def readSecondFraction (cs : List Char) : Option (List Char × List Char) :=
  match cs with
  | '.' :: r =>
    let digits := r.takeWhile isAsciiDigit
    if digits.isEmpty then none
    else
      let kept := ((digits.take 9).reverse.dropWhile (· == '0')).reverse
      some (if kept.isEmpty then [] else '.' :: kept, r.dropWhile isAsciiDigit)
  | _ => some ([], cs)

/-- A time of day. -/
def readTime (cs : List Char) : Option (List Char × List Char) := do
  let (hour, r) ← readField 2 0 23 cs
  let r ← readMark ':' r
  let (minute, r) ← readField 2 0 59 r
  let r ← readMark ':' r
  let (second, r) ← readField 2 0 60 r
  let (fraction, r) ← readSecondFraction r
  pure (padded 2 hour ++ ':' :: padded 2 minute ++ ':' :: padded 2 second ++ fraction, r)

/-- The distance from universal time, if one is given. -/
def readOffset (cs : List Char) : Option (List Char × List Char) :=
  match cs with
  | 'Z' :: r => some (['Z'], r)
  | 'z' :: r => some (['Z'], r)
  | sign :: rest =>
    if sign == '+' || sign == '-' then do
      let (hour, r) ← readField 2 0 23 rest
      let r ← readMark ':' r
      let (minute, r) ← readField 2 0 59 r
      let shown := if hour = 0 ∧ minute = 0 then '+' else sign
      pure (shown :: padded 2 hour ++ ':' :: padded 2 minute, r)
    else some ([], sign :: rest)
  | [] => some ([], [])

/-- A day, with a time of day and an offset if they follow. -/
def readDate (cs : List Char) : Option (Toml × List Char) := do
  let (day, rest) ← readDay cs
  let alone : Toml × List Char := (date (String.ofList day), rest)
  match rest with
  | mark :: r =>
    if mark == 'T' || mark == 't' || mark == ' ' then
      match readTime r with
      | some (time, r) =>
        let (offset, r) ← readOffset r
        pure (date (String.ofList (day ++ 'T' :: time ++ offset)), r)
      | none => pure alone
    else pure alone
  | [] => pure alone

/-- A date, a time of day or a number. -/
def readPlain (cs : List Char) : Option (Toml × List Char) :=
  match readDate cs with
  | some found => some found
  | none =>
    match readTime cs with
    | some (time, rest) => some (date (String.ofList time), rest)
    | none => readNumber cs

end BulkValues.Toml
