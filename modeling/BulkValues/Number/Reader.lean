/-
# Reading numbers

Two grammars.  Whole numbers are an optional sign and ASCII digits, within the bounds of
their type.  Floats add a point, an exponent and the words for the special values, in any
letter case; a decimal is rounded to the nearest float, a half to the even neighbour.
-/
import BulkValues.Number.Binary
import BulkValues.Text.Word

namespace BulkValues.Number

open BulkValues.Text

/-- The value of one ASCII digit. -/
def digitValue (c : Char) : Nat := c.toNat - '0'.toNat

/-- The number that a run of digits stands for. -/
def digitsValue (ds : List Char) : Nat := ds.foldl (fun n c => 10 * n + digitValue c) 0

/-- A run of at least one ASCII digit and nothing else. -/
def readDigits? (cs : List Char) : Option Nat :=
  if cs.isEmpty || !cs.all isAsciiDigit then none else some (digitsValue cs)

/-- A natural number below `bound`; a plus sign may stand in front. -/
def readNat? (bound : Nat) (cs : List Char) : Option Nat :=
  let digits := match cs with
    | '+' :: r => r
    | _ => cs
  (readDigits? digits).filter (· < bound)

/-- An integer from `-bound` up to but not including `bound`; a sign may stand in front. -/
def readInt? (bound : Nat) (cs : List Char) : Option Int :=
  match cs with
  | '-' :: r => (readDigits? r).bind fun n => if n ≤ bound then some (-(n : Int)) else none
  | _ => (readNat? bound cs).map Int.ofNat

/-- The float nearest to `digits * 10 ^ exp`. Exponents far outside the range of floats are
decided without computing the power. -/
def nearest (digits : Nat) (exp : Int) : Binary64 :=
  let lead := exp + (Nat.toDigits 10 digits).length
  if digits = 0 then .zero
  else if lead > 400 then .infinity
  else if lead < -400 then .zero
  else .ofFloat (Float.ofScientific digits (exp < 0) exp.natAbs)

/-- The exponent part of a float's text: nothing, or a mark, an optional sign and digits. -/
def readExponent? (cs : List Char) : Option Int :=
  match cs with
  | [] => some 0
  | e :: r =>
    if e == 'e' || e == 'E' then
      match r with
      | '-' :: ds => (readDigits? ds).map fun n => -(n : Int)
      | '+' :: ds => (readDigits? ds).map Int.ofNat
      | ds => (readDigits? ds).map Int.ofNat
    else none

/-- Digits with an optional point among them, then an optional exponent; at least one digit
stands before or after the point. -/
def readUnsignedFloat? (cs : List Char) : Option Binary64 :=
  let whole := cs.takeWhile isAsciiDigit
  let rest := cs.dropWhile isAsciiDigit
  let (places, rest) := match rest with
    | '.' :: r => (r.takeWhile isAsciiDigit, r.dropWhile isAsciiDigit)
    | _ => ([], rest)
  if whole.isEmpty && places.isEmpty then none
  else (readExponent? rest).map fun e =>
    nearest (digitsValue (whole ++ places)) (e - places.length)

/-- The words for the special values, in any letter case. -/
def readSpecialFloat? (cs : List Char) : Option Binary64 :=
  let word := cs.map Char.toLower
  if word = ['n', 'a', 'n'] then some .nan
  else if word = ['i', 'n', 'f'] || word = ['i', 'n', 'f', 'i', 'n', 'i', 't', 'y'] then
    some .infinity
  else none

/-- A float from its text, or nothing when the text is none. -/
def readFloat? (s : String) : Option Binary64 :=
  let unsigned (cs : List Char) := (readUnsignedFloat? cs).or (readSpecialFloat? cs)
  match s.toList with
  | '-' :: r => (unsigned r).map Binary64.neg
  | '+' :: r => unsigned r
  | cs => unsigned cs

end BulkValues.Number
