/-
# The preferences of columns

A column may prefer a type, and a value that is put into it is converted if that loses
nothing.  A text column turns numbers into text; a key column takes integers, and what is
exactly one as a float or as text.
-/
import BulkValues.Number.Rounded
import BulkValues.Sqlite.Constant

namespace BulkValues.Sqlite

open BulkValues.Number BulkValues.Text

-- The power is the core library's, also where another one is in scope.
attribute [local instance (high)] instPowNat

/-- A float as a text column keeps it: fifteen digits, always with a point, and an exponent of
at least two digits from `1e15` on and below `1e-4`. -/
def realText (x : Binary64) : String :=
  if x.isInfinite then (if x.isNegative then "-Inf" else "Inf")
  else if x.isZero then "0.0"
  else
    let d := x.magnitude.rounded 15
    let (ds, zeros) := stripZeros (digitsOf d.digits)
    let exp := d.exp + zeros
    let lead := exp + ds.length - 1
    let sign := if x.isNegative then ['-'] else []
    let body :=
      if -4 ≤ lead ∧ lead < 15 then layoutPositional true ds exp
      else
        let places := if ds.length < 2 then ['0'] else ds.drop 1
        let power := digitsOf lead.natAbs
        ds.take 1 ++ '.' :: places ++ 'e' :: (if lead < 0 then '-' else '+') ::
          (if power.length < 2 then '0' :: power else power)
    String.ofList (sign ++ body)

namespace Stored

/-- A value in a text column. -/
def asText : Stored → Stored
  | integer n => text (toString n.toInt)
  | real x => text (realText x)
  | s => s

/-- White space that may stand around a number in a text. -/
def isNumberBlank (c : Char) : Bool := c == ' ' || ('\t' ≤ c && c ≤ '\r')

/-- The number that a text is, with white space around it. -/
def readNumber? (s : String) : Option Stored :=
  let cs := s.toList.dropWhile isNumberBlank
  let cs := (cs.reverse.dropWhile isNumberBlank).reverse
  let (negative, cs) := match cs with
    | '-' :: r => (true, r)
    | '+' :: r => (false, r)
    | _ => (false, cs)
  match readDigits? cs with
  | some n =>
    let n : Int := if negative then -(n : Int) else n
    if -(2 ^ (63 : Nat)) ≤ n ∧ n < 2 ^ (63 : Nat) then some (.ofInt n)
    else some (ofFloatText negative cs)
  | none => (readUnsignedFloat? cs).map fun _ => ofFloatText negative cs

/-- The integer that a value is, with floats and texts that are exactly one. The two ends of
the range are not reached by floats. -/
def toInteger? : Stored → Option Int64
  | integer n => some n
  | real x => fromReal x
  | text s =>
    match readNumber? s with
    | some (.integer n) => some n
    | some (.real x) => fromReal x
    | _ => none
  | _ => none
where
  /-- The integer that a float is exactly. -/
  fromReal (x : Binary64) : Option Int64 :=
    (x.toInt?.filter fun n => -(2 ^ (63 : Nat)) < n ∧ n < 2 ^ (63 : Nat) - 1).map Int64.ofInt

/-- The least integer that is not below a value; `none` if no integer is so large. Texts that
are no number and bytes are above all numbers. -/
def lowerBound? : Stored → Option Int
  | integer n => some n.toInt
  | real x => fromReal x
  | text s =>
    match readNumber? s with
    | some (.integer n) => some n.toInt
    | some (.real x) => fromReal x
    | _ => none
  | _ => none
where
  /-- The least integer that is not below a float. -/
  fromReal (x : Binary64) : Option Int :=
    if x.isFinite then some x.ceiling
    else if x.isNegative then some (-(2 ^ (63 : Nat))) else none

end Stored

end BulkValues.Sqlite
