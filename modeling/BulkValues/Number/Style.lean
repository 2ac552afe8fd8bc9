/-
# How floats are written

The digits of a float come from `Magnitude.shortest`; how they are laid out is decided by one
record.  Three styles are in use: plain text for display and SQL literals, which never has an
exponent, and the two of JSON documents, which use an exponent for very large and very small
numbers and mark a whole number as a float by a final `.0`.
-/
import BulkValues.Number.Shortest

namespace BulkValues.Number

/-- The decisions of one way to write floats. -/
structure Style where
  /-- Exponents of the leading digit that are written positionally, from the first up to but
  not including the second; without bounds all are. -/
  positional : Option (Int × Int)
  /-- A whole number ends in `.0`. -/
  pointZero : Bool
  /-- Which of two equally near digit strings is taken. -/
  tie : Tie

/-- Display text: always positional, and a whole number has no point. -/
def Style.plain : Style := ⟨none, false, .upward⟩

/-- Numbers of 64 bits in a JSON document. -/
def Style.json64 : Style := ⟨some (-5, 16), true, .toEven⟩

/-- Numbers of 32 bits in a JSON document. -/
def Style.json32 : Style := ⟨some (-6, 13), true, .toEven⟩

/-- The decimal digits of a natural number. -/
def digitsOf (n : Nat) : List Char := Nat.toDigits 10 n

/-- Digits without the zeros at their end, and how many were taken off. -/
def stripZeros (ds : List Char) : List Char × Nat :=
  let kept := (ds.reverse.dropWhile (· == '0')).reverse
  (kept, ds.length - kept.length)

/-- Lay out the digits `ds`, the last of which counts `10 ^ exp`, without an exponent. -/
def layoutPositional (pointZero : Bool) (ds : List Char) (exp : Int) : List Char :=
  if 0 ≤ exp then
    ds ++ List.replicate exp.toNat '0' ++ if pointZero then ['.', '0'] else []
  else
    let places := (-exp).toNat
    if places < ds.length then ds.take (ds.length - places) ++ '.' :: ds.drop (ds.length - places)
    else '0' :: '.' :: List.replicate (places - ds.length) '0' ++ ds

/-- Lay out the digits with an exponent: one digit before the point, and the exponent signed. -/
def layoutScientific (ds : List Char) (lead : Int) : List Char :=
  let mantissa := match ds with
    | [] => []
    | [d] => [d]
    | d :: rest => d :: '.' :: rest
  mantissa ++ 'e' :: (if lead < 0 then '-' else '+') :: digitsOf lead.natAbs

/-- The text of a decimal of size `d` in a style. -/
def Style.layout (style : Style) (d : Decimal) : List Char :=
  if d.digits = 0 then layoutPositional style.pointZero ['0'] 0
  else
    let (ds, zeros) := stripZeros (digitsOf d.digits)
    let exp := d.exp + zeros
    let lead := exp + ds.length - 1
    let positional := match style.positional with
      | none => true
      | some (first, stop) => first ≤ lead && lead < stop
    if positional then layoutPositional style.pointZero ds exp else layoutScientific ds lead

/-- The text of a finite float: its sign and its shortest digits. -/
def Style.render (style : Style) (negative : Bool) (x : Magnitude) : String :=
  String.ofList ((if negative then ['-'] else []) ++ style.layout (x.shortest style.tie))

/-- The display text of a 64-bit float. -/
def Binary64.display (x : Binary64) : String :=
  if x.isNaN then "NaN"
  else if x.isFinite then Style.plain.render x.isNegative x.magnitude
  else if x.isNegative then "-inf" else "inf"

/-- The display text of a 32-bit float. -/
def Binary32.display (x : Binary32) : String :=
  if x.isNaN then "NaN"
  else if x.isFinite then Style.plain.render x.isNegative x.magnitude
  else if x.isNegative then "-inf" else "inf"

end BulkValues.Number
