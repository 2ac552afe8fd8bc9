/-
# Exact numbers on the wire

An exact number is sent as a sign, a weight, a scale and groups of four decimal digits: group
`i` counts `10000 ^ (weight - i)`.  The scale says how many digits are shown after the point.
Payloads come from outside and may be anything; `Numeric.read` says which are numbers and
`Numeric.text` writes a number with its point.
-/
import BulkValues.Number.BigEndian
import BulkValues.Text.Hex

namespace BulkValues.Postgres

open BulkValues.Number BulkValues.Text

/-- Why a payload is no exact number. -/
inductive NumericError where
  /-- The header is not complete. -/
  | tooShort
  /-- A negative number of groups or of digits after the point. -/
  | negativeSize
  /-- Fewer groups than the header promises. -/
  | truncated
  /-- A sign that does not exist. -/
  | unknownSign (sign : Nat)
  /-- A group of more than four digits. -/
  | groupOutOfRange
  /-- The least weight has no opposite of the same width. This is no report to the caller: the
  run breaks off. -/
  | weightOutOfRange
deriving DecidableEq, Repr

/-- What is wrong with a payload. -/
def NumericError.message : NumericError → String
  | tooShort => "invalid NUMERIC payload: too short"
  | negativeSize => "invalid NUMERIC payload: negative digit count or scale"
  | truncated => "invalid NUMERIC payload: truncated digits"
  | unknownSign sign =>
    "invalid NUMERIC payload: unknown sign 0x" ++ hexText (BigEndian.encode 2 sign)
  | groupOutOfRange => "invalid NUMERIC payload: group out of range"
  | weightOutOfRange => "attempt to negate with overflow"

/-- An exact number as it is sent. -/
inductive Numeric where
  | nan
  | infinity
  | negativeInfinity
  /-- A finite number: its first group counts `10000 ^ weight`, and `scale` digits are shown
  after the point. -/
  | finite (negative : Bool) (weight : Int) (scale : Nat) (groups : List Nat)
deriving DecidableEq, Repr

namespace Numeric

/-- The least weight that can be sent. -/
def leastWeight : Int := -32768

/-- The two-byte numbers of a list of bytes, as many as are asked for. -/
def pairs : Nat → List UInt8 → List Nat
  | n + 1, a :: b :: rest => BigEndian.decode [a, b] :: pairs n rest
  | _, _ => []

/-- The finite number of a header and groups, when each group has four digits at most. -/
def ofGroups (negative : Bool) (weight : Int) (scale : Nat) (groups : List Nat) :
    Except NumericError Numeric :=
  if groups.any (9999 < ·) then .error .groupOutOfRange
  else if groups ≠ [] ∧ weight = leastWeight then .error .weightOutOfRange
  else .ok (.finite negative weight scale groups)

/-- The number of a payload. The sizes are looked at first, then whether the groups are there,
then the sign, and the groups last. -/
def read : List UInt8 → Except NumericError Numeric
  | c₁ :: c₀ :: w₁ :: w₀ :: s₁ :: s₀ :: d₁ :: d₀ :: rest =>
    let count := BigEndian.decodeInt [c₁, c₀]
    let scale := BigEndian.decodeInt [d₁, d₀]
    let sign := BigEndian.decode [s₁, s₀]
    let weight := BigEndian.decodeInt [w₁, w₀]
    if count < 0 ∨ scale < 0 then .error .negativeSize
    else if rest.length < 2 * count.toNat then .error .truncated
    else if sign = 0xC000 then .ok .nan
    else if sign = 0xD000 then .ok .infinity
    else if sign = 0xF000 then .ok .negativeInfinity
    else if sign = 0x0000 ∨ sign = 0x4000 then
      ofGroups (sign = 0x4000) weight scale.toNat (pairs count.toNat rest)
    else .error (.unknownSign sign)
  | _ => .error .tooShort

/-- How many groups stand before the point. -/
def wholeGroups (weight : Int) : Nat := (weight + 1).toNat

/-- A group as four digits. -/
def fourDigits (group : Nat) : List Char :=
  [group / 1000 % 10, group / 100 % 10, group / 10 % 10, group % 10].map Nat.digitChar

/-- The digits before the point: the first group without zeros in front, the others with four
digits each, and zeros where no group is sent. -/
def wholeDigits (weight : Int) (groups : List Nat) : List Char :=
  match wholeGroups weight with
  | 0 => ['0']
  | n + 1 =>
    Nat.toDigits 10 (groups.headD 0) ++
      (List.range n).flatMap fun i => fourDigits (groups.getD (i + 1) 0)

/-- The digits after the point as they are sent: zeros for the groups that are skipped, then the
groups. -/
def sentFraction (weight : Int) (groups : List Nat) : List Char :=
  List.replicate (4 * (-weight - 1).toNat) '0' ++
    (groups.drop (wholeGroups weight)).flatMap fourDigits

/-- The digits after the point, exactly as many as the scale says. -/
def fractionDigits (weight : Int) (scale : Nat) (groups : List Nat) : List Char :=
  (sentFraction weight groups ++ List.replicate scale '0').take scale

/-- The text of a finite number. A number without groups is zero and is written without a
point, whatever its scale. -/
def finiteText (negative : Bool) (weight : Int) (scale : Nat) (groups : List Nat) : List Char :=
  if groups = [] then ['0']
  else
    (if negative then ['-'] else []) ++ wholeDigits weight groups ++
      (if scale = 0 then [] else '.' :: fractionDigits weight scale groups)

/-- The text of a number. -/
def text : Numeric → String
  | nan => "NaN"
  | infinity => "Infinity"
  | negativeInfinity => "-Infinity"
  | finite negative weight scale groups =>
    String.ofList (finiteText negative weight scale groups)

/-- The text of the number that a payload stands for. -/
def readText (payload : List UInt8) : Except NumericError String := (read payload).map text

end Numeric

end BulkValues.Postgres
