/-
# Hexadecimal text

Bytes as pairs of lower-case hexadecimal digits, the higher half first.
-/

namespace BulkValues.Text

/-- The lower-case digit of a number below sixteen. -/
def hexDigit (n : Nat) : Char :=
  if n < 10 then Char.ofNat (48 + n) else Char.ofNat (87 + n)

/-- The number that a hexadecimal digit of either case stands for. -/
def hexValue? (c : Char) : Option Nat :=
  if '0' ≤ c ∧ c ≤ '9' then some (c.toNat - 48)
  else if 'a' ≤ c ∧ c ≤ 'f' then some (c.toNat - 87)
  else if 'A' ≤ c ∧ c ≤ 'F' then some (c.toNat - 55)
  else none

/-- Two digits for every byte. -/
def hexChars (bytes : List UInt8) : List Char :=
  bytes.flatMap fun b => [hexDigit (b.toNat / 16), hexDigit (b.toNat % 16)]

/-- Two digits for every byte. -/
def hexText (bytes : List UInt8) : String := String.ofList (hexChars bytes)

/-- The bytes that pairs of digits stand for. -/
def readHex? : List Char → Option (List UInt8)
  | [] => some []
  | [_] => none
  | a :: b :: r => do
    let high ← hexValue? a
    let low ← hexValue? b
    let rest ← readHex? r
    pure (UInt8.ofNat (16 * high + low) :: rest)

end BulkValues.Text
