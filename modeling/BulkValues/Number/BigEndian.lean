/-
# Numbers as bytes

A number of fixed width is sent as its bytes, the highest first; a negative one as its two's
complement.
-/

namespace BulkValues.Number.BigEndian

-- The power is the core library's, also where another one is in scope.
attribute [local instance (high)] instPowNat

/-- The lowest `width` bytes of a number, the highest first. -/
def encode : Nat → Nat → List UInt8
  | 0, _ => []
  | width + 1, n => .ofNat (n / 256 ^ width) :: encode width n

/-- The number that bytes stand for, the highest first. -/
def decode (bytes : List UInt8) : Nat := bytes.foldl (fun n b => 256 * n + b.toNat) 0

/-- The lowest `width` bytes of an integer in two's complement. -/
def encodeInt (width : Nat) (z : Int) : List UInt8 := encode width (z % 256 ^ width).toNat

/-- The integer that bytes stand for in two's complement. -/
def decodeInt (bytes : List UInt8) : Int :=
  let bound : Nat := 256 ^ bytes.length
  if 2 * decode bytes < bound then decode bytes else (decode bytes : Int) - bound

/-- The integer of exactly `width` bytes. -/
def decodeInt? (width : Nat) (bytes : List UInt8) : Option Int :=
  if bytes.length = width then some (decodeInt bytes) else none

/-- The integer of the first `width` bytes and the bytes after them. -/
def takeInt? (width : Nat) (bytes : List UInt8) : Option (Int × List UInt8) :=
  if width ≤ bytes.length then some (decodeInt (bytes.take width), bytes.drop width) else none

theorem length_encode (width n : Nat) : (encode width n).length = width := by
  induction width with
  | zero => rfl
  | succ w ih => simp [encode, ih]

theorem length_encodeInt (width : Nat) (z : Int) : (encodeInt width z).length = width :=
  length_encode ..

end BulkValues.Number.BigEndian
