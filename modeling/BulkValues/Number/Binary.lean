/-
# Binary floating point by its bits

A float of 32 or 64 bits is the word that stores it, so that two floats are the same value of
this type exactly when they have the same bits.  What a pattern stands for is decoded into
exact integers: a finite pattern is `m * 2 ^ q` with a sign.  Numeric equality, under which
the two zeros agree and a NaN differs from itself, is a relation of its own.
-/

namespace BulkValues.Number

-- The power is the core library's, also where another one is in scope.
attribute [local instance (high)] instPowNat

/-- A 64-bit float given by its bits. -/
structure Binary64 where
  /-- Sign, eleven bits of exponent, fifty-two bits of fraction. -/
  bits : UInt64
deriving DecidableEq, Repr, Inhabited

/-- A 32-bit float given by its bits. -/
structure Binary32 where
  /-- Sign, eight bits of exponent, twenty-three bits of fraction. -/
  bits : UInt32
deriving DecidableEq, Repr, Inhabited

/-- The size of a finite float: `m * 2 ^ q`. -/
structure Magnitude where
  /-- The integer significand. -/
  m : Nat
  /-- The binary exponent of the last place. -/
  q : Int
  /-- The gap to the value below is half the gap to the value above. -/
  narrowBelow : Bool
deriving DecidableEq, Repr

/-- Decode an exponent field and a fraction of `width` bits; `least` is the exponent of the
last place of the smallest values. -/
def Magnitude.ofFields (width : Nat) (least : Int) (exponent fraction : Nat) : Magnitude :=
  if exponent = 0 then ⟨fraction, least, false⟩
  else ⟨2 ^ width + fraction, least + (exponent - 1), fraction == 0 && exponent > 1⟩

namespace Binary64

/-- The exponent field. -/
def exponent (x : Binary64) : Nat := x.bits.toNat / 2 ^ (52 : Nat) % 2 ^ (11 : Nat)

/-- The fraction field. -/
def fraction (x : Binary64) : Nat := x.bits.toNat % 2 ^ (52 : Nat)

/-- Whether the sign bit is set. -/
def isNegative (x : Binary64) : Bool := 2 ^ (63 : Nat) ≤ x.bits.toNat

/-- Whether the float is a number and not infinite. -/
def isFinite (x : Binary64) : Bool := x.exponent != 2047

/-- Whether the float is one of the two infinities. -/
def isInfinite (x : Binary64) : Bool := x.exponent == 2047 && x.fraction == 0

/-- Whether the float is not a number. -/
def isNaN (x : Binary64) : Bool := x.exponent == 2047 && x.fraction != 0

/-- Whether the float is one of the two zeros. -/
def isZero (x : Binary64) : Bool := x.exponent == 0 && x.fraction == 0

/-- The size of a finite float. -/
def magnitude (x : Binary64) : Magnitude := .ofFields 52 (-1074) x.exponent x.fraction

/-- The hardware float with these bits. -/
def toFloat (x : Binary64) : Float := Float.ofBits x.bits

/-- The bits of a hardware float. -/
def ofFloat (x : Float) : Binary64 := ⟨x.toBits⟩

/-- Numeric equality: the zeros agree, and a NaN differs from everything. -/
def same (x y : Binary64) : Bool :=
  !x.isNaN && !y.isNaN && (x.bits == y.bits || (x.isZero && y.isZero))

/-- The float with the other sign. -/
def neg (x : Binary64) : Binary64 := ⟨x.bits ^^^ 0x8000000000000000⟩

/-- The float nearest to an integer, a half going to the even neighbour. -/
def ofInt (n : Int) : Binary64 :=
  let size : Binary64 := .ofFloat (Float.ofScientific n.natAbs false 0)
  if n < 0 then size.neg else size

/-- Positive infinity. -/
def infinity : Binary64 := ⟨0x7FF0000000000000⟩

/-- A quiet NaN. -/
def nan : Binary64 := ⟨0x7FF8000000000000⟩

/-- Positive zero. -/
def zero : Binary64 := ⟨0⟩

end Binary64

namespace Binary32

/-- The exponent field. -/
def exponent (x : Binary32) : Nat := x.bits.toNat / 2 ^ (23 : Nat) % 2 ^ (8 : Nat)

/-- The fraction field. -/
def fraction (x : Binary32) : Nat := x.bits.toNat % 2 ^ (23 : Nat)

/-- Whether the sign bit is set. -/
def isNegative (x : Binary32) : Bool := 2 ^ (31 : Nat) ≤ x.bits.toNat

/-- Whether the float is a number and not infinite. -/
def isFinite (x : Binary32) : Bool := x.exponent != 255

/-- Whether the float is not a number. -/
def isNaN (x : Binary32) : Bool := x.exponent == 255 && x.fraction != 0

/-- Whether the float is one of the two zeros. -/
def isZero (x : Binary32) : Bool := x.exponent == 0 && x.fraction == 0

/-- The size of a finite float. -/
def magnitude (x : Binary32) : Magnitude := .ofFields 23 (-149) x.exponent x.fraction

/-- The same number in 64 bits; nothing is lost. -/
def widen (x : Binary32) : Binary64 := .ofFloat (Float32.ofBits x.bits).toFloat

/-- The nearest 32-bit float. -/
def narrow (x : Binary64) : Binary32 := ⟨x.toFloat.toFloat32.toBits⟩

/-- The 32-bit float nearest to an integer, a half going to the even neighbour. -/
def ofInt (n : Int) : Binary32 :=
  let size := (Float32.ofScientific n.natAbs false 0).toBits
  ⟨if n < 0 then size ^^^ 0x80000000 else size⟩

/-- Numeric equality: the zeros agree, and a NaN differs from everything. -/
def same (x y : Binary32) : Bool :=
  !x.isNaN && !y.isNaN && (x.bits == y.bits || (x.isZero && y.isZero))

end Binary32

end BulkValues.Number
