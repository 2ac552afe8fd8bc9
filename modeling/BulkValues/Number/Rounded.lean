/-
# A fixed number of digits

A float is rounded to a fixed number of significant digits, a half away from zero.  As for the
shortest digits, everything is decided in exact integer arithmetic.
-/
import BulkValues.Number.Style

namespace BulkValues.Number

-- The power is the core library's, also where another one is in scope.
attribute [local instance (high)] instPowNat

namespace Magnitude

/-- A multiple of `10 ^ g` that is nearest to the float, a half going up. -/
def roundAt (x : Magnitude) (g : Int) : Nat :=
  let low := x.floorAt g
  if compareScaled (2 * low + 1) g (2 * x.m) x.q == .gt then low else low + 1

/-- The float rounded to `count` significant digits. -/
def rounded (x : Magnitude) (count : Nat) : Decimal :=
  if x.m = 0 then ⟨0, 0⟩ else
    let g := x.scale - count
    ⟨x.roundAt g, g⟩

end Magnitude

namespace Binary64

/-- The integer that a finite float is exactly, if it is one. -/
def toInt? (x : Binary64) : Option Int :=
  let size := x.magnitude
  let unit := 2 ^ (-size.q).toNat
  if x.isFinite && size.m % unit == 0 then
    let n : Int := (size.m / unit * 2 ^ size.q.toNat : Nat)
    some (if x.isNegative then -n else n)
  else none

/-- The least integer that is not below a finite float. -/
def ceiling (x : Binary64) : Int :=
  let size := x.magnitude
  let n : Int := (size.m * 2 ^ size.q.toNat : Nat)
  let unit : Int := (2 ^ (-size.q).toNat : Nat)
  let opposite := if x.isNegative then n else -n
  0 - opposite / unit

end Binary64

end BulkValues.Number
