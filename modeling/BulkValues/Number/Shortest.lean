/-
# The fewest digits that read back

A finite float stands for the interval of reals that round to it.  The digits written for it
are the fewest that lie in that interval, and of those the ones nearest to the float itself.
Everything is decided in exact integer arithmetic on `m * 2 ^ q`; only an exact tie between
two equally near candidates is left to the style of the output.
-/
import BulkValues.Number.Binary

namespace BulkValues.Number

-- The power is the core library's, also where another one is in scope.
attribute [local instance (high)] instPowNat

/-- The decimal `digits * 10 ^ exp`. -/
structure Decimal where
  /-- The digits as one number. -/
  digits : Nat
  /-- The power of ten that the last digit counts. -/
  exp : Int
deriving DecidableEq, Repr

/-- Which of two equally near candidates is taken. -/
inductive Tie where
  /-- The one with an even last digit. -/
  | toEven
  /-- The larger one. -/
  | upward
deriving DecidableEq, Repr

/-- Compare `a * 10 ^ i` with `n * 2 ^ j`, exactly. -/
def compareScaled (a : Nat) (i : Int) (n : Nat) (j : Int) : Ordering :=
  compare (a * 10 ^ i.toNat * 2 ^ (-j).toNat) (n * 2 ^ j.toNat * 10 ^ (-i).toNat)

namespace Magnitude

/-- Whether a decimal lies among the reals that round to the float; the ends of the interval
belong to it when the significand is even. -/
def readsBack (x : Magnitude) (d : Decimal) : Bool :=
  let low := if x.narrowBelow then 4 * x.m - 1 else 4 * x.m - 2
  let lower := compareScaled d.digits d.exp low (x.q - 2)
  let upper := compareScaled d.digits d.exp (4 * x.m + 2) (x.q - 2)
  let even := x.m % 2 == 0
  (lower == .gt || (even && lower == .eq)) && (upper == .lt || (even && upper == .eq))

/-- Whether the float is below `10 ^ k`. -/
def below (x : Magnitude) (k : Int) : Bool := compareScaled 1 k x.m x.q == .gt

/-- The least `k` from `start` on, within `fuel` steps, with the float below `10 ^ k`. -/
def scaleFrom (x : Magnitude) : Nat → Int → Int
  | 0, k => k
  | fuel + 1, k => if x.below k then k else x.scaleFrom fuel (k + 1)

/-- The least `k` with the float below `10 ^ k`: estimated from the binary logarithm, which
is at most two short of it. -/
def scale (x : Magnitude) : Int :=
  x.scaleFrom 3 (((x.m.log2 + x.q) * 30103) / 100000)

/-- The float divided by `10 ^ g`, rounded down. -/
def floorAt (x : Magnitude) (g : Int) : Nat :=
  (x.m * 2 ^ x.q.toNat * 10 ^ (-g).toNat) / (2 ^ (-x.q).toNat * 10 ^ g.toNat)

/-- The candidate on the grid of `10 ^ g`: the neighbours of the float that read back, the
nearer of two. -/
def candidate (x : Magnitude) (tie : Tie) (g : Int) : Option Decimal :=
  let lo := x.floorAt g
  let low : Decimal := ⟨lo, g⟩
  let high : Decimal := ⟨lo + 1, g⟩
  match x.readsBack low, x.readsBack high with
  | false, false => none
  | true, false => some low
  | false, true => some high
  | true, true =>
    match compareScaled (2 * lo + 1) g (2 * x.m) x.q with
    | .gt => some low
    | .lt => some high
    | .eq => some (if tie == .toEven && lo % 2 == 0 then low else high)

/-- Try grids of `n`, `n + 1`, ... digits below `10 ^ k`. -/
def searchFrom (x : Magnitude) (tie : Tie) (k : Int) : Nat → Nat → Decimal
  | 0, _ => ⟨x.m * 2 ^ x.q.toNat * 5 ^ (-x.q).toNat, -((-x.q).toNat : Int)⟩
  | fuel + 1, n =>
    match x.candidate tie (k - n) with
    | some d => d
    | none => x.searchFrom tie k fuel (n + 1)

/-- The shortest decimal that reads back as the float; zero has the single digit 0. -/
def shortest (x : Magnitude) (tie : Tie) : Decimal :=
  if x.m = 0 then ⟨0, 0⟩ else x.searchFrom tie x.scale 17 1

end Magnitude

end BulkValues.Number
