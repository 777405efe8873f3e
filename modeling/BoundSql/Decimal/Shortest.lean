import BoundSql.Decimal.Double

/-!
# The shortest decimal that reads back

A double is written with the fewest digits that still read back as the same double, and of those
with the digits nearest to it; halfway between two the even last digit is taken.

The reals that round to a double form an interval around it, which includes its ends exactly when
the significand is even. Scaled by a power of ten the interval and the double become integers, and
a decimal with fewer digits is a multiple of a larger power of ten. So the search goes down from a
power of ten above the interval and takes the first one that has a multiple in it. Only the two
multiples next to the double have to be looked at, since a multiple further away is in the interval
only if the nearer one on its side is. The power `10 ^ 0` always has one, the double itself.
-/

namespace BoundSql.Decimal

/-- A natural number with the interval of those that stand for it. -/
structure Rounding where
  /-- The lower end. -/
  lower : Nat
  /-- The number itself. -/
  value : Nat
  /-- The upper end. -/
  upper : Nat
  /-- Whether the ends belong to the interval. -/
  closed : Bool

namespace Rounding

/-- Whether `n` lies in the interval. -/
def contains (r : Rounding) (n : Nat) : Bool :=
  if r.closed then r.lower ≤ n && n ≤ r.upper else r.lower < n && n < r.upper

/-- Of the two multiples of `unit` around the number the nearer one, as the factor; `d` is the lower
of the two factors, and halfway between them the even one is taken. -/
def nearer (r : Rounding) (unit d : Nat) : Nat :=
  let below := r.value - d * unit
  let above := (d + 1) * unit - r.value
  if below < above ∨ (below = above ∧ d % 2 = 0) then d else d + 1

/-- The multiple of `unit` in the interval that is nearest to the number, as the factor. -/
def nearest? (r : Rounding) (unit : Nat) : Option Nat :=
  let d := r.value / unit
  match r.contains (d * unit), r.contains ((d + 1) * unit) with
  | true, true => some (r.nearer unit d)
  | true, false => some d
  | false, true => some (d + 1)
  | false, false => none

/-- The factor and the exponent of the largest power of ten, of exponent at most `k`, that has a
multiple in the interval. -/
def shortest (r : Rounding) : Nat → Nat × Nat
  | 0 => (r.value, 0)
  | k + 1 =>
    match r.nearest? (Nat.pow 10 (k + 1)) with
    | some d => (d, k + 1)
    | none => r.shortest k

end Rounding

/-- The interval of `x`, scaled by `10 ^ scale`: four times the significand, so that the halfway
points are integers too, times the power of two or, for a negative exponent, of five. -/
def roundingOf (x : Double) : Rounding × Nat :=
  let m := 4 * x.significand
  let shift := x.exponent - 2
  let scale := (-shift).toNat
  let factor := Nat.pow 2 shift.toNat * Nat.pow 5 scale
  ({ lower := (m - if x.isBinadeStart then 1 else 2) * factor
     value := m * factor
     upper := (m + 2) * factor
     closed := x.significand % 2 == 0 }, scale)

/-- The decimal digits of `n`. -/
def digits (n : Nat) : List Char := Nat.toDigits 10 n

/-- The digits of the shortest decimal of the magnitude of `x`, and where its point stands: the
magnitude is `0.d₁d₂… · 10 ^ point`. -/
def shortestDigits (x : Double) : List Char × Int :=
  let (r, scale) := roundingOf x
  let (d, k) := r.shortest (digits r.upper).length
  let ds := digits d
  (ds, (ds.length + k : Nat) - (scale : Int))

end BoundSql.Decimal
