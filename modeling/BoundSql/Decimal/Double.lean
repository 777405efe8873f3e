/-!
# Finite doubles

A JSON number that is no integer is a finite IEEE 754 double. It is kept as its 64 bits together
with the proof that the exponent field is not the one of the infinities and NaNs, so a value of
the type always has a numeral. Its magnitude is `significand · 2 ^ exponent`, in exact integers.
-/

namespace BoundSql

/-- One more than the greatest fraction field, which has 52 bits. -/
def fractionLimit : Nat := 0x10_0000_0000_0000

/-- The exponent field of a double with the given bits: the 11 bits above the fraction field. -/
def exponentFieldOf (bits : UInt64) : Nat := bits.toNat / fractionLimit % 0x800

/-- A finite double, by its bits. -/
structure Double where
  /-- Sign, exponent field and fraction field, from the top. -/
  bits : UInt64
  /-- The exponent field is not all ones. -/
  finite : exponentFieldOf bits ≠ 0x7ff
deriving DecidableEq

namespace Double

/-- The double zero. -/
def zero : Double := ⟨0, by decide⟩

/-- The finite double that `x` is; infinities and NaNs are none. -/
def ofFloat? (x : Float) : Option Double :=
  if h : exponentFieldOf x.toBits ≠ 0x7ff then some ⟨x.toBits, h⟩ else none

/-- The double nearest to an integer. Every integer that a JSON number holds has one. -/
def ofInt (n : Int) : Double := (ofFloat? (Float.ofInt n)).getD zero

/-- Whether the sign bit is set; the zero with it is a number of its own. -/
def isNegative (x : Double) : Bool := 0x8000_0000_0000_0000 ≤ x.bits.toNat

/-- The exponent field. -/
def exponentField (x : Double) : Nat := exponentFieldOf x.bits

/-- The fraction field. -/
def fraction (x : Double) : Nat := x.bits.toNat % fractionLimit

/-- The integer significand: a leading one stands before the fraction unless the exponent field
is zero. -/
def significand (x : Double) : Nat :=
  if x.exponentField = 0 then x.fraction else fractionLimit + x.fraction

/-- The exponent of two that scales the significand. -/
def exponent (x : Double) : Int := (max x.exponentField 1 : Nat) - 1075

/-- Whether the next double below in magnitude is only half as far away as the one above: the
significand is the least of its binade, and there is a binade below. -/
def isBinadeStart (x : Double) : Bool := x.fraction == 0 && 1 < x.exponentField

/-- The integer part: the number without its fraction digits. -/
def truncate (x : Double) : Int :=
  let magnitude : Nat :=
    if 0 ≤ x.exponent then x.significand * Nat.pow 2 x.exponent.toNat
    else x.significand / Nat.pow 2 (-x.exponent).toNat
  if x.isNegative then -magnitude else magnitude

/-- Equality of the numbers: the two zeros are equal, and otherwise the bits decide. -/
def same (x y : Double) : Bool :=
  x.bits == y.bits || (x.significand == 0 && y.significand == 0)

end Double

end BoundSql
