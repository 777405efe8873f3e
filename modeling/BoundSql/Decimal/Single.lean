import BoundSql.Decimal.Double

/-!
# Finite singles

A single-precision number has 32 bits, and a finite one is kept like a finite double: by its bits,
with the proof that the exponent field is not all ones. Every finite single is the value of a finite
double. Widening brings the leading one of the significand to the place where a double has it and
makes up for the shift in the exponent, so no digit is rounded and numbers too small for a leading
one get one.
-/

namespace BoundSql

/-! ## Doubles by their fields -/

namespace Double

/-- The bits of a sign, an exponent field and a fraction field. -/
def bitsOf (negative : Bool) (field fraction : Nat) : Nat :=
  (if negative then 0x8000_0000_0000_0000 else 0) + field * fractionLimit + fraction

variable {field fraction : Nat}

theorem toNat_bitsOf (negative : Bool) (hfield : field < 0x7ff)
    (hfraction : fraction < fractionLimit) :
    (UInt64.ofNat (bitsOf negative field fraction)).toNat = bitsOf negative field fraction := by
  rw [UInt64.toNat_ofNat']
  refine Nat.mod_eq_of_lt ?_
  simp only [bitsOf, fractionLimit] at *
  split <;> omega

theorem exponentFieldOf_bitsOf (negative : Bool) (hfield : field < 0x7ff)
    (hfraction : fraction < fractionLimit) :
    exponentFieldOf (UInt64.ofNat (bitsOf negative field fraction)) = field := by
  rw [exponentFieldOf, toNat_bitsOf negative hfield hfraction]
  simp only [bitsOf, fractionLimit] at *
  split <;> omega

/-- The finite double with a given sign, exponent field and fraction field. -/
def ofFields (negative : Bool) (field fraction : Nat) (hfield : field < 0x7ff)
    (hfraction : fraction < fractionLimit) : Double :=
  ⟨UInt64.ofNat (bitsOf negative field fraction), by
    rw [exponentFieldOf_bitsOf negative hfield hfraction]
    exact Nat.ne_of_lt hfield⟩

variable (negative : Bool) (hfield : field < 0x7ff) (hfraction : fraction < fractionLimit)

theorem isNegative_ofFields :
    (ofFields negative field fraction hfield hfraction).isNegative = negative := by
  rw [isNegative, ofFields, toNat_bitsOf negative hfield hfraction]
  simp only [bitsOf, fractionLimit] at *
  cases negative <;> simp <;> omega

theorem exponentField_ofFields :
    (ofFields negative field fraction hfield hfraction).exponentField = field :=
  exponentFieldOf_bitsOf negative hfield hfraction

theorem fraction_ofFields :
    (ofFields negative field fraction hfield hfraction).fraction = fraction := by
  rw [Double.fraction, ofFields, toNat_bitsOf negative hfield hfraction]
  simp only [bitsOf, fractionLimit] at *
  split <;> omega

end Double

/-! ## Singles -/

/-- The exponent field of a single with the given bits: the 8 bits above the fraction field, which
has 23. -/
def Single.exponentFieldOf (bits : UInt32) : Nat := bits.toNat / 0x80_0000 % 0x100

/-- A finite single-precision number, by its bits. -/
structure Single where
  /-- Sign, exponent field and fraction field, from the top. -/
  bits : UInt32
  /-- The exponent field is not all ones. -/
  finite : Single.exponentFieldOf bits ≠ 0xff
deriving DecidableEq

namespace Single

/-- The finite single that `x` is; infinities and NaNs are none. -/
def ofFloat32? (x : Float32) : Option Single :=
  if h : exponentFieldOf x.toBits ≠ 0xff then some ⟨x.toBits, h⟩ else none

/-- Whether the sign bit is set. -/
def isNegative (x : Single) : Bool := 0x8000_0000 ≤ x.bits.toNat

/-- The exponent field. -/
def exponentField (x : Single) : Nat := exponentFieldOf x.bits

/-- The fraction field. -/
def fraction (x : Single) : Nat := x.bits.toNat % 0x80_0000

/-- The integer significand. -/
def significand (x : Single) : Nat :=
  if x.exponentField = 0 then x.fraction else 0x80_0000 + x.fraction

/-- The exponent of two that scales the significand. -/
def exponent (x : Single) : Int := (max x.exponentField 1 : Nat) - 150

/-- How far the leading one of the significand is from its place in a double. -/
def shift (x : Single) : Nat := 52 - x.significand.log2

theorem exponentField_lt (x : Single) : x.exponentField < 0xff := by
  have hfinite := x.finite
  rw [exponentField]
  rw [exponentFieldOf] at *
  omega

theorem significand_lt (x : Single) : x.significand < 0x100_0000 := by
  rw [significand, fraction]
  split <;> omega

/-- The significand has at most 24 digits. -/
theorem log2_significand_le (x : Single) : x.significand.log2 ≤ 23 := by
  by_cases h : x.significand = 0
  · rw [h]
    decide
  · exact Nat.le_of_lt_succ ((Nat.log2_lt h).mpr x.significand_lt)

/-- Shifted, the significand is one of a double with a leading one. -/
theorem significand_mul_bounds (x : Single) (h : x.significand ≠ 0) :
    fractionLimit ≤ x.significand * Nat.pow 2 x.shift ∧
      x.significand * Nat.pow 2 x.shift < 2 * fractionLimit := by
  have hlog := x.log2_significand_le
  have hlimit : fractionLimit = 2 ^ x.significand.log2 * 2 ^ x.shift := by
    rw [← Nat.pow_add, shift, Nat.add_sub_of_le (by omega)]
    rfl
  have hlower := Nat.mul_le_mul_right (2 ^ x.shift) (Nat.log2_self_le h)
  have hupper := Nat.mul_lt_mul_of_pos_right (Nat.lt_log2_self (n := x.significand))
    (Nat.two_pow_pos x.shift)
  rw [Nat.pow_succ, Nat.mul_right_comm, Nat.mul_comm _ 2] at hupper
  rw [hlimit]
  exact ⟨hlower, hupper⟩

/-- The double with the value of a single. The zeros keep their sign. -/
def toDouble (x : Single) : Double :=
  if h : x.significand = 0 then .ofFields x.isNegative 0 0 (by decide) (by decide)
  else
    .ofFields x.isNegative (max x.exponentField 1 + 925 - x.shift)
      (x.significand * Nat.pow 2 x.shift - fractionLimit)
      (by
        have hfield := x.exponentField_lt
        have hlog := x.log2_significand_le
        rw [shift]
        omega)
      (by
        have hbounds := x.significand_mul_bounds h
        omega)

theorem isNegative_toDouble (x : Single) : x.toDouble.isNegative = x.isNegative := by
  rw [toDouble]
  split <;> exact Double.isNegative_ofFields _ _ _

/-- Widening keeps the value: what it multiplies the significand by it takes from the exponent. -/
theorem toDouble_exact (x : Single) :
    x.toDouble.significand = x.significand * Nat.pow 2 x.shift ∧
      (x.significand ≠ 0 → x.toDouble.exponent = x.exponent - x.shift) := by
  by_cases h : x.significand = 0
  · have hzero : x.toDouble.significand = 0 := by
      rw [toDouble, dif_pos h, Double.significand, Double.exponentField_ofFields, if_pos rfl,
        Double.fraction_ofFields]
    exact ⟨by rw [hzero, h, Nat.zero_mul], fun hne ↦ absurd h hne⟩
  · have hbounds := x.significand_mul_bounds h
    have hlog := x.log2_significand_le
    have hfield : max x.exponentField 1 + 925 - x.shift ≠ 0 := by
      rw [shift]
      omega
    refine ⟨?_, fun _ ↦ ?_⟩
    · rw [toDouble, dif_neg h, Double.significand, Double.exponentField_ofFields, if_neg hfield,
        Double.fraction_ofFields, Nat.add_sub_cancel' hbounds.1]
    · rw [toDouble, dif_neg h, Double.exponent, Double.exponentField_ofFields, exponent, shift]
      omega

end Single

end BoundSql
