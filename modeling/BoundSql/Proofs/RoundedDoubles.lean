import BoundSql.Decimal.Shortest
import Mathlib.Algebra.Order.Field.Power
import Mathlib.Order.Monotone.Basic
import Mathlib.Tactic.FieldSimp
import Mathlib.Tactic.Linarith
import Mathlib.Tactic.Positivity
import Mathlib.Tactic.Ring

/-!
# What rounds to a double

The bits of a double below its sign are a number, its *place*, and the magnitudes of doubles grow
with their places. Between two neighbours the point half way is the upper end of what rounds to the
lower one and the lower end of what rounds to the upper one, and it belongs to the one whose place
is even. So no number rounds to two magnitudes (`RoundsTo.unique`).

The search for the shortest decimal keeps to the numbers that round to the double
(`roundsTo_shortestDigits`), whatever it takes among them. Two doubles with the same shortest digits
thus differ at most in their signs.
-/

namespace BoundSql

namespace Double

/-! ## Places -/

/-- The place of the magnitude of a double among all, with zero first. -/
def place (x : Double) : Nat := x.bits.toNat % 0x8000_0000_0000_0000

theorem toNat_bits (x : Double) :
    x.bits.toNat = (if x.isNegative then 0x8000_0000_0000_0000 else 0) + x.place := by
  have hlt := x.bits.toNat_lt
  rw [isNegative, place]
  simp only [decide_eq_true_eq]
  split <;> omega

theorem eq_of_place {x y : Double} (hsign : x.isNegative = y.isNegative)
    (hplace : x.place = y.place) : x = y := by
  obtain ⟨b, hb⟩ := x
  obtain ⟨c, hc⟩ := y
  have hbits : b = c := UInt64.toNat_inj.mp <| by
    rw [toNat_bits ⟨b, hb⟩, toNat_bits ⟨c, hc⟩, hsign, hplace]
  subst hbits
  rfl

/-- The significand at a place. -/
def significandAt (n : Nat) : Nat :=
  if n / fractionLimit = 0 then n % fractionLimit else fractionLimit + n % fractionLimit

/-- How far the next place is in magnitude, as a multiple of the least magnitude there is. -/
def stepAt (n : Nat) : Nat := 2 ^ (n / fractionLimit - 1)

/-- The magnitude at a place, as a multiple of the least one there is. -/
def multipleAt (n : Nat) : Nat := significandAt n * stepAt n

theorem exponentField_eq (x : Double) : x.exponentField = x.place / fractionLimit := by
  rw [exponentField, exponentFieldOf, place, fractionLimit]
  omega

theorem fraction_eq (x : Double) : x.fraction = x.place % fractionLimit := by
  rw [fraction, place, fractionLimit]
  omega

theorem significand_eq (x : Double) : x.significand = significandAt x.place := by
  rw [significand, significandAt, exponentField_eq, fraction_eq]

theorem significand_eq_zero_iff {x : Double} : x.significand = 0 ↔ x.place = 0 := by
  rw [significand_eq, significandAt, fractionLimit]
  split <;> omega

/-- The significand is even where the place is. -/
theorem significand_mod_two (x : Double) : x.significand % 2 = x.place % 2 := by
  rw [significand_eq, significandAt, fractionLimit]
  split <;> omega

/-! ## Neighbours -/

/-- The step doubles where a binade begins that is not the first. -/
theorem stepAt_succ (n : Nat) :
    stepAt (n + 1)
      = (if (n + 1) % fractionLimit = 0 ∧ 1 < (n + 1) / fractionLimit then 2 else 1)
        * stepAt n := by
  rw [stepAt, stepAt]
  split
  · next h =>
    have hfield : (n + 1) / fractionLimit - 1 = (n / fractionLimit - 1) + 1 := by
      rw [fractionLimit] at *
      omega
    rw [hfield, Nat.pow_succ, Nat.mul_comm]
  · next h =>
    have hfield : (n + 1) / fractionLimit - 1 = n / fractionLimit - 1 := by
      rw [fractionLimit] at *
      omega
    rw [hfield, Nat.one_mul]

theorem multipleAt_succ (n : Nat) : multipleAt (n + 1) = multipleAt n + stepAt n := by
  have hsignificand : significandAt (n + 1)
      * (if (n + 1) % fractionLimit = 0 ∧ 1 < (n + 1) / fractionLimit then 2 else 1)
        = significandAt n + 1 := by
    rw [significandAt, significandAt, fractionLimit]
    split <;> split <;> split <;> omega
  rw [multipleAt, stepAt_succ, ← Nat.mul_assoc, hsignificand, Nat.add_mul, Nat.one_mul, multipleAt]

theorem multipleAt_strictMono : StrictMono multipleAt :=
  strictMono_nat_of_lt_succ fun n ↦ by
    rw [multipleAt_succ]
    exact Nat.lt_add_of_pos_right (Nat.two_pow_pos _)

/-! ## Rounding -/

/-- The number half way between the magnitude at a place and the one after it. The least magnitude
is `2 ^ -1074`. -/
def halfway (n : Nat) : ℚ := (multipleAt n + multipleAt (n + 1)) * 2 ^ (-1075 : ℤ)

theorem halfway_strictMono : StrictMono halfway := fun m n h ↦ by
  have hm : (multipleAt m : ℚ) < multipleAt n := by exact_mod_cast multipleAt_strictMono h
  have hn : (multipleAt (m + 1) : ℚ) < multipleAt (n + 1) := by
    exact_mod_cast multipleAt_strictMono (Nat.succ_lt_succ h)
  have hpow : (0 : ℚ) < 2 ^ (-1075 : ℤ) := by positivity
  exact mul_lt_mul_of_pos_right (add_lt_add hm hn) hpow

theorem halfway_pos (n : Nat) : 0 < halfway n := by
  have hpos : 0 < multipleAt (n + 1) := Nat.zero_lt_of_lt (multipleAt_strictMono n.lt_succ_self)
  have hcast : (0 : ℚ) < multipleAt (n + 1) := by exact_mod_cast hpos
  unfold halfway
  positivity

/-- A number that rounds to the magnitude after place `n`. -/
structure RoundsTo (n : Nat) (q : ℚ) : Prop where
  /-- The number is not nearer to the magnitude before. -/
  lower : halfway n ≤ q
  /-- The number is not nearer to the magnitude after. -/
  upper : q ≤ halfway (n + 1)
  /-- Half way between two, it rounds to an even place. -/
  even : q = halfway n ∨ q = halfway (n + 1) → (n + 1) % 2 = 0

theorem RoundsTo.pos {n : Nat} {q : ℚ} (h : RoundsTo n q) : 0 < q :=
  (halfway_pos n).trans_le h.lower

private theorem RoundsTo.not_lt {m n : Nat} {q : ℚ} (hm : RoundsTo m q) (hn : RoundsTo n q) :
    ¬m < n := fun hlt ↦ by
  have hends : halfway (m + 1) ≤ halfway n := halfway_strictMono.monotone hlt
  have hupper : q = halfway (m + 1) := le_antisymm hm.upper (hends.trans hn.lower)
  have hlower : q = halfway n := le_antisymm (hm.upper.trans hends) hn.lower
  -- both are even then, and neighbours
  have hnext : m + 1 = n := halfway_strictMono.injective (hupper.symm.trans hlower)
  have hmeven := hm.even (.inr hupper)
  have hneven := hn.even (.inl hlower)
  omega

/-- A number rounds to one magnitude only. -/
theorem RoundsTo.unique {m n : Nat} {q : ℚ} (hm : RoundsTo m q) (hn : RoundsTo n q) : m = n :=
  Nat.le_antisymm (Nat.not_lt.mp (hn.not_lt hm)) (Nat.not_lt.mp (hm.not_lt hn))

end Double

/-! ## The search -/

namespace Decimal

namespace Rounding

variable {r : Rounding}

theorem contains_nearest? {unit d : Nat} (h : r.nearest? unit = some d) :
    r.contains (d * unit) = true := by
  rw [nearest?] at h
  split at h
  · next hbelow habove =>
    obtain rfl := Option.some.inj h
    rw [nearer]
    split
    · exact hbelow
    · exact habove
  · next hbelow _ => exact Option.some.inj h ▸ hbelow
  · next _ habove => exact Option.some.inj h ▸ habove
  · cases h

/-- The search stays in the interval. -/
theorem contains_shortest (hvalue : r.contains r.value = true) (k : Nat) :
    r.contains ((r.shortest k).1 * 10 ^ (r.shortest k).2) = true := by
  induction k with
  | zero => rwa [shortest, Nat.pow_zero, Nat.mul_one]
  | succ k ih =>
    rw [shortest]
    split
    · next d hd => exact contains_nearest? hd
    · exact ih

theorem contains_iff {t : Nat} :
    r.contains t = true
      ↔ r.lower ≤ t ∧ t ≤ r.upper ∧ (t = r.lower ∨ t = r.upper → r.closed = true) := by
  rw [contains]
  cases r.closed with
  | true => simp
  | false =>
    simp only [Bool.false_eq_true, if_false, Bool.and_eq_true, decide_eq_true_eq, imp_false]
    omega

end Rounding

/-! ## The interval of a double -/

section

variable {x : Double} {n : Nat}

/-- The factor for an exponent of two, which keeps the ends integers, is undone by the scale. -/
theorem factor_div_scale (shift : ℤ) :
    ((2 ^ shift.toNat * 5 ^ (-shift).toNat : ℕ) : ℚ) / 10 ^ (-shift).toNat = 2 ^ shift := by
  rcases le_total 0 shift with h | h
  · obtain ⟨k, rfl⟩ := Int.eq_ofNat_of_zero_le h
    simp
  · obtain ⟨k, hk⟩ := Int.eq_ofNat_of_zero_le (Int.neg_nonneg.mpr h)
    obtain rfl : shift = -k := by omega
    have hnone : (-(k : ℤ)).toNat = 0 := by omega
    have hten : (10 : ℚ) ^ k = 2 ^ k * 5 ^ k := by rw [← mul_pow]; norm_num
    rw [neg_neg, hnone, Int.toNat_natCast, pow_zero, one_mul, zpow_neg, zpow_natCast, Nat.cast_pow,
      Nat.cast_ofNat, hten]
    field_simp

/-- The interval is given in quarters of the last digit. -/
theorem two_zpow_exponent (h : x.place = n + 1) :
    (2 : ℚ) ^ (x.exponent - 2) = Double.stepAt (n + 1) * 2 ^ (-1076 : ℤ) := by
  have hexponent : x.exponent - 2
      = (((n + 1) / fractionLimit - 1 : ℕ) : ℤ) + (-1076 : ℤ) := by
    rw [Double.exponent, Double.exponentField_eq, h]
    omega
  rw [hexponent, zpow_add₀ two_ne_zero, zpow_natCast, Double.stepAt, Nat.cast_pow, Nat.cast_ofNat]

/-- The lower end is half way to the magnitude before, which is nearer where a binade begins. -/
theorem lower_mul_stepAt (h : x.place = n + 1) :
    (4 * x.significand - if x.isBinadeStart then 1 else 2) * Double.stepAt (n + 1)
      = 2 * (Double.multipleAt n + Double.multipleAt (n + 1)) := by
  have hgap : (if x.isBinadeStart then 1 else 2) * Double.stepAt (n + 1)
      = 2 * Double.stepAt n := by
    have hstart : x.isBinadeStart = true
        ↔ (n + 1) % fractionLimit = 0 ∧ 1 < (n + 1) / fractionLimit := by
      simp [Double.isBinadeStart, Double.exponentField_eq, Double.fraction_eq, h]
    rw [Double.stepAt_succ]
    by_cases hn : x.isBinadeStart = true
    · rw [if_pos hn, if_pos (hstart.mp hn), Nat.one_mul]
    · rw [if_neg hn, if_neg (mt hstart.mpr hn), Nat.one_mul]
  have hmultiple : x.significand * Double.stepAt (n + 1) = Double.multipleAt (n + 1) := by
    rw [x.significand_eq, h, Double.multipleAt]
  rw [Nat.sub_mul, hgap, Nat.mul_assoc, hmultiple, Double.multipleAt_succ n]
  omega

/-- The upper end is half way to the magnitude after. -/
theorem upper_mul_stepAt (h : x.place = n + 1) :
    (4 * x.significand + 2) * Double.stepAt (n + 1)
      = 2 * (Double.multipleAt (n + 1) + Double.multipleAt (n + 2)) := by
  rw [Double.multipleAt_succ (n + 1), Double.multipleAt, x.significand_eq, h]
  ring

/-- An end of the interval, scaled back. -/
theorem end_div_scale (h : x.place = n + 1) {a b : ℕ}
    (hends : a * Double.stepAt (n + 1) = 2 * b) :
    ((a * (Nat.pow 2 (x.exponent - 2).toNat * Nat.pow 5 (-(x.exponent - 2)).toNat) : ℕ) : ℚ)
        / 10 ^ (-(x.exponent - 2)).toNat
      = b * 2 ^ (-1075 : ℤ) := by
  have hcast : (a : ℚ) * Double.stepAt (n + 1) = 2 * b := by exact_mod_cast hends
  have hpow : (2 : ℚ) ^ (-1075 : ℤ) = 2 * 2 ^ (-1076 : ℤ) := by
    rw [← zpow_one_add₀ two_ne_zero]
    rfl
  rw [Nat.cast_mul, mul_div_assoc, Nat.pow_eq, Nat.pow_eq, factor_div_scale, two_zpow_exponent h,
    hpow, ← mul_assoc, hcast]
  ring

/-- The interval of a double holds what rounds to it. -/
theorem roundsTo_of_contains (h : x.place = n + 1) {t : ℕ}
    (ht : (roundingOf x).1.contains t = true) :
    Double.RoundsTo n (t / 10 ^ (roundingOf x).2) := by
  have hlower : ((roundingOf x).1.lower : ℚ) / 10 ^ (roundingOf x).2 = Double.halfway n := by
    rw [Double.halfway, ← Nat.cast_add]
    exact end_div_scale h (lower_mul_stepAt h)
  have hupper : ((roundingOf x).1.upper : ℚ) / 10 ^ (roundingOf x).2 = Double.halfway (n + 1) := by
    rw [Double.halfway, ← Nat.cast_add]
    exact end_div_scale h (upper_mul_stepAt h)
  have hscale : (0 : ℚ) < 10 ^ (roundingOf x).2 := by positivity
  obtain ⟨hle, hge, hclosed⟩ := Rounding.contains_iff.mp ht
  refine ⟨?_, ?_, fun hend ↦ ?_⟩
  · rw [← hlower]
    exact div_le_div_of_nonneg_right (by exact_mod_cast hle) hscale.le
  · rw [← hupper]
    exact div_le_div_of_nonneg_right (by exact_mod_cast hge) hscale.le
  · rw [← hlower, ← hupper, div_left_inj' hscale.ne', div_left_inj' hscale.ne', Nat.cast_inj,
      Nat.cast_inj] at hend
    have heven : (x.significand % 2 == 0) = true := hclosed hend
    rw [← h, ← x.significand_mod_two]
    exact beq_iff_eq.mp heven

theorem contains_value (h : x.significand ≠ 0) :
    (roundingOf x).1.contains (roundingOf x).1.value = true := by
  have hfactor : 0 < Nat.pow 2 (x.exponent - 2).toNat * Nat.pow 5 (-(x.exponent - 2)).toNat :=
    Nat.mul_pos (Nat.pow_pos (by decide)) (Nat.pow_pos (by decide))
  have hlower : (roundingOf x).1.lower < (roundingOf x).1.value :=
    Nat.mul_lt_mul_of_pos_right (by split <;> omega) hfactor
  have hupper : (roundingOf x).1.value < (roundingOf x).1.upper :=
    Nat.mul_lt_mul_of_pos_right (by omega) hfactor
  exact Rounding.contains_iff.mpr ⟨hlower.le, hupper.le, by omega⟩

/-- The shortest digits of a double are those of a number that rounds to it. -/
theorem roundsTo_shortestDigits (h : x.place = n + 1) :
    ∃ d : ℕ, (shortestDigits x).1 = digits d ∧
      Double.RoundsTo n (d * 10 ^ ((shortestDigits x).2 - (shortestDigits x).1.length)) := by
  let d := ((roundingOf x).1.shortest (digits (roundingOf x).1.upper).length).1
  let k := ((roundingOf x).1.shortest (digits (roundingOf x).1.upper).length).2
  have hne : x.significand ≠ 0 := fun hzero ↦ by
    rw [Double.significand_eq_zero_iff, h] at hzero
    cases hzero
  have hcontains : (roundingOf x).1.contains (d * 10 ^ k) = true :=
    Rounding.contains_shortest (contains_value hne) _
  have hpoint : (shortestDigits x).2 - (shortestDigits x).1.length
      = (k : ℤ) - (roundingOf x).2 := by
    have hdef : (shortestDigits x).2
        = (((shortestDigits x).1.length + k : ℕ) : ℤ) - (roundingOf x).2 := rfl
    rw [hdef]
    omega
  refine ⟨d, rfl, ?_⟩
  rw [hpoint, zpow_sub₀ (by norm_num), ← mul_div_assoc, zpow_natCast, zpow_natCast]
  exact_mod_cast roundsTo_of_contains h hcontains

end

end Decimal

end BoundSql
