import BoundSql.Decimal.Shortest

/-!
# Decimals as text

The same digits can be written positionally (`0.00025`) or with a power of ten (`2.5e-4`). A
`Layout` says for which exponents a number is written positionally; the writing itself is the
same for every layout. A positional number always has a point with a digit on both sides, and a
power of ten always has a sign.

A numeral is a run of decimal digits. Its value is that of core's `Nat.ofDigitChars`, so reading is
the inverse of writing by `Nat.toDigits`.
-/

namespace BoundSql.Decimal

/-! ## Writing doubles -/

/-- Which decimal exponents are written positionally. The exponent of a number is that of its
first digit, so the exponent of `250.0` is two. -/
structure Layout where
  /-- The least exponent written positionally. -/
  least : Int
  /-- The greatest exponent written positionally. -/
  greatest : Int

/-- Digits with a point after the first `point` of them, filled up with zeros. -/
def positional (ds : List Char) (point : Int) : List Char :=
  if point ≤ 0 then ['0', '.'] ++ List.replicate (-point).toNat '0' ++ ds
  else if ds.length ≤ point.toNat then
    ds ++ List.replicate (point.toNat - ds.length) '0' ++ ['.', '0']
  else ds.take point.toNat ++ '.' :: ds.drop point.toNat

/-- Digits with a point after the first one if there are more, and a power of ten. -/
def scientific (ds : List Char) (exponent : Int) : List Char :=
  let fraction := if ds.tail.isEmpty then [] else '.' :: ds.tail
  ds.take 1 ++ fraction ++ 'e' :: (if exponent < 0 then '-' else '+') :: digits exponent.natAbs

/-- The text of a double: `0.0` for zero, otherwise its shortest digits in the layout; a minus
sign stands before the magnitude of a number with the sign bit set. -/
def Layout.text (layout : Layout) (x : Double) : String :=
  let sign := if x.isNegative then ['-'] else []
  let magnitude :=
    if x.significand = 0 then ['0', '.', '0']
    else
      let (ds, point) := shortestDigits x
      if layout.least ≤ point - 1 ∧ point - 1 ≤ layout.greatest then positional ds point
      else scientific ds (point - 1)
  String.ofList (sign ++ magnitude)

/-! ## Reading numerals -/

/-- The number that decimal digits stand for. -/
def valueOf (ds : List Char) : Nat := Nat.ofDigitChars 10 ds 0

/-- The number that a text of one or more decimal digits stands for. -/
def readNumeral? (cs : List Char) : Option Nat :=
  if cs.isEmpty ∨ !cs.all Char.isDigit then none else some (valueOf cs)

/-- The digits of a number are read back as the number. -/
theorem readNumeral?_toDigits (n : Nat) : readNumeral? (Nat.toDigits 10 n) = some n := by
  have hne : (Nat.toDigits 10 n).isEmpty = false := by
    rw [List.isEmpty_eq_false_iff]
    exact Nat.toDigits_ne_nil
  have hall : (Nat.toDigits 10 n).all Char.isDigit = true :=
    List.all_eq_true.mpr fun c hc ↦ Nat.isDigit_of_mem_toDigits (by decide) (by decide) hc
  have hvalue : valueOf (Nat.toDigits 10 n) = n := Nat.ofDigitChars_ten_toDigits
  simp [readNumeral?, hne, hall, hvalue]

end BoundSql.Decimal
