import BoundSql.Condition.Argument
import BoundSql.Proofs.BoundValues
import BoundSql.Proofs.SameForm
import Mathlib.Tactic.TFAE

/-!
# Which comparisons test for null

A comparison for equality becomes a test of its own when its value is `null`, and then it selects
other rows than any comparison with a value does. The caller passes an argument of some type, and
the decision is made after that has become a JSON value. So an argument is compared as `null` if
it is `null`, and also if it has no JSON value and `null` takes its place.

The second happens for the numbers without a numeral. A float becomes a JSON number exactly if its
exponent field is not all ones, and all ones are what infinities and NaNs have in both widths.
-/

namespace BoundSql

/-! ## Numbers without a numeral -/

section Unpack

open Float.Model

variable (f : Format) (bits : BitVec f.numBits)

private theorem isNaN_or_isInf_unpack_iff :
    ((UnpackedFloat.unpack f bits).isNaN || (UnpackedFloat.unpack f bits).isInf) = true
      ↔ UnpackedFloat.unpackExponent bits = -1#f.exponentBits := by
  delta UnpackedFloat.unpack
  dsimp only
  by_cases h : UnpackedFloat.unpackExponent bits = -1#f.exponentBits
  · rw [if_pos h]
    split <;> exact iff_of_true rfl h
  · rw [if_neg h]
    refine iff_of_false ?_ h
    by_cases hexponent : UnpackedFloat.unpackExponent bits = 0#f.exponentBits
    · rw [if_pos hexponent]
      by_cases hmantissa : UnpackedFloat.unpackMantissa bits = 0#f.mantissaBitsWithoutImplicit
      · rw [dif_pos hmantissa]
        exact Bool.false_ne_true
      · rw [dif_neg hmantissa]
        exact Bool.false_ne_true
    · rw [if_neg hexponent]
      exact Bool.false_ne_true

/-- The floats whose exponent field is all ones are the infinities and NaNs. -/
private theorem exponent_eq_ones_iff :
    bits.toNat / Nat.pow 2 f.mantissaBitsWithoutImplicit % Nat.pow 2 f.exponentBits
        = Nat.pow 2 f.exponentBits - 1
      ↔ ((UnpackedFloat.unpack f bits).isNaN || (UnpackedFloat.unpack f bits).isInf) = true := by
  have hwidth : f.mantissaBitsWithoutImplicit + f.exponentBits - 1 - f.mantissaBitsWithoutImplicit
      + 1 = f.exponentBits := by
    have hpos := f.he
    omega
  have hfield : bits.toNat / Nat.pow 2 f.mantissaBitsWithoutImplicit % Nat.pow 2 f.exponentBits
      = (UnpackedFloat.unpackExponent bits).toNat := by
    rw [UnpackedFloat.unpackExponent, BitVec.toNat_cast, BitVec.extractLsb_toNat,
      Nat.shiftRight_eq_div_pow, hwidth]
    rfl
  have hones : (-1#f.exponentBits).toNat = Nat.pow 2 f.exponentBits - 1 := by
    rw [BitVec.neg_one_eq_allOnes, BitVec.toNat_allOnes]
    rfl
  rw [hfield, ← hones, BitVec.toNat_inj, isNaN_or_isInf_unpack_iff]

end Unpack

/-- The doubles that become `null` are the infinities and NaNs. -/
theorem Json.isNull_ofFloat (x : Float) : (ofFloat x).isNull = (x.isNaN || x.isInf) := by
  have hones : exponentFieldOf x.toBits = 0x7ff ↔ (x.isNaN || x.isInf) = true :=
    exponent_eq_ones_iff .binary64 x.toBits.toBitVec
  by_cases h : exponentFieldOf x.toBits = 0x7ff
  · rw [ofFloat, Double.ofFloat?, dif_neg (not_not_intro h), hones.mp h, isNull]
  · rw [ofFloat, Double.ofFloat?, dif_pos h, Bool.eq_false_iff.mpr (mt hones.mpr h)]
    rfl

/-- The singles that become `null` are the infinities and NaNs. -/
theorem Json.isNull_ofFloat32 (x : Float32) : (ofFloat32 x).isNull = (x.isNaN || x.isInf) := by
  have hones : Single.exponentFieldOf x.toBits = 0xff ↔ (x.isNaN || x.isInf) = true :=
    exponent_eq_ones_iff .binary32 x.toBits.toBitVec
  by_cases h : Single.exponentFieldOf x.toBits = 0xff
  · rw [ofFloat32, Single.ofFloat32?, dif_neg (not_not_intro h), hones.mp h, isNull]
  · rw [ofFloat32, Single.ofFloat32?, dif_pos h, Bool.eq_false_iff.mpr (mt hones.mpr h)]
    rfl

/-! ## Arguments -/

namespace Argument

/-- Whether the caller asks for `null`: by the JSON value, or by an optional value that is
absent. -/
def isNull : Argument → Bool
  | json v => v.isNull
  | absent => true
  | _ => false

/-- Whether the argument is a number without a numeral: an infinity or NaN. -/
def lacksNumeral : Argument → Bool
  | single x => x.isNaN || x.isInf
  | double x => x.isNaN || x.isInf
  | _ => false

/-- The arguments that `null` stands for. -/
theorem isNull_toJson (a : Argument) : a.toJson.isNull = (a.isNull || a.lacksNumeral) := by
  cases a with
  | single x => exact Json.isNull_ofFloat32 x
  | double x => exact Json.isNull_ofFloat x
  | json v => exact (Bool.or_false _).symm
  | _ => rfl

end Argument

/-! ## Comparisons with a value -/

namespace CompareOp

/-- A column compared with `null` for equality or its opposite. -/
def nullTest (column : String) : CompareOp → String
  | .equal => "( " ++ column ++ " IS NULL )"
  | _ => "( " ++ column ++ " IS NOT NULL )"

/-- A column compared with a value for equality or its opposite. -/
def valueTest (column token : String) : CompareOp → String
  | .equal => "( " ++ column ++ " = " ++ token ++ " )"
  | _ => "( " ++ column ++ " != " ++ token ++ " )"

variable {op : CompareOp}

/-- The two texts part after the column. -/
theorem valueTest_ne_nullTest (hop : op = .equal ∨ op = .notEqual) (column token : String) :
    op.valueTest column token ≠ op.nullTest column := by
  rw [Ne, ← String.toList_inj]
  rcases hop with rfl | rfl <;> simp [valueTest, nullTest]

end CompareOp

namespace Column

variable {d : Dialect} {c : Column} {op : CompareOp}

/-- A comparison with `null` has the text of a test and binds nothing, and a comparison with any
other value binds it and nothing else. -/
theorem compile_compare_value (hop : op = .equal ∨ op = .notEqual) (v : Json) (b : Bindings) :
    (c.compare op (.value v)).compile d b =
      if v.isNull then (op.nullTest (c.render d), b)
      else (op.valueTest (c.render d) (placeholder (b.bind c.name v).1), (b.bind c.name v).2) := by
  have hequality : (op = .equal || op = .notEqual) = true := by simpa using hop
  have hne : op ≠ .oneOf := by
    rintro rfl
    simp at hop
  have htest : Comparison.isNullTest ⟨c, op, .value v⟩ = v.isNull := by
    rw [Comparison.isNullTest, hequality, Bool.true_and, Operand.isNull]
  rw [compare, Condition.compile, Condition.template, Template.grouped]
  by_cases hv : v.isNull = true
  · rw [Comparison.template_of_isNullTest (htest.trans hv), if_pos hv]
    rcases hop with rfl | rfl <;> simp [Template.bind, CompareOp.nullTest, String.append_assoc]
  · rw [Comparison.template_of_not_isNullTest (htest.trans (Bool.eq_false_iff.mpr hv)),
      Comparison.around_of_ne_oneOf hne, if_neg hv]
    rcases hop with rfl | rfl <;>
      simp [Template.bind, Comparison.rightSide, CompareOp.symbol, CompareOp.valueTest,
        String.append_assoc]

/-- `null` is what makes a test of a comparison, and what makes it bind nothing. -/
theorem isNull_tfae (hop : op = .equal ∨ op = .notEqual) {b : Bindings} (hb : b.Sound) (v : Json) :
    List.TFAE [v.isNull = true,
      ((c.compare op (.value v)).compile d b).1 = op.nullTest (c.render d),
      ((c.compare op (.value v)).compile d b).2 = b] := by
  rw [compile_compare_value hop]
  by_cases hv : v.isNull = true
  · rw [if_pos hv]
    tfae_have 1 ↔ 2 := iff_of_true hv rfl
    tfae_have 1 ↔ 3 := iff_of_true hv rfl
    tfae_finish
  · rw [if_neg hv]
    have hbinds : (b.bind c.name v).2 ≠ b := by
      intro h
      have hentries := hb.entries_bind c.name v
      rw [h] at hentries
      simp at hentries
    tfae_have 1 ↔ 2 := iff_of_false hv (op.valueTest_ne_nullTest hop _ _)
    tfae_have 1 ↔ 3 := iff_of_false hv hbinds
    tfae_finish

end Column

/-- **Which comparisons test for `null`.** Compare a column for equality, or its opposite, with an
argument of any type, after any values have been bound.

* If the argument is `null`, absent, an infinity or NaN, the comparison is `IS NULL` or
  `IS NOT NULL` behind the column and binds nothing. Otherwise it is `=` or `!=` with a placeholder
  behind it.
* What is bound then is one value, that of the argument, under a new name.
* Having the text of a test and binding nothing are the same, and the arguments for which it happens
  are the ones named. -/
theorem compared_as_null_iff (d : Dialect) (calls : List (String × Json)) (c : Column)
    (a : Argument) :
    let b := Bindings.empty.bindAll calls
    let column := c.render d
    let equal := (c.compare .equal (.ofArgument a)).compile d b
    let notEqual := (c.compare .notEqual (.ofArgument a)).compile d b
    let (name, bound) := b.bind c.name a.toJson
    let asNull := a.isNull || a.lacksNumeral
    (equal = if asNull then ("( " ++ column ++ " IS NULL )", b)
      else ("( " ++ column ++ " = " ++ placeholder name ++ " )", bound)) ∧
    (notEqual = if asNull then ("( " ++ column ++ " IS NOT NULL )", b)
      else ("( " ++ column ++ " != " ++ placeholder name ++ " )", bound)) ∧
    (name ∉ b.names ∧ bound.entries = b.entries ++ [(name, a.toJson)]) ∧
    List.TFAE [asNull = true, equal.1 = "( " ++ column ++ " IS NULL )", equal.2 = b] ∧
    List.TFAE [asNull = true, notEqual.1 = "( " ++ column ++ " IS NOT NULL )", notEqual.2 = b] := by
  intro b column equal notEqual
  have hb : b.Sound := Bindings.sound_bindAll_empty calls
  have hequal : CompareOp.equal = .equal ∨ CompareOp.equal = .notEqual := .inl rfl
  have hnotEqual : CompareOp.notEqual = .equal ∨ CompareOp.notEqual = .notEqual := .inr rfl
  rw [← a.isNull_toJson]
  exact ⟨Column.compile_compare_value hequal a.toJson b,
    Column.compile_compare_value hnotEqual a.toJson b,
    ⟨hb.nextName_notMem c.name, hb.entries_bind c.name a.toJson⟩,
    Column.isNull_tfae hequal hb a.toJson, Column.isNull_tfae hnotEqual hb a.toJson⟩

/-- NaN is not `null`, and a comparison with it is a test for `null` that binds nothing. -/
theorem nan_compared_as_null :
    let nan : Argument := .double (0 / 0)
    let r := ((⟨none, "a"⟩ : Column).compare .equal (.ofArgument nan)).compile .mysql .empty
    nan.isNull = false ∧ r.1 = "( `a` IS NULL )" ∧ r.2.size = 0 := by
  decide +kernel

end BoundSql
