import BoundSql.Decimal.Text
import BoundSql.Json.Text
import BoundSql.Proofs.RoundedDoubles
import BoundSql.Text.Blank

/-!
# Numbers have numerals of their own

A numeral is read back as a rational number (`magnitudeOf`): its digits, with the point counted off
from their end and the power of ten put to them. Where the point stands and whether there is a power
is a matter of layout only, so the text of a double is read as the number that the search for its
shortest digits has found. This rounds to the double and to no other of its sign, hence the text
determines the double, in any layout (`Layout.text_injective`).

The text of a double has a point or a power of ten, and that of an integer has neither. So numbers
with the same text are the same number of the same kind (`Number.text_injective`).
-/

namespace BoundSql

namespace Decimal

/-! ## Digits -/

/-- A text that consists of digits. -/
def Digits (cs : List Char) : Prop := ∀ c ∈ cs, c.isDigit = true

theorem digits_toDigits (n : ℕ) : Digits (digits n) := fun _ hc ↦
  Nat.isDigit_of_mem_toDigits (by decide) (by decide) hc

theorem valueOf_digits (n : ℕ) : valueOf (digits n) = n := Nat.ofDigitChars_ten_toDigits

theorem Digits.append {cs ds : List Char} (hcs : Digits cs) (hds : Digits ds) :
    Digits (cs ++ ds) :=
  List.forall_mem_append.mpr ⟨hcs, hds⟩

theorem digits_zeros (n : ℕ) : Digits (List.replicate n '0') := fun _ hc ↦
  List.eq_of_mem_replicate hc ▸ rfl

/-- A character that is no digit does not stand among digits. -/
theorem Digits.all_ne {cs : List Char} (h : Digits cs) (mark : Char)
    (hmark : mark.isDigit = false) : cs.all (· != mark) = true := by
  rw [List.all_eq_true]
  intro c hc
  rw [bne_iff_ne]
  rintro rfl
  rw [h c hc] at hmark
  cases hmark

theorem valueOf_append (cs ds : List Char) :
    valueOf (cs ++ ds) = 10 ^ ds.length * valueOf cs + valueOf ds := by
  rw [valueOf, Nat.ofDigitChars_append, Nat.ofDigitChars_eq_ofDigitChars_zero]
  rfl

theorem valueOf_zeros (n : ℕ) : valueOf (List.replicate n '0') = 0 := by
  rw [valueOf, Nat.ofDigitChars_replicate_zero, Nat.mul_zero]

theorem valueOf_zeros_append (n : ℕ) (cs : List Char) :
    valueOf (List.replicate n '0' ++ cs) = valueOf cs := by
  rw [valueOf_append, valueOf_zeros, Nat.mul_zero, Nat.zero_add]

theorem valueOf_append_zeros (cs : List Char) (n : ℕ) :
    valueOf (cs ++ List.replicate n '0') = 10 ^ n * valueOf cs := by
  rw [valueOf_append, valueOf_zeros, List.length_replicate, Nat.add_zero]

/-! ## Reading numerals -/

/-- The number that digits with a point among them stand for. -/
def mantissaOf (cs : List Char) : ℚ :=
  let whole := cs.takeWhile (· != '.')
  let fraction := (cs.dropWhile (· != '.')).tail
  valueOf (whole ++ fraction) * 10 ^ (-fraction.length : ℤ)

/-- The number that digits with a sign before them stand for. -/
def powerOf : List Char → ℤ
  | '-' :: ds => -valueOf ds
  | _ :: ds => valueOf ds
  | [] => 0

/-- The number that a numeral without a sign stands for. -/
def magnitudeOf (cs : List Char) : ℚ :=
  mantissaOf (cs.takeWhile (· != 'e')) * 10 ^ powerOf (cs.dropWhile (· != 'e')).tail

theorem mantissaOf_append {whole after : List Char} (hwhole : Digits whole)
    (hafter : ∀ c ∈ after.head?, c = '.') :
    mantissaOf (whole ++ after)
      = valueOf (whole ++ after.tail) * 10 ^ (-after.tail.length : ℤ) := by
  have hall := hwhole.all_ne '.' rfl
  have hstop : ∀ c ∈ after.head?, (c != '.') = false := by simpa using hafter
  rw [mantissaOf, Text.takeWhile_append_of_head? hall hstop,
    Text.dropWhile_append_of_head? hall hstop]

theorem magnitudeOf_append {mantissa after : List Char}
    (hmantissa : mantissa.all (· != 'e') = true) (hafter : ∀ c ∈ after.head?, c = 'e') :
    magnitudeOf (mantissa ++ after) = mantissaOf mantissa * 10 ^ powerOf after.tail := by
  have hstop : ∀ c ∈ after.head?, (c != 'e') = false := by simpa using hafter
  rw [magnitudeOf, Text.takeWhile_append_of_head? hmantissa hstop,
    Text.dropWhile_append_of_head? hmantissa hstop]

theorem magnitudeOf_of_all_ne {cs : List Char} (h : cs.all (· != 'e') = true) :
    magnitudeOf cs = mantissaOf cs := by
  have hnone : ∀ c ∈ ([] : List Char).head?, c = 'e' := fun c hc ↦ nomatch hc
  have happend := magnitudeOf_append h hnone
  rwa [List.append_nil, List.tail_nil, powerOf, zpow_zero, mul_one] at happend

/-! ## The layouts -/

/-- A numeral of a double without its sign: it begins with a digit, has a point or a power of ten,
and stands for `q`. -/
structure Spells (q : ℚ) (cs : List Char) : Prop where
  /-- It begins with a digit. -/
  head : ∀ c ∈ cs.head?, c.isDigit = true
  /-- It has a point or a power of ten. -/
  marked : '.' ∈ cs ∨ 'e' ∈ cs
  /-- The number that it stands for. -/
  value : magnitudeOf cs = q

variable {ds : List Char}

theorem Digits.head?_append {cs : List Char} (h : Digits cs) (hne : cs ≠ []) (after : List Char) :
    ∀ c ∈ (cs ++ after).head?, c.isDigit = true := by
  intro c hc
  rw [List.head?_append_of_ne_nil cs hne] at hc
  exact h c (List.mem_of_mem_head? hc)

theorem spells_point {whole fraction : List Char} (hwhole : Digits whole) (hne : whole ≠ [])
    (hfraction : Digits fraction) :
    Spells (valueOf (whole ++ fraction) * 10 ^ (-fraction.length : ℤ))
      (whole ++ '.' :: fraction) where
  head := hwhole.head?_append hne _
  marked := .inl (by simp)
  value := by
    have hnone : (whole ++ '.' :: fraction).all (· != 'e') = true := by
      rw [List.all_append, List.all_cons, hwhole.all_ne 'e' rfl, hfraction.all_ne 'e' rfl]
      rfl
    rw [magnitudeOf_of_all_ne hnone, mantissaOf_append hwhole (by simp), List.tail_cons]

theorem spells_positional (h : Digits ds) (hne : ds ≠ []) (point : ℤ) :
    Spells (valueOf ds * 10 ^ (point - ds.length)) (positional ds point) := by
  rw [positional]
  split
  · next hpoint =>
    have hfraction := (digits_zeros (-point).toNat).append h
    have hspells := spells_point (digits_zeros 1) (List.cons_ne_nil _ _) hfraction
    have hpower : (-(List.replicate (-point).toNat '0' ++ ds).length : ℤ)
        = point - ds.length := by
      rw [List.length_append, List.length_replicate]
      omega
    rw [valueOf_zeros_append, valueOf_zeros_append, hpower] at hspells
    exact hspells
  · next hpoint =>
    split
    · next hlength =>
      let n := point.toNat - ds.length
      have hwhole := h.append (digits_zeros n)
      have hspells := spells_point hwhole (List.append_ne_nil_of_left_ne_nil hne _) (digits_zeros 1)
      have hvalue : ((valueOf (ds ++ List.replicate n '0' ++ List.replicate 1 '0') : ℕ) : ℚ)
          = valueOf ds * 10 ^ ((n : ℤ) + 1) := by
        rw [valueOf_append_zeros, valueOf_append_zeros, zpow_add₀ (by norm_num), zpow_natCast]
        push_cast
        ring
      have hpower : (n : ℤ) + 1 + -(List.replicate 1 '0').length = point - ds.length := by
        rw [List.length_replicate]
        omega
      rw [hvalue, mul_assoc, ← zpow_add₀ (by norm_num), hpower] at hspells
      exact hspells
    · next hlength =>
      have htake : Digits (ds.take point.toNat) := fun c hc ↦ h c (List.mem_of_mem_take hc)
      have hdrop : Digits (ds.drop point.toNat) := fun c hc ↦ h c (List.mem_of_mem_drop hc)
      have hwhole : ds.take point.toNat ≠ [] := by
        rw [Ne, List.take_eq_nil_iff]
        exact fun hnil ↦ hnil.elim (by omega) hne
      have hspells := spells_point htake hwhole hdrop
      have hpower : (-(ds.drop point.toNat).length : ℤ) = point - ds.length := by
        rw [List.length_drop]
        omega
      rw [List.take_append_drop, hpower] at hspells
      exact hspells

theorem powerOf_sign (exponent : ℤ) :
    powerOf ((if exponent < 0 then '-' else '+') :: digits exponent.natAbs) = exponent := by
  split
  · rw [powerOf, valueOf_digits]
    omega
  · have hplus : powerOf ('+' :: digits exponent.natAbs) = valueOf (digits exponent.natAbs) := rfl
    rw [hplus, valueOf_digits]
    omega

theorem spells_scientific (h : Digits ds) (hne : ds ≠ []) (exponent : ℤ) :
    Spells (valueOf ds * 10 ^ (exponent + 1 - ds.length)) (scientific ds exponent) := by
  obtain ⟨d, rest, rfl⟩ := List.exists_cons_of_ne_nil hne
  rw [Digits, List.forall_mem_cons] at h
  have hfirst : Digits [d] := List.forall_mem_singleton.mpr h.1
  -- the fraction is left out together with its point
  obtain ⟨fraction, hfraction, hhead, htail⟩ : ∃ fraction : List Char,
      (if rest.isEmpty then [] else '.' :: rest) = fraction ∧
        (∀ c ∈ fraction.head?, c = '.') ∧ fraction.tail = rest := by
    cases rest <;> simp
  have hnone : ([d] ++ fraction).all (· != 'e') = true := by
    have hrest := Digits.all_ne h.2 'e' rfl
    rw [List.all_append, hfirst.all_ne 'e' rfl, ← hfraction]
    split <;> simp [hrest]
  have hpower : exponent + 1 - (d :: rest).length = -(rest.length : ℤ) + exponent := by
    rw [List.length_cons]
    push_cast
    ring
  rw [scientific, List.tail_cons, hfraction]
  refine ⟨hfirst.head?_append (List.cons_ne_nil _ _) _, .inr (by simp), ?_⟩
  have hmantissa : mantissaOf ([d] ++ fraction)
      = valueOf (d :: rest) * 10 ^ (-rest.length : ℤ) := by
    rw [mantissaOf_append hfirst hhead, htail]
    rfl
  have hletter : ∀ c ∈ ('e' :: (if exponent < 0 then '-' else '+')
      :: digits exponent.natAbs).head?, c = 'e' := by simp
  have hread := magnitudeOf_append hnone hletter
  rw [List.tail_cons, powerOf_sign, hmantissa, mul_assoc, ← zpow_add₀ (by norm_num), ← hpower]
    at hread
  exact hread

/-! ## Doubles -/

/-- The text of the magnitude of a double. -/
def Layout.magnitudeText (layout : Layout) (x : Double) : List Char :=
  if x.significand = 0 then ['0', '.', '0']
  else if layout.least ≤ (shortestDigits x).2 - 1 ∧ (shortestDigits x).2 - 1 ≤ layout.greatest then
    positional (shortestDigits x).1 (shortestDigits x).2
  else scientific (shortestDigits x).1 ((shortestDigits x).2 - 1)

namespace Layout

variable (layout : Layout) (x : Double)

theorem toList_text :
    (layout.text x).toList = (if x.isNegative then ['-'] else []) ++ layout.magnitudeText x := by
  rw [text, String.toList_ofList]
  rfl

/-- The text of a double is a numeral for zero, or for a number that rounds to the double. -/
theorem spells_magnitudeText :
    (x.place = 0 ∧ Spells 0 (layout.magnitudeText x)) ∨
      ∃ n q, x.place = n + 1 ∧ Double.RoundsTo n q ∧ Spells q (layout.magnitudeText x) := by
  rcases hplace : x.place with _ | n
  · refine .inl ⟨rfl, ?_⟩
    have hzero := spells_point (digits_zeros 1) (List.cons_ne_nil _ _) (digits_zeros 1)
    rw [magnitudeText, if_pos (Double.significand_eq_zero_iff.mpr hplace)]
    rw [← List.replicate_add, valueOf_zeros, Nat.cast_zero, zero_mul] at hzero
    exact hzero
  · have hne : x.significand ≠ 0 := by
      rw [Ne, Double.significand_eq_zero_iff, hplace]
      exact Nat.succ_ne_zero n
    obtain ⟨d, hdigits, hrounds⟩ := roundsTo_shortestDigits hplace
    have hall : Digits (shortestDigits x).1 := hdigits ▸ digits_toDigits d
    have hnil : (shortestDigits x).1 ≠ [] := hdigits ▸ Nat.toDigits_ne_nil
    have hvalue : valueOf (shortestDigits x).1 = d := by rw [hdigits, valueOf_digits]
    refine .inr ⟨n, _, rfl, hrounds, ?_⟩
    rw [magnitudeText, if_neg hne, ← hvalue]
    split
    · exact spells_positional hall hnil _
    · have hspells := spells_scientific hall hnil ((shortestDigits x).2 - 1)
      rwa [sub_add_cancel] at hspells

theorem exists_spells : ∃ q, Spells q (layout.magnitudeText x) := by
  rcases layout.spells_magnitudeText x with ⟨_, h⟩ | ⟨_, q, _, _, h⟩
  · exact ⟨0, h⟩
  · exact ⟨q, h⟩

theorem magnitudeText_ne_minus (cs : List Char) : layout.magnitudeText x ≠ '-' :: cs := fun h ↦ by
  obtain ⟨q, hq⟩ := layout.exists_spells x
  rw [h] at hq
  exact absurd (hq.head '-' rfl) (by decide)

/-- In any layout the text of a double determines it. -/
theorem text_injective : Function.Injective layout.text := by
  intro x y h
  have hlist := congrArg String.toList h
  rw [toList_text, toList_text] at hlist
  have hsign : x.isNegative = y.isNegative := by
    cases hx : x.isNegative <;> cases hy : y.isNegative
    · rfl
    · rw [hx, hy] at hlist
      exact absurd hlist (layout.magnitudeText_ne_minus x _)
    · rw [hx, hy] at hlist
      exact absurd hlist.symm (layout.magnitudeText_ne_minus y _)
    · rfl
  rw [hsign, List.append_cancel_left_eq] at hlist
  refine Double.eq_of_place hsign ?_
  rcases layout.spells_magnitudeText x with ⟨hx, hzero⟩ | ⟨m, q, hx, hm, hq⟩ <;>
    rcases layout.spells_magnitudeText y with ⟨hy, hzero'⟩ | ⟨n, q', hy, hn, hq'⟩
  · rw [hx, hy]
  · rw [← hlist] at hq'
    exact absurd (hzero.value.symm.trans hq'.value) hn.pos.ne
  · rw [hlist] at hq
    exact absurd (hzero'.value.symm.trans hq.value) hm.pos.ne
  · -- one text stands for one number, and this rounds to one place
    rw [← hlist] at hq'
    obtain rfl : q = q' := hq.value.symm.trans hq'.value
    rw [hx, hy, hm.unique hn]

end Layout

end Decimal

/-! ## Numbers -/

namespace Number

theorem toList_toString (n : ℤ) :
    (toString n).toList = (if n < 0 then ['-'] else []) ++ Decimal.digits n.natAbs := by
  rw [Int.toString_eq_repr]
  cases n with
  | ofNat m => rw [Int.repr, Nat.toList_repr]; rfl
  | negSucc m =>
    rw [Int.repr, String.toList_append, Nat.toList_repr, if_pos (Int.negSucc_lt_zero m)]
    rfl

theorem minus_mem_toString_iff (n : ℤ) : '-' ∈ (toString n).toList ↔ n < 0 := by
  have hdigits : '-' ∉ Decimal.digits n.natAbs := fun hmem ↦
    absurd (Decimal.digits_toDigits _ _ hmem) (by decide)
  rw [toList_toString, List.mem_append, or_iff_left hdigits]
  split <;> simp_all

theorem toString_injective : Function.Injective fun n : ℤ ↦ toString n := by
  intro m n h
  have hlist := congrArg String.toList h
  have hsign : m < 0 ↔ n < 0 := by
    rw [← minus_mem_toString_iff, ← minus_mem_toString_iff]
    exact iff_of_eq (congrArg ('-' ∈ ·) hlist)
  simp only [toList_toString, hsign, List.append_cancel_left_eq] at hlist
  have hmagnitude := congrArg Decimal.valueOf hlist
  rw [Decimal.valueOf_digits, Decimal.valueOf_digits] at hmagnitude
  omega

theorem text_integer_ne_double (n : Integer) (x : Double) :
    (Number.integer n).text ≠ (Number.double x).text := fun h ↦ by
  have hmarks (mark : Char) (hdigit : mark.isDigit = false) (hminus : mark ≠ '-') :
      mark ∉ (toString n.val).toList := fun hmem ↦ by
    rw [toList_toString, List.mem_append] at hmem
    rcases hmem with hsign | hmem
    · split at hsign <;> simp_all
    · rw [Decimal.digits_toDigits _ _ hmem] at hdigit
      cases hdigit
  obtain ⟨q, hq⟩ := layout.exists_spells x
  have hlist : (toString n.val).toList = (layout.text x).toList := congrArg String.toList h
  rw [hlist, Decimal.Layout.toList_text] at hmarks
  rcases hq.marked with hpoint | hletter
  · exact hmarks '.' rfl (by decide) (List.mem_append_right _ hpoint)
  · exact hmarks 'e' rfl (by decide) (List.mem_append_right _ hletter)

/-- The text of a number determines it. -/
theorem text_injective : Function.Injective text := by
  intro m n h
  cases m with
  | integer m =>
    cases n with
    | integer n =>
      have hval : m.val = n.val := toString_injective h
      obtain ⟨m, _, _⟩ := m
      subst hval
      rfl
    | double y => exact absurd h (text_integer_ne_double m y)
  | double x =>
    cases n with
    | integer n => exact absurd h.symm (text_integer_ne_double n x)
    | double y => rw [layout.text_injective h]

end Number

end BoundSql
