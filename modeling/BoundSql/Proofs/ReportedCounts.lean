import BoundSql.Proofs.QuotedLiterals
import BoundSql.Row.Answer

/-!
# Counts as numbers and as numerals

A database reports a count as a JSON number or, where it fears for the digits, as a numeral in a
text. A caller gets a signed 64-bit integer, while a JSON integer can be up to twice as large, so
not every report can be answered by a number.

A numeral that does not fit is refused. A number that does not fit is answered all the same, by the
greatest integer that fits. So the two forms of a report agree, and both tell the number that was
reported, exactly as long as it fits.
-/

namespace BoundSql

open Text

/-! ## Numerals -/

/-- The signed 64-bit integer that is `n`, if there is one. -/
def int64OfInt? (n : Int) : Option Int64 :=
  if -0x8000_0000_0000_0000 ≤ n ∧ n < 0x8000_0000_0000_0000 then some (Int64.ofInt n) else none

theorem toInt_of_int64OfInt? {n : Int} {m : Int64} (h : int64OfInt? n = some m) : m.toInt = n := by
  rw [int64OfInt?] at h
  split at h
  · next hfits =>
    cases h
    exact Int64.toInt_ofInt_of_le hfits.1 hfits.2
  · cases h

private theorem readInt64?_unsigned {cs : List Char} (hminus : ∀ r, cs = '-' :: r → False)
    (hplus : ∀ r, cs = '+' :: r → False) :
    readInt64? cs = ((Decimal.readNumeral? cs).map Int.ofNat).bind int64OfInt? := by
  rw [readInt64?.eq_3 _ hminus hplus]
  rfl

private theorem readInt64?_minus (cs : List Char) :
    readInt64? ('-' :: cs)
      = ((Decimal.readNumeral? cs).map fun m ↦ -Int.ofNat m).bind int64OfInt? := by
  rw [readInt64?]
  cases Decimal.readNumeral? cs <;> rfl

/-- The numeral of an integer is read back as the integer, if that fits. -/
theorem readInt64?_toString (n : Int) : readInt64? (toString n).toList = int64OfInt? n := by
  rw [Int.toString_eq_repr]
  cases n with
  | ofNat m =>
    have hdigit {c : Char} {cs : List Char} (h : Nat.toDigits 10 m = c :: cs) : c.isDigit = true :=
      Nat.isDigit_of_mem_toDigits (by decide) (by decide) (h ▸ List.mem_cons_self)
    rw [Int.repr, Nat.toList_repr, readInt64?_unsigned, Decimal.readNumeral?_toDigits]
    · rw [Option.map_some, Option.bind_some]
    · exact fun r h ↦ absurd (hdigit h) (by decide)
    · exact fun r h ↦ absurd (hdigit h) (by decide)
  | negSucc m =>
    have hsign : "-".toList ++ Nat.toDigits 10 (m + 1) = '-' :: Nat.toDigits 10 (m + 1) := rfl
    have hneg : -Int.ofNat (m + 1) = Int.negSucc m := rfl
    rw [Int.repr, String.toList_append, Nat.toList_repr, hsign, readInt64?_minus,
      Decimal.readNumeral?_toDigits, Option.map_some, Option.bind_some, hneg]

/-- There are no blanks in a numeral. -/
theorem Number.trim_text (n : Number) : trim n.text.toList = n.text.toList := by
  have hall : blanks.all (fun c ↦ !isNumeralChar c) := by decide
  refine trim_eq_self fun c hc ↦ Bool.eq_false_iff.mpr fun hblank ↦ ?_
  have hblank := List.all_eq_true.mp hall c (isBlank_iff.mp hblank)
  rw [n.numeralChars_text c hc] at hblank
  cases hblank

/-! ## Counts -/

theorem clampToInt64_of_fits {n : Int} (hlower : -0x8000_0000_0000_0000 ≤ n)
    (hupper : n < 0x8000_0000_0000_0000) : clampToInt64 n = Int64.ofInt n := by
  rw [clampToInt64, Int.min_eq_left (by omega), Int.max_eq_right hlower]

theorem clampToInt64_of_too_great {n : Int} (h : 0x8000_0000_0000_0000 ≤ n) :
    clampToInt64 n = Int64.maxValue := by
  rw [clampToInt64, Int.min_eq_right (by omega)]
  rfl

/-- The error for a numeral of the count column that cannot be read. -/
def notNumeric (numeral : String) : Error :=
  .unexpectedResult ("count is not numeric: " ++ Text.quoted numeral)

theorem countOfValue_numeral (n : Integer) :
    countOfValue (.text (toString n.val))
      = ((int64OfInt? n.val).elim (.error (notNumeric (toString n.val))) .ok) := by
  have htrim : trim (toString n.val).toList = (toString n.val).toList :=
    Number.trim_text (.integer n)
  rw [countOfValue, htrim, readInt64?_toString]
  cases int64OfInt? n.val <;> rfl

/-- Only the first row counts, and in it only one column. -/
theorem countOfRows_cons {r : Row} {v : Json} (h : r.get? countColumn = some v) (rest : List Row) :
    countOfRows (r :: rest) = countOfValue v := by
  rw [countOfRows, h]

section Report

variable {n : Integer} {number numeral : Row} (rest rest' : List Row)

/-- A count that fits is told by both forms of the report. -/
theorem countOfRows_of_fits (h : n.val < 0x8000_0000_0000_0000)
    (hnumber : number.get? countColumn = some (.number (.integer n)))
    (hnumeral : numeral.get? countColumn = some (.text (toString n.val))) :
    countOfRows (number :: rest) = .ok (Int64.ofInt n.val) ∧
      countOfRows (numeral :: rest') = .ok (Int64.ofInt n.val) := by
  have hsome : int64OfInt? n.val = some (Int64.ofInt n.val) := if_pos ⟨n.lower, h⟩
  rw [countOfRows_cons hnumber, countOfRows_cons hnumeral, countOfValue_numeral, hsome,
    countOfValue, Number.count, clampToInt64_of_fits n.lower h]
  exact ⟨rfl, rfl⟩

/-- A count that does not fit is answered by the greatest integer that does, or refused. -/
theorem countOfRows_of_too_great (h : 0x8000_0000_0000_0000 ≤ n.val)
    (hnumber : number.get? countColumn = some (.number (.integer n)))
    (hnumeral : numeral.get? countColumn = some (.text (toString n.val))) :
    countOfRows (number :: rest) = .ok Int64.maxValue ∧
      countOfRows (numeral :: rest') = .error (notNumeric (toString n.val)) := by
  have hnone : int64OfInt? n.val = none := if_neg fun hfits ↦ Int.not_lt.mpr h hfits.2
  rw [countOfRows_cons hnumber, countOfRows_cons hnumeral, countOfValue_numeral, hnone,
    countOfValue, Number.count, clampToInt64_of_too_great h]
  exact ⟨rfl, rfl⟩

end Report

/-- What a report of the count `n` has to come to: the number if it fits in 64 bits with a sign, and
otherwise the error that the answer is not as expected. -/
def IsCountOf (n : Int) : Except Error Int64 → Prop
  | .ok m => m.toInt = n
  | .error e => int64OfInt? n = none ∧ ∃ message, e = .unexpectedResult message

/-- **Which counts are told exactly.** Take any integer that a JSON number can hold, and rows whose
first one reports it. As a numeral it is told exactly or refused. As a number it is told exactly,
and the two reports come to the same, if and only if it is below `2 ^ 63`; from there on the number
is answered by the greatest integer that fits. -/
theorem count_told_exactly_iff (n : Integer) {number numeral : Row} (rest rest' : List Row)
    (hnumber : number.get? countColumn = some (.number (.integer n)))
    (hnumeral : numeral.get? countColumn = some (.text (toString n.val))) :
    let fromNumber := countOfRows (number :: rest)
    let fromNumeral := countOfRows (numeral :: rest')
    IsCountOf n.val fromNumeral ∧
      (IsCountOf n.val fromNumber ↔ n.val < 0x8000_0000_0000_0000) ∧
      (fromNumber = fromNumeral ↔ n.val < 0x8000_0000_0000_0000) ∧
      (0x8000_0000_0000_0000 ≤ n.val → fromNumber = .ok Int64.maxValue) := by
  intro fromNumber fromNumeral
  by_cases hfits : n.val < 0x8000_0000_0000_0000
  · obtain ⟨hfromNumber, hfromNumeral⟩ := countOfRows_of_fits rest rest' hfits hnumber hnumeral
    have hcount : IsCountOf n.val (.ok (Int64.ofInt n.val)) :=
      toInt_of_int64OfInt? (if_pos ⟨n.lower, hfits⟩)
    rw [show fromNumber = _ from hfromNumber, show fromNumeral = _ from hfromNumeral]
    exact ⟨hcount, iff_of_true hcount hfits, iff_of_true rfl hfits,
      fun hgreat ↦ absurd hfits (Int.not_lt.mpr hgreat)⟩
  · have hgreat : 0x8000_0000_0000_0000 ≤ n.val := Int.not_lt.mp hfits
    obtain ⟨hfromNumber, hfromNumeral⟩ :=
      countOfRows_of_too_great rest rest' hgreat hnumber hnumeral
    have hrefused : IsCountOf n.val (.error (notNumeric (toString n.val))) :=
      ⟨if_neg fun h ↦ hfits h.2, _, rfl⟩
    have hclamped : ¬ IsCountOf n.val (.ok Int64.maxValue) := by
      -- the greatest integer that fits is below the count
      intro hcount
      have hmax : (0x7fff_ffff_ffff_ffff : Int) = n.val := hcount
      omega
    have hdiffer : (.ok Int64.maxValue : Except Error Int64)
        ≠ .error (notNumeric (toString n.val)) := nofun
    rw [show fromNumber = _ from hfromNumber, show fromNumeral = _ from hfromNumeral]
    exact ⟨hrefused, iff_of_false hclamped hfits, iff_of_false hdiffer hfits, fun _ ↦ rfl⟩

/-- The greatest count that fits, as a number and as a numeral. -/
theorem greatest_count_is_told :
    let n : Integer := ⟨0x7fff_ffff_ffff_ffff, by decide, by decide⟩
    let number : Row := ⟨[("rows", .null), (countColumn, .number (.integer n))]⟩
    let numeral : Row := ⟨[(countColumn, .text "9223372036854775807")]⟩
    number.get? countColumn = some (.number (.integer n)) ∧
      numeral.get? countColumn = some (.text (toString n.val)) ∧
      n.val < 0x8000_0000_0000_0000 ∧
      IsCountOf n.val (countOfRows [number, numeral]) ∧
      IsCountOf n.val (countOfRows [numeral]) ∧
      countOfRows [number, numeral] = countOfRows [numeral] := by
  intro n number numeral
  have hnumber : number.get? countColumn = some (.number (.integer n)) := rfl
  have hnumeral : numeral.get? countColumn = some (.text (toString n.val)) := by
    rw [show toString n.val = "9223372036854775807" by decide +kernel]
    rfl
  have hfits : n.val < 0x8000_0000_0000_0000 := by decide
  obtain ⟨htext, hcount, hsame, -⟩ := count_told_exactly_iff n [numeral] [] hnumber hnumeral
  exact ⟨hnumber, hnumeral, hfits, hcount.mpr hfits, htext, hsame.mpr hfits⟩

/-- One more than the greatest count that fits: the number is answered by another one, and the
numeral is refused. -/
theorem count_out_of_range_is_answered :
    let n : Integer := ⟨0x8000_0000_0000_0000, by decide, by decide⟩
    let number : Row := ⟨[(countColumn, .number (.integer n))]⟩
    let numeral : Row := ⟨[(countColumn, .text "9223372036854775808")]⟩
    countOfRows [number] = .ok 9223372036854775807 ∧
      ¬ IsCountOf n.val (countOfRows [number]) ∧
      countOfRows [numeral]
        = .error (.unexpectedResult "count is not numeric: \"9223372036854775808\"") := by
  intro n number numeral
  have hnumber : countOfRows [number] = .ok 9223372036854775807 := rfl
  refine ⟨hnumber, ?_, by decide +kernel⟩
  rw [hnumber]
  have hdiffer : (9223372036854775807 : Int64).toInt ≠ n.val := by decide
  exact hdiffer

end BoundSql
