import BoundSql.Dialect
import Mathlib.Data.List.Basic

/-!
# Literals keep to their quotes

A value is written into the text of a statement as a literal, and whatever it holds, it must not
say anything to the database but that it is a value. A reader of SQL decides this by looking for
quotes: `Place` is where it stands, outside of quotes or in one of the two kinds of them, and
`signs` is what it sees of a text without looking into quotes.

The result is that a literal leaves the reader where it was, outside, and that what it shows there
is an `Outline`: three words, numerals, separators and parentheses that belong together. A text in
the value, a key, and the JSON of an inner object can hold any characters, and none of them is seen.

Both facts hold of a text as soon as they hold of its pieces, so they are kept together as `Tidy`,
and the proof follows the pieces of a literal.
-/

namespace BoundSql

/-! ## Reading quotes -/

/-- Where a reader of SQL stands. -/
inductive Place where
  /-- Outside of quotes. -/
  | outside
  /-- In a text. -/
  | text
  /-- In a text, after a backslash. -/
  | escape
  /-- In a quoted identifier. -/
  | name
deriving DecidableEq

/-- What a reader sees of a text without looking into quotes. -/
inductive Sign where
  /-- A character outside of quotes. -/
  | plain (c : Char)
  /-- A quoted part. -/
  | quoted
deriving DecidableEq

namespace Place

/-- Reads one character. A text ends at the first mark that no backslash stands before. A mark in an
identifier ends it, and if it is doubled, the second one begins it again at once. -/
def next : Place → Char → Place
  | .outside, c => if c = textMark then .text else if c = identifierMark then .name else .outside
  | .text, c => if c = textMark then .outside else if c = '\\' then .escape else .text
  | .escape, _ => .text
  | .name, c => if c = identifierMark then .outside else .name

/-- Reads a text. -/
def read (p : Place) (cs : List Char) : Place := cs.foldl next p

/-- What is seen of one character. -/
def sign : Place → Char → List Sign
  | .outside, c => if c = textMark ∨ c = identifierMark then [.quoted] else [.plain c]
  | _, _ => []

/-- What is seen of a text. -/
def signs : Place → List Char → List Sign
  | _, [] => []
  | p, c :: cs => p.sign c ++ signs (p.next c) cs

variable {p : Place} {cs ds : List Char}

@[simp] theorem read_nil (p : Place) : p.read [] = p := rfl

@[simp] theorem read_cons (p : Place) (c : Char) (cs : List Char) :
    p.read (c :: cs) = (p.next c).read cs := rfl

theorem read_append (p : Place) (cs ds : List Char) : p.read (cs ++ ds) = (p.read cs).read ds :=
  List.foldl_append

theorem signs_append (p : Place) (cs ds : List Char) :
    p.signs (cs ++ ds) = p.signs cs ++ (p.read cs).signs ds := by
  induction cs generalizing p with
  | nil => rfl
  | cons c cs ih => rw [List.cons_append, signs, ih, signs, read_cons, List.append_assoc]

/-! ### Text without marks -/

/-- A text that neither begins nor ends quotes. -/
def NoQuotes (cs : List Char) : Prop := ∀ c ∈ cs, c ≠ textMark ∧ c ≠ identifierMark

instance (cs : List Char) : Decidable (NoQuotes cs) :=
  List.decidableBAll (fun c ↦ c ≠ textMark ∧ c ≠ identifierMark) cs

/-- Outside of quotes, a text without marks is seen as it is. -/
theorem outside_of_noQuotes (h : NoQuotes cs) :
    outside.read cs = outside ∧ outside.signs cs = cs.map .plain := by
  induction cs with
  | nil => exact ⟨rfl, rfl⟩
  | cons c cs ih =>
    obtain ⟨htext, hname⟩ := h c List.mem_cons_self
    obtain ⟨hread, hsigns⟩ := ih fun c' hc' ↦ h c' (List.mem_cons_of_mem _ hc')
    have hnext : outside.next c = outside := by simp [next, htext, hname]
    have hsign : outside.sign c = [.plain c] := by simp [sign, htext, hname]
    exact ⟨by rw [read_cons, hnext, hread], by rw [signs, hnext, hsign, hsigns]; rfl⟩

end Place

open Place

/-! ## Outlines -/

/-- What may stand outside of quotes in a literal. -/
inductive Outline : List Sign → Prop where
  | empty : Outline []
  | quoted : Outline [.quoted]
  | word {s : String} : s ∈ ["NULL", "true", "false"] → Outline (s.toList.map .plain)
  | number (n : Number) : Outline (n.text.toList.map .plain)
  | separator {s : String} : s ∈ [", ", " = "] → Outline (s.toList.map .plain)
  | append {ss ts : List Sign} : Outline ss → Outline ts → Outline (ss ++ ts)
  | parens {ss : List Sign} : Outline ss → Outline (.plain '(' :: ss ++ [.plain ')'])

/-- A text that is read from outside of quotes to outside of quotes and shows an outline. -/
structure Tidy (cs : List Char) : Prop where
  /-- Every quote that it begins it also ends. -/
  ends : outside.read cs = outside
  /-- What is seen of it. -/
  outline : Outline (outside.signs cs)

namespace Tidy

variable {s t : String}

theorem append (hs : Tidy s.toList) (ht : Tidy t.toList) : Tidy (s ++ t).toList := by
  rw [String.toList_append]
  refine ⟨?_, ?_⟩
  · rw [read_append, hs.ends, ht.ends]
  · rw [signs_append, hs.ends]
    exact hs.outline.append ht.outline

theorem of_noQuotes (h : NoQuotes s.toList) (hs : Outline (s.toList.map .plain)) :
    Tidy s.toList :=
  ⟨(outside_of_noQuotes h).1, (outside_of_noQuotes h).2 ▸ hs⟩

theorem parens (hs : Tidy s.toList) : Tidy ("(" ++ s ++ ")").toList := by
  have hlist : ("(" ++ s ++ ")").toList = ['('] ++ (s.toList ++ [')']) := by simp
  have hopen : outside.read ['('] = outside ∧ outside.signs ['('] = [.plain '('] :=
    outside_of_noQuotes (by decide)
  have hclose : outside.read [')'] = outside ∧ outside.signs [')'] = [.plain ')'] :=
    outside_of_noQuotes (by decide)
  rw [hlist]
  refine ⟨?_, ?_⟩
  · rw [read_append, hopen.1, read_append, hs.ends, hclose.1]
  · rw [signs_append, hopen.1, signs_append, hs.ends, hopen.2, hclose.2]
    exact hs.outline.parens

theorem intercalate {ss : List String} (h : ∀ s ∈ ss, Tidy s.toList) :
    Tidy (", ".intercalate ss).toList := by
  have hcomma : Tidy ", ".toList := of_noQuotes (by decide) (.separator (by decide))
  induction ss with
  | nil => exact ⟨rfl, .empty⟩
  | cons s ss ih =>
    have hs : Tidy s.toList := h s List.mem_cons_self
    have hss := ih fun t ht ↦ h t (List.mem_cons_of_mem _ ht)
    cases ss with
    | nil => rwa [String.intercalate_singleton]
    | cons t ts =>
      rw [String.intercalate_cons_cons]
      exact (hs.append hcomma).append hss

end Tidy

/-! ## Quoted parts -/

/-- A text is left by its last mark only, and nothing in it is seen. -/
private theorem read_text (s : List Char) :
    Place.text.read (s.flatMap escapedChar) = .text ∧
      Place.text.signs (s.flatMap escapedChar) = [] := by
  induction s with
  | nil => exact ⟨rfl, rfl⟩
  | cons c s ih =>
    -- either a backslash and one character that it takes away, or a character that ends nothing
    have hchar : Place.text.read (escapedChar c) = .text ∧
        Place.text.signs (escapedChar c) = [] := by
      rw [escapedChar]
      rcases hletter : escapeLetter? c with _ | letter
      · have hplain : c ≠ textMark ∧ c ≠ '\\' := by
          constructor <;> rintro rfl <;> exact absurd hletter (by decide)
        simp [next, signs, sign, hplain]
      · exact ⟨rfl, rfl⟩
    rw [List.flatMap_cons, read_append, signs_append, hchar.1, hchar.2]
    exact ih

theorem tidy_quoteText (s : String) : Tidy (quoteText s).toList := by
  obtain ⟨hread, hsigns⟩ := read_text s.toList
  have hopen : outside.next textMark = .text := rfl
  rw [quoteText, String.toList_ofList]
  refine ⟨?_, ?_⟩
  · rw [List.cons_append, read_cons, hopen, read_append, hread]
    rfl
  · rw [List.cons_append, signs, hopen, signs_append, hread, hsigns]
    exact .quoted

/-- An identifier is left for a moment by each doubled mark in it, and nothing between the marks is
seen. -/
private theorem read_name (s : List Char) :
    Place.name.read (s.flatMap fun c ↦ if c = identifierMark then [c, c] else [c]) = .name ∧
      Outline
        (Place.name.signs (s.flatMap fun c ↦ if c = identifierMark then [c, c] else [c])) := by
  induction s with
  | nil => exact ⟨rfl, .empty⟩
  | cons c s ih =>
    rw [List.flatMap_cons, read_append, signs_append]
    by_cases hmark : c = identifierMark
    · rw [if_pos hmark, hmark]
      exact ⟨ih.1, Outline.quoted.append ih.2⟩
    · have hnext : Place.name.next c = .name := by simp [next, hmark]
      rw [if_neg hmark, read_cons, hnext]
      exact ⟨ih.1, by simpa [signs, sign] using ih.2⟩

theorem tidy_quoteIdentifier (name : String) : Tidy (quoteIdentifier name).toList := by
  obtain ⟨hread, hsigns⟩ := read_name name.toList
  have hopen : outside.next identifierMark = .name := rfl
  rw [quoteIdentifier, wrapDoubling, String.toList_ofList]
  refine ⟨?_, ?_⟩
  · rw [List.cons_append, read_cons, hopen, read_append, hread]
    rfl
  · rw [List.cons_append, signs, hopen, signs_append, hread]
    exact Outline.quoted.append (hsigns.append .empty)

/-! ## Numerals -/

/-- Whether a character can stand in the numeral of a number. -/
def isNumeralChar (c : Char) : Bool := c.isDigit || ['-', '+', '.', 'e'].contains c

/-- Characters that can stand in numerals. -/
def NumeralChars (cs : List Char) : Prop := ∀ c ∈ cs, isNumeralChar c = true

instance (cs : List Char) : Decidable (NumeralChars cs) :=
  List.decidableBAll (fun c ↦ isNumeralChar c = true) cs

private theorem numeral_append {cs ds : List Char} (hcs : NumeralChars cs)
    (hds : NumeralChars ds) : NumeralChars (cs ++ ds) :=
  List.forall_mem_append.mpr ⟨hcs, hds⟩

private theorem numeral_digits (n : Nat) : NumeralChars (Nat.toDigits 10 n) := by
  intro c hc
  rw [isNumeralChar, Nat.isDigit_of_mem_toDigits (by decide) (by decide) hc, Bool.true_or]

private theorem numeral_zeros (n : Nat) : NumeralChars (List.replicate n '0') := by
  intro c hc
  rw [List.eq_of_mem_replicate hc]
  rfl

private theorem numeral_positional {ds : List Char} (h : NumeralChars ds) (point : Int) :
    NumeralChars (Decimal.positional ds point) := by
  rw [Decimal.positional]
  split
  · exact numeral_append (numeral_append (by decide) (numeral_zeros _)) h
  · split
    · exact numeral_append (numeral_append h (numeral_zeros _)) (by decide)
    · exact numeral_append (fun c hc ↦ h c (List.mem_of_mem_take hc))
        (List.forall_mem_cons.mpr ⟨rfl, fun c hc ↦ h c (List.mem_of_mem_drop hc)⟩)

private theorem numeral_scientific {ds : List Char} (h : NumeralChars ds) (exponent : Int) :
    NumeralChars (Decimal.scientific ds exponent) := by
  have htail : NumeralChars ds.tail := fun c hc ↦ h c (List.mem_of_mem_tail hc)
  have hfraction : NumeralChars (if ds.tail.isEmpty then [] else '.' :: ds.tail) := by
    split
    · exact fun c hc ↦ nomatch hc
    · exact List.forall_mem_cons.mpr ⟨rfl, htail⟩
  have hsign : isNumeralChar (if exponent < 0 then '-' else '+') = true := by
    split <;> rfl
  refine numeral_append (numeral_append (fun c hc ↦ h c (List.mem_of_mem_take hc)) hfraction) ?_
  exact List.forall_mem_cons.mpr
    ⟨rfl, List.forall_mem_cons.mpr ⟨hsign, numeral_digits _⟩⟩

/-- A numeral has digits, signs, a point and an `e` only. -/
theorem Number.numeralChars_text (n : Number) : NumeralChars n.text.toList := by
  cases n with
  | integer n =>
    rw [Number.text, Int.toString_eq_repr]
    cases n.val with
    | ofNat m =>
      rw [Int.repr, Nat.toList_repr]
      exact numeral_digits m
    | negSucc m =>
      rw [Int.repr, String.toList_append, Nat.toList_repr]
      exact numeral_append (by decide) (numeral_digits _)
  | double x =>
    rw [Number.text, Decimal.Layout.text, String.toList_ofList]
    have hdigits : NumeralChars (Decimal.shortestDigits x).1 := numeral_digits _
    generalize Decimal.shortestDigits x = shortest at hdigits ⊢
    refine numeral_append ?_ ?_
    · split
      · decide
      · exact fun c hc ↦ nomatch hc
    · split
      · decide
      · dsimp only
        split
        · exact numeral_positional hdigits _
        · exact numeral_scientific hdigits _

theorem tidy_number (n : Number) : Tidy n.text.toList := by
  refine .of_noQuotes (fun c hc ↦ ?_) (.number n)
  have hnumeral := n.numeralChars_text c hc
  constructor <;> rintro rfl <;> exact absurd hnumeral (by decide)

/-- The characters that an outline has outside of quotes. -/
theorem Outline.plain_mem {ss : List Sign} (h : Outline ss) {c : Char} (hc : .plain c ∈ ss) :
    isNumeralChar c = true ∨ c ∈ "NULLtruefalse, =()".toList := by
  have hwords : ∀ s ∈ ["NULL", "true", "false"],
      s.toList ⊆ "NULLtruefalse, =()".toList := by decide
  have hseparators : ∀ s ∈ [", ", " = "], s.toList ⊆ "NULLtruefalse, =()".toList := by decide
  have hchars {cs : List Char} (hc : Sign.plain c ∈ cs.map .plain) : c ∈ cs := by
    obtain ⟨c', hc', heq⟩ := List.mem_map.mp hc
    exact Sign.plain.inj heq ▸ hc'
  induction h with
  | empty => cases hc
  | quoted => simp at hc
  | word hs => exact .inr (hwords _ hs (hchars hc))
  | number n => exact .inl (n.numeralChars_text c (hchars hc))
  | separator hs => exact .inr (hseparators _ hs (hchars hc))
  | append _ _ ihs iht => exact (List.mem_append.mp hc).elim ihs iht
  | parens _ ih =>
    simp only [List.cons_append, List.mem_cons, List.mem_append, List.not_mem_nil, or_false] at hc
    rcases hc with hopen | hinside | hclose
    · exact Sign.plain.inj hopen ▸ .inr (by decide)
    · exact ih hinside
    · exact Sign.plain.inj hclose ▸ .inr (by decide)

/-! ## Literals -/

theorem itemLiterals_eq_map (vs : List Json) :
    itemLiterals vs
      = vs.map fun v ↦ if v.isArray then "(" ++ nestedLiteral v ++ ")" else nestedLiteral v := by
  induction vs with
  | nil => rfl
  | cons v vs ih => rw [itemLiterals, ih, List.map_cons]

theorem tidy_nestedLiteral (v : Json) : Tidy (nestedLiteral v).toList := by
  induction v with
  | null => exact .of_noQuotes (by decide) (.word (by decide))
  | bool b =>
    cases b with
    | true => exact .of_noQuotes (by decide) (.word (by decide))
    | false => exact .of_noQuotes (by decide) (.word (by decide))
  | number n => exact tidy_number n
  | text s => exact tidy_quoteText s
  | array items ih =>
    rw [nestedLiteral, itemLiterals_eq_map]
    refine .intercalate fun s hs ↦ ?_
    obtain ⟨v, hv, rfl⟩ := List.mem_map.mp hs
    split
    · exact (ih v hv).parens
    · exact ih v hv
  | object members => exact tidy_quoteText _

theorem tidy_assignment (m : String × Json) : Tidy (assignment m).toList := by
  have hequals : Tidy " = ".toList := .of_noQuotes (by decide) (.separator (by decide))
  exact ((tidy_quoteIdentifier m.1).append hequals).append (tidy_nestedLiteral m.2)

theorem tidy_literal (v : Json) : Tidy (literal v).toList := by
  cases v with
  | object members =>
    refine .intercalate fun s hs ↦ ?_
    obtain ⟨m, -, rfl⟩ := List.mem_map.mp hs
    exact tidy_assignment m
  | _ => exact tidy_nestedLiteral _

/-- **No value breaks out of its literal.** A reader that is outside of quotes before a literal is
outside of quotes after it, and all it sees of the literal are quoted parts, `NULL`, `true` and
`false`, numerals, commas, equality signs and parentheses that belong together. A numeral is made
of digits, signs, points and the letter `e`. -/
theorem literal_keeps_to_its_quotes :
    (∀ v : Json, outside.read (literal v).toList = outside ∧
      Outline (outside.signs (literal v).toList)) ∧
    ∀ n : Number, n.text.toList.all isNumeralChar = true :=
  ⟨fun v ↦ ⟨(tidy_literal v).ends, (tidy_literal v).outline⟩,
    fun n ↦ List.all_eq_true.mpr n.numeralChars_text⟩

end BoundSql
