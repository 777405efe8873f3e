import BoundSql.Proofs.EntryForms
import BoundSql.Query.Clauses
import Mathlib.Tactic.TFAE

/-!
# Reading sort terms

A sort term is a field that may be followed by a direction. It is read from the right: blanks around
it are dropped, and if its last word is the keyword of a direction and something stands in front of
the word, then this is the field.

As for the entries of a `SELECT` list, a *form* says what such a text is made of: `SortForm` lists
its pieces, which are the field, the blanks before the keyword, its spelling, and the blanks around
all of them. A term is read with a direction exactly if it has a form (`parse_eq_some_iff`). Every
other term is a field as a whole, also a keyword that stands alone.
-/

namespace BoundSql

namespace Text

/-! ## Parts of a text without blanks around it -/

/-- A part at the left end of a trimmed text does not consist of blanks. -/
theorem Trimmed.trimEnd_ne_nil {cs ds : List Char} (h : Trimmed cs) (hds : ds <+: cs)
    (hne : ds ≠ []) : trimEnd ds ≠ [] := by
  intro hnil
  have hblank : ds.all isBlank = true := by
    have hcut := dropEnd_append_takeEnd isBlank ds
    rw [← trimEnd, hnil, List.nil_append] at hcut
    exact hcut ▸ all_takeEnd isBlank ds
  obtain ⟨c, rest, rfl⟩ := List.exists_cons_of_ne_nil hne
  have hink := head_of_isPrefix hds h.head c rfl
  rw [List.all_cons, hink] at hblank
  cases hblank

end Text

open Text

/-! ## Keywords -/

namespace Direction

/-- No text is a spelling of both keywords. -/
theorem not_sameWord_descending {word : List Char}
    (h : sameWord ascending.keyword.toList word = true) :
    ¬ sameWord descending.keyword.toList word = true := by
  intro h'
  have hlower := (sameWord_iff.mp h).trans (sameWord_iff.mp h').symm
  exact absurd hlower (by decide)

/-- The keyword of a direction is read in any case. -/
theorem ofKeyword?_eq_some_iff {word : List Char} {direction : Direction} :
    ofKeyword? word = some direction ↔ sameWord direction.keyword.toList word = true := by
  have hspelling {a b : List Char} (h : a.map Char.toLower = b.map Char.toLower) :
      sameWord word a = sameWord b word := by
    rw [Bool.eq_iff_iff, sameWord_iff, sameWord_iff, h, eq_comm]
  have hasc : sameWord word "asc".toList = sameWord ascending.keyword.toList word :=
    hspelling (by decide)
  have hdesc : sameWord word "desc".toList = sameWord descending.keyword.toList word :=
    hspelling (by decide)
  rw [ofKeyword?, hasc, hdesc]
  by_cases h : sameWord ascending.keyword.toList word = true
  · cases direction <;> simp [h, not_sameWord_descending h]
  · cases direction <;> simp [h]

/-- A spelling of a keyword is a word. -/
def keywordRun {direction : Direction} {word : List Char}
    (h : sameWord direction.keyword.toList word = true) : Run isInk where
  text := word
  ne_nil := by
    rintro rfl
    cases direction <;> exact absurd h (by decide)
  all := by
    refine all_isInk_of_map (f := Char.toLower) (by decide) ?_
    rw [← sameWord_iff.mp h]
    cases direction <;> decide

end Direction

/-! ## Terms with a direction -/

/-- The form of a sort term with a direction. -/
structure SortForm where
  /-- The blanks in front of the field. -/
  before : List Char
  before_all : before.all isBlank = true
  /-- The field. -/
  field : List Char
  field_ne_nil : field ≠ []
  field_trimmed : Trimmed field
  /-- The blanks between the field and the keyword. -/
  gap : Run isBlank
  /-- The direction. -/
  direction : Direction
  /-- The keyword as it is written. -/
  keyword : List Char
  spelled : sameWord direction.keyword.toList keyword = true
  /-- The blanks behind the keyword. -/
  after : List Char
  after_all : after.all isBlank = true

namespace SortForm

/-- The text without the blanks around it. -/
def core (form : SortForm) : List Char := form.field ++ form.gap.text ++ form.keyword

/-- The text of the form. -/
def text (form : SortForm) : List Char := form.before ++ form.core ++ form.after

/-- What the form means. -/
def term (form : SortForm) : OrderTerm := ⟨String.ofList form.field, some form.direction⟩

theorem core_ne_nil (form : SortForm) : form.core ≠ [] := by simp [core, form.field_ne_nil]

theorem trimmed_core (form : SortForm) : Trimmed form.core where
  head := by
    rw [core, List.append_assoc, List.head?_append_of_ne_nil _ form.field_ne_nil]
    exact form.field_trimmed.head
  last := stops_isBlank _ (Direction.keywordRun form.spelled)

theorem trim_text (form : SortForm) : trim form.text = form.core :=
  trim_append form.before_all form.after_all form.core_ne_nil form.trimmed_core

end SortForm

/-- A text that ends with a blank and the keyword of a direction. -/
def EndsWithDirection (cs : List Char) : Prop :=
  ∃ front c word, cs = front ++ c :: word ∧ isBlank c = true ∧
    ∃ direction : Direction, sameWord direction.keyword.toList word = true

/-- A text ends in this way if its last word is the keyword and not all of it. -/
theorem endsWithDirection_of_lastWord {cs : List Char} {direction : Direction}
    (hword : Direction.ofKeyword? (lastWord cs) = some direction) (hne : beforeLastWord cs ≠ []) :
    EndsWithDirection cs := by
  obtain ⟨c, hc, hblank⟩ := exists_blank_of_beforeLastWord hne
  refine ⟨(beforeLastWord cs).dropLast, c, lastWord cs, ?_, hblank, direction,
    Direction.ofKeyword?_eq_some_iff.mp hword⟩
  rw [List.append_cons, List.dropLast_append_getLast? c hc, beforeLastWord_append_lastWord]

/-- A text has a form if it ends with a direction, apart from the blanks around it. -/
theorem exists_sortForm {cs : List Char} (h : EndsWithDirection (trim cs)) :
    ∃ form : SortForm, form.text = cs := by
  obtain ⟨front, c, word, hcs, hc, direction, hword⟩ := h
  obtain ⟨before, after, hbefore, hafter, htext⟩ := exists_trim cs
  -- the blank before the keyword ends a gap, and what stands before the gap is the field
  have hprefix : front ++ [c] <+: trim cs := ⟨word, by rw [hcs, ← List.append_cons]⟩
  have hlast : (front ++ [c]).getLast? = some c := List.getLast?_concat
  obtain ⟨gap, hgap⟩ := exists_gap_of_blank hlast hc
  have htrimmed : Trimmed (trimEnd (front ++ [c])) :=
    ⟨head_of_isPrefix ((dropEnd_isPrefix isBlank _).trans hprefix) (trimmed_trim cs).head,
      stops_dropEnd isBlank _⟩
  refine ⟨⟨before, hbefore, trimEnd (front ++ [c]),
    (trimmed_trim cs).trimEnd_ne_nil hprefix (by simp), htrimmed, gap, direction, word, hword,
    after, hafter⟩, ?_⟩
  rw [SortForm.text, SortForm.core, hgap, List.append_assoc front, List.singleton_append, ← hcs,
    htext]

/-! ## Reading -/

namespace OrderTerm

/-- A form is read as what it means. -/
theorem parse_text (form : SortForm) : parse (String.ofList form.text) = form.term := by
  let word : Run isInk := Direction.keywordRun form.spelled
  have hlast : lastWord form.core = form.keyword := takeEnd_append (stops_isInk _ form.gap) word
  have hbefore : beforeLastWord form.core = form.field ++ form.gap.text :=
    dropEnd_append (stops_isInk form.field form.gap) word
  have hfield : trimEnd (form.field ++ form.gap.text) = form.field :=
    dropEnd_append form.field_trimmed.last form.gap
  have hkeyword := Direction.ofKeyword?_eq_some_iff.mpr form.spelled
  have hne : (form.field ++ form.gap.text).isEmpty = false := by simp [form.field_ne_nil]
  rw [parse, String.toList_ofList, form.trim_text, hlast, hbefore, hkeyword, hfield]
  simp only [hne, Bool.false_eq_true, if_false, SortForm.term]

theorem parse_of_not_endsWithDirection {s : String} (h : ¬ EndsWithDirection (trim s.toList)) :
    parse s = ⟨trimmed s, none⟩ := by
  rw [parse]
  split
  · next direction hword =>
    split
    · rfl
    · next hne =>
      -- a keyword with something in front of it has a blank there
      exact absurd (endsWithDirection_of_lastWord hword (by simpa using hne)) h
  · rfl

/-- A term is read with a direction exactly if it has a form. -/
theorem parse_eq_some_iff {s field : String} {direction : Direction} :
    parse s = ⟨field, some direction⟩ ↔
      ∃ form : SortForm, form.text = s.toList ∧ form.term = ⟨field, some direction⟩ := by
  constructor
  · intro h
    by_cases hends : EndsWithDirection (trim s.toList)
    · obtain ⟨form, htext⟩ := exists_sortForm hends
      refine ⟨form, htext, ?_⟩
      rw [← h, ← parse_text, htext, String.ofList_toList]
    · rw [parse_of_not_endsWithDirection hends] at h
      cases h
  · rintro ⟨form, htext, hterm⟩
    rw [← hterm, ← parse_text, htext, String.ofList_toList]

/-- The ways to say that a term is read without a direction. -/
theorem direction_parse_tfae (s : String) :
    List.TFAE [(parse s).direction = none, ¬ EndsWithDirection (trim s.toList),
      parse s = ⟨trimmed s, none⟩] := by
  tfae_have 1 → 2 := by
    intro hnone hends
    obtain ⟨form, htext⟩ := exists_sortForm hends
    have hparse := parse_text form
    rw [htext, String.ofList_toList] at hparse
    rw [hparse] at hnone
    cases hnone
  tfae_have 2 → 3 := parse_of_not_endsWithDirection
  tfae_have 3 → 1 := fun h ↦ congrArg direction h
  tfae_finish

/-- **Sort terms are read by their form.**

* A field without blanks around it, a gap and a keyword in any case, with any blanks around all of
  them, are read as the field with the direction.
* A text is read with a direction only if it is made of these pieces, so the field is never empty
  and has no blanks around it.
* A text is read without a direction exactly if it does not end with a blank and a keyword, apart
  from the blanks behind them, and then the field is the text without the blanks around it. -/
theorem sort_terms_read_by_form :
    (∀ form : SortForm, parse (String.ofList form.text) = form.term) ∧
    (∀ (s field : String) (direction : Direction), parse s = ⟨field, some direction⟩ ↔
      ∃ form : SortForm, form.text = s.toList ∧ form.term = ⟨field, some direction⟩) ∧
    (∀ s, (parse s).direction = none ∨
      (parse s).field ≠ "" ∧ Trimmed (parse s).field.toList) ∧
    ∀ s, List.TFAE [(parse s).direction = none, ¬ EndsWithDirection (trim s.toList),
      parse s = ⟨trimmed s, none⟩] := by
  refine ⟨parse_text, fun _ _ _ ↦ parse_eq_some_iff, fun s ↦ ?_, direction_parse_tfae⟩
  rcases h : parse s with ⟨field, _ | direction⟩
  · exact .inl rfl
  · obtain ⟨form, -, hterm⟩ := parse_eq_some_iff.mp h
    obtain rfl : String.ofList form.field = field := congrArg OrderTerm.field hterm
    rw [String.toList_ofList]
    exact .inr ⟨by simpa using form.field_ne_nil, form.field_trimmed⟩

/-- A field may end with a keyword, and a keyword that stands alone is a field. -/
example :
    parse "\tlast asc\u2003DeSc " = ⟨"last asc", some .descending⟩ ∧
      parse " desc\n" = ⟨"desc", none⟩ := by
  decide +kernel

end OrderTerm
end BoundSql
