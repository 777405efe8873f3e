import BoundSql.Proofs.FilledPlaceholders
import BoundSql.Proofs.QuotedLiterals
import Mathlib.Data.List.TakeWhile

/-!
# Placeholders that are read whole

The name in a placeholder is made from the name of a column, which may be any text, and a statement
is shown with its values by looking for runs of word characters after a colon. A placeholder is
found again if its name is one such run, and that depends on the name of its column alone: not on
the other names that are bound, and not on the values.

## Names that are cut

A name with another character in it is cut there. What is shown then begins with the placeholder of
the first run, or with the value of another column if that run happens to be its name, and goes on
with the rest of the name. It has at least two pieces, so a dialect that writes every value as one
character tells it from a literal.

With backticks and backslashes no such dialect is needed, unless the rest of the name holds a colon
itself. The rest ends in an underscore and a number, as every name does, and no literal ends so: a
literal is left outside of quotes (`Tidy`), and there it has no underscore.
-/

namespace BoundSql

/-! ## Words -/

theorem wordName_of_numberedName {field : String} {n : Nat} (h : WordName (numberedName field n)) :
    WordName field := by
  intro c hc
  refine h c ?_
  rw [toList_numberedName]
  simp [hc]

/-- A name is a text, with an underscore and a number at the end. -/
private theorem toList_numberedName_eq_append (field : String) (n : Nat) :
    (numberedName field n).toList
      = ((Bindings.stem field).toList ++ ['_']) ++ '_' :: Nat.toDigits 10 n := by
  rw [toList_numberedName, Bindings.stem, String.toList_append]
  rfl

/-! ## Pieces of a text -/

section Fill

variable {value? : String → Option String}

/-- A placeholder is read up to the first character that is none of a word. -/
theorem fillPlaceholders_colon (cs : List Char) :
    fillPlaceholders value? (':' :: cs)
      = shownPlaceholder value? (cs.takeWhile Text.isWord)
        ++ fillPlaceholders value? (cs.dropWhile Text.isWord) := by
  rw [fillPlaceholders, if_pos rfl]

theorem shownPlaceholder_ne_nil (h : ∀ name s, value? name = some s → s.toList ≠ [])
    (name : List Char) : shownPlaceholder value? name ≠ [] := by
  rw [shownPlaceholder]
  split
  · exact List.cons_ne_nil _ _
  · split
    · next s hs => exact h _ s hs
    · exact List.cons_ne_nil _ _

/-- If every text that is filled in shows, something of every text does. -/
theorem fillPlaceholders_ne_nil (h : ∀ name s, value? name = some s → s.toList ≠ [])
    {cs : List Char} (hcs : cs ≠ []) : fillPlaceholders value? cs ≠ [] := by
  cases cs with
  | nil => exact absurd rfl hcs
  | cons c cs =>
    by_cases hc : c = ':'
    · rw [hc, fillPlaceholders_colon]
      exact List.append_ne_nil_of_left_ne_nil (shownPlaceholder_ne_nil h _) _
    · rw [fillPlaceholders, if_neg hc]
      exact List.cons_ne_nil _ _

end Fill

theorem toList_fillText_placeholder (d : Dialect) (b : Bindings) (name : String) :
    (fillText d b (placeholder name)).toList
      = fillPlaceholders (fun name ↦ (b.get? name).map d.literal) (':' :: name.toList) := by
  rw [fillText, String.toList_ofList, placeholder, String.toList_append]
  rfl

/-! ## Names that are words -/

/-- The placeholder of a word is shown as the literal of its value. -/
theorem fillText_placeholder {field : String} (hfield : WordName field) (d : Dialect) {b : Bindings}
    (hb : b.Sound) (value : Json) (more : List (String × Json)) :
    fillText d ((b.bind field value).2.bindAll more) (placeholder (b.bind field value).1)
      = d.literal value := by
  have hlegible : Template.Legible [.hole field value] := ⟨hfield, trivial, trivial⟩
  have hfill := Template.fillText_bind (d := d) hlegible hb more
  simpa only [Template.bind, Template.inline, String.append_empty] using hfill

/-! ## Names that are cut -/

/-- A dialect that writes every value as one character. -/
def Dialect.blot : Dialect := ⟨fun name ↦ name, fun _ ↦ "_"⟩

/-- A placeholder that is shown as a single character is read whole. -/
theorem wordName_of_fillText_blot {field : String} {n : Nat} {b : Bindings}
    (h : fillText .blot b (placeholder (numberedName field n)) = "_") : WordName field := by
  refine wordName_of_numberedName (n := n) (List.dropWhile_eq_nil_iff.mp ?_)
  by_contra hrest
  have hblot : ∀ name s, (b.get? name).map Dialect.blot.literal = some s → s.toList ≠ [] := by
    intro name s hs
    obtain ⟨v, -, rfl⟩ := Option.map_eq_some_iff.mp hs
    have hone : "_".toList ≠ [] := by decide
    exact hone
  -- the first run and the rest after it both show something
  have hlength := congrArg List.length (congrArg String.toList h)
  rw [toList_fillText_placeholder, fillPlaceholders_colon, List.length_append] at hlength
  have hfirst := List.length_pos_of_ne_nil (shownPlaceholder_ne_nil hblot
    ((numberedName field n).toList.takeWhile Text.isWord))
  have hsecond := List.length_pos_of_ne_nil (fillPlaceholders_ne_nil hblot hrest)
  have hone : "_".toList.length = 1 := rfl
  omega

namespace Place

/-- Inside quotes, a text without marks and backslashes leads nowhere. -/
private theorem read_inside {p : Place} (hp : p = .text ∨ p = .name) {cs : List Char}
    (h : ∀ c ∈ cs, c ≠ textMark ∧ c ≠ identifierMark ∧ c ≠ '\\') : p.read cs = p := by
  induction cs with
  | nil => rfl
  | cons c cs ih =>
    obtain ⟨htext, hname, hescape⟩ := h c List.mem_cons_self
    have hnext : p.next c = p := by
      rcases hp with rfl | rfl
      · simp [next, htext, hescape]
      · simp [next, hname]
    rw [read_cons, hnext, ih fun c' hc' ↦ h c' (List.mem_cons_of_mem _ hc')]

/-- A text that is left outside of quotes shows the underscore that begins its last word. -/
theorem plain_underscore_mem_signs {cs ds : List Char} (hds : ∀ c ∈ ds, c.isDigit = true)
    (hends : outside.read (cs ++ '_' :: ds) = outside) :
    .plain '_' ∈ outside.signs (cs ++ '_' :: ds) := by
  have hmarks : ∀ c ∈ ds, c ≠ textMark ∧ c ≠ identifierMark ∧ c ≠ '\\' := by
    intro c hc
    refine ⟨?_, ?_, ?_⟩ <;> rintro rfl <;> exact absurd (hds _ hc) (by decide)
  rw [read_append, read_cons] at hends
  rw [signs_append, signs]
  -- where the reader stands before the underscore, it stands at the end
  cases hplace : outside.read cs with
  | outside => exact List.mem_append_right _ List.mem_cons_self
  | text | escape =>
    have hnext : (outside.read cs).next '_' = .text := by rw [hplace]; rfl
    rw [hnext, read_inside (.inl rfl) hmarks] at hends
    cases hends
  | name =>
    have hnext : (outside.read cs).next '_' = .name := by rw [hplace]; rfl
    rw [hnext, read_inside (.inr rfl) hmarks] at hends
    cases hends

end Place

/-- No literal ends in an underscore and a number. -/
theorem toList_literal_ne_append (v : Json) (cs : List Char) (n : Nat) :
    (literal v).toList ≠ cs ++ '_' :: Nat.toDigits 10 n := by
  intro h
  have htidy := tidy_literal v
  rw [h] at htidy
  have hdigits : ∀ c ∈ Nat.toDigits 10 n, c.isDigit = true :=
    fun c hc ↦ Nat.isDigit_of_mem_toDigits (by decide) (by decide) hc
  have hmem := Place.plain_underscore_mem_signs hdigits htidy.ends
  rcases htidy.outline.plain_mem hmem with hnumeral | hchar
  · exact absurd hnumeral (by decide)
  · exact absurd hchar (by decide)

/-- A name without a colon that is cut shows its number. -/
private theorem exists_fillText_eq_append {field : String} (hcolon : ColonFree field)
    (hfield : ¬ WordName field) (d : Dialect) (b : Bindings) (n : Nat) :
    ∃ cs, (fillText d b (placeholder (numberedName field n))).toList
      = cs ++ '_' :: Nat.toDigits 10 n := by
  set pre := (Bindings.stem field).toList ++ ['_'] with hpre
  have hcut : ¬ (pre.dropWhile Text.isWord).isEmpty := by
    rw [List.isEmpty_iff, List.dropWhile_eq_nil_iff]
    intro h
    exact hfield fun c hc ↦ h c (by simp [hpre, Bindings.stem, hc])
  have hrest : ':' ∉ pre.dropWhile Text.isWord ++ '_' :: Nat.toDigits 10 n := by
    have hpre' : ':' ∉ pre := by
      rw [ColonFree] at hcolon
      simpa [hpre, Bindings.stem] using hcolon
    have hnumber : ':' ∉ Nat.toDigits 10 n := fun hc ↦
      absurd (Nat.isDigit_of_mem_toDigits (by decide) (by decide) hc) (by decide)
    rw [List.mem_append, List.mem_cons, not_or, not_or]
    exact ⟨fun hc ↦ hpre' (List.dropWhile_subset _ hc), by decide, hnumber⟩
  have hkept : fillPlaceholders (fun name ↦ (b.get? name).map d.literal)
      (pre.dropWhile Text.isWord ++ '_' :: Nat.toDigits 10 n)
        = pre.dropWhile Text.isWord ++ '_' :: Nat.toDigits 10 n := by
    simpa [fillPlaceholders] using fillPlaceholders_append hrest []
  rw [toList_fillText_placeholder, fillPlaceholders_colon, toList_numberedName_eq_append, ← hpre,
    List.dropWhile_append, if_neg hcut, hkept, ← List.append_assoc]
  exact ⟨_, rfl⟩

/-- With backticks and backslashes, a placeholder whose name has no other colon is never shown as a
literal unless it is read whole. -/
theorem wordName_of_fillText_mysql {field : String} (hcolon : ColonFree field) {n : Nat}
    {b : Bindings} {v : Json}
    (h : fillText .mysql b (placeholder (numberedName field n)) = literal v) : WordName field := by
  by_contra hfield
  obtain ⟨cs, hcs⟩ := exists_fillText_eq_append hcolon hfield .mysql b n
  rw [h] at hcs
  exact toList_literal_ne_append v cs n hcs

theorem WordName.colonFree {name : String} (h : WordName name) : ColonFree name := fun hc ↦
  absurd (h ':' hc) (by rw [Text.isWord_colon]; decide)

/-- **Which placeholders are shown.** Pick any value out of a sequence that is bound one after the
other. Every dialect shows its placeholder as its literal if and only if the name of its column is a
word, whatever else is bound before and after it. With backticks and backslashes, no other name
without a colon has its placeholder shown as its literal, whatever the values are. -/
theorem placeholder_shown_iff (before : List (String × Json)) (field : String) (value : Json)
    (after : List (String × Json)) :
    let name := ((Bindings.empty.bindAll before).bind field value).1
    let final := Bindings.empty.bindAll (before ++ (field, value) :: after)
    ((∀ d, fillText d final (placeholder name) = d.literal value) ↔ WordName field) ∧
      (ColonFree field ∧ fillText .mysql final (placeholder name) = literal value
        ↔ WordName field) := by
  intro name final
  have hshown (h : WordName field) (d : Dialect) :
      fillText d final (placeholder name) = d.literal value := by
    have hfinal : final = ((Bindings.empty.bindAll before).bind field value).2.bindAll after :=
      Bindings.bindAll_append _ _ _
    rw [hfinal]
    exact fillText_placeholder h d (Bindings.sound_bindAll_empty before) value after
  refine ⟨⟨fun h ↦ ?_, hshown⟩, fun h ↦ ?_, fun h ↦ ⟨h.colonFree, hshown h .mysql⟩⟩
  · exact wordName_of_fillText_blot (h .blot)
  · exact wordName_of_fillText_mysql h.1 h.2

/-- A column of a table, named with the table: its placeholder is not found, or the value of another
column is put into it. -/
theorem not_shown_of_dotted_name :
    let age := Bindings.empty.bind "u.age" (.ofInt64 18)
    let other := (Bindings.empty.bind "u" (.ofInt64 7)).2.bind "u__0.age" (.ofInt64 18)
    fillText .mysql age.2 (placeholder age.1) = ":__u.age__0" ∧
      fillText .mysql age.2 (placeholder age.1) ≠ literal (.ofInt64 18) ∧
      fillText .mysql other.2 (placeholder other.1) = "7.age__0" ∧
      fillText .mysql other.2 (placeholder other.1) ≠ literal (.ofInt64 18) := by
  intro age other
  have hage : fillText .mysql age.2 (placeholder age.1) = ":__u.age__0" := by decide +kernel
  have hother : fillText .mysql other.2 (placeholder other.1) = "7.age__0" := by decide +kernel
  rw [hage, hother]
  exact ⟨rfl, by decide +kernel, rfl, by decide +kernel⟩

end BoundSql
