import BoundSql.Proofs.FreshNames
import BoundSql.Template
import BoundSql.Text.Blank

/-!
# Filling in placeholders

A statement is shown with its values by reading its finished text again: whatever looks like a
placeholder and is bound is replaced. A template with literals in its holes never had placeholders.
The two agree for templates that are *legible*, and this module proves it.

## Legible templates

Reading the text finds a hole if three things hold. No other text has a colon, so a placeholder
begins where a hole does and nowhere else. The name of a column has word characters only, so the
placeholder is read to its end. What follows a hole is no word character, so it is not read further.

## Where values cannot interfere

A literal is put into the text that has been read already, so a value that spells a placeholder is
not looked at. And a placeholder is read as a whole, so that one name begins another, as `__a__1`
does `__a__10`, does not matter: only the entry under the whole name counts.
-/

namespace BoundSql

/-! ## Reading a text once -/

section Fill

variable {value? : String → Option String}

/-- Text without a colon is kept, and what follows it is read as if it stood alone. -/
theorem fillPlaceholders_append {s : List Char} (h : ':' ∉ s) (rest : List Char) :
    fillPlaceholders value? (s ++ rest) = s ++ fillPlaceholders value? rest := by
  induction s with
  | nil => rfl
  | cons c s ih =>
    have hc : c ≠ ':' := fun hc ↦ h (hc ▸ List.mem_cons_self)
    have hs : ':' ∉ s := fun hs ↦ h (List.mem_cons_of_mem _ hs)
    rw [List.cons_append, fillPlaceholders, if_neg hc, ih hs, List.cons_append]

/-- What can follow a placeholder and is not read as a part of it. -/
def EndsName (cs : List Char) : Prop := ∀ c ∈ cs.head?, Text.isWord c = false

instance (cs : List Char) : Decidable (EndsName cs) :=
  decidable_of_iff (cs.head?.all fun c ↦ !Text.isWord c) (by cases cs <;> simp [EndsName])

/-- A placeholder is read to its end and not further. -/
theorem fillPlaceholders_placeholder {name rest : List Char}
    (hname : ∀ c ∈ name, Text.isWord c = true) (hrest : EndsName rest) :
    fillPlaceholders value? (':' :: (name ++ rest))
      = shownPlaceholder value? name ++ fillPlaceholders value? rest := by
  -- the longest run of word characters is the name and nothing of the rest
  have hall : name.all Text.isWord = true := List.all_eq_true.mpr hname
  rw [fillPlaceholders, if_pos rfl, Text.takeWhile_append_of_head? hall hrest,
    Text.dropWhile_append_of_head? hall hrest]

theorem shownPlaceholder_of_eq_some {name s : String} (hne : name.toList ≠ [])
    (h : value? name = some s) : shownPlaceholder value? name.toList = s.toList := by
  rw [shownPlaceholder, if_neg (by rwa [List.isEmpty_iff]), String.ofList_toList, h]

end Fill

/-! ## The names of placeholders -/

/-- A name of word characters. In a placeholder it is read to its end. -/
def WordName (name : String) : Prop := ∀ c ∈ name.toList, Text.isWord c = true

instance (name : String) : Decidable (WordName name) :=
  decidable_of_iff (name.toList.all Text.isWord) List.all_eq_true

private theorem isWord_of_isDigit {c : Char} (h : c.isDigit = true) : Text.isWord c = true := by
  have hascii : c.toNat < 0x80 :=
    Nat.lt_of_le_of_lt (Char.isDigit_iff_toNat.mp h).2 (by decide)
  rw [Text.isWord_of_ascii hascii, Text.isAsciiWord, Char.isAlphanum, h, Bool.or_true, Bool.true_or]

/-- The name for a value has word characters only if the name of its column does. -/
theorem WordName.numberedName {field : String} (hfield : WordName field) (n : Nat) :
    WordName (numberedName field n) := by
  intro c hc
  rw [toList_numberedName] at hc
  simp only [List.mem_append, List.mem_cons, List.not_mem_nil, or_false] at hc
  rcases hc with ((rfl | rfl | hmem) | rfl) | rfl | hdigit
  · exact Text.isWord_underscore
  · exact Text.isWord_underscore
  · exact hfield c hmem
  · exact Text.isWord_underscore
  · exact Text.isWord_underscore
  · exact isWord_of_isDigit (Nat.isDigit_of_mem_toDigits (by decide) (by decide) hdigit)

/-! ## Legible templates -/

/-- Text in which no placeholder begins. -/
def ColonFree (s : String) : Prop := ':' ∉ s.toList

instance (s : String) : Decidable (ColonFree s) := inferInstanceAs (Decidable (':' ∉ s.toList))

namespace Template

/-- Whether a placeholder before the template is read to its end and not further, whatever is
bound. -/
def Separate : Template → Prop
  | [] => True
  | .text s :: _ => s.toList ≠ [] ∧ EndsName s.toList
  | .hole _ _ :: _ => True

instance (t : Template) : Decidable (Separate t) :=
  match t with
  | [] => .isTrue trivial
  | .text s :: _ => inferInstanceAs (Decidable (s.toList ≠ [] ∧ EndsName s.toList))
  | .hole _ _ :: _ => .isTrue trivial

/-- Whether the holes can be found in the text once they are filled with placeholders. -/
def Legible : Template → Prop
  | [] => True
  | .text s :: rest => ColonFree s ∧ Legible rest
  | .hole field _ :: rest =>
    WordName field ∧ Separate rest ∧ Legible rest

theorem separate_text_append {s : String} (hs : Separate [.text s]) (s' : String) (t : Template) :
    Separate (.text (s ++ s') :: t) := by
  obtain ⟨hne, hends⟩ := hs
  rw [Separate, EndsName, String.toList_append, List.head?_append_of_ne_nil _ hne]
  exact ⟨List.append_ne_nil_of_left_ne_nil hne _, hends⟩

theorem separate_append {s t : Template} (hs : Separate s) (ht : Separate t) :
    Separate (s ++ t) := by
  cases s with
  | nil => exact ht
  | cons f s => cases f <;> exact hs

theorem legible_append {s t : Template} (hs : Legible s) (hsep : Separate t) (ht : Legible t) :
    Legible (s ++ t) := by
  induction s with
  | nil => exact ht
  | cons f s ih =>
    cases f with
    | text s' => exact ⟨hs.1, ih hs.2⟩
    | hole field value => exact ⟨hs.1, separate_append hs.2.1 hsep, ih hs.2.2⟩

theorem Separate.endsName_text {s : String} {t : Template} (h : Separate (.text s :: t))
    (rest : String) : EndsName (s ++ rest).toList := by
  intro c hc
  rw [String.toList_append, List.head?_append_of_ne_nil _ h.1] at hc
  exact h.2 c hc

/-- A placeholder begins with its colon. -/
theorem endsName_placeholder (name rest : String) : EndsName (placeholder name ++ rest).toList := by
  intro c hc
  rw [placeholder, String.append_assoc, String.toList_append] at hc
  have hcolon : c = ':' := (Option.mem_some_iff.mp hc).symm
  rw [hcolon, Text.isWord_colon]

/-- The bound text of a separate template ends a name before it. -/
theorem Separate.endsName {t : Template} (ht : Separate t) (b : Bindings) :
    EndsName (bind t b).1.toList := by
  cases t with
  | nil => exact fun c hc ↦ nomatch hc
  | cons f t =>
    cases f with
    | text s => exact ht.endsName_text _
    | hole field value => exact endsName_placeholder _ _

/-- Filling in the placeholders of a legible template writes its values, whatever else is bound, if
every name that was given is known by the literal of its value. -/
theorem fillPlaceholders_bind {d : Dialect} {value? : String → Option String} {t : Template}
    (ht : Legible t) (b : Bindings)
    (hvalue : ∀ e ∈ (b.given t.holes).zip (t.holes.map Prod.snd),
      value? e.1 = some (d.literal e.2)) :
    fillPlaceholders value? (bind t b).1.toList = (inline d t).toList := by
  induction t generalizing b with
  | nil => rw [bind, inline, String.toList_empty, fillPlaceholders]
  | cons f t ih =>
    cases f with
    | text s =>
      obtain ⟨hs, hrest⟩ := ht
      rw [bind, inline, String.toList_append, String.toList_append, fillPlaceholders_append hs,
        ih hrest b hvalue]
    | hole field value =>
      obtain ⟨hfield, hsep, hrest⟩ := ht
      have hknown : value? (b.bind field value).1 = some (d.literal value) :=
        hvalue ((b.bind field value).1, value) List.mem_cons_self
      have hword : WordName (b.bind field value).1 := hfield.numberedName _
      have hne : (b.bind field value).1.toList ≠ [] := by
        rw [show (b.bind field value).1 = numberedName field (b.used field) from rfl,
          toList_numberedName]
        exact List.append_ne_nil_of_right_ne_nil _ (List.cons_ne_nil _ _)
      -- the names for the rest are given after this one, and the rest is read after its literal
      have htail := ih hrest (b.bind field value).2 fun e he ↦ hvalue e (List.mem_cons_of_mem _ he)
      rw [bind, inline, placeholder, String.toList_append, String.toList_append,
        String.toList_append]
      calc fillPlaceholders value? (':' ::
            ((b.bind field value).1.toList ++ (bind t (b.bind field value).2).1.toList))
          = shownPlaceholder value? (b.bind field value).1.toList
              ++ fillPlaceholders value? (bind t (b.bind field value).2).1.toList :=
            fillPlaceholders_placeholder hword (hsep.endsName _)
        _ = (d.literal value).toList ++ (inline d t).toList := by
            rw [shownPlaceholder_of_eq_some hne hknown, htail]

/-- **Filling in undoes binding.** The text of a legible template whose values were bound after
others shows the literals of its own values, also after further values were bound. -/
theorem fillText_bind {d : Dialect} {t : Template} (ht : Legible t) {b : Bindings} (hb : b.Sound)
    (more : List (String × Json)) :
    fillText d ((bind t b).2.bindAll more) (bind t b).1 = inline d t := by
  have hvalue : ∀ e ∈ (b.given t.holes).zip (t.holes.map Prod.snd),
      (((bind t b).2.bindAll more).get? e.1).map d.literal = some (d.literal e.2) := by
    intro e he
    -- what is found is the entry under the whole name, whichever names begin it or it begins
    have hmem : e ∈ (b.bindAll t.holes).entries := by
      rw [hb.entries_bindAll]
      exact List.mem_append_right _ he
    rw [bind_snd, (hb.bindAll t.holes).get?_bindAll_of_mem hmem more, Option.map_some]
  rw [fillText, fillPlaceholders_bind ht b hvalue, String.ofList_toList]

end Template

end BoundSql
