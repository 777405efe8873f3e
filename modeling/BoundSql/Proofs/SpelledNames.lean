import BoundSql.Proofs.FilledPlaceholders
import BoundSql.Proofs.QuotedLiterals
import Mathlib.Data.List.TakeWhile

/-!
# Names that a text spells

Showing a statement with its values looks at every colon with a word after it, whether it was put
there for a value or stands in some name. `spelledNames` are the words after the colons of a text,
and these are the names that are looked up.

A text can be cut wherever no word goes on: what is filled in on one side does not depend on the
other (`fillPlaceholders_append_of_endsName`).

## Texts that are kept

A text is kept if nothing is known under the names it spells. The converse asks for an argument,
since changes could cancel out: a placeholder is replaced, and what is filled in behind it spells
the placeholder again. They cannot if nothing that is filled in opens a name, that is, has a colon
behind nothing but word characters. Once the first placeholder is replaced, a word with a colon
behind it is missing from the text. Nothing that is filled in can give that colon, so it stays
missing to the end, and there is nothing that could give it either. Literals open no name, because
outside of quotes they have no colon.
-/

namespace BoundSql

/-! ## Reading a text -/

/-- Induction along the way a text is read: character by character, and a placeholder as a whole. -/
theorem reading_induct {motive : List Char → Prop} (nil : motive [])
    (char : ∀ c cs, c ≠ ':' → motive cs → motive (c :: cs))
    (placeholder : ∀ name rest, (∀ c ∈ name, Text.isWord c = true) → EndsName rest → motive rest →
      motive (':' :: (name ++ rest)))
    (cs : List Char) : motive cs := by
  cases cs with
  | nil => exact nil
  | cons c cs =>
    by_cases hc : c = ':'
    · have hstop : EndsName (cs.dropWhile Text.isWord) := fun d hd ↦ by
        simpa [Option.mem_def.mp hd] using List.head?_dropWhile_not Text.isWord cs
      have hrest := placeholder (cs.takeWhile Text.isWord) (cs.dropWhile Text.isWord)
        (List.all_eq_true.mp List.all_takeWhile) hstop
        (reading_induct nil char placeholder _)
      rwa [List.takeWhile_append_dropWhile, ← hc] at hrest
    · exact char c cs hc (reading_induct nil char placeholder cs)
termination_by cs.length
decreasing_by
  · exact Nat.lt_succ_of_le (List.dropWhile_suffix _).length_le
  · exact Nat.lt_succ_self _

theorem EndsName.append {cs ds : List Char} (hcs : EndsName cs) (hds : EndsName ds) :
    EndsName (cs ++ ds) := by
  cases cs with
  | nil => exact hds
  | cons c cs => exact hcs

section Fill

variable {value? : String → Option String}

/-- A text can be cut where no name goes on. -/
theorem fillPlaceholders_append_of_endsName (cs : List Char) {ds : List Char} (hds : EndsName ds) :
    fillPlaceholders value? (cs ++ ds)
      = fillPlaceholders value? cs ++ fillPlaceholders value? ds := by
  induction cs using reading_induct with
  | nil => rw [List.nil_append, fillPlaceholders, List.nil_append]
  | char c cs hc ih =>
    rw [List.cons_append, fillPlaceholders, if_neg hc, ih, fillPlaceholders, if_neg hc,
      List.cons_append]
  | placeholder name rest hname hrest ih =>
    rw [List.cons_append, List.append_assoc, fillPlaceholders_placeholder hname (hrest.append hds),
      ih, fillPlaceholders_placeholder hname hrest, List.append_assoc]

/-- A text can be cut behind a character that belongs to no placeholder. -/
theorem fillPlaceholders_append_of_mark (cs : List Char) {mark : Char} (hcolon : mark ≠ ':')
    (hword : Text.isWord mark = false) (ds : List Char) :
    fillPlaceholders value? (cs ++ [mark] ++ ds)
      = fillPlaceholders value? (cs ++ [mark]) ++ fillPlaceholders value? ds := by
  have hends (rest : List Char) : EndsName (mark :: rest) := fun c hc ↦
    Option.mem_some_iff.mp hc ▸ hword
  have hmark (rest : List Char) :
      fillPlaceholders value? (mark :: rest) = mark :: fillPlaceholders value? rest := by
    rw [fillPlaceholders, if_neg hcolon]
  rw [List.append_assoc, List.singleton_append,
    fillPlaceholders_append_of_endsName cs (hends ds), hmark,
    fillPlaceholders_append_of_endsName cs (hends []), hmark, List.append_assoc, fillPlaceholders]
  rfl

/-! ## The names -/

/-- The words after the colons of a text. -/
def spelledNames : List Char → List String
  | [] => []
  | c :: cs =>
    let name := cs.takeWhile Text.isWord
    if c = ':' ∧ name ≠ [] then String.ofList name :: spelledNames cs else spelledNames cs

theorem spelledNames_cons_of_ne {c : Char} (hc : c ≠ ':') (cs : List Char) :
    spelledNames (c :: cs) = spelledNames cs := by
  rw [spelledNames, if_neg fun h ↦ hc h.1]

/-- A text without a colon spells nothing. -/
theorem spelledNames_append {cs : List Char} (h : ':' ∉ cs) (rest : List Char) :
    spelledNames (cs ++ rest) = spelledNames rest := by
  induction cs with
  | nil => rfl
  | cons c cs ih =>
    have hc : c ≠ ':' := fun hc ↦ h (hc ▸ List.mem_cons_self)
    rw [List.cons_append, spelledNames_cons_of_ne hc, ih fun hcs ↦ h (List.mem_cons_of_mem _ hcs)]

private theorem colon_notMem_word {name : List Char} (hname : ∀ c ∈ name, Text.isWord c = true) :
    ':' ∉ name := fun h ↦ Bool.false_ne_true (Text.isWord_colon ▸ hname ':' h)

/-- A placeholder spells its name, if it has one. -/
theorem forall_spelledNames_placeholder {name rest : List Char}
    (hname : ∀ c ∈ name, Text.isWord c = true) (hrest : EndsName rest) {p : String → Prop} :
    (∀ n ∈ spelledNames (':' :: (name ++ rest)), p n)
      ↔ (name = [] ∨ p (String.ofList name)) ∧ ∀ n ∈ spelledNames rest, p n := by
  have hall : name.all Text.isWord = true := List.all_eq_true.mpr hname
  rw [spelledNames, Text.takeWhile_append_of_head? hall hrest,
    spelledNames_append (colon_notMem_word hname)]
  by_cases h : name = [] <;> simp [h]

/-! ## Texts that are kept -/

/-- A placeholder is kept, or a text that is known under its name is filled in. -/
theorem shownPlaceholder_cases (value? : String → Option String) (name : List Char) :
    ((name = [] ∨ value? (String.ofList name) = none)
        ∧ shownPlaceholder value? name = ':' :: name)
      ∨ ∃ s, name ≠ [] ∧ value? (String.ofList name) = some s
        ∧ shownPlaceholder value? name = s.toList := by
  by_cases hname : name = []
  · exact .inl ⟨.inl hname, by rw [hname]; rfl⟩
  · rw [shownPlaceholder, if_neg (by rwa [List.isEmpty_iff])]
    cases hvalue : value? (String.ofList name) with
    | none => exact .inl ⟨.inr rfl, rfl⟩
    | some s => exact .inr ⟨s, hname, rfl, rfl⟩

/-- A text that opens no name: its first character that is none of a word is not a colon. -/
def OpensNoName (cs : List Char) : Prop := (cs.dropWhile Text.isWord).head? ≠ some ':'

/-- Words and colons, with at least one colon. -/
structure HoldsColon (cs : List Char) : Prop where
  /-- There is a colon. -/
  colon : ':' ∈ cs
  /-- There is nothing else but words. -/
  word : ∀ c ∈ cs, c = ':' ∨ Text.isWord c = true

namespace HoldsColon

variable {cs ds : List Char}

/-- What begins with words and a colon opens a name. -/
theorem not_opensNoName (h : HoldsColon cs) (ds : List Char) : ¬ OpensNoName (cs ++ ds) := by
  rw [OpensNoName, not_not]
  obtain ⟨hcolon, hword⟩ := h
  induction cs with
  | nil => cases hcolon
  | cons c cs ih =>
    rcases hword c List.mem_cons_self with rfl | hc
    · rfl
    · have hne : ':' ≠ c := by
        rintro rfl
        exact Bool.false_ne_true (Text.isWord_colon ▸ hc)
      rw [List.cons_append, List.dropWhile_cons_of_pos hc]
      exact ih (List.mem_of_ne_of_mem hne hcolon) fun d hd ↦ hword d (List.mem_cons_of_mem _ hd)

/-- A text that opens no name is used up before the colon. -/
theorem of_append_eq {ls xs ys : List Char} (hcs : HoldsColon cs) (hls : OpensNoName ls)
    (h : ls ++ xs = cs ++ ys) : ∃ ds, HoldsColon ds ∧ xs = ds ++ ys := by
  rcases List.append_eq_append_iff.mp h with ⟨ds, rfl, hxs⟩ | ⟨ds, rfl, -⟩
  · refine ⟨ds, ⟨?_, fun c hc ↦ hcs.word c (List.mem_append_right _ hc)⟩, hxs⟩
    refine (List.mem_append.mp hcs.colon).resolve_left fun hcolon ↦ ?_
    have hbegins : HoldsColon ls := ⟨hcolon, fun c hc ↦ hcs.word c (List.mem_append_left _ hc)⟩
    exact hbegins.not_opensNoName [] (by rwa [List.append_nil])
  · exact absurd hls (hcs.not_opensNoName ds)

end HoldsColon

theorem opensNoName_of_word {cs : List Char} (h : ∀ c ∈ cs, Text.isWord c = true) :
    OpensNoName cs := by
  rw [OpensNoName, List.dropWhile_eq_nil_iff.mpr h]
  nofun

/-- Words and colons with a placeholder behind them. -/
theorem HoldsColon.of_placeholder {ds name : List Char}
    (hds : ∀ c ∈ ds, c = ':' ∨ Text.isWord c = true) (hname : ∀ c ∈ name, Text.isWord c = true) :
    HoldsColon (ds ++ ':' :: name) := by
  refine ⟨List.mem_append_right _ List.mem_cons_self, fun c hc ↦ ?_⟩
  rcases List.mem_append.mp hc with hc | hc
  · exact hds c hc
  · exact (List.mem_cons.mp hc).imp_right (hname c)

/-- Filling in brings no text with a colon in front of the text, if nothing that is filled in opens
a name. -/
theorem fillPlaceholders_ne_append (hvalue : ∀ n s, value? n = some s → OpensNoName s.toList)
    (cs : List Char) {ds : List Char} (hds : HoldsColon ds) :
    fillPlaceholders value? cs ≠ ds ++ cs := by
  intro h
  induction cs using reading_induct generalizing ds with
  | nil =>
    rw [fillPlaceholders, List.append_nil] at h
    exact absurd hds.colon (h ▸ List.not_mem_nil)
  | char c cs hc ih =>
    -- the character is the first of `ds`, and so part of a word
    obtain ⟨d, ds', rfl⟩ := List.exists_cons_of_ne_nil (List.ne_nil_of_mem hds.colon)
    rw [fillPlaceholders, if_neg hc, List.cons_append, List.cons.injEq] at h
    obtain ⟨rfl, h⟩ := h
    have hword := (hds.word c List.mem_cons_self).resolve_left hc
    have hrest : HoldsColon (ds' ++ [c]) := by
      refine ⟨?_, fun e he ↦ ?_⟩
      · exact List.mem_append_left _ (List.mem_of_ne_of_mem (Ne.symm hc) hds.colon)
      · rcases List.mem_append.mp he with he | he
        · exact hds.word e (List.mem_cons_of_mem _ he)
        · exact .inr (List.mem_singleton.mp he ▸ hword)
    exact ih hrest (by rw [h, List.append_assoc, List.singleton_append])
  | placeholder name rest hname hrest ih =>
    rw [fillPlaceholders_placeholder hname hrest] at h
    rcases shownPlaceholder_cases value? name with ⟨-, hshown⟩ | ⟨s, -, hs, hshown⟩
    · -- the colon is the first of `ds`, and the one of the placeholder is left
      obtain ⟨d, ds', rfl⟩ := List.exists_cons_of_ne_nil (List.ne_nil_of_mem hds.colon)
      rw [hshown, List.cons_append, List.cons_append, List.cons.injEq] at h
      have hleft : HoldsColon (ds' ++ ':' :: name) :=
        .of_placeholder (fun c hc ↦ hds.word c (List.mem_cons_of_mem _ hc)) hname
      obtain ⟨es, hes, hfill⟩ := hleft.of_append_eq (opensNoName_of_word hname)
        (by rw [h.2, List.append_assoc, List.cons_append])
      exact ih hes hfill
    · have hleft : HoldsColon (ds ++ ':' :: name) := .of_placeholder hds.word hname
      obtain ⟨es, hes, hfill⟩ := hleft.of_append_eq (hvalue _ _ hs)
        (by rw [← hshown, h, List.append_assoc, List.cons_append])
      exact ih hes hfill

/-- A text is kept if and only if nothing is known under the names it spells, provided that nothing
that is filled in opens a name. -/
theorem fillPlaceholders_eq_self_iff (hvalue : ∀ n s, value? n = some s → OpensNoName s.toList)
    (cs : List Char) :
    fillPlaceholders value? cs = cs ↔ ∀ n ∈ spelledNames cs, value? n = none := by
  induction cs using reading_induct with
  | nil => simp [fillPlaceholders, spelledNames]
  | char c cs hc ih =>
    rw [fillPlaceholders, if_neg hc, spelledNames_cons_of_ne hc, ← ih, List.cons_inj_right]
  | placeholder name rest hname hrest ih =>
    rw [fillPlaceholders_placeholder hname hrest, forall_spelledNames_placeholder hname hrest, ← ih]
    rcases shownPlaceholder_cases value? name with ⟨hunknown, hshown⟩ | ⟨s, hne, hs, hshown⟩
    · rw [hshown, ← List.cons_append, List.append_cancel_left_eq, and_iff_right hunknown]
    · have hknown : ¬ (name = [] ∨ value? (String.ofList name) = none) := by simp [hne, hs]
      refine iff_of_false (fun h ↦ ?_) fun h ↦ hknown h.1
      have hplaceholder : HoldsColon ([] ++ ':' :: name) :=
        .of_placeholder (List.forall_mem_nil _) hname
      obtain ⟨es, hes, hfill⟩ := hplaceholder.of_append_eq (hvalue _ _ hs) (hshown ▸ h)
      exact fillPlaceholders_ne_append hvalue rest hes hfill

end Fill

theorem fillText_append_of_endsName {d : Dialect} {b : Bindings} (s : String) {t : String}
    (ht : EndsName t.toList) : fillText d b (s ++ t) = fillText d b s ++ fillText d b t := by
  rw [fillText, String.toList_append, fillPlaceholders_append_of_endsName _ ht,
    String.ofList_append]
  rfl

/-! ## Literals -/

/-- Outside of quotes a literal has no colon, and it begins there. -/
theorem opensNoName_literal (v : Json) : OpensNoName (literal v).toList := by
  intro h
  set word := (literal v).toList.takeWhile Text.isWord with hword
  obtain ⟨rest, hrest⟩ := List.head?_eq_some_iff.mp h
  have htext : (literal v).toList = word ++ ':' :: rest := by
    rw [← hrest, List.takeWhile_append_dropWhile]
  have hmarks : Place.NoQuotes word := by
    intro c hc
    have hc : Text.isWord c = true := List.mem_takeWhile_imp hc
    constructor <;> rintro rfl <;> exact absurd hc (by decide)
  have hplain : .plain ':' ∈ Place.outside.signs (literal v).toList := by
    rw [htext, Place.signs_append, (Place.outside_of_noQuotes hmarks).1]
    exact List.mem_append_right _ List.mem_cons_self
  rcases (tidy_literal v).outline.plain_mem hplain with hnumeral | hchar
  · exact absurd hnumeral (by decide)
  · exact absurd hchar (by decide)

/-- With backticks and backslashes, a text is shown as it is if and only if nothing is bound under
the names it spells. -/
theorem fillText_mysql_eq_self_iff (b : Bindings) (s : String) :
    fillText .mysql b s = s ↔ ∀ n ∈ spelledNames s.toList, b.get? n = none := by
  have hliteral : ∀ n t, (b.get? n).map Dialect.mysql.literal = some t → OpensNoName t.toList := by
    intro n t ht
    obtain ⟨v, -, rfl⟩ := Option.map_eq_some_iff.mp ht
    exact opensNoName_literal v
  rw [fillText, ← String.toList_inj, String.toList_ofList, fillPlaceholders_eq_self_iff hliteral]
  simp

/-! ## Quoted names -/

/-- A mark ends a word, and there is one after a quoted name. -/
private theorem takeWhile_isWord_doubled (cs : List Char) :
    ((cs.flatMap fun c ↦ if c = identifierMark then [c, c] else [c])
        ++ [identifierMark]).takeWhile Text.isWord = cs.takeWhile Text.isWord := by
  have hmark : Text.isWord identifierMark = false := by decide
  induction cs with
  | nil => simp [hmark]
  | cons c cs ih =>
    rw [List.flatMap_cons, List.append_assoc]
    by_cases hc : c = identifierMark
    · simp [hc, hmark]
    · rw [if_neg hc, List.singleton_append, List.takeWhile_cons, ih, List.takeWhile_cons]

/-- A quoted name spells what the name itself spells. -/
theorem spelledNames_quoteIdentifier (name : String) :
    spelledNames (quoteIdentifier name).toList = spelledNames name.toList := by
  have hmark : identifierMark ≠ ':' := by decide
  rw [quoteIdentifier, wrapDoubling, String.toList_ofList, List.cons_append,
    spelledNames_cons_of_ne hmark]
  induction name.toList with
  | nil => rw [List.flatMap_nil, List.nil_append, spelledNames_cons_of_ne hmark]
  | cons c cs ih =>
    rw [List.flatMap_cons, List.append_assoc]
    by_cases hc : c = identifierMark
    · rw [if_pos hc, hc, List.cons_append, List.singleton_append, spelledNames_cons_of_ne hmark,
        spelledNames_cons_of_ne hmark, spelledNames_cons_of_ne hmark, ih]
    · rw [if_neg hc, List.singleton_append, spelledNames, takeWhile_isWord_doubled, ih,
        spelledNames]

end BoundSql
