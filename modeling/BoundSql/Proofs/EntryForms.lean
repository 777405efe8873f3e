import BoundSql.Selected
import Mathlib.Data.List.Basic

/-!
# The forms of SELECT entries

An entry of a `SELECT` list is read by cutting it into words and comparing them. Here entries are
described the other way round: a *form* lists the pieces of an entry, each with the proof that it is
what must stand in its place, and `text` puts the pieces together. Every choice that is left open —
the spelling of a keyword or a function, the number of blanks — is a piece, so a form says all there
is to say about a text.

For each kind of form there are three facts: the reader reads what the form says (`…_text`), what
the reader reads has a form (`exists_…`), and no text has two forms (`text_injective`). The last is
because a run of blanks and a word cannot overlap (`Run.append_inj`), so the pieces are found by
cutting from the right end. It does not matter, then, in which order a reader tries to find them.
-/

namespace BoundSql

namespace Text

/-! ## Runs of characters -/

/-- A text of one or more characters that all satisfy `p`. A gap is a run of blanks, and a word is
a run of ink. -/
@[ext]
structure Run (p : Char → Bool) where
  text : List Char
  ne_nil : text ≠ []
  all : text.all p = true

/-- A run of `p` after `cs` does not reach into `cs`. -/
def Stops (p : Char → Bool) (cs : List Char) : Prop := ∀ c ∈ cs.getLast?, p c = false

theorem takeEnd_append {p : Char → Bool} {cs : List Char} (h : Stops p cs) (r : Run p) :
    takeEnd p (cs ++ r.text) = r.text := by
  rw [takeEnd, List.reverse_append, takeWhile_append_of_head? (by simpa using r.all) (by simpa),
    List.reverse_reverse]

theorem dropEnd_append {p : Char → Bool} {cs : List Char} (h : Stops p cs) (r : Run p) :
    dropEnd p (cs ++ r.text) = cs := by
  rw [dropEnd, List.reverse_append, dropWhile_append_of_head? (by simpa using r.all) (by simpa),
    List.reverse_reverse]

theorem stops_dropEnd (p : Char → Bool) (cs : List Char) : Stops p (dropEnd p cs) :=
  fun _ hc ↦ not_of_getLast?_dropEnd hc

namespace Run

variable {p q : Char → Bool}

/-- There is at most one way to cut a text before its last run. -/
theorem append_inj {cs cs' : List Char} {r r' : Run p} (hcs : Stops p cs) (hcs' : Stops p cs')
    (h : cs ++ r.text = cs' ++ r'.text) : cs = cs' ∧ r = r' := by
  constructor
  · rw [← dropEnd_append hcs r, h, dropEnd_append hcs']
  · ext1
    rw [← takeEnd_append hcs r, h, takeEnd_append hcs']

/-- Where a run ends, a run of other characters can begin. -/
theorem stops (hpq : ∀ c, p c = true → q c = false) (cs : List Char) (r : Run p) :
    Stops q (cs ++ r.text) := by
  intro c hc
  rw [List.getLast?_append_of_ne_nil _ r.ne_nil] at hc
  exact hpq c (List.all_eq_true.mp r.all c (List.mem_of_getLast? hc))

/-- Where a run begins, a run of other characters can end. -/
theorem head?_append (hpq : ∀ c, p c = true → q c = false) (r : Run p) (rest : List Char) :
    ∀ c ∈ (r.text ++ rest).head?, q c = false := by
  intro c hc
  rw [List.head?_append_of_ne_nil _ r.ne_nil] at hc
  exact hpq c (List.all_eq_true.mp r.all c (List.mem_of_head? hc))

end Run

/-- A gap is no part of a word. -/
theorem not_all_isInk (front rest : List Char) (gap : Run isBlank) :
    ¬ (front ++ (gap.text ++ rest)).all isInk = true := by
  intro h
  obtain ⟨c, hc⟩ := List.exists_mem_of_ne_nil _ gap.ne_nil
  have hink : isInk c = true := List.all_eq_true.mp h c (by simp [hc])
  simp [List.all_eq_true.mp gap.all c hc] at hink

/-- After a word a gap can begin. -/
theorem stops_isBlank (cs : List Char) (word : Run isInk) : Stops isBlank (cs ++ word.text) :=
  word.stops (by simp) cs

/-- After a gap a word can begin. -/
theorem stops_isInk (cs : List Char) (gap : Run isBlank) : Stops isInk (cs ++ gap.text) :=
  gap.stops (by simp) cs

section LastWord

variable {cs cs' : List Char} {gap gap' : Run isBlank} {word word' : Run isInk}

theorem lastWord_append : lastWord (cs ++ gap.text ++ word.text) = word.text :=
  takeEnd_append (stops_isInk cs gap) word

theorem trimEnd_beforeLastWord_append (h : Stops isBlank cs) :
    trimEnd (beforeLastWord (cs ++ gap.text ++ word.text)) = cs := by
  rw [beforeLastWord, dropEnd_append (stops_isInk cs gap), trimEnd, dropEnd_append h]

/-- There is at most one way to cut a text before its last word and the gap in front of it. -/
theorem lastWord_append_inj (hcs : Stops isBlank cs) (hcs' : Stops isBlank cs')
    (h : cs ++ gap.text ++ word.text = cs' ++ gap'.text ++ word'.text) :
    cs = cs' ∧ gap = gap' ∧ word = word' := by
  obtain ⟨h, hword⟩ := Run.append_inj (stops_isInk cs gap) (stops_isInk cs' gap') h
  obtain ⟨h, hgap⟩ := Run.append_inj hcs hcs' h
  exact ⟨h, hgap, hword⟩

/-- What stands before the last word ends with a blank. -/
theorem exists_blank_of_beforeLastWord (hne : beforeLastWord cs ≠ []) :
    ∃ c, (beforeLastWord cs).getLast? = some c ∧ isBlank c = true := by
  obtain ⟨c, hc⟩ := Option.ne_none_iff_exists'.mp (mt List.getLast?_eq_none_iff.mp hne)
  have hblank : isInk c = false := not_of_getLast?_dropEnd hc
  exact ⟨c, hc, by simpa using hblank⟩

/-- A text that ends with a blank ends with a gap. -/
theorem exists_gap_of_blank {c : Char} (h : cs.getLast? = some c) (hc : isBlank c = true) :
    ∃ gap : Run isBlank, trimEnd cs ++ gap.text = cs := by
  have hcut : trimEnd cs ++ takeEnd isBlank cs = cs := dropEnd_append_takeEnd isBlank cs
  refine ⟨⟨takeEnd isBlank cs, fun hnil ↦ ?_, all_takeEnd isBlank cs⟩, hcut⟩
  -- with nothing cut off, the blank would be the last character of a trimmed text
  rw [hnil, List.append_nil] at hcut
  have hink : isBlank c = false := stops_dropEnd isBlank cs c (by rwa [← trimEnd, hcut])
  rw [hink] at hc
  cases hc

/-- Between the last word and the text before it, which ends in ink, there is a gap. -/
theorem exists_gap (hne : trimEnd (beforeLastWord cs) ≠ []) :
    ∃ gap : Run isBlank, trimEnd (beforeLastWord cs) ++ gap.text ++ lastWord cs = cs := by
  have hbefore : beforeLastWord cs ≠ [] := by
    intro hnil
    rw [hnil] at hne
    exact hne rfl
  obtain ⟨c, hc, hblank⟩ := exists_blank_of_beforeLastWord hbefore
  obtain ⟨gap, hgap⟩ := exists_gap_of_blank hc hblank
  exact ⟨gap, by rw [hgap, beforeLastWord_append_lastWord]⟩

end LastWord

/-- Between the first word and a second one that ends the text there is a gap. -/
theorem exists_gap_of_two_words {cs : List Char} (hcs : ¬ cs.all isInk = true)
    (hrest : (trimStart (cs.dropWhile isInk)).all isInk = true) :
    ∃ gap : Run isBlank,
      cs.takeWhile isInk ++ gap.text ++ trimStart (cs.dropWhile isInk) = cs := by
  have hcut : (cs.dropWhile isInk).takeWhile isBlank ++ trimStart (cs.dropWhile isInk) =
      cs.dropWhile isInk := List.takeWhile_append_dropWhile
  have hgap : (cs.dropWhile isInk).takeWhile isBlank ≠ [] := by
    intro hnil
    rw [hnil, List.nil_append] at hcut
    -- with nothing between them, the two words would be one
    refine hcs ?_
    rw [← List.takeWhile_append_dropWhile (p := isInk) (l := cs), List.all_append, ← hcut, hrest,
      List.all_takeWhile, Bool.and_self]
  refine ⟨⟨_, hgap, List.all_takeWhile⟩, ?_⟩
  rw [List.append_assoc, hcut, List.takeWhile_append_dropWhile]

/-! ## Keywords -/

/-- A spelling of a keyword. -/
@[ext]
structure Spelling (keyword : List Char) where
  text : List Char
  folds : foldsTo keyword text = true

/-- A text is a word if it is one after its letters are folded, since blanks are kept. -/
theorem all_isInk_of_map {f : Char → Char} (hf : (blanks.all fun b ↦ f b == b) = true)
    {cs : List Char} (h : (cs.map f).all isInk = true) : cs.all isInk = true := by
  rw [List.all_eq_true] at h ⊢
  intro c hc
  by_contra hblank
  have hblank : isBlank c = true := by simpa using hblank
  have hkept : f c = c := by simpa using List.all_eq_true.mp hf c (isBlank_iff.mp hblank)
  have hink := h (f c) (List.mem_map_of_mem hc)
  simp [hkept, hblank] at hink

/-- A spelling of a word is a word. -/
def Spelling.run {keyword : List Char} (s : Spelling keyword) (hne : keyword ≠ [])
    (hink : keyword.all isInk = true) : Run isInk where
  text := s.text
  ne_nil := by
    rintro hnil
    exact hne (by rw [← foldsTo_iff.mp s.folds, hnil, List.map_nil])
  all := all_isInk_of_map (f := foldLetter) (by decide) (by rwa [foldsTo_iff.mp s.folds])

end Text

open Text

/-! ## The name after the keyword -/

/-- What follows the target of an entry that has a name: `as name`, with the blanks before it. -/
@[ext]
structure Naming where
  before : Run isBlank
  keyword : Spelling ['a', 's']
  after : Run isBlank
  name : Run isInk

namespace Naming

def text (n : Naming) : List Char :=
  n.before.text ++ (n.keyword.text ++ (n.after.text ++ n.name.text))

/-- The keyword is a word. -/
def keywordRun (n : Naming) : Run isInk := n.keyword.run (by decide) (by decide)

/-- A name after its target is two words, each with the gap in front of it. -/
theorem append_text (target : List Char) (n : Naming) :
    target ++ n.text =
      target ++ n.before.text ++ n.keywordRun.text ++ n.after.text ++ n.name.text := by
  simp [text, keywordRun, Spelling.run]

/-- There is at most one way to cut a name off. -/
theorem append_inj {target target' : List Char} {n n' : Naming} (ht : Stops isBlank target)
    (ht' : Stops isBlank target') (h : target ++ n.text = target' ++ n'.text) :
    target = target' ∧ n = n' := by
  rw [append_text, append_text] at h
  obtain ⟨h, hafter, hname⟩ := lastWord_append_inj (stops_isBlank _ _) (stops_isBlank _ _) h
  obtain ⟨h, hbefore, hkeyword⟩ := lastWord_append_inj ht ht' h
  have hspelling : n.keyword = n'.keyword := Spelling.ext (congrArg Run.text hkeyword)
  exact ⟨h, Naming.ext hbefore hspelling hafter hname⟩

/-- A name is split off as written. -/
theorem splitAlias?_append {target : List Char} (hne : target ≠ []) (ht : Stops isBlank target)
    (n : Naming) : splitAlias? (target ++ n.text) = some (target, n.name.text) := by
  have hkeyword : foldsTo ['a', 's'] n.keywordRun.text = true := n.keyword.folds
  rw [append_text, splitAlias?, lastWord_append, trimEnd_beforeLastWord_append (stops_isBlank _ _),
    lastWord_append, trimEnd_beforeLastWord_append ht]
  simp [hkeyword, hne, n.name.ne_nil]

/-- What is split off is a name. -/
theorem exists_naming {cs target name : List Char} (h : splitAlias? cs = some (target, name)) :
    target ≠ [] ∧ Stops isBlank target ∧
      ∃ n : Naming, target ++ n.text = cs ∧ n.name.text = name := by
  rw [splitAlias?] at h
  split at h
  · next hwords =>
    obtain ⟨rfl, rfl⟩ := Prod.mk.inj (Option.some.inj h)
    simp only [Bool.and_eq_true, Bool.not_eq_true', List.isEmpty_eq_false_iff] at hwords
    obtain ⟨⟨hkeyword, htarget⟩, hname⟩ := hwords
    have hbefore : trimEnd (beforeLastWord cs) ≠ [] := by
      intro hnil
      rw [hnil] at hkeyword
      exact absurd hkeyword (by decide)
    obtain ⟨after, hafter⟩ := exists_gap hbefore
    obtain ⟨before, hgap⟩ := exists_gap htarget
    let n : Naming := ⟨before, ⟨_, hkeyword⟩, after, ⟨_, hname, all_takeEnd isInk cs⟩⟩
    refine ⟨htarget, stops_dropEnd isBlank _, n, ?_, rfl⟩
    calc trimEnd (beforeLastWord (trimEnd (beforeLastWord cs))) ++ n.text
        = trimEnd (beforeLastWord (trimEnd (beforeLastWord cs))) ++ before.text ++
            lastWord (trimEnd (beforeLastWord cs)) ++ after.text ++ lastWord cs := n.append_text _
      _ = trimEnd (beforeLastWord cs) ++ after.text ++ lastWord cs := by rw [hgap]
      _ = cs := hafter
  · cases h

end Naming

/-! ## Calls of aggregates -/

/-- The keyword `distinct`, with the blanks after it. -/
@[ext]
structure DistinctMark where
  keyword : Spelling "distinct".toList
  after : Run isBlank

namespace DistinctMark

def text (m : DistinctMark) : List Char := m.keyword.text ++ m.after.text

/-- The keyword is a word. -/
def keywordRun (m : DistinctMark) : Run isInk := m.keyword.run (by decide) (by decide)

theorem text_injective : Function.Injective text := by
  intro m m' h
  have hstops (m : DistinctMark) : Stops isBlank m.keyword.text := stops_isBlank [] m.keywordRun
  obtain ⟨hkeyword, hafter⟩ := Run.append_inj (hstops m) (hstops m') h
  exact DistinctMark.ext (Spelling.ext hkeyword) hafter

end DistinctMark

/-- What stands between the parentheses of a call. -/
@[ext]
structure CallArgument where
  distinct : Option DistinctMark
  path : Run isInk

namespace CallArgument

/-- What stands before the path. -/
def front (a : CallArgument) : List Char := a.distinct.elim [] DistinctMark.text

def text (a : CallArgument) : List Char := a.front ++ a.path.text

theorem stops_front (a : CallArgument) : Stops isInk a.front := by
  rcases a with ⟨_ | m, path⟩
  · exact nofun
  · exact stops_isInk m.keyword.text m.after

theorem distinct_eq_of_front_eq {a a' : CallArgument} (h : a.front = a'.front) :
    a.distinct = a'.distinct := by
  have hne (m : DistinctMark) : m.text ≠ [] := by simp [DistinctMark.text, m.after.ne_nil]
  rcases a with ⟨_ | m, path⟩ <;> rcases a' with ⟨_ | m', path'⟩
  · rfl
  · exact absurd h.symm (hne m')
  · exact absurd h (hne m)
  · exact congrArg some (DistinctMark.text_injective h)

theorem text_injective : Function.Injective text := by
  intro a a' h
  obtain ⟨hfront, hpath⟩ := Run.append_inj a.stops_front a'.stops_front h
  exact CallArgument.ext (distinct_eq_of_front_eq hfront) hpath

/-- An argument is read as written. -/
theorem readArgument?_text (a : CallArgument) :
    Aggregate.readArgument? a.text = some (a.distinct.isSome, a.path.text) := by
  rcases h : a.distinct with _ | m
  · have htext : a.text = a.path.text := by simp [text, front, h]
    rw [htext, Aggregate.readArgument?, if_pos a.path.all]
    simp [a.path.ne_nil]
  · have htext : a.text = m.keyword.text ++ (m.after.text ++ a.path.text) := by
      simp [text, front, h, DistinctMark.text]
    have hword : m.keyword.text.all isInk = true := m.keywordRun.all
    have hgap := m.after.head?_append (q := isInk) (by simp) a.path.text
    have hpath := a.path.head?_append (q := isBlank) (by simp) []
    rw [List.append_nil] at hpath
    rw [htext, Aggregate.readArgument?, if_neg (not_all_isInk _ _ _),
      takeWhile_append_of_head? hword hgap, dropWhile_append_of_head? hword hgap, trimStart,
      dropWhile_append_of_head? m.after.all hpath, m.keyword.folds, a.path.all]
    simp [a.path.ne_nil]

/-- What is read as an argument is one. -/
theorem exists_argument {cs path : List Char} {distinct : Bool}
    (h : Aggregate.readArgument? cs = some (distinct, path)) :
    ∃ a : CallArgument, a.text = cs ∧ a.distinct.isSome = distinct ∧ a.path.text = path := by
  rw [Aggregate.readArgument?] at h
  split at h
  · next hink =>
    split at h
    · cases h
    · next hne =>
      obtain ⟨rfl, rfl⟩ := Prod.mk.inj (Option.some.inj h)
      exact ⟨⟨none, ⟨cs, by simpa using hne, hink⟩⟩, rfl, rfl, rfl⟩
  · next hink =>
    split at h
    · next hwords =>
      obtain ⟨rfl, rfl⟩ := Prod.mk.inj (Option.some.inj h)
      simp only [Bool.and_eq_true, Bool.not_eq_true', List.isEmpty_eq_false_iff] at hwords
      obtain ⟨⟨hkeyword, hne⟩, hpath⟩ := hwords
      obtain ⟨gap, htext⟩ := exists_gap_of_two_words hink hpath
      exact ⟨⟨some ⟨⟨_, hkeyword⟩, gap⟩, ⟨_, hne, hpath⟩⟩, htext, rfl, rfl⟩
    · cases h

end CallArgument

namespace Aggregate

/-- No two functions have names that differ only in case. -/
theorem lowerName_injective :
    Function.Injective fun f : Aggregate ↦ f.name.toList.map Char.toLower := by
  rintro (_ | _ | _ | _ | _) (_ | _ | _ | _ | _) <;> decide

theorem sameWord_of_ofName? {word : List Char} {f : Aggregate} (h : ofName? word = some f) :
    sameWord f.name.toList word = true := by
  rw [ofName?] at h
  exact (List.find?_some h : _)

/-- The name of a function is read in any case. -/
theorem ofName?_eq_some_iff {word : List Char} {f : Aggregate} :
    ofName? word = some f ↔ sameWord f.name.toList word = true := by
  refine ⟨sameWord_of_ofName?, fun h ↦ ?_⟩
  obtain ⟨g, hg⟩ : ∃ g, ofName? word = some g := by
    rw [← Option.isSome_iff_exists, ofName?, List.find?_isSome]
    exact ⟨f, by cases f <;> decide, h⟩
  have hname := (sameWord_iff.mp h).trans (sameWord_iff.mp (sameWord_of_ofName? hg)).symm
  rw [hg, lowerName_injective hname]

end Aggregate

/-- The call of an aggregate. -/
@[ext]
structure Call where
  function : Aggregate
  word : List Char
  spelled : sameWord function.name.toList word = true
  argument : CallArgument

namespace Call

def text (c : Call) : List Char := c.word ++ '(' :: (c.argument.text ++ [')'])

/-- The word before the parenthesis goes on to it. -/
theorem ne_paren_of_mem_word {c : Call} {x : Char} (hx : x ∈ c.word) : (x != '(') = true := by
  have hname : ∀ f : Aggregate, '(' ∉ f.name.toList.map Char.toLower := by
    rintro (_ | _ | _ | _ | _) <;> decide
  rw [bne_iff_ne]
  rintro rfl
  refine hname c.function ?_
  rw [sameWord_iff.mp c.spelled]
  exact List.mem_map_of_mem (f := Char.toLower) hx

theorem all_word (c : Call) : c.word.all (· != '(') = true :=
  List.all_eq_true.mpr fun _ hx ↦ ne_paren_of_mem_word hx

theorem takeWhile_text (c : Call) : c.text.takeWhile (· != '(') = c.word :=
  takeWhile_append_of_head? c.all_word (by simp)

theorem dropWhile_text (c : Call) :
    c.text.dropWhile (· != '(') = '(' :: (c.argument.text ++ [')']) :=
  dropWhile_append_of_head? c.all_word (by simp)

theorem text_ne_nil (c : Call) : c.text ≠ [] := by simp [text]

/-- A call ends in its parenthesis. -/
theorem stops_text (c : Call) : Stops isBlank c.text := by
  have htext : c.text = c.word ++ '(' :: c.argument.text ++ [')'] := by simp [text]
  rw [htext]
  exact stops_isBlank _ ⟨[')'], List.cons_ne_nil _ _, by decide⟩

theorem text_injective : Function.Injective text := by
  intro c c' h
  have hword : c.word = c'.word := by rw [← takeWhile_text, h, takeWhile_text]
  have hinside : '(' :: (c.argument.text ++ [')']) = '(' :: (c'.argument.text ++ [')']) := by
    rw [← dropWhile_text, h, dropWhile_text]
  have hargument := CallArgument.text_injective (List.append_cancel_right (List.cons.inj hinside).2)
  have hfunction : some c.function = some c'.function := by
    rw [← Aggregate.ofName?_eq_some_iff.mpr c.spelled, hword,
      Aggregate.ofName?_eq_some_iff.mpr c'.spelled]
  exact Call.ext (Option.some.inj hfunction) hword hargument

/-- A call is read as written. -/
theorem readCall?_text (c : Call) :
    Aggregate.readCall? c.text =
      some (c.function, c.argument.distinct.isSome, c.argument.path.text) := by
  have hfunction := Aggregate.ofName?_eq_some_iff.mpr c.spelled
  rw [Aggregate.readCall?, dropWhile_text, takeWhile_text, hfunction]
  simp [c.argument.readArgument?_text]

/-- What is read as a call is one. -/
theorem exists_call {cs path : List Char} {f : Aggregate} {distinct : Bool}
    (h : Aggregate.readCall? cs = some (f, distinct, path)) :
    ∃ c : Call, c.text = cs ∧ c.function = f ∧ c.argument.distinct.isSome = distinct ∧
      c.argument.path.text = path := by
  rw [Aggregate.readCall?] at h
  split at h
  · next paren inside hrest =>
    split at h
    · next hclose =>
      obtain ⟨g, hname, h⟩ := Option.bind_eq_some_iff.mp h
      obtain ⟨⟨d, x⟩, hargument, h⟩ := Option.bind_eq_some_iff.mp h
      cases h
      obtain ⟨a, htext, hdistinct, hpath⟩ := CallArgument.exists_argument hargument
      refine ⟨⟨f, _, Aggregate.ofName?_eq_some_iff.mp hname, a⟩, ?_, rfl, hdistinct, hpath⟩
      have hparen := List.head?_dropWhile_not (· != '(') cs
      rw [hrest] at hparen
      obtain rfl : paren = '(' := by simpa using hparen
      rw [text, htext, List.dropLast_append_getLast? _ hclose, ← hrest,
        List.takeWhile_append_dropWhile]
    · cases h
  · cases h

end Call

/-! ## Entries with a name -/

/-- The form of `function([distinct] path) as name`. -/
@[ext]
structure AggregateForm where
  call : Call
  naming : Naming

namespace AggregateForm

def text (form : AggregateForm) : List Char := form.call.text ++ form.naming.text

/-- What the form means. -/
def entry (form : AggregateForm) : Selected :=
  .aggregate form.call.function form.call.argument.distinct.isSome
    (String.ofList form.call.argument.path.text) (String.ofList form.naming.name.text)

theorem text_injective : Function.Injective text := by
  intro form form' h
  obtain ⟨hcall, hnaming⟩ := Naming.append_inj form.call.stops_text form'.call.stops_text h
  exact AggregateForm.ext (Call.text_injective hcall) hnaming

theorem splitAlias?_text (form : AggregateForm) :
    splitAlias? form.text = some (form.call.text, form.naming.name.text) :=
  form.naming.splitAlias?_append form.call.text_ne_nil form.call.stops_text

theorem call_text_eq {form : AggregateForm} {target name : List Char}
    (h : splitAlias? form.text = some (target, name)) : form.call.text = target := by
  rw [form.splitAlias?_text] at h
  exact (Prod.mk.inj (Option.some.inj h)).1

end AggregateForm

/-- The form of `path as name`. -/
@[ext]
structure AliasForm where
  path : Run isInk
  naming : Naming

namespace AliasForm

def text (form : AliasForm) : List Char := form.path.text ++ form.naming.text

/-- What the form means, if its path is no call. -/
def entry (form : AliasForm) : Selected :=
  .aliased (String.ofList form.path.text) (String.ofList form.naming.name.text)

theorem stops_path (form : AliasForm) : Stops isBlank form.path.text :=
  stops_isBlank [] form.path

theorem text_injective : Function.Injective text := by
  intro form form' h
  obtain ⟨hpath, hnaming⟩ := Naming.append_inj form.stops_path form'.stops_path h
  exact AliasForm.ext (Run.ext hpath) hnaming

theorem splitAlias?_text (form : AliasForm) :
    splitAlias? form.text = some (form.path.text, form.naming.name.text) :=
  form.naming.splitAlias?_append form.path.ne_nil form.stops_path

theorem path_text_eq {form : AliasForm} {target name : List Char}
    (h : splitAlias? form.text = some (target, name)) : form.path.text = target := by
  rw [form.splitAlias?_text] at h
  exact (Prod.mk.inj (Option.some.inj h)).1

end AliasForm

end BoundSql
