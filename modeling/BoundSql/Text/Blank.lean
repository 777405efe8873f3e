/-!
# Blanks, words and keywords

What a caller writes for a column, an alias or a sort order is free text: words separated by
blanks. A *blank* is a character with the Unicode property `White_Space`; there are 25 of them.

Everything here works on lists of characters. The entries callers write are read from the right —
an alias or a sort direction is the *last* word — so besides trimming the module cuts a text
before its last word. Both cuts are made by reading the reversed list, and the lemmas say what
the halves are: together they are the text, the right one holds no blank, and the left one is
empty or ends in a blank.

Keywords are read in any case, by one of two comparisons that differ on exactly two characters.

* `sameWord` folds the capitals of ASCII only.
* `foldsTo` folds by Unicode's simple case folding. Besides the capitals, two characters fold to
  an ASCII letter: the long `ſ` (U+017F) to `s` and the Kelvin sign (U+212A) to `k`. So `aſ` is
  a spelling of the keyword `as`, though it is a different word under `sameWord`.

Fixed words of other texts are taken off the front as they are written (`afterWord?`).
-/

namespace BoundSql.Text

/-- The characters with the Unicode property `White_Space`. -/
def blanks : List Char :=
  ['\t', '\n', '\x0b', '\x0c', '\r', ' ', '\u0085', '\u00a0', '\u1680', '\u2000', '\u2001',
    '\u2002', '\u2003', '\u2004', '\u2005', '\u2006', '\u2007', '\u2008', '\u2009', '\u200a',
    '\u2028', '\u2029', '\u202f', '\u205f', '\u3000']

/-- Whether `c` is a blank. -/
def isBlank (c : Char) : Bool := blanks.contains c

/-- Whether `c` can stand in a word: it is no blank. -/
def isInk (c : Char) : Bool := !isBlank c

theorem isBlank_iff {c : Char} : isBlank c = true ↔ c ∈ blanks := by simp [isBlank]

@[simp] theorem isInk_eq_not_isBlank (c : Char) : isInk c = !isBlank c := rfl

/-! ## Cutting at the left end -/

theorem takeWhile_append_of_head? {p : Char → Bool} {front rest : List Char}
    (hfront : front.all p = true) (hrest : ∀ c ∈ rest.head?, p c = false) :
    (front ++ rest).takeWhile p = front := by
  rw [List.takeWhile_append_of_pos (List.all_eq_true.mp hfront)]
  cases rest with
  | nil => simp
  | cons c cs => simp [hrest c rfl]

theorem dropWhile_append_of_head? {p : Char → Bool} {front rest : List Char}
    (hfront : front.all p = true) (hrest : ∀ c ∈ rest.head?, p c = false) :
    (front ++ rest).dropWhile p = rest := by
  rw [List.dropWhile_append_of_pos (List.all_eq_true.mp hfront)]
  cases rest with
  | nil => rfl
  | cons c cs => simp [hrest c rfl]

/-! ## Cutting at the right end -/

/-- The longest final part of `cs` whose characters all satisfy `p`. -/
def takeEnd (p : Char → Bool) (cs : List Char) : List Char := (cs.reverse.takeWhile p).reverse

/-- What is left of `cs` without `takeEnd p cs`. -/
def dropEnd (p : Char → Bool) (cs : List Char) : List Char := (cs.reverse.dropWhile p).reverse

theorem dropEnd_append_takeEnd (p : Char → Bool) (cs : List Char) :
    dropEnd p cs ++ takeEnd p cs = cs := by
  rw [dropEnd, takeEnd, ← List.reverse_append, List.takeWhile_append_dropWhile,
    List.reverse_reverse]

theorem dropEnd_isPrefix (p : Char → Bool) (cs : List Char) : dropEnd p cs <+: cs :=
  ⟨takeEnd p cs, dropEnd_append_takeEnd p cs⟩

theorem all_takeEnd (p : Char → Bool) (cs : List Char) : (takeEnd p cs).all p = true := by
  rw [takeEnd, List.all_reverse]
  exact List.all_takeWhile

/-- The cut is as far left as it can be: the part that is kept ends in a character that fails
`p`. -/
theorem not_of_getLast?_dropEnd {p : Char → Bool} {cs : List Char} {c : Char}
    (h : (dropEnd p cs).getLast? = some c) : p c = false := by
  rw [dropEnd, List.getLast?_reverse] at h
  have hc := List.head?_dropWhile_not p cs.reverse
  rw [h] at hc
  simpa using hc

/-! ## Trimming -/

/-- `cs` without the blanks it starts with. -/
def trimStart (cs : List Char) : List Char := cs.dropWhile isBlank

/-- `cs` without the blanks it ends with. -/
def trimEnd (cs : List Char) : List Char := dropEnd isBlank cs

/-- `cs` without the blanks around it. -/
def trim (cs : List Char) : List Char := trimEnd (trimStart cs)

/-- `s` without the blanks around it. -/
def trimmed (s : String) : String := String.ofList (trim s.toList)

@[simp] theorem toList_trimmed (s : String) : (trimmed s).toList = trim s.toList :=
  String.toList_ofList

/-- A text that neither begins nor ends with a blank. -/
structure Trimmed (cs : List Char) : Prop where
  /-- It does not begin with one. -/
  head : ∀ c ∈ cs.head?, isBlank c = false
  /-- It does not end with one. -/
  last : ∀ c ∈ cs.getLast?, isBlank c = false

/-- A part at the left end begins as the text does. -/
theorem head_of_isPrefix {cs ds : List Char} (h : ds <+: cs)
    (hhead : ∀ c ∈ cs.head?, isBlank c = false) : ∀ c ∈ ds.head?, isBlank c = false := by
  obtain ⟨rest, rfl⟩ := h
  intro c hc
  cases ds with
  | nil => cases hc
  | cons d ds => exact hhead c hc

theorem trimmed_trim (cs : List Char) : Trimmed (trim cs) where
  head := by
    refine head_of_isPrefix (dropEnd_isPrefix isBlank _) fun c hc ↦ ?_
    have hnot := List.head?_dropWhile_not isBlank cs
    rw [trimStart] at hc
    rw [hc] at hnot
    simpa using hnot
  last := fun _ hc ↦ not_of_getLast?_dropEnd hc

/-- Around a trimmed text there are only blanks. -/
theorem exists_trim (cs : List Char) :
    ∃ before after, before.all isBlank = true ∧ after.all isBlank = true ∧
      before ++ trim cs ++ after = cs := by
  refine ⟨cs.takeWhile isBlank, takeEnd isBlank (trimStart cs), List.all_takeWhile,
    all_takeEnd isBlank _, ?_⟩
  rw [List.append_assoc, trim, trimEnd, dropEnd_append_takeEnd, trimStart,
    List.takeWhile_append_dropWhile]

/-- Blanks around a text are dropped. -/
theorem trim_append {before cs after : List Char} (hbefore : before.all isBlank = true)
    (hafter : after.all isBlank = true) (hne : cs ≠ []) (h : Trimmed cs) :
    trim (before ++ cs ++ after) = cs := by
  have hhead : ∀ c ∈ (cs ++ after).head?, isBlank c = false := by
    obtain ⟨c, rest, rfl⟩ := List.exists_cons_of_ne_nil hne
    exact h.head
  have hlast : ∀ c ∈ cs.reverse.head?, isBlank c = false := by
    rw [List.head?_reverse]
    exact h.last
  rw [trim, trimStart, List.append_assoc, dropWhile_append_of_head? hbefore hhead, trimEnd, dropEnd,
    List.reverse_append, dropWhile_append_of_head? (by rwa [List.all_reverse]) hlast,
    List.reverse_reverse]

/-- A text without blanks stays as it is. -/
theorem trim_eq_self {cs : List Char} (h : ∀ c ∈ cs, isBlank c = false) : trim cs = cs := by
  cases cs with
  | nil => rfl
  | cons c cs =>
    have htrimmed : Trimmed (c :: cs) :=
      ⟨fun d hd ↦ h d (List.mem_of_head? hd), fun d hd ↦ h d (List.mem_of_getLast? hd)⟩
    have hnone : ([] : List Char).all isBlank = true := rfl
    have htrim := trim_append hnone hnone (List.cons_ne_nil c cs) htrimmed
    rwa [List.nil_append, List.append_nil] at htrim

/-! ## The last word -/

/-- The last word of `cs`: empty when `cs` is empty or ends in a blank. -/
def lastWord (cs : List Char) : List Char := takeEnd isInk cs

/-- What stands before the last word of `cs`, with the blanks that separate the two. -/
def beforeLastWord (cs : List Char) : List Char := dropEnd isInk cs

theorem beforeLastWord_append_lastWord (cs : List Char) :
    beforeLastWord cs ++ lastWord cs = cs :=
  dropEnd_append_takeEnd isInk cs

/-! ## Keywords -/

/-- Whether two texts are equal up to the case of ASCII letters. -/
def sameWord (a b : List Char) : Bool := a.map Char.toLower == b.map Char.toLower

theorem sameWord_iff {a b : List Char} :
    sameWord a b = true ↔ a.map Char.toLower = b.map Char.toLower := by simp [sameWord]

/-- Simple case folding, as far as its result is an ASCII letter. -/
def foldLetter (c : Char) : Char :=
  if c = '\u017f' then 's' else if c = '\u212a' then 'k' else c.toLower

/-- Whether `cs` is a spelling of the lower-case ASCII word `keyword` under simple case
folding. -/
def foldsTo (keyword cs : List Char) : Bool := cs.map foldLetter == keyword

theorem foldsTo_iff {keyword cs : List Char} :
    foldsTo keyword cs = true ↔ cs.map foldLetter = keyword := by simp [foldsTo]

/-- What is left of `cs` after `word`, if it starts with it. -/
def afterWord? (word : String) (cs : List Char) : Option (List Char) :=
  if word.toList.isPrefixOf cs then some (cs.drop word.toList.length) else none

end BoundSql.Text
