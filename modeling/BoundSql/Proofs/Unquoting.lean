import BoundSql.Dialect

/-!
# Quoted parts are read back

A database takes a quoted part apart character by character: it looks for the mark that ends the
part, and on its way undoes the escapes. `Quotes` says by which rules. Names and texts are quoted so
that such a reader gets back what was quoted and stops exactly where it ends, whatever follows, as
long as that does not begin with a mark. The proof is about one character at a time: the reader
takes the encoding of a character for that character (`readInside_flatMap`).

So nothing can be quoted in the same way as something else. A stronger fact holds of texts only: no
quoted text begins another one. In a name a mark is written twice, so the quoted form of a name also
begins that of every name that goes on with a mark there, and of no other one
(`quoteIdentifier_isPrefix_iff`).
-/

namespace BoundSql

/-! ## Readers -/

/-- By which rules a quoted part is read. -/
structure Quotes where
  /-- The mark on both ends. -/
  mark : Char
  /-- Whether the character after a backslash stands for something else. -/
  escapes : Bool
  /-- Whether two marks in a row stand for one and do not end the part. -/
  doubles : Bool

namespace Quotes

/-- The rules for names. -/
def name : Quotes := ⟨identifierMark, false, true⟩

/-- The rules for texts. As no text is written with a doubled mark, it makes no difference whether
one ends it. -/
def text (doubles : Bool) : Quotes := ⟨textMark, true, doubles⟩

/-- What a character after a backslash stands for. -/
def unescaped (c : Char) : Char :=
  if c = '0' then '\x00'
  else if c = 'b' then '\x08'
  else if c = 't' then '\t'
  else if c = 'n' then '\n'
  else if c = 'r' then '\r'
  else if c = 'Z' then '\x1a'
  else c

/-- Puts a character in front of what was read. -/
def push (c : Char) (r : Option (List Char × List Char)) : Option (List Char × List Char) :=
  r.map (Prod.map (c :: ·) id)

/-- Reads a quoted part after its first mark. The result is what the part stands for and the text
after it; there is none if the part does not end. -/
def readInside (q : Quotes) : List Char → Option (List Char × List Char)
  | [] => none
  | [c] => if c = q.mark then some ([], []) else none
  | c :: c' :: cs =>
    if c = q.mark then
      if q.doubles ∧ c' = q.mark then push c (readInside q cs) else some ([], c' :: cs)
    else if q.escapes ∧ c = '\\' then push (unescaped c') (readInside q cs)
    else push c (readInside q (c' :: cs))

/-- Reads a quoted part. -/
def read (q : Quotes) : List Char → Option (String × List Char)
  | [] => none
  | c :: cs =>
    if c = q.mark then (q.readInside cs).map (Prod.map String.ofList id) else none

variable {q : Quotes}

theorem readInside_char {c : Char} (hmark : c ≠ q.mark) (hescape : ¬(q.escapes ∧ c = '\\'))
    (cs : List Char) : q.readInside (c :: cs) = push c (q.readInside cs) := by
  cases cs with
  | nil => rw [readInside.eq_2, if_neg hmark]; rfl
  | cons c' cs => rw [readInside, if_neg hmark, if_neg hescape]

theorem readInside_escape (hescapes : q.escapes) (hmark : '\\' ≠ q.mark) (c : Char)
    (cs : List Char) :
    q.readInside ('\\' :: c :: cs) = push (unescaped c) (q.readInside cs) := by
  rw [readInside, if_neg hmark, if_pos ⟨hescapes, rfl⟩]

theorem readInside_double (hdoubles : q.doubles) (cs : List Char) :
    q.readInside (q.mark :: q.mark :: cs) = push q.mark (q.readInside cs) := by
  rw [readInside, if_pos rfl, if_pos ⟨hdoubles, rfl⟩]

/-- A mark ends the part, unless it is doubled. -/
theorem readInside_mark {rest : List Char} (hrest : q.doubles → rest.head? ≠ some q.mark) :
    q.readInside (q.mark :: rest) = some ([], rest) := by
  cases rest with
  | nil => rw [readInside, if_pos rfl]
  | cons c cs =>
    have hsingle : ¬(q.doubles ∧ c = q.mark) := fun h ↦ hrest h.1 (congrArg some h.2)
    rw [readInside, if_pos rfl, if_neg hsingle]

/-- What was written character by character is read character by character. -/
theorem readInside_flatMap {encode : Char → List Char}
    (hencode : ∀ c cs, q.readInside (encode c ++ cs) = push c (q.readInside cs))
    {rest : List Char} (hrest : q.doubles → rest.head? ≠ some q.mark) (s : List Char) :
    q.readInside (s.flatMap encode ++ q.mark :: rest) = some (s, rest) := by
  induction s with
  | nil => rw [List.flatMap_nil, List.nil_append, readInside_mark hrest]
  | cons c s ih => rw [List.flatMap_cons, List.append_assoc, hencode, ih]; rfl

theorem read_flatMap {encode : Char → List Char}
    (hencode : ∀ c cs, q.readInside (encode c ++ cs) = push c (q.readInside cs))
    {rest : List Char} (hrest : q.doubles → rest.head? ≠ some q.mark) (s : String) :
    q.read (q.mark :: s.toList.flatMap encode ++ [q.mark] ++ rest) = some (s, rest) := by
  rw [List.cons_append, List.cons_append, List.append_assoc, List.singleton_append, read,
    if_pos rfl, readInside_flatMap hencode hrest, Option.map_some, Prod.map_apply,
    String.ofList_toList, id]

end Quotes

/-! ## Texts -/

/-- The characters that are written as a backslash and a letter. -/
def escapedChars : List Char :=
  ['\x00', '\x08', '\t', '\n', '\r', '\x1a', '\x22', textMark, '\\']

theorem escapeLetter?_of_notMem {c : Char} (h : c ∉ escapedChars) : escapeLetter? c = none := by
  simp only [escapedChars, List.mem_cons, List.not_mem_nil, or_false, not_or] at h
  simp only [escapeLetter?, h, if_false]

/-- A letter after a backslash stands for what it was written for. -/
theorem unescaped_of_escapeLetter? {c letter : Char} (h : escapeLetter? c = some letter) :
    Quotes.unescaped letter = c := by
  have hall : (escapedChars.all fun c ↦
      (escapeLetter? c).all fun letter ↦ Quotes.unescaped letter == c) = true := by decide
  by_cases hc : c ∈ escapedChars
  · simpa [h] using List.all_eq_true.mp hall c hc
  · rw [escapeLetter?_of_notMem hc] at h
    cases h

theorem readInside_escapedChar (doubles : Bool) (c : Char) (cs : List Char) :
    (Quotes.text doubles).readInside (escapedChar c ++ cs)
      = Quotes.push c ((Quotes.text doubles).readInside cs) := by
  rw [escapedChar]
  cases hletter : escapeLetter? c with
  | some letter =>
    have hmark : '\\' ≠ textMark := by decide
    refine (Quotes.readInside_escape rfl hmark letter cs).trans ?_
    rw [unescaped_of_escapeLetter? hletter]
  | none =>
    have hmark : c ≠ textMark := by rintro rfl; exact absurd hletter (by decide)
    have hslash : c ≠ '\\' := by rintro rfl; exact absurd hletter (by decide)
    exact Quotes.readInside_char hmark (fun h ↦ hslash h.2) cs

/-- A quoted text is read back. -/
theorem read_quoteText (doubles : Bool) (s : String) (rest : List Char)
    (hrest : doubles → rest.head? ≠ some textMark) :
    (Quotes.text doubles).read ((quoteText s).toList ++ rest) = some (s, rest) := by
  rw [quoteText, String.toList_ofList]
  exact Quotes.read_flatMap (readInside_escapedChar doubles) hrest s

/-- No quoted text begins another one. -/
theorem quoteText_isPrefix_iff (s s' : String) :
    (quoteText s).toList <+: (quoteText s').toList ↔ s = s' := by
  constructor
  · rintro ⟨rest, hrest⟩
    have hread := read_quoteText false s rest (by simp)
    have hread' := read_quoteText false s' [] (by simp)
    rw [hrest] at hread
    rw [List.append_nil, hread] at hread'
    exact (Prod.mk.inj (Option.some.inj hread')).1
  · rintro rfl
    exact List.prefix_rfl

theorem quoteText_injective : Function.Injective quoteText := fun _ _ h ↦
  (quoteText_isPrefix_iff _ _).mp (h ▸ List.prefix_rfl)

/-! ## Names -/

theorem readInside_doubled (c : Char) (cs : List Char) :
    Quotes.name.readInside ((if c = identifierMark then [c, c] else [c]) ++ cs)
      = Quotes.push c (Quotes.name.readInside cs) := by
  by_cases hmark : c = identifierMark
  · rw [if_pos hmark, hmark]
    exact Quotes.readInside_double rfl cs
  · rw [if_neg hmark]
    exact Quotes.readInside_char hmark (fun h ↦ absurd h.1 (by decide)) cs

/-- A quoted name is read back. -/
theorem read_quoteIdentifier (name : String) (rest : List Char)
    (hrest : rest.head? ≠ some identifierMark) :
    Quotes.name.read ((quoteIdentifier name).toList ++ rest) = some (name, rest) := by
  rw [quoteIdentifier, wrapDoubling, String.toList_ofList]
  exact Quotes.read_flatMap readInside_doubled (fun _ ↦ hrest) name

theorem quoteIdentifier_injective : Function.Injective quoteIdentifier := by
  intro name name' h
  have hread := read_quoteIdentifier name [] (by simp)
  rw [h, read_quoteIdentifier name' [] (by simp)] at hread
  exact (Prod.mk.inj (Option.some.inj hread)).1.symm

/-- With doubled marks and one at the end, a name begins another one exactly if the other one is the
same or goes on with a mark. -/
private theorem doubled_isPrefix_iff {m : Char} (s s' : List Char) :
    (s.flatMap fun c ↦ if c = m then [c, c] else [c]) ++ [m]
        <+: (s'.flatMap fun c ↦ if c = m then [c, c] else [c]) ++ [m]
      ↔ s = s' ∨ s ++ [m] <+: s' := by
  induction s generalizing s' with
  | nil =>
    cases s' with
    | nil => simp
    | cons c' s' =>
      by_cases hc' : c' = m
      · simp [hc']
      · simp [hc', Ne.symm hc']
  | cons c s ih =>
    cases s' with
    | nil => by_cases hc : c = m <;> simp [hc]
    | cons c' s' =>
      by_cases hcc : c = c'
      · subst hcc
        have hcancel : ∀ cs ds : List Char,
            ((if c = m then [c, c] else [c]) ++ cs <+: (if c = m then [c, c] else [c]) ++ ds)
              ↔ cs <+: ds := fun cs ds ↦ List.prefix_append_right_inj _
        simp [List.flatMap_cons, List.append_assoc, hcancel, ih]
      · by_cases hc : c = m <;> by_cases hc' : c' = m <;> simp_all [eq_comm]

/-- A quoted name begins another one exactly if that name goes on with a mark. -/
theorem quoteIdentifier_isPrefix_iff (name name' : String) :
    (quoteIdentifier name).toList <+: (quoteIdentifier name').toList
      ↔ name = name' ∨ name.toList ++ [identifierMark] <+: name'.toList := by
  rw [quoteIdentifier, quoteIdentifier, wrapDoubling, wrapDoubling, String.toList_ofList,
    String.toList_ofList, List.cons_append, List.cons_append, List.cons_prefix_cons,
    doubled_isPrefix_iff, String.toList_inj]
  simp

/-! ## Both -/

/-- **Quoted parts are read back.** Followed by anything that does not begin with a mark, a quoted
text and a quoted name are read to their ends, and what they stand for is what was quoted. Both are
therefore known from their quoted forms. No quoted text begins another one, and a quoted name begins
that of another name exactly if that name goes on with a mark. -/
theorem quoted_read_back :
    (∀ (doubles : Bool) (s : String) (rest : List Char), rest.head? ≠ some textMark →
      (Quotes.text doubles).read ((Dialect.mysql.literal (.text s)).toList ++ rest)
        = some (s, rest)) ∧
    (∀ (name : String) (rest : List Char), rest.head? ≠ some identifierMark →
      Quotes.name.read ((Dialect.mysql.identifier name).toList ++ rest) = some (name, rest)) ∧
    (Function.Injective fun s ↦ Dialect.mysql.literal (.text s)) ∧
    Function.Injective Dialect.mysql.identifier ∧
    (∀ s s' : String,
      (Dialect.mysql.literal (.text s)).toList <+: (Dialect.mysql.literal (.text s')).toList
        ↔ s = s') ∧
    ∀ name name' : String,
      (Dialect.mysql.identifier name).toList <+: (Dialect.mysql.identifier name').toList
        ↔ name = name' ∨ name.toList ++ [identifierMark] <+: name'.toList := by
  refine ⟨?_, ?_, quoteText_injective, quoteIdentifier_injective, ?_, ?_⟩
  · exact fun doubles s rest hrest ↦ read_quoteText doubles s rest fun _ ↦ hrest
  · exact fun name rest hrest ↦ read_quoteIdentifier name rest hrest
  · exact fun s s' ↦ quoteText_isPrefix_iff s s'
  · exact fun name name' ↦ quoteIdentifier_isPrefix_iff name name'

/-- A text with both marks in it and a backslash at its end is read back in both forms. -/
theorem marks_read_back :
    let s := "it's `a` \\"
    let rest := " OR 1 = 1".toList
    (rest.head? ≠ some textMark ∧
      (Quotes.text true).read ((Dialect.mysql.literal (.text s)).toList ++ rest)
        = some (s, rest)) ∧
    (rest.head? ≠ some identifierMark ∧
      Quotes.name.read ((Dialect.mysql.identifier s).toList ++ rest) = some (s, rest)) ∧
    Dialect.mysql.literal (.text s) = "'it\\'s `a` \\\\'" ∧
    Dialect.mysql.identifier s = "`it's ``a`` \\`" := by
  intro s rest
  obtain ⟨htext, hname, -⟩ := quoted_read_back
  have htextMark : rest.head? ≠ some textMark := by decide
  have hnameMark : rest.head? ≠ some identifierMark := by decide
  exact ⟨⟨htextMark, htext true s rest htextMark⟩, ⟨hnameMark, hname s rest hnameMark⟩,
    by decide +kernel, by decide +kernel⟩

/-- Quoted names are not free of prefixes. -/
theorem quoted_name_begins_another :
    Dialect.mysql.identifier "a" = "`a`" ∧ Dialect.mysql.identifier "a`b" = "`a``b`" ∧
      ¬ ∀ name name' : String,
        (Dialect.mysql.identifier name).toList <+: (Dialect.mysql.identifier name').toList →
          name = name' := by
  refine ⟨by decide +kernel, by decide +kernel, fun h ↦ ?_⟩
  have hprefix : (Dialect.mysql.identifier "a").toList
      <+: (Dialect.mysql.identifier "a`b").toList := by decide +kernel
  exact absurd (h "a" "a`b" hprefix) (by decide)

end BoundSql
