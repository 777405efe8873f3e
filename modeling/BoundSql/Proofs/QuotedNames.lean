import BoundSql.Dialect

/-!
# Quoted names are read back

A quoted identifier ends at the first mark that is not doubled, so a reader who stands at a mark
inside of one has to look at the next character to know whether the name goes on. `lexemes` is such
a reader: it gives the characters outside of marks one by one, and each quoted part as the name that
it stands for.

A quoted name is read back whatever follows it, unless that begins with a mark
(`lexemes_quoteIdentifier`). Two names with that property are therefore told apart in any text.
-/

namespace BoundSql

/-- What a reader of quoted identifiers finds. -/
inductive Lexeme where
  /-- A character outside of marks. -/
  | plain (c : Char)
  /-- A quoted part, with the name that it stands for. -/
  | name (s : String)
  /-- A quoted part that does not end. -/
  | unclosed (s : String)
deriving DecidableEq

/-- Where such a reader stands. -/
inductive Spot where
  /-- Outside of marks. -/
  | outside
  /-- In a quoted part, after a piece of the name. -/
  | inside (read : List Char)
  /-- After a mark in a quoted part: the name is complete, unless another mark follows. -/
  | atMark (read : List Char)

/-- What is found in a text. -/
def lexemes : Spot → List Char → List Lexeme
  | .outside, [] => []
  | .inside s, [] => [.unclosed (String.ofList s)]
  | .atMark s, [] => [.name (String.ofList s)]
  | .outside, c :: cs =>
    if c = identifierMark then lexemes (.inside []) cs else .plain c :: lexemes .outside cs
  | .inside s, c :: cs =>
    if c = identifierMark then lexemes (.atMark s) cs else lexemes (.inside (s ++ [c])) cs
  | .atMark s, c :: cs =>
    if c = identifierMark then lexemes (.inside (s ++ [c])) cs
    else .name (String.ofList s) :: .plain c :: lexemes .outside cs

/-- A text without marks is found as it is. -/
theorem lexemes_of_notMem {cs : List Char} (h : identifierMark ∉ cs) (rest : List Char) :
    lexemes .outside (cs ++ rest) = cs.map .plain ++ lexemes .outside rest := by
  induction cs with
  | nil => rfl
  | cons c cs ih =>
    obtain ⟨hc, hcs⟩ := not_or.mp (mt List.mem_cons.mpr h)
    rw [List.cons_append, lexemes, if_neg (Ne.symm hc), ih hcs, List.map_cons, List.cons_append]

/-- A name is read through its doubled marks up to the single one. -/
private theorem lexemes_inside (s name rest : List Char) :
    lexemes (.inside s)
        ((name.flatMap fun c ↦ if c = identifierMark then [c, c] else [c])
          ++ identifierMark :: rest)
      = lexemes (.atMark (s ++ name)) rest := by
  induction name generalizing s with
  | nil => rw [List.flatMap_nil, List.nil_append, lexemes, if_pos rfl, List.append_nil]
  | cons c name ih =>
    have hs : s ++ c :: name = (s ++ [c]) ++ name := by simp
    rw [List.flatMap_cons, List.append_assoc, hs, ← ih (s ++ [c])]
    by_cases hc : c = identifierMark
    · rw [if_pos hc, List.cons_append, lexemes, if_pos hc, List.singleton_append, lexemes,
        if_pos hc]
    · rw [if_neg hc, List.singleton_append, lexemes, if_neg hc]

private theorem lexemes_atMark {rest : List Char} (h : rest.head? ≠ some identifierMark)
    (s : List Char) :
    lexemes (.atMark s) rest = .name (String.ofList s) :: lexemes .outside rest := by
  cases rest with
  | nil => rfl
  | cons c cs =>
    have hc : c ≠ identifierMark := fun hc ↦ h (congrArg some hc)
    rw [lexemes, if_neg hc, lexemes, if_neg hc]

/-- A quoted name is read back. -/
theorem lexemes_quoteIdentifier (name : String) {rest : List Char}
    (h : rest.head? ≠ some identifierMark) :
    lexemes .outside ((quoteIdentifier name).toList ++ rest)
      = .name name :: lexemes .outside rest := by
  rw [quoteIdentifier, wrapDoubling, String.toList_ofList, List.cons_append, List.cons_append,
    List.append_assoc, List.singleton_append, lexemes, if_pos rfl, lexemes_inside,
    lexemes_atMark h, List.nil_append, String.ofList_toList]

/-- A quoted name is told from what follows it. -/
theorem quoteIdentifier_append_inj {name name' : String} {rest rest' : List Char}
    (hrest : rest.head? ≠ some identifierMark) (hrest' : rest'.head? ≠ some identifierMark)
    (h : (quoteIdentifier name).toList ++ rest = (quoteIdentifier name').toList ++ rest') :
    name = name' ∧ rest = rest' := by
  have hread := congrArg (lexemes .outside) h
  rw [lexemes_quoteIdentifier name hrest, lexemes_quoteIdentifier name' hrest'] at hread
  obtain rfl : name = name' := Lexeme.name.inj (List.cons.inj hread).1
  exact ⟨rfl, List.append_cancel_left h⟩

end BoundSql
