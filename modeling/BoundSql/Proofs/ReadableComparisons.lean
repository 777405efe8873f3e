import BoundSql.Proofs.BoundValues
import BoundSql.Proofs.CanonicalConditions
import BoundSql.Proofs.FilledPlaceholders
import Mathlib.Data.List.TakeWhile

/-!
# Comparisons can be read back

The text of a comparison is the column, the relation, and what the column is compared with. Each of
the three tells where it ends, so whatever follows, the text is cut in one way only:

* names are words between marks;
* of the relations, none begins another one, the blanks around them included;
* a value is a placeholder, which is read to its end, and no column begins like one.

Names that are no words are not read back. A field `a.b` of no table looks like a field `b` of the
table `a`, and the star is not quoted.
-/

namespace BoundSql

/-! ## Names -/

/-- A run of word characters is told from what follows it. -/
theorem words_append_inj {xs ys rest rest' : List Char} (hxs : ∀ c ∈ xs, Text.isWord c = true)
    (hys : ∀ c ∈ ys, Text.isWord c = true) (hrest : EndsName rest) (hrest' : EndsName rest')
    (h : xs ++ rest = ys ++ rest') : xs = ys ∧ rest = rest' := by
  induction xs generalizing ys with
  | nil =>
    cases ys with
    | nil => exact ⟨rfl, h⟩
    | cons c ys =>
      have hc : Text.isWord c = false :=
        hrest c (by rw [show rest = c :: (ys ++ rest') from h]; rfl)
      simp [hys c List.mem_cons_self] at hc
  | cons c xs ih =>
    cases ys with
    | nil =>
      have hc : Text.isWord c = false :=
        hrest' c (by rw [← show c :: (xs ++ rest) = rest' from h]; rfl)
      simp [hxs c List.mem_cons_self] at hc
    | cons d ys =>
      obtain ⟨rfl, htail⟩ := List.cons.inj h
      obtain ⟨rfl, hends⟩ := ih (fun e he ↦ hxs e (List.mem_cons_of_mem _ he))
        (fun e he ↦ hys e (List.mem_cons_of_mem _ he)) htail
      exact ⟨rfl, hends⟩

namespace WordName

variable {name name' : String} {rest rest' : List Char}

theorem ne_of_mem (h : WordName name) {c : Char} (hc : Text.isWord c = false) :
    c ∉ name.toList := by
  intro hmem
  simp [h c hmem] at hc

/-- In a word nothing has to be doubled. -/
theorem toList_quoteIdentifier (h : WordName name) :
    (quoteIdentifier name).toList = identifierMark :: (name.toList ++ [identifierMark]) := by
  have hchars : (name.toList.flatMap fun c ↦ if c = identifierMark then [c, c] else [c])
      = name.toList.flatMap fun c ↦ [c] := by
    refine List.flatMap_congr fun c hc ↦ if_neg ?_
    rintro rfl
    exact h.ne_of_mem rfl hc
  rw [quoteIdentifier, wrapDoubling, String.toList_ofList, hchars]
  simp

theorem quoteIdentifier_inj (h : WordName name) (h' : WordName name')
    (heq : (quoteIdentifier name).toList ++ rest = (quoteIdentifier name').toList ++ rest') :
    name = name' ∧ rest = rest' := by
  have hends : ∀ cs, EndsName (identifierMark :: cs) := fun cs c hc ↦ by
    cases hc
    rfl
  rw [h.toList_quoteIdentifier, h'.toList_quoteIdentifier, List.cons_append, List.cons_append,
    List.append_assoc, List.append_assoc] at heq
  obtain ⟨hname, hrest⟩ :=
    words_append_inj h h' (hends _) (hends _) (List.cons.inj heq).2
  exact ⟨String.toList_inj.mp hname, (List.cons.inj hrest).2⟩

end WordName

/-! ## Columns -/

/-- A column whose names are words. -/
structure Column.WordNamed (c : Column) : Prop where
  /-- The name is a word. -/
  name : WordName c.name
  /-- The table, if it is given, is a word. -/
  table : ∀ t ∈ c.table, WordName t

theorem splitDot?_of_notMem {cs : List Char} (h : '.' ∉ cs) : splitDot? cs = none := by
  have hdrop : cs.dropWhile (· != '.') = [] := by
    rw [List.dropWhile_eq_nil_iff]
    intro c hc
    simpa using ne_of_mem_of_not_mem hc h
  rw [splitDot?, hdrop]

theorem splitDot?_append {cs after : List Char} (h : '.' ∉ cs) :
    splitDot? (cs ++ '.' :: after) = some (cs, after) := by
  have hall : ∀ c ∈ cs, (c != '.') = true := fun c hc ↦ by
    simpa using ne_of_mem_of_not_mem hc h
  rw [splitDot?, List.dropWhile_append_of_pos hall, List.takeWhile_append_of_pos hall]
  simp

namespace Column

variable {c e : Column} {rest rest' : List Char}

/-- A column in the text: each of its names is quoted by itself. -/
theorem WordNamed.toList_render (h : c.WordNamed) :
    (c.render .mysql).toList
      = c.table.elim [] (fun t ↦ (quoteIdentifier t).toList ++ ['.'])
        ++ (quoteIdentifier c.name).toList := by
  obtain ⟨table, name⟩ := c
  have hname : renderName .mysql name = quoteIdentifier name := by
    refine if_neg fun hstar ↦ ?_
    have hmem : '*' ∈ name.toList := by
      rw [hstar]
      decide
    exact h.name.ne_of_mem rfl hmem
  have hdot : '.' ∉ name.toList := h.name.ne_of_mem rfl
  cases table with
  | none =>
    rw [render, path, renderPath, splitDot?_of_notMem hdot]
    simp [hname]
  | some t =>
    have htable : '.' ∉ t.toList := (h.table t rfl).ne_of_mem rfl
    have hpath : (t ++ "." ++ name).toList = t.toList ++ '.' :: name.toList := by simp
    have hsplit : splitDot? (t ++ "." ++ name).toList = some (t.toList, name.toList) := by
      rw [hpath, splitDot?_append htable]
    have hrender : renderPath .mysql (t ++ "." ++ name)
        = quoteIdentifier t ++ "." ++ quoteIdentifier name := by
      rw [← hname, renderPath, hsplit]
      simp [Dialect.mysql]
    rw [render, path, hrender]
    simp

/-- A column is told from what follows it, if that does not go on like a column. -/
theorem WordNamed.render_inj (hc : c.WordNamed) (he : e.WordNamed) (hrest : rest.head? ≠ some '.')
    (hrest' : rest'.head? ≠ some '.')
    (h : (c.render .mysql).toList ++ rest = (e.render .mysql).toList ++ rest') :
    c = e ∧ rest = rest' := by
  rw [hc.toList_render, he.toList_render] at h
  obtain ⟨_ | t, name⟩ := c <;> obtain ⟨_ | t', name'⟩ := e <;>
    simp only [Option.elim_none, Option.elim_some, List.nil_append, List.append_assoc,
      List.singleton_append] at h
  · obtain ⟨rfl, htail⟩ := hc.name.quoteIdentifier_inj he.name h
    exact ⟨rfl, htail⟩
  · obtain ⟨-, htail⟩ := hc.name.quoteIdentifier_inj (he.table t' rfl) h
    exact absurd (by rw [htail]; rfl) hrest
  · obtain ⟨-, htail⟩ := (hc.table t rfl).quoteIdentifier_inj he.name h
    exact absurd (by rw [← htail]; rfl) hrest'
  · obtain ⟨rfl, htail⟩ := (hc.table t rfl).quoteIdentifier_inj (he.table t' rfl) h
    obtain ⟨rfl, hend⟩ := hc.name.quoteIdentifier_inj he.name (List.cons.inj htail).2
    exact ⟨rfl, hend⟩

/-- A column begins with the mark of identifiers. -/
theorem WordNamed.exists_toList_render_eq_cons (h : c.WordNamed) :
    ∃ cs, (c.render .mysql).toList = identifierMark :: cs := by
  rw [h.toList_render]
  obtain ⟨_ | t, name⟩ := c
  · rw [Option.elim_none, List.nil_append, h.name.toList_quoteIdentifier]
    exact ⟨_, rfl⟩
  · rw [Option.elim_some, (h.table t rfl).toList_quoteIdentifier]
    exact ⟨_, rfl⟩

end Column

/-! ## Relations -/

/-- What the text of a comparison has after the column. -/
inductive Verb where
  | isNull
  | isNotNull
  | relation (op : CompareOp)
deriving DecidableEq

namespace Verb

/-- The text of a relation up to what the column is compared with. -/
def text : Verb → String
  | isNull => " IS NULL"
  | isNotNull => " IS NOT NULL"
  | relation .oneOf => " IN ("
  | relation op => " " ++ op.symbol ++ " "

/-- The text after what the column is compared with. -/
def closing : Verb → String
  | relation .oneOf => ")"
  | _ => ""

def op : Verb → CompareOp
  | isNull => .equal
  | isNotNull => .notEqual
  | relation op => op

/-- Whether a relation is a whole test for `null`. -/
def isTest : Verb → Bool
  | relation _ => false
  | _ => true

def all : List Verb := isNull :: isNotNull :: CompareOp.all.map relation

theorem mem_all (v : Verb) : v ∈ all := by
  rcases v with _ | _ | op
  · decide
  · decide
  · cases op <;> decide

theorem eq_of_text_begins {v w : Verb} (h : v.text.toList <+: w.text.toList) : v = w := by
  have hall : ∀ v ∈ all, ∀ w ∈ all, v.text.toList <+: w.text.toList → v = w := by decide
  exact hall v v.mem_all w w.mem_all h

/-- No relation begins another one. -/
theorem text_inj {v w : Verb} {rest rest' : List Char}
    (h : v.text.toList ++ rest = w.text.toList ++ rest') : v = w ∧ rest = rest' := by
  have hvw : v = w := by
    rcases List.prefix_or_prefix_of_prefix (List.prefix_append v.text.toList rest)
      (h ▸ List.prefix_append w.text.toList rest') with hpre | hpre
    · exact eq_of_text_begins hpre
    · exact (eq_of_text_begins hpre).symm
  subst hvw
  exact ⟨rfl, List.append_cancel_left h⟩

/-- A relation does not go on like a column. -/
theorem head?_text_append_ne (v : Verb) (rest : List Char) :
    (v.text.toList ++ rest).head? ≠ some '.' := by
  have hblank : (v.text.toList ++ rest).head? = some ' ' := by
    rcases v with _ | _ | op
    · rfl
    · rfl
    · cases op <;> rfl
  rw [hblank]
  decide

/-- After what a column is compared with, there is a parenthesis or a blank. -/
theorem head?_closing_append (v : Verb) (rest : List Char) :
    (v.closing.toList ++ ' ' :: rest).head? = some ')' ∨
      (v.closing.toList ++ ' ' :: rest).head? = some ' ' := by
  rcases v with _ | _ | op
  · exact .inr rfl
  · exact .inr rfl
  · cases op with
    | oneOf => exact .inl rfl
    | _ => exact .inr rfl

theorem head?_closing_append_ne (v : Verb) (rest : List Char) :
    (v.closing.toList ++ ' ' :: rest).head? ≠ some '.' := by
  rcases v.head?_closing_append rest with h | h <;> rw [h] <;> decide

theorem endsName_closing_append (v : Verb) (rest : List Char) :
    EndsName (v.closing.toList ++ ' ' :: rest) := by
  intro c hc
  rcases v.head?_closing_append rest with h | h <;> rw [h] at hc <;> cases hc <;> rfl

theorem closing_append_inj (v : Verb) {rest rest' : List Char}
    (h : v.closing.toList ++ ' ' :: rest = v.closing.toList ++ ' ' :: rest') : rest = rest' :=
  (List.cons.inj (List.append_cancel_left h)).2

end Verb

/-! ## Comparisons -/

/-- A comparison between columns whose names are words. -/
structure Comparison.WordNamed (t : Comparison) : Prop where
  /-- The column is named by words. -/
  column : t.column.WordNamed
  /-- Another column that it is compared with is too. -/
  operand : ∀ other, t.operand = .column other → other.WordNamed

namespace Comparison

/-- What stands between the column of a comparison and what it is compared with. -/
def verb (t : Comparison) : Verb :=
  match t.op, t.operand with
  | .equal, .value .null => .isNull
  | .notEqual, .value .null => .isNotNull
  | op, _ => .relation op

/-- The text of what a comparison compares with, where `rhs` stands for a value. -/
def rightText (d : Dialect) (rhs : String) (t : Comparison) : String :=
  match t.op, t.operand with
  | .equal, .value .null => ""
  | .notEqual, .value .null => ""
  | _, .column other => other.render d
  | _, _ => rhs

/-- The text of a comparison in the order in which it is read. -/
theorem sql_eq (d : Dialect) (rhs : String) (t : Comparison) :
    t.sql d rhs
      = t.column.render d ++ (t.verb.text ++ (t.rightText d rhs ++ t.verb.closing)) := by
  obtain ⟨column, op, operand⟩ := t
  cases operand with
  | value v =>
    cases op <;> cases v <;>
      simp [sql, verb, rightText, Verb.text, Verb.closing, String.append_assoc]
  | column other =>
    cases op <;> simp [sql, verb, rightText, Verb.text, Verb.closing, String.append_assoc]
  | list items =>
    cases op <;> simp [sql, verb, rightText, Verb.text, Verb.closing, String.append_assoc]

theorem op_verb (t : Comparison) : t.verb.op = t.op := by
  obtain ⟨column, op, operand⟩ := t
  cases operand with
  | value v => cases op <;> cases v <;> rfl
  | _ => cases op <;> rfl

/-- What follows the relation in a comparison. -/
inductive Right (t : Comparison) : Prop where
  /-- Nothing: the relation is a test for `null`. -/
  | nothing (test : t.verb.isTest = true) (operand : t.operand = .value .null)
      (binding : t.binding? = none) (text : ∀ d rhs, t.rightText d rhs = "")
  /-- Another column. -/
  | column (other : Column) (test : t.verb.isTest = false) (operand : t.operand = .column other)
      (binding : t.binding? = none) (text : ∀ d rhs, t.rightText d rhs = other.render d)
  /-- A value. -/
  | value (e : String × Json) (test : t.verb.isTest = false) (binding : t.binding? = some e)
      (text : ∀ d rhs, t.rightText d rhs = rhs)

theorem right (t : Comparison) : t.Right := by
  obtain ⟨column, op, operand⟩ := t
  cases operand with
  | value v =>
    cases v with
    | null =>
      cases op with
      | equal | notEqual => exact .nothing rfl rfl rfl fun _ _ ↦ rfl
      | _ => exact .value _ rfl rfl fun _ _ ↦ rfl
    | _ => cases op <;> exact .value _ rfl rfl fun _ _ ↦ rfl
  | column other => cases op <;> exact .column other rfl rfl rfl fun _ _ ↦ rfl
  | list items => cases op <;> exact .value _ rfl rfl fun _ _ ↦ rfl

/-- A column is no placeholder. -/
private theorem render_ne_placeholder {c : Column} (hc : c.WordNamed) {name : String}
    {rest rest' : List Char} :
    (c.render .mysql).toList ++ rest ≠ (placeholder name).toList ++ rest' := by
  obtain ⟨cs, hcs⟩ := hc.exists_toList_render_eq_cons
  rw [hcs, placeholder, String.toList_append]
  intro h
  exact absurd (List.cons.inj h).1 (by decide)

/-- **A comparison is read back.** If two comparisons followed by a blank have one text, then they
are alike and what follows is the same. -/
theorem WordNamed.sql_inj {t u : Comparison} (ht : t.WordNamed) (hu : u.WordNamed)
    {name name' : String} (hname : WordName name) (hname' : WordName name') {rest rest' : List Char}
    (h : (t.sql .mysql (placeholder name)).toList ++ ' ' :: rest
      = (u.sql .mysql (placeholder name')).toList ++ ' ' :: rest') :
    Condition.Alike (.compare t) (.compare u) ∧ rest = rest' := by
  simp only [sql_eq, String.toList_append, List.append_assoc] at h
  obtain ⟨hcolumn, h⟩ := ht.column.render_inj hu.column (Verb.head?_text_append_ne _ _)
    (Verb.head?_text_append_ne _ _) h
  obtain ⟨hverb, h⟩ := Verb.text_inj h
  have hop : t.op = u.op := by rw [← op_verb, hverb, op_verb]
  have htest {b : Bool} (ht : t.verb.isTest = b) (hu : u.verb.isTest = !b) : False := by
    simp [hverb, hu] at ht
  rw [hverb] at h
  cases t.right with
  | nothing hisTest hoperand hbinding htext =>
    cases u.right with
    | nothing _ hoperand' _ htext' =>
      rw [htext, htext'] at h
      exact ⟨.of_unbound hbinding hcolumn hop (hoperand.trans hoperand'.symm),
        u.verb.closing_append_inj h⟩
    | column _ hisTest' => exact (htest hisTest hisTest').elim
    | value _ hisTest' => exact (htest hisTest hisTest').elim
  | column other hisTest hoperand hbinding htext =>
    cases u.right with
    | nothing hisTest' => exact (htest hisTest hisTest').elim
    | column other' _ hoperand' _ htext' =>
      rw [htext, htext'] at h
      obtain ⟨rfl, hclosing⟩ := (ht.operand other hoperand).render_inj
        (hu.operand other' hoperand') (Verb.head?_closing_append_ne _ _)
        (Verb.head?_closing_append_ne _ _) h
      exact ⟨.of_unbound hbinding hcolumn hop (hoperand.trans hoperand'.symm),
        u.verb.closing_append_inj hclosing⟩
    | value _ _ _ htext' =>
      rw [htext, htext'] at h
      exact absurd h (render_ne_placeholder (ht.operand other hoperand))
  | value e hisTest hbinding htext =>
    cases u.right with
    | nothing hisTest' => exact (htest hisTest hisTest').elim
    | column other' _ hoperand' _ htext' =>
      rw [htext, htext'] at h
      exact absurd h.symm (render_ne_placeholder (hu.operand other' hoperand'))
    | value e' _ hbinding' htext' =>
      -- the two names need not be known, since a placeholder is read to its end
      rw [htext, htext', placeholder, placeholder, String.toList_append, String.toList_append] at h
      obtain ⟨-, hclosing⟩ := words_append_inj hname hname' (Verb.endsName_closing_append _ _)
        (Verb.endsName_closing_append _ _) (List.cons.inj h).2
      exact ⟨.of_bound hbinding hbinding' hcolumn hop, u.verb.closing_append_inj hclosing⟩

end Comparison

end BoundSql
