import BoundSql.Proofs.BoundValues
import BoundSql.Proofs.ReadableProjections

/-!
# Paths in different scopes

A caller names a column by a path, and the scope decides what becomes of it: the scope of a single
table takes the path whole as a name, and the scope of joined tables cuts it at its first dot. In
the text of a condition this makes no difference, since a column is written by its path again, and
cutting a path and gluing its parts gives it back.

What does differ are the names of the values, because a value is named for the name of its column:
for the path in one scope, and for what stands after the dot in the other. So the bindings of the
same condition grow apart from the first value on. The text is therefore compared with its tokens
left open, and these are counted and not named.
-/

namespace BoundSql

/-! ## Columns -/

namespace Scope

/-- A column has the path that it was named by. -/
theorem path_column (s : Scope) (p : String) : (s.column p).path = p := by
  cases s with
  | single => rfl
  | joined aliases => exact Column.path_ofPath p

theorem render_column (s : Scope) (d : Dialect) (p : String) :
    (s.column p).render d = renderPath d p := by
  rw [Column.render, path_column]

end Scope

/-! ## Conditions in a scope -/

/-- An operand in a scope: a column is the one that its path names. -/
def Operand.inScope (s : Scope) : Operand → Operand
  | .column c => .column (s.column c.path)
  | o => o

/-- A comparison in a scope: its columns are the ones that their paths name. -/
def Comparison.inScope (s : Scope) (t : Comparison) : Comparison :=
  ⟨s.column t.column.path, t.op, t.operand.inScope s⟩

namespace Condition

mutual

/-- A condition in a scope. Of the columns in it only the paths count, so the condition itself
stands for what a caller writes down. -/
def inScope (s : Scope) : Condition → Condition
  | .all parts => .all (inScopeAll s parts)
  | .any parts => .any (inScopeAll s parts)
  | .negated part => .negated (inScope s part)
  | .compare test => .compare (test.inScope s)

/-- Several conditions in a scope. -/
def inScopeAll (s : Scope) : List Condition → List Condition
  | [] => []
  | p :: ps => inScope s p :: inScopeAll s ps

end

theorem inScopeAll_eq_map (s : Scope) (parts : List Condition) :
    inScopeAll s parts = parts.map (inScope s) := by
  induction parts with
  | nil => rfl
  | cons p ps ih => rw [inScopeAll, ih, List.map_cons]

end Condition

/-! ## What a scope does not change -/

namespace Comparison

variable (s : Scope) (t : Comparison)

theorem sql_inScope (d : Dialect) (rhs : String) : (t.inScope s).sql d rhs = t.sql d rhs := by
  obtain ⟨column, op, operand⟩ := t
  have hcolumn : (s.column column.path).render d = column.render d := s.render_column d column.path
  cases operand with
  | value v => simp only [inScope, Operand.inScope, sql, hcolumn]
  | column other =>
    have hother : (s.column other.path).render d = other.render d := s.render_column d other.path
    cases op <;> simp only [inScope, Operand.inScope, sql, hcolumn, hother]
  | list items => simp only [inScope, Operand.inScope, sql, hcolumn]

/-- A comparison binds the same value in every scope, for a column of another name. -/
theorem binding?_inScope :
    (t.inScope s).binding? = t.binding?.map fun e ↦ ((s.column t.column.path).name, e.2) := by
  obtain ⟨column, op, operand⟩ := t
  cases operand with
  | value v => cases op <;> cases v <;> rfl
  | column other => cases op <;> rfl
  | list items => cases op <;> rfl

end Comparison

namespace Condition

variable (s : Scope)

private theorem values_group {parts : List Condition}
    (h : ∀ p ∈ parts, (p.inScope s).bound.map Prod.snd = p.bound.map Prod.snd) :
    ((inScopeAll s parts).flatMap bound).map Prod.snd = (parts.flatMap bound).map Prod.snd := by
  rw [inScopeAll_eq_map, List.flatMap_map, List.map_flatMap, List.map_flatMap]
  exact List.flatMap_congr h

/-- A condition binds the same values in every scope, in the same order. -/
theorem values_inScope (c : Condition) :
    (c.inScope s).bound.map Prod.snd = c.bound.map Prod.snd := by
  induction c with
  | all parts ih => rw [inScope, bound_all, bound_all, values_group s ih]
  | any parts ih => rw [inScope, bound_any, bound_any, values_group s ih]
  | negated part ih => rwa [inScope, bound_negated, bound_negated]
  | compare test =>
    rw [inScope, bound_compare, bound_compare, test.binding?_inScope]
    cases test.binding? <;> rfl

theorem length_bound_inScope (c : Condition) : (c.inScope s).bound.length = c.bound.length := by
  simpa only [List.length_map] using congrArg List.length (c.values_inScope s)

variable (d : Dialect) (token : Nat → String)

private theorem sqls_inScope {parts : List Condition}
    (h : ∀ p ∈ parts, ∀ k, (p.inScope s).sql d token k = p.sql d token k) (k : Nat) :
    sqls d token k (inScopeAll s parts) = sqls d token k parts := by
  induction parts generalizing k with
  | nil => rfl
  | cons p ps ih =>
    -- the later parts start at the same token, as the first one binds as many values
    rw [inScopeAll, sqls, sqls, h p List.mem_cons_self, length_bound_inScope,
      ih fun q hq ↦ h q (List.mem_cons_of_mem _ hq)]

/-- A condition has the same text in every scope as long as the tokens are open. -/
theorem sql_inScope (c : Condition) (k : Nat) :
    (c.inScope s).sql d token k = c.sql d token k := by
  induction c generalizing k with
  | all parts ih => rw [inScope, sql, sql, sqls_inScope s d token ih]
  | any parts ih => rw [inScope, sql, sql, sqls_inScope s d token ih]
  | negated part ih => rw [inScope, sql, sql, ih]
  | compare test => rw [inScope, sql, sql, test.sql_inScope]

/-- What compiling a condition in a scope gives, in terms of the condition as it is written down. -/
theorem compile_inScope (c : Condition) (calls : List (String × Json)) :
    let b := Bindings.empty.bindAll calls
    let names := b.given (c.inScope s).bound
    names.length = (c.bound.map Prod.snd).length ∧
      ((c.inScope s).compile d b).1 = c.sql d (fun k ↦ placeholder (names.getD k "")) 0 ∧
      ((c.inScope s).compile d b).2.entries
        = b.entries ++ names.zip (c.bound.map Prod.snd) := by
  intro b names
  have hb : b.Sound := Bindings.sound_bindAll_empty calls
  refine ⟨?_, ?_, ?_⟩
  · rw [List.length_map, Bindings.length_given, length_bound_inScope]
  · rw [compile_fst, sql_inScope]
  · rw [compile_snd, hb.entries_bindAll, values_inScope]

/-- **Scopes agree up to the names of values.** Take what a caller writes down about columns with
any paths, and any two scopes, such as that of a single table and that of joined tables. Compiled in
either scope, after any values, it is one text but for the placeholders, and it binds the same
values, as many and in the same order. -/
theorem compiled_alike_in_scopes (c : Condition) (d : Dialect) (s s' : Scope)
    (calls calls' : List (String × Json)) :
    let text (names : List String) := c.sql d (fun k ↦ placeholder (names.getD k "")) 0
    let values := c.bound.map Prod.snd
    let before := Bindings.empty.bindAll calls
    let before' := Bindings.empty.bindAll calls'
    let compiled := (c.inScope s).compile d before
    let compiled' := (c.inScope s').compile d before'
    ∃ names names' : List String,
      names.length = values.length ∧ names'.length = values.length ∧
        compiled.1 = text names ∧ compiled'.1 = text names' ∧
        compiled.2.entries = before.entries ++ names.zip values ∧
        compiled'.2.entries = before'.entries ++ names'.zip values := by
  intro text values before before' compiled compiled'
  obtain ⟨hlength, htext, hentries⟩ := c.compile_inScope s d calls
  obtain ⟨hlength', htext', hentries'⟩ := c.compile_inScope s' d calls'
  exact ⟨_, _, hlength, hlength', htext, htext', hentries, hentries'⟩

/-- Dots at the ends of a path, and a star after one, are written as they stand. -/
example :
    let c : Condition := .all [.compare ⟨⟨none, ".a."⟩, .less, .value (.ofInt64 1)⟩,
      .compare ⟨⟨none, "a..b"⟩, .equal, .column ⟨none, "u.*"⟩⟩]
    ((c.inScope .single).compile .mysql .empty).1
        = "( ( ``.`a.` < :__.a.__0 ) AND ( `a`.`.b` = `u`.* ) )" ∧
      ((c.inScope (.joined [])).compile .mysql .empty).1
        = "( ( ``.`a.` < :__a.__0 ) AND ( `a`.`.b` = `u`.* ) )" := by
  decide +kernel

end Condition

end BoundSql
