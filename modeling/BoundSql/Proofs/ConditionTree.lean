import BoundSql.Condition.Filter
import Mathlib.Data.List.Basic

/-!
# Conditions as trees

What proofs about conditions share: an induction principle that gives the hypothesis for every part
of a conjunction or disjunction, the comparisons at the leaves in the order of the text, and the
values that they bind.

A conjunction and a disjunction differ in two words only, so `Template.ofParts` is the template of
both, and a statement about groups is proved once.
-/

namespace BoundSql

namespace Condition

/-! ## Induction -/

/-- Induction over a condition, with the hypothesis for each part of a group. -/
@[induction_eliminator]
theorem induct {motive : Condition → Prop}
    (all : ∀ parts, (∀ p ∈ parts, motive p) → motive (.all parts))
    (any : ∀ parts, (∀ p ∈ parts, motive p) → motive (.any parts))
    (negated : ∀ part, motive part → motive (.negated part))
    (compare : ∀ test, motive (.compare test)) (c : Condition) : motive c := by
  refine @Condition.rec motive (fun ps ↦ ∀ p ∈ ps, motive p) all any negated compare ?_ ?_ c
  · intro p hp
    cases hp
  · intro p ps hp hps q hq
    rcases List.mem_cons.mp hq with rfl | hq
    · exact hp
    · exact hps q hq

end Condition

/-! ## Groups -/

/-- The template of a group: its parts with `separator` between them, or `empty` without parts. -/
def Template.ofParts (separator empty : String) (parts : List Template) : Template :=
  Template.grouped (if parts.isEmpty then [.text empty] else Template.joined separator parts)

namespace Condition

theorem templates_eq_map (d : Dialect) (parts : List Condition) :
    templates d parts = parts.map (template d) := by
  induction parts with
  | nil => rfl
  | cons p ps ih => rw [templates, ih, List.map_cons]

theorem template_all (d : Dialect) (parts : List Condition) :
    (all parts).template d = Template.ofParts " AND " "1 = 1" (parts.map (template d)) := by
  cases parts with
  | nil => rfl
  | cons p ps => rw [template, templates_eq_map]; rfl

theorem template_any (d : Dialect) (parts : List Condition) :
    (any parts).template d = Template.ofParts " OR " "1 = 0" (parts.map (template d)) := by
  cases parts with
  | nil => rfl
  | cons p ps => rw [template, templates_eq_map]; rfl

end Condition

/-! ## Leaves -/

/-- What a comparison binds: its value, for its column. A comparison with another column binds
nothing, and neither does one with `null` for equality. -/
def Comparison.binding? (t : Comparison) : Option (String × Json) :=
  match t.op, t.operand with
  | .equal, .value .null => none
  | .notEqual, .value .null => none
  | _, operand => operand.bound?.map fun v ↦ (t.column.name, v)

namespace Comparison

variable {d : Dialect} {t : Comparison}

/-- A comparison that binds leaves one hole, for its own column. -/
theorem template_of_binding?_eq_some {e : String × Json} (h : t.binding? = some e) :
    e.1 = t.column.name ∧
      t.template d = around (t.column.render d) t.op [.hole t.column.name e.2] := by
  obtain ⟨column, op, operand⟩ := t
  cases operand with
  | value v => cases op <;> cases v <;> cases h <;> exact ⟨rfl, rfl⟩
  | column other => cases op <;> cases h
  | list items => cases op <;> cases h <;> exact ⟨rfl, rfl⟩

/-- A comparison that binds nothing is a test for `null` or compares two columns. -/
theorem template_of_binding?_eq_none (h : t.binding? = none) :
    t.template d = [.text (t.column.render d ++ " IS NULL")] ∨
      t.template d = [.text (t.column.render d ++ " IS NOT NULL")] ∨
      ∃ other, t.operand = .column other ∧
        t.template d = around (t.column.render d) t.op [.text (other.render d)] := by
  obtain ⟨column, op, operand⟩ := t
  cases operand with
  | value v =>
    cases v with
    | null =>
      cases op with
      | equal => exact .inl rfl
      | notEqual => exact .inr (.inl rfl)
      | _ => cases h
    | _ => cases op <;> cases h
  | column other => cases op <;> exact .inr (.inr ⟨other, rfl, rfl⟩)
  | list items => cases op <;> cases h

theorem around_oneOf (column : String) (rhs : Template) :
    around column .oneOf rhs = .text (column ++ " IN (") :: rhs ++ [.text ")"] := rfl

theorem around_of_ne_oneOf {op : CompareOp} (h : op ≠ .oneOf) (column : String) (rhs : Template) :
    around column op rhs = .text (column ++ " " ++ op.symbol ++ " ") :: rhs := by
  cases op with
  | oneOf => exact absurd rfl h
  | _ => rfl

end Comparison

namespace Condition

mutual

/-- The comparisons of a condition from left to right. -/
def leaves : Condition → List Comparison
  | .all parts => leavesOf parts
  | .any parts => leavesOf parts
  | .negated part => leaves part
  | .compare test => [test]

/-- The comparisons of several conditions from left to right. -/
def leavesOf : List Condition → List Comparison
  | [] => []
  | p :: ps => leaves p ++ leavesOf ps

end

/-- The values that a condition binds, with their columns, from left to right. -/
def bound (c : Condition) : List (String × Json) := c.leaves.filterMap Comparison.binding?

theorem leavesOf_eq_flatMap (parts : List Condition) : leavesOf parts = parts.flatMap leaves := by
  induction parts with
  | nil => rfl
  | cons p ps ih => rw [leavesOf, ih, List.flatMap_cons]

private theorem bound_group (parts : List Condition) :
    (leavesOf parts).filterMap Comparison.binding? = parts.flatMap bound := by
  rw [leavesOf_eq_flatMap, List.filterMap_flatMap]
  rfl

@[simp] theorem bound_all (parts : List Condition) : (all parts).bound = parts.flatMap bound :=
  bound_group parts

@[simp] theorem bound_any (parts : List Condition) : (any parts).bound = parts.flatMap bound :=
  bound_group parts

@[simp] theorem bound_negated (part : Condition) : (negated part).bound = part.bound := rfl

@[simp] theorem bound_compare (test : Comparison) :
    (compare test).bound = test.binding?.toList := by
  rw [bound, leaves, List.filterMap_cons]
  cases test.binding? <;> rfl

theorem mem_leaves_all {parts : List Condition} {t : Comparison} :
    t ∈ (all parts).leaves ↔ ∃ p ∈ parts, t ∈ p.leaves := by
  rw [leaves, leavesOf_eq_flatMap, List.mem_flatMap]

theorem mem_leaves_any {parts : List Condition} {t : Comparison} :
    t ∈ (any parts).leaves ↔ ∃ p ∈ parts, t ∈ p.leaves := by
  rw [leaves, leavesOf_eq_flatMap, List.mem_flatMap]

end Condition

/-- The values that a filter binds: those of its condition. -/
def Filter.bound (f : Filter) : List (String × Json) := f.condition.elim [] Condition.bound

/-! ## The holes of a condition -/

namespace Template

theorem joined_cons_cons (separator : String) (t u : Template) (us : List Template) :
    joined separator (t :: u :: us) = t ++ .text separator :: joined separator (u :: us) := rfl

theorem holes_joined (separator : String) (ts : List Template) :
    holes (joined separator ts) = ts.flatMap holes := by
  induction ts with
  | nil => rfl
  | cons t ts ih =>
    cases ts with
    | nil => simp [joined]
    | cons u us =>
      rw [joined_cons_cons, holes_append, holes, ih]
      rfl

theorem holes_grouped (t : Template) : holes (grouped t) = holes t := by
  rw [grouped, List.cons_append, holes, holes_append, holes, holes, List.append_nil]

theorem holes_ofParts (separator empty : String) (ts : List Template) :
    holes (ofParts separator empty ts) = ts.flatMap holes := by
  rw [ofParts, holes_grouped]
  cases ts with
  | nil => rfl
  | cons t ts => exact holes_joined separator (t :: ts)

end Template

theorem Comparison.holes_template (d : Dialect) (t : Comparison) :
    (t.template d).holes = t.binding?.toList := by
  obtain ⟨column, op, operand⟩ := t
  cases operand with
  | value v => cases op <;> cases v <;> rfl
  | column other => cases op <;> rfl
  | list items => cases op <;> rfl

/-- The holes of a condition hold the values that it binds, in order. -/
theorem Condition.holes_template (d : Dialect) (c : Condition) :
    (c.template d).holes = c.bound := by
  induction c with
  | all parts ih =>
    rw [template_all, Template.holes_ofParts, List.flatMap_map, bound_all]
    exact List.flatMap_congr ih
  | any parts ih =>
    rw [template_any, Template.holes_ofParts, List.flatMap_map, bound_any]
    exact List.flatMap_congr ih
  | negated part ih => rw [template, Template.holes_grouped, Template.holes, ih, bound_negated]
  | compare test => rw [template, Template.holes_grouped, test.holes_template, bound_compare]

theorem Filter.holes_clause (d : Dialect) (keyword : String) (f : Filter) :
    (f.clause d keyword).holes = f.bound := by
  obtain ⟨condition⟩ := f
  cases condition with
  | none => rfl
  | some c => exact c.holes_template d

end BoundSql
