import BoundSql.Condition.Basic
import BoundSql.Template

/-!
# Conditions in SQL

A condition becomes a template with one pair of parentheses around every node of the tree, so the
text can be put anywhere and its nesting can be read back. A comparison with a value leaves a hole
for it; comparing with `null` for equality becomes `IS NULL` and leaves none. A conjunction of
nothing is true and a disjunction of nothing false, and each has a text that says so.
-/

namespace BoundSql

namespace Comparison

/-- A comparison with what stands on its right-hand side. -/
def around (column : String) (op : CompareOp) (rhs : Template) : Template :=
  match op with
  | .oneOf => .text (column ++ " IN (") :: rhs ++ [.text ")"]
  | op => .text (column ++ " " ++ op.symbol ++ " ") :: rhs

/-- The right-hand side of a comparison: another column, or a hole for the value. The hole is named
for the column of the comparison. -/
def rightSide (d : Dialect) (t : Comparison) : Template :=
  match t.operand with
  | .column other => [.text (other.render d)]
  | .value v => [.hole t.column.name v]
  | .list items => [.hole t.column.name (.array items)]

/-- A comparison in SQL. -/
def template (d : Dialect) (t : Comparison) : Template :=
  let column := t.column.render d
  match t.op, t.operand with
  | .equal, .value .null => [.text (column ++ " IS NULL")]
  | .notEqual, .value .null => [.text (column ++ " IS NOT NULL")]
  | op, _ => around column op (t.rightSide d)

end Comparison

/-- A template between parentheses. -/
def Template.grouped (t : Template) : Template := .text "( " :: t ++ [.text " )"]

namespace Condition

mutual

/-- A condition in SQL. -/
def template (d : Dialect) : Condition → Template
  | .all [] => Template.grouped [.text "1 = 1"]
  | .all (p :: ps) => Template.grouped (Template.joined " AND " (template d p :: templates d ps))
  | .any [] => Template.grouped [.text "1 = 0"]
  | .any (p :: ps) => Template.grouped (Template.joined " OR " (template d p :: templates d ps))
  | .negated p => Template.grouped (.text "NOT " :: template d p)
  | .compare t => Template.grouped (t.template d)

/-- The parts of a condition in SQL. -/
def templates (d : Dialect) : List Condition → List Template
  | [] => []
  | p :: ps => template d p :: templates d ps

end

/-- The text of a condition whose values are bound after `b`, and all bindings. -/
def compile (d : Dialect) (c : Condition) (b : Bindings) : String × Bindings :=
  (c.template d).bind b

end Condition

end BoundSql
