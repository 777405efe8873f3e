import BoundSql.Condition.Basic
import BoundSql.Json.Same
import BoundSql.Json.Text

/-!
# Conditions as JSON, and their equality

A condition is sent elsewhere as an object that names the kind of its root. An operand is written
without a mark of its kind: a value as itself, a list as an array, and a column as an object.

Two conditions are the same if their trees are, with the values in them compared as values.
-/

namespace BoundSql

/-- An operand as JSON. -/
def Operand.toJson : Operand → Json
  | .value v => v
  | .column c => .object c.members
  | .list items => .array items

/-- Equality of operands of the same kind. -/
def Operand.same : Operand → Operand → Bool
  | .value v, .value w => v.same w
  | .column c, .column e => c == e
  | .list vs, .list ws => Json.sameItems vs ws
  | _, _ => false

/-- A comparison as the members of an object. -/
def Comparison.members (t : Comparison) : Members :=
  ("type", .text "field_compare") :: t.column.members ++
    [("op", .text t.op.tag), ("value", t.operand.toJson)]

/-- Equality of comparisons. -/
def Comparison.same (s t : Comparison) : Bool :=
  s.column == t.column && s.op == t.op && s.operand.same t.operand

namespace Condition

mutual

/-- A condition as JSON. -/
def toJson : Condition → Json
  | .all parts => .object [("type", .text "and"), ("exprs", .array (toJsons parts))]
  | .any parts => .object [("type", .text "or"), ("exprs", .array (toJsons parts))]
  | .negated part => .object [("type", .text "not"), ("expr", toJson part)]
  | .compare t => .object t.members

/-- Conditions as JSON, one by one. -/
def toJsons : List Condition → List Json
  | [] => []
  | c :: cs => toJson c :: toJsons cs

end

mutual

/-- Equality of conditions as trees. -/
def same : Condition → Condition → Bool
  | .all cs, .all es => sameParts cs es
  | .any cs, .any es => sameParts cs es
  | .negated c, .negated e => same c e
  | .compare s, .compare t => s.same t
  | _, _ => false

/-- Equality of parts, one by one. -/
def sameParts : List Condition → List Condition → Bool
  | [], [] => true
  | c :: cs, e :: es => same c e && sameParts cs es
  | _, _ => false

end

end Condition

end BoundSql
