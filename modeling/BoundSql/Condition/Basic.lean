import BoundSql.Column

/-!
# Conditions

What a row has to satisfy, as a tree: comparisons of a column at the leaves, and above them
conjunctions, disjunctions and negations. A conjunction or disjunction may have any number of
parts. The tree is data, so that a caller can build it, send it as JSON and put it into the clauses
of a statement; `Condition.template` says what it is in SQL.
-/

namespace BoundSql

/-- A relation between a column and an operand. -/
inductive CompareOp where
  | equal
  | notEqual
  | greater
  | greaterOrEqual
  | less
  | lessOrEqual
  | oneOf
deriving DecidableEq

namespace CompareOp

/-- The operator in SQL. -/
def symbol : CompareOp → String
  | equal => "="
  | notEqual => "!="
  | greater => ">"
  | greaterOrEqual => ">="
  | less => "<"
  | lessOrEqual => "<="
  | oneOf => "IN"

/-- The name of the operator in JSON. -/
def tag : CompareOp → String
  | equal => "eq"
  | notEqual => "ne"
  | greater => "gt"
  | greaterOrEqual => "gte"
  | less => "lt"
  | lessOrEqual => "lte"
  | oneOf => "in"

/-- All operators. -/
def all : List CompareOp :=
  [equal, notEqual, greater, greaterOrEqual, less, lessOrEqual, oneOf]

/-- The operator with a given name in JSON. -/
def ofTag? (tag : String) : Option CompareOp := all.find? fun op ↦ op.tag == tag

end CompareOp

/-- What a column is compared with. -/
inductive Operand where
  | value (v : Json)
  | column (c : Column)
  | list (items : List Json)

/-- The value to bind for an operand; a column has none. A list is one array. -/
def Operand.bound? : Operand → Option Json
  | .value v => some v
  | .column _ => none
  | .list items => some (.array items)

/-- A comparison of a column. -/
structure Comparison where
  /-- The column. -/
  column : Column
  /-- The relation. -/
  op : CompareOp
  /-- What the column is compared with. -/
  operand : Operand

/-- A condition on rows. -/
inductive Condition where
  /-- Every part holds. -/
  | all (parts : List Condition)
  /-- Some part holds. -/
  | any (parts : List Condition)
  /-- The part does not hold. -/
  | negated (part : Condition)
  /-- The comparison holds. -/
  | compare (test : Comparison)

namespace Condition

/-- Both conditions hold. -/
def and (a b : Condition) : Condition := .all [a, b]

/-- One of the conditions holds, or both. -/
def or (a b : Condition) : Condition := .any [a, b]

end Condition

/-- The condition that a column stands in the given relation to an operand. -/
def Column.compare (c : Column) (op : CompareOp) (operand : Operand) : Condition :=
  .compare ⟨c, op, operand⟩

/-- The condition that a column has one of the given values. -/
def Column.inList (c : Column) (items : List Json) : Condition := c.compare .oneOf (.list items)

end BoundSql
