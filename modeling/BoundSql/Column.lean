import BoundSql.Dialect

/-!
# Columns

A column is named by a path, `name` or `table.name`. A path is cut at its first dot, the table and
the name are quoted apart, and the star in place of a name stays as it is.

A `Column` keeps the two parts. What a caller's text means depends on where it is read: a statement
on one table takes it whole as the name, and a statement on joined tables takes it as a path. This
is what a `Scope` says. Both readings keep the path of the column.
-/

namespace BoundSql

/-! ## Paths -/

/-- The parts of `cs` before and after its first dot. -/
def splitDot? (cs : List Char) : Option (List Char × List Char) :=
  match cs.dropWhile (· != '.') with
  | [] => none
  | _ :: after => some (cs.takeWhile (· != '.'), after)

/-- A name, quoted unless it is the star. -/
def renderName (d : Dialect) (name : String) : String :=
  if name = "*" then "*" else d.identifier name

/-- A path with its table and name quoted. -/
def renderPath (d : Dialect) (path : String) : String :=
  match splitDot? path.toList with
  | some (table, name) =>
    d.identifier (String.ofList table) ++ "." ++ renderName d (String.ofList name)
  | none => renderName d path

/-! ## Columns -/

/-- A column, with its table where that is given. -/
structure Column where
  /-- The table or its alias. -/
  table : Option String
  /-- The name in the table. -/
  name : String
deriving DecidableEq

namespace Column

/-- The path of a column. -/
def path (c : Column) : String :=
  match c.table with
  | some t => t ++ "." ++ c.name
  | none => c.name

/-- The column with a given path. -/
def ofPath (path : String) : Column :=
  match splitDot? path.toList with
  | some (table, name) => ⟨some (String.ofList table), String.ofList name⟩
  | none => ⟨none, path⟩

/-- A column in the text of a statement. -/
def render (d : Dialect) (c : Column) : String := renderPath d c.path

/-- The members that describe a column, the table only where it is given. -/
def members (c : Column) : Members :=
  (match c.table with
    | some t => [("table", .text t)]
    | none => []) ++ [("field", .text c.name)]

end Column

/-! ## Scopes -/

/-- How the columns of a condition are named. -/
inductive Scope where
  /-- The names of the columns of one table. -/
  | single
  /-- The paths of columns of joined tables, together with the names given to result columns. -/
  | joined (aliases : List String)

namespace Scope

/-- The column that a text names. -/
def column : Scope → String → Column
  | .single, name => ⟨none, name⟩
  | .joined _, path => Column.ofPath path

/-- The column of a given table. -/
def ofTable (table name : String) : Column := ⟨some table, name⟩

/-- The result column with a given name. -/
def ofAlias (name : String) : Column := ⟨none, name⟩

/-- The names given to result columns. -/
def aliases : Scope → List String
  | .single => []
  | .joined aliases => aliases

/-- Whether a result column has this name. -/
def isAlias (s : Scope) (name : String) : Bool := s.aliases.contains name

end Scope

end BoundSql
