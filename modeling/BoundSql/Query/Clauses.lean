import BoundSql.Selected

/-!
# Clauses without values

The `SELECT` list, `GROUP BY`, `ORDER BY` and `LIMIT` hold no bound values, so each is rendered to
text at once.
-/

namespace BoundSql

open Text

/-! ## The SELECT list -/

/-- The entries of a `SELECT` list as text; none select all columns. -/
def renderProjection (d : Dialect) (entries : List String) : String :=
  if entries.isEmpty then "*"
  else ", ".intercalate (entries.map fun e ↦ (Selected.parse e).render d)

/-- Whether a `SELECT` list asks for the number of rows and nothing else. -/
def isCountProjection : List String → Bool
  | [entry] => sameWord (trim entry.toList) countColumn.toList
  | _ => false

/-- The names that the entries of a `SELECT` list give. -/
def projectionAliases (entries : List String) : List String :=
  entries.filterMap fun e ↦ (Selected.parse e).name?

/-! ## GROUP BY -/

/-- The columns of a `GROUP BY` list as text. -/
def renderGroupBy (d : Dialect) (paths : List String) : String :=
  ", ".intercalate (paths.map fun p ↦ renderPath d (trimmed p))

/-! ## ORDER BY -/

/-- The direction of a sort. -/
inductive Direction where
  | ascending
  | descending
deriving DecidableEq

namespace Direction

/-- The keyword. -/
def keyword : Direction → String
  | ascending => "ASC"
  | descending => "DESC"

/-- The direction with a given keyword, in any case. -/
def ofKeyword? (cs : List Char) : Option Direction :=
  if sameWord cs "asc".toList then some ascending
  else if sameWord cs "desc".toList then some descending
  else none

end Direction

/-- A term of an `ORDER BY` list. -/
structure OrderTerm where
  /-- The entry to sort by, written as in a `SELECT` list. -/
  field : String
  /-- The direction; without one the database chooses. -/
  direction : Option Direction
deriving DecidableEq

namespace OrderTerm

/-- What a text means as a term: a direction is the last of at least two words, and the field is the
text before it. -/
def parse (s : String) : OrderTerm :=
  let cs := trim s.toList
  let before := beforeLastWord cs
  match Direction.ofKeyword? (lastWord cs) with
  | some direction =>
    if before.isEmpty then ⟨String.ofList cs, none⟩
    else ⟨String.ofList (trimEnd before), some direction⟩
  | none => ⟨String.ofList cs, none⟩

/-- A term in the text of a statement. -/
def render (d : Dialect) (t : OrderTerm) : String :=
  let field := (Selected.parse t.field).render d
  match t.direction with
  | some direction => field ++ " " ++ direction.keyword
  | none => field

end OrderTerm

/-- The terms of an `ORDER BY` list as text. -/
def renderOrderBy (d : Dialect) (terms : List OrderTerm) : String :=
  ", ".intercalate (terms.map (OrderTerm.render d))

/-! ## LIMIT -/

/-- How many rows are wanted. -/
inductive Limit where
  /-- The first rows. -/
  | first (count : UInt64)
  /-- The rows after some that are passed over. -/
  | window (offset count : UInt64)
deriving DecidableEq

/-- The `LIMIT` clause. -/
def Limit.render : Limit → String
  | .first count => "LIMIT " ++ Nat.repr count.toNat
  | .window offset count => "LIMIT " ++ Nat.repr offset.toNat ++ ", " ++ Nat.repr count.toNat

end BoundSql
