import BoundSql.Condition.Filter
import BoundSql.Selected

/-!
# Joined tables

The tables of a join are declared one by one, each under an alias: those of the inner join first,
then those of the left join. Declaring an alias again within the same kind of join gives it another
table and keeps its place. A join is always started with a table, so there is an inner one.
-/

namespace BoundSql

/-- A table under the name that it has in a statement. -/
structure TableUse where
  /-- The alias: its name in the statement. -/
  name : String
  /-- The table. -/
  table : String
deriving DecidableEq

namespace TableUse

/-- The use that a text `table as alias`, or `table`, describes. -/
def parse (target : String) : TableUse :=
  let (table, name) := tableAndAlias target
  ⟨name, table⟩

/-- The use of a table under its own name. -/
def bare (table : String) : TableUse := ⟨table, table⟩

/-- A use in the text of a statement. -/
def render (d : Dialect) (u : TableUse) : String :=
  d.identifier u.table ++ " AS " ++ d.identifier u.name

theorem render_ne_empty (d : Dialect) (u : TableUse) : u.render d ≠ "" := by
  intro h
  have hlist := congrArg String.toList h
  simp [render] at hlist

end TableUse

/-- Tables in the order in which their aliases were first declared. -/
abbrev TableSet := List TableUse

namespace TableSet

/-- Declares a use: an alias that is there gets the table, a new one goes to the end. -/
def declare : TableSet → TableUse → TableSet
  | [], u => [u]
  | v :: vs, u => if v.name = u.name then u :: vs else v :: declare vs u

/-- The aliases in order. -/
def aliases (s : TableSet) : List String := s.map TableUse.name

/-- The uses in the text of a statement, with `keyword` between them. -/
def render (keyword : String) (d : Dialect) (s : TableSet) : String :=
  keyword.intercalate (s.map (TableUse.render d))

theorem render_eq_empty_iff {keyword : String} {d : Dialect} {s : TableSet} :
    s.render keyword d = "" ↔ s = [] := by
  rcases s with _ | ⟨u, _ | ⟨v, vs⟩⟩
  · exact iff_of_true String.intercalate_nil rfl
  · rw [render, List.map_cons, List.map_nil, String.intercalate_singleton]
    exact iff_of_false (u.render_ne_empty d) (List.cons_ne_nil u [])
  · rw [render, List.map_cons, List.map_cons, String.intercalate_cons_cons, String.append_assoc]
    refine iff_of_false (fun h ↦ ?_) (List.cons_ne_nil u _)
    exact u.render_ne_empty d (String.append_eq_empty_iff.mp h).1

end TableSet

/-- The tables of a join with the condition that ties them. -/
structure Tables where
  /-- The tables that a row must come from. -/
  inner : TableSet
  /-- The tables that may have nothing for a row. -/
  left : TableSet := []
  /-- What ties the tables. -/
  on : Filter := {}

namespace Tables

/-- The join that starts with a table under an alias. -/
def startAlias (table name : String) : Tables := { inner := [⟨name, table⟩] }

/-- The join of a table with another one. -/
def startJoin (table target : String) : Tables :=
  { inner := TableSet.declare [.bare table] (.parse target) }

/-- The left join of a table with another one. -/
def startLeftJoin (table target : String) : Tables :=
  { inner := [.bare table], left := [.parse target] }

/-- How a join is started with a table. -/
inductive Start where
  /-- The table gets an alias. -/
  | alias (name : String)
  /-- The table keeps its name, and another one is joined. -/
  | join (target : String)
  /-- The table keeps its name, and another one is left joined. -/
  | leftJoin (target : String)

/-- The join that is started. -/
def Start.tables (table : String) : Start → Tables
  | .alias name => startAlias table name
  | .join target => startJoin table target
  | .leftJoin target => startLeftJoin table target

/-- A call that adds to a join. -/
inductive Edit where
  /-- Joins a table. -/
  | join (target : String)
  /-- Joins a table that may have nothing for a row. -/
  | leftJoin (target : String)
  /-- Demands a condition of the joined rows. -/
  | on (c : Option Condition)

/-- What a call makes of a join. -/
def apply (t : Tables) : Edit → Tables
  | .join target => { t with inner := TableSet.declare t.inner (.parse target) }
  | .leftJoin target => { t with left := TableSet.declare t.left (.parse target) }
  | .on c => { t with on := t.on.apply (.and c) }

/-- The aliases of a join in the order of the text. -/
def aliases (t : Tables) : List String := TableSet.aliases t.inner ++ TableSet.aliases t.left

/-- What stands between the tables of a left join, and before the first of them. -/
def leftKeyword : String := " LEFT JOIN "

/-- The tables in the text of a statement. The keyword before the first left joined table is written
only where something stands in front of it. -/
def render (d : Dialect) (t : Tables) : String :=
  let front := t.inner.render " INNER JOIN " d
  let back := t.left.render leftKeyword d
  if t.left = [] then front
  else if front = "" then back
  else front ++ leftKeyword ++ back

/-- Whether something stands in front of the left joined tables is the same in every dialect. -/
theorem render_eq_ite (d : Dialect) (t : Tables) :
    t.render d =
      if t.left = [] then t.inner.render " INNER JOIN " d
      else if t.inner = [] then t.left.render leftKeyword d
      else t.inner.render " INNER JOIN " d ++ leftKeyword ++ t.left.render leftKeyword d := by
  rw [render]
  simp only [TableSet.render_eq_empty_iff]

end Tables

end BoundSql
