import BoundSql.Query.Clauses
import BoundSql.Query.Tables

/-!
# Queries

A query reads from one table or from a join. Its clauses are set by calls in any order and are
rendered in the order of SQL; a call sets its own clause and leaves the others alone. The values of
`ON`, `WHERE` and `HAVING` are bound in this order.
-/

namespace BoundSql

/-- Where a query reads from. -/
inductive Source where
  | table (name : String)
  | joined (tables : Tables)

namespace Source

/-- The source in the text of a statement. -/
def render (d : Dialect) : Source → String
  | .table name => d.identifier name
  | .joined tables => tables.render d

/-- What ties the tables of the source. -/
def on : Source → Filter
  | .table _ => {}
  | .joined tables => tables.on

/-- How the columns of the source are named, given the names of the result columns. -/
def scope (resultNames : List String) : Source → Scope
  | .table _ => .single
  | .joined _ => .joined resultNames

end Source

/-- A query. -/
structure Select where
  /-- Where it reads from. -/
  source : Source
  /-- The entries of the `SELECT` list. -/
  projection : List String := []
  /-- What the rows have to satisfy. -/
  filter : Filter := {}
  /-- The columns to group by. -/
  groupBy : List String := []
  /-- What the groups have to satisfy. -/
  having : Filter := {}
  /-- The terms to sort by. -/
  orderBy : List OrderTerm := []
  /-- How many rows are wanted. -/
  limit : Option Limit := none

namespace Select

/-- A call that changes a query. -/
inductive Edit where
  /-- Sets the `SELECT` list. -/
  | project (entries : List String)
  /-- Asks for the number of rows. -/
  | count
  /-- Changes the condition on rows. -/
  | filter (e : Filter.Edit)
  /-- Sets the columns to group by. -/
  | groupBy (paths : List String)
  /-- Sets the condition on groups. -/
  | having (c : Option Condition)
  /-- Drops the condition on groups. -/
  | clearHaving
  /-- Sets the terms to sort by. -/
  | orderBy (terms : List OrderTerm)
  /-- Sets how many rows are wanted. -/
  | limit (l : Limit)

/-- What a call makes of a query. -/
def apply (q : Select) : Edit → Select
  | .project entries => { q with projection := entries }
  | .count => { q with projection := [countColumn] }
  | .filter e => { q with filter := q.filter.apply e }
  | .groupBy paths => { q with groupBy := paths }
  | .having c => { q with having := q.having.replace c }
  | .clearHaving => { q with having := {} }
  | .orderBy terms => { q with orderBy := terms }
  | .limit l => { q with limit := some l }

/-- The names that the query gives to result columns. -/
def aliases (q : Select) : List String := projectionAliases q.projection

/-- How conditions of the query name their columns. -/
def scope (q : Select) : Scope := q.source.scope []

/-- How a condition on groups names its columns: it also knows the result columns. -/
def havingScope (q : Select) : Scope := q.source.scope q.aliases

/-- Whether the query asks for the number of rows and nothing else. -/
def isCount (q : Select) : Bool := isCountProjection q.projection

/-- A clause that is there unless its list is empty. -/
def listClause {α : Type} (keyword : String) (render : List α → String) (items : List α) :
    Template :=
  if items.isEmpty then [] else [.text (keyword ++ render items)]

/-- A query in SQL. -/
def template (d : Dialect) (q : Select) : Template :=
  [.text ("SELECT " ++ renderProjection d q.projection ++ " FROM " ++ q.source.render d)] ++
    q.source.on.clause d " ON " ++
    q.filter.clause d " WHERE " ++
    listClause " GROUP BY " (renderGroupBy d) q.groupBy ++
    q.having.clause d " HAVING " ++
    listClause " ORDER BY " (renderOrderBy d) q.orderBy ++
    listClause " " (fun ls ↦ String.join (ls.map Limit.render)) q.limit.toList

/-- The statement of a query. -/
def statement (d : Dialect) (q : Select) : Statement := (q.template d).statement

end Select

end BoundSql
