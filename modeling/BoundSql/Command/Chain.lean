import BoundSql.Command.Modify
import BoundSql.Query.Select

/-!
# Chains of calls

A command is built by a chain of calls. The chain is started on a table, with an alias or with
another table if a join is wanted; the calls after that add tables to the join, and then they set
the clauses of the command, in any order.
-/

namespace BoundSql

/-- A chain of calls that builds a command. -/
inductive Chain where
  /-- A query on a table. -/
  | select (table : String) (calls : List Select.Edit)
  /-- A query on a join. -/
  | join (table : String) (start : Tables.Start) (joins : List Tables.Edit)
      (calls : List Select.Edit)
  | insert (table : String) (calls : List Insert.Edit)
  | update (table : String) (calls : List Update.Edit)
  | delete (table : String) (calls : List Filter.Edit)

namespace Chain

/-- The command that is built, in SQL. -/
def template (d : Dialect) : Chain → Template
  | select table calls => (calls.foldl Select.apply { source := .table table }).template d
  | join table start joins calls =>
    let tables := joins.foldl Tables.apply (start.tables table)
    (calls.foldl Select.apply { source := .joined tables }).template d
  | insert table calls => (calls.foldl Insert.apply { table }).template d
  | update table calls => (calls.foldl Update.apply { table }).template d
  | delete table calls => (calls.foldl Delete.apply { table }).template d

/-- The statement of the command that is built. -/
def statement (d : Dialect) : Chain → Statement
  | select table calls => (calls.foldl Select.apply { source := .table table }).statement d
  | join table start joins calls =>
    let tables := joins.foldl Tables.apply (start.tables table)
    (calls.foldl Select.apply { source := .joined tables }).statement d
  | insert table calls => (calls.foldl Insert.apply { table }).statement d
  | update table calls => (calls.foldl Update.apply { table }).statement d
  | delete table calls => (calls.foldl Delete.apply { table }).statement d

theorem statement_eq_template (d : Dialect) (c : Chain) :
    c.statement d = (c.template d).statement := by
  cases c <;> rfl

end Chain

end BoundSql
