import BoundSql.Column
import BoundSql.Text.Blank

/-!
# Entries of a SELECT list

Callers write the entries of a `SELECT` list as text: `*`, `count(*)`, a column, a column with an
alias, or one of five aggregate functions with an alias. `Selected.parse` reads every text, since
what has none of the special forms is the path of a column, and `Selected.render` writes it with
its names quoted.

An alias is the last word of an entry, and the word before it must be the keyword `as`. Since the
entry is trimmed and words hold no blanks, there is at most one way to cut it.
-/

namespace BoundSql

open Text

/-! ## Aliases -/

/-- The parts of `target as alias`: the alias is the last word, and the target is what stands before
the keyword, without the blanks between. -/
def splitAlias? (cs : List Char) : Option (List Char × List Char) :=
  let before := trimEnd (beforeLastWord cs)
  let target := trimEnd (beforeLastWord before)
  let name := lastWord cs
  if foldsTo ['a', 's'] (lastWord before) && !target.isEmpty && !name.isEmpty then
    some (target, name)
  else none

/-- A table with the name it goes by in a statement: `table as alias`, or a table alone, which goes
by its own name. -/
def tableAndAlias (target : String) : String × String :=
  let cs := trim target.toList
  match splitAlias? cs with
  | some (table, name) =>
    if table.all isInk then (String.ofList table, String.ofList name)
    else (String.ofList cs, String.ofList cs)
  | none => (String.ofList cs, String.ofList cs)

/-! ## Aggregate functions -/

/-- The functions that make one value of many. -/
inductive Aggregate where
  | avg
  | sum
  | count
  | max
  | min
deriving DecidableEq

namespace Aggregate

/-- The name in SQL. -/
def name : Aggregate → String
  | avg => "avg"
  | sum => "sum"
  | count => "count"
  | max => "max"
  | min => "min"

/-- The function with a given name, in any case. -/
def ofName? (cs : List Char) : Option Aggregate :=
  [avg, sum, count, max, min].find? fun f ↦ sameWord f.name.toList cs

/-- The argument of an aggregate: a word, or the keyword `distinct` and a word. -/
def readArgument? (cs : List Char) : Option (Bool × List Char) :=
  let first := cs.takeWhile isInk
  let rest := trimStart (cs.dropWhile isInk)
  if cs.all isInk then (if cs.isEmpty then none else some (false, cs))
  else if foldsTo "distinct".toList first && !rest.isEmpty && rest.all isInk then
    some (true, rest)
  else none

/-- The call of an aggregate: its name, and its argument between parentheses. -/
def readCall? (cs : List Char) : Option (Aggregate × Bool × List Char) :=
  match cs.dropWhile (· != '(') with
  | _ :: inside =>
    if inside.getLast? = some ')' then do
      let f ← ofName? (cs.takeWhile (· != '('))
      let (distinct, argument) ← readArgument? inside.dropLast
      return (f, distinct, argument)
    else none
  | [] => none

end Aggregate

/-! ## Entries -/

/-- The column under which a database reports a count. -/
def countColumn : String := "count(*)"

/-- An entry of a `SELECT` list. -/
inductive Selected where
  /-- All columns. -/
  | star
  /-- The number of rows. -/
  | countStar
  /-- A column. -/
  | field (path : String)
  /-- A column under another name. -/
  | aliased (path name : String)
  /-- An aggregate of a column, with the name of the result. -/
  | aggregate (f : Aggregate) (distinct : Bool) (path name : String)
deriving DecidableEq

namespace Selected

/-- What an entry that is already trimmed means. -/
def ofTrimmed (cs : List Char) : Selected :=
  if cs = ['*'] then .star
  else if sameWord cs countColumn.toList then .countStar
  else
    match splitAlias? cs with
    | none => .field (String.ofList cs)
    | some (target, name) =>
      match Aggregate.readCall? target with
      | some (f, distinct, path) =>
        .aggregate f distinct (String.ofList path) (String.ofList name)
      | none =>
        if target.all isInk then .aliased (String.ofList target) (String.ofList name)
        else .field (String.ofList cs)

/-- What an entry means. -/
def parse (s : String) : Selected := ofTrimmed (trim s.toList)

/-- The name that an entry gives to its column. -/
def name? : Selected → Option String
  | .aliased _ name => some name
  | .aggregate _ _ _ name => some name
  | _ => none

/-- An entry in the text of a statement. -/
def render (d : Dialect) : Selected → String
  | .star => "*"
  | .countStar => countColumn
  | .field path => renderPath d path
  | .aliased path name => renderPath d path ++ " AS " ++ d.identifier name
  | .aggregate f distinct path name =>
    f.name ++ "(" ++ (if distinct then "DISTINCT " else "") ++ renderPath d path ++ ") AS " ++
      d.identifier name

end Selected

end BoundSql
