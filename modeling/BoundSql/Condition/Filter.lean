import BoundSql.Condition.Template

/-!
# Filters

A command collects its condition call by call. A `Filter` is the condition so far, if there is one,
and an `Edit` is one call. A call may come without a condition, because the caller decided against
one, and then changes nothing. The first condition is taken as it is; after that `filter` replaces
what is there, and the other calls put it and the new condition under a common node.
-/

namespace BoundSql

/-- The condition that a command has collected. -/
structure Filter where
  /-- The condition, if there is one. -/
  condition : Option Condition := none

namespace Filter

/-- A call that changes a filter. -/
inductive Edit where
  /-- Takes the condition in place of the one so far. -/
  | filter (c : Option Condition)
  /-- Demands the condition as well. -/
  | and (c : Option Condition)
  /-- Allows the condition as an alternative. -/
  | or (c : Option Condition)
  /-- Demands that the condition does not hold. -/
  | not (c : Option Condition)
  /-- Drops the condition. -/
  | clear

/-- Takes a condition in place of the one so far. -/
def replace (f : Filter) : Option Condition → Filter
  | some c => ⟨some c⟩
  | none => f

/-- Puts the condition so far and a new one together by `join`. -/
def combine (join : Condition → Condition → Condition) (f : Filter) : Option Condition → Filter
  | some c =>
    match f.condition with
    | some prior => ⟨some (join prior c)⟩
    | none => ⟨some c⟩
  | none => f

/-- What a call makes of a filter. -/
def apply (f : Filter) : Edit → Filter
  | .filter c => f.replace c
  | .and c => f.combine Condition.and c
  | .or c => f.combine Condition.or c
  | .not c => f.combine Condition.and (c.map Condition.negated)
  | .clear => {}

/-- A filter as a clause: nothing without a condition, otherwise the keyword and the condition. -/
def clause (d : Dialect) (keyword : String) (f : Filter) : Template :=
  match f.condition with
  | some c => .text keyword :: c.template d
  | none => []

end Filter

end BoundSql
