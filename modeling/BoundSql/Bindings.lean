import BoundSql.Json.Basic

/-!
# Bindings

A statement carries its values apart from its text, each under a name of its own. The name is made
from the column that the value belongs to and a number, `__age__0`, so that a log of the bindings
can be read; the number is how many names so far begin with the stem `__age`. That count also
includes the names of longer columns with the same beginning, so numbers may be left out, but a
name is never given twice.
-/

namespace BoundSql

/-- The values bound so far under their names, in the order in which they were bound. -/
structure Bindings where
  /-- Names and values. -/
  entries : Members := []

namespace Bindings

/-- The bindings of a statement without values. -/
def empty : Bindings := {}

/-- What the names for values of `field` begin with. -/
def stem (field : String) : String := "__" ++ field

/-- How many names begin with the stem of `field`. -/
def used (b : Bindings) (field : String) : Nat :=
  b.entries.countP fun e ↦ (stem field).toList.isPrefixOf e.1.toList

/-- The name for the next value of `field`. -/
def nextName (b : Bindings) (field : String) : String :=
  stem field ++ "__" ++ Nat.repr (b.used field)

/-- Binds `value` for `field`, and tells the name. -/
def bind (b : Bindings) (field : String) (value : Json) : String × Bindings :=
  let name := b.nextName field
  (name, ⟨Members.insert b.entries name value⟩)

/-- Binds values one after the other. -/
def bindAll (b : Bindings) (values : List (String × Json)) : Bindings :=
  values.foldl (fun b e ↦ (b.bind e.1 e.2).2) b

/-- The value under a name. -/
def get? (b : Bindings) (name : String) : Option Json := Members.get? b.entries name

/-- How many values are bound. -/
def size (b : Bindings) : Nat := b.entries.length

/-- Whether no value is bound. -/
def isEmpty (b : Bindings) : Bool := b.entries.isEmpty

/-- The bound values as one object. -/
def toJson (b : Bindings) : Json := .object b.entries

end Bindings

/-- The placeholder for a bound value: its name after a colon. -/
def placeholder (name : String) : String := ":" ++ name

end BoundSql
