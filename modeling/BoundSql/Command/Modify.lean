import BoundSql.Condition.Filter
import BoundSql.Record

/-!
# INSERT, UPDATE and DELETE

The three commands that change a table. Each is checked before it is sent: a record that is written
must be one and hold something, and an `UPDATE` or `DELETE` must have a condition, so that no row is
changed because a condition was forgotten. Where several checks fail, a failed record is reported
first, then an empty one, then the missing condition.

A record is bound as one object under the name `record`, before the values of the condition.
-/

namespace BoundSql

/-- The name that records are bound for. -/
def recordField : String := "record"

/-- The hole for a record. -/
def RecordSlot.hole (r : RecordSlot) : Fragment := .hole recordField r.toJson

/-- Passes unless there is a failure to report. -/
def checkBuilt : Option String → Except Error Unit
  | some m => .error (.serialization m)
  | none => .ok ()

/-- Passes if the condition holds, and fails with `e` otherwise. -/
def require (e : Error) (holds : Bool) : Except Error Unit := if holds then .ok () else .error e

/-! ## INSERT -/

/-- The command that adds a row, or changes the row that is there under the same key. -/
structure Insert where
  /-- The table. -/
  table : String
  /-- The row. -/
  record : RecordSlot := .unset
  /-- What to change in a row that is there. -/
  onDuplicate : RecordSlot := .unset

namespace Insert

/-- A call that changes an `INSERT`. -/
inductive Edit where
  /-- Sets the row. -/
  | values (p : Payload)
  /-- Sets what to change in a row that is there. -/
  | orUpdate (p : Payload)

/-- What a call makes of an `INSERT`. -/
def apply (c : Insert) : Edit → Insert
  | .values p => { c with record := .ofPayload p }
  | .orUpdate p => { c with onDuplicate := .ofPayload p }

/-- An `INSERT` in SQL. -/
def template (d : Dialect) (c : Insert) : Template :=
  [.text ("INSERT INTO " ++ d.identifier c.table ++ " SET "), c.record.hole] ++
    if c.onDuplicate.isFilled then [.text " ON DUPLICATE KEY UPDATE ", c.onDuplicate.hole] else []

/-- The statement of an `INSERT`. -/
def statement (d : Dialect) (c : Insert) : Statement := (c.template d).statement

/-- Whether an `INSERT` may be sent. -/
def validate (c : Insert) : Except Error Unit := do
  checkBuilt (c.record.failure? <|> c.onDuplicate.failure?)
  require .noDataToInsert c.record.isFilled

end Insert

/-! ## UPDATE -/

/-- The command that changes rows. -/
structure Update where
  /-- The table. -/
  table : String
  /-- What to change. -/
  record : RecordSlot := .unset
  /-- Which rows to change. -/
  filter : Filter := {}

namespace Update

/-- A call that changes an `UPDATE`. -/
inductive Edit where
  /-- Sets what to change. -/
  | set (p : Payload)
  /-- Changes which rows to change. -/
  | filter (e : Filter.Edit)

/-- What a call makes of an `UPDATE`. -/
def apply (c : Update) : Edit → Update
  | .set p => { c with record := .ofPayload p }
  | .filter e => { c with filter := c.filter.apply e }

/-- An `UPDATE` in SQL. -/
def template (d : Dialect) (c : Update) : Template :=
  [.text ("UPDATE " ++ d.identifier c.table ++ " SET "), c.record.hole] ++
    c.filter.clause d " WHERE "

/-- The statement of an `UPDATE`. -/
def statement (d : Dialect) (c : Update) : Statement := (c.template d).statement

/-- Whether an `UPDATE` may be sent. -/
def validate (c : Update) : Except Error Unit := do
  checkBuilt c.record.failure?
  require .nothingToUpdate c.record.isFilled
  require .updateWithoutCondition c.filter.condition.isSome

end Update

/-! ## DELETE -/

/-- The command that removes rows. -/
structure Delete where
  /-- The table. -/
  table : String
  /-- Which rows to remove. -/
  filter : Filter := {}

namespace Delete

/-- What a call makes of a `DELETE`. -/
def apply (c : Delete) (e : Filter.Edit) : Delete := { c with filter := c.filter.apply e }

/-- A `DELETE` in SQL. -/
def template (d : Dialect) (c : Delete) : Template :=
  .text ("DELETE FROM " ++ d.identifier c.table) :: c.filter.clause d " WHERE "

/-- The statement of a `DELETE`. -/
def statement (d : Dialect) (c : Delete) : Statement := (c.template d).statement

/-- Whether a `DELETE` may be sent. -/
def validate (c : Delete) : Except Error Unit :=
  require .deleteWithoutCondition c.filter.condition.isSome

end Delete

end BoundSql
