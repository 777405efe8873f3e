import BoundSql.Error
import BoundSql.Json.Reader

/-!
# Rows

A row of a result: values under the names of their columns, in the order of the columns. A column,
or the row as a whole, is read as a definite type by a `Reader`; a mismatch becomes an error that
names the column.
-/

namespace BoundSql

/-- A row. -/
structure Row where
  /-- Columns and values. -/
  members : Members := []

namespace Row

/-- The value of a column, if the row has it. -/
def get? (r : Row) (column : String) : Option Json := Members.get? r.members column

/-- The row with a value for a column. -/
def insert (r : Row) (column : String) (value : Json) : Row :=
  ⟨Members.insert r.members column value⟩

/-- The names of the columns. -/
def columns (r : Row) : List String := Members.keys r.members

/-- The row as one object. -/
def toJson (r : Row) : Json := .object r.members

/-- What a reader makes of a value of the column, with an error for what does not fit. -/
def decodeAs {α : Type} (column : String) (reader : Reader α) (v : Json) : Except Error α :=
  (reader v).mapError fun m ↦ .decode column m.message

/-- The value of a column as an `α`. -/
def read {α : Type} (r : Row) (reader : Reader α) (column : String) : Except Error α :=
  match r.get? column with
  | some v => decodeAs column reader v
  | none => .error (.decode column "column not found")

/-- The name that errors use for a row as a whole. -/
def wholeRow : String := "<row>"

/-- The row as an `α`. -/
def decode {α : Type} (reader : Reader α) (r : Row) : Except Error α :=
  decodeAs wholeRow reader r.toJson

end Row

end BoundSql
