import BoundSql.Decimal.Text
import BoundSql.Row.Basic
import BoundSql.Row.Report
import BoundSql.Selected
import BoundSql.Text.Blank

/-!
# Answers of a database

A statement is answered by rows or by a report. A query takes rows, and if it asks for a count, the
first of them holds the number: as a JSON number or as a numeral in a text. Numbers that do not fit
in 64 bits with a sign, and the fractions of doubles, are cut to what fits.
-/

namespace BoundSql

/-- How a database answers a statement. -/
inductive Answer where
  /-- Rows. -/
  | rows (rows : List Row)
  /-- The report of a modification. -/
  | report (r : Report)

namespace Answer

/-- The rows of an answer that should have some. -/
def takeRows : Answer → Except Error (List Row)
  | rows rs => .ok rs
  | report _ => .error .reportForRows

/-- The report of an answer that should have one. -/
def takeReport : Answer → Except Error Report
  | report r => .ok r
  | rows _ => .error .rowsForReport

end Answer

/-! ## Counts -/

/-- The nearest signed 64-bit integer. -/
def clampToInt64 (n : Int) : Int64 :=
  Int64.ofInt (max (-0x8000_0000_0000_0000) (min n 0x7fff_ffff_ffff_ffff))

/-- The integer that a number counts: the fraction of a double is dropped, and what is out of range
becomes the nearest end of the range. -/
def Number.count : Number → Int64
  | .integer n => clampToInt64 n.val
  | .double x => clampToInt64 x.truncate

/-- The signed 64-bit integer with a given numeral: an optional sign and at least one digit. -/
def readInt64? (cs : List Char) : Option Int64 := do
  let (negative, ds) := match cs with
    | '-' :: r => (true, r)
    | '+' :: r => (false, r)
    | r => (false, r)
  let magnitude : Int ← (Decimal.readNumeral? ds).map Int.ofNat
  let n := if negative then -magnitude else magnitude
  if -0x8000_0000_0000_0000 ≤ n ∧ n < 0x8000_0000_0000_0000 then some (Int64.ofInt n) else none

/-- The number that a value of the count column stands for. -/
def countOfValue : Json → Except Error Int64
  | .number n => .ok n.count
  | .text s =>
    match readInt64? (Text.trim s.toList) with
    | some n => .ok n
    | none => .error (.unexpectedResult ("count is not numeric: " ++ Text.quoted s))
  | v => .error (.unexpectedResult ("count is not numeric: " ++ v.compact))

/-- The number that rows report in the count column of the first of them. -/
def countOfRows : List Row → Except Error Int64
  | [] => .error (.unexpectedResult "count query returned no rows")
  | r :: _ =>
    match r.get? countColumn with
    | some v => countOfValue v
    | none => .error (.unexpectedResult ("count row has no `" ++ countColumn ++ "` column"))

/-! ## Results of a query -/

/-- The result of a query. -/
inductive Output where
  | rows (rows : List Row)
  | count (n : Int64)

/-- The first thing in the result of a query. -/
inductive FirstOutput where
  | row (r : Row)
  | count (n : Int64)

namespace Output

/-- The rows, if the result has some. -/
def rows? : Output → Option (List Row)
  | rows rs => some rs
  | count _ => none

/-- The number, if the result is one. -/
def count? : Output → Option Int64
  | rows _ => none
  | count n => some n

/-- The first row, or the number. -/
def first? : Output → Option FirstOutput
  | rows rs => rs.head?.map FirstOutput.row
  | count n => some (.count n)

/-- The result of a query from the answer of the database; `isCount` says what the query asked
for. -/
def ofAnswer (isCount : Bool) (a : Answer) : Except Error Output := do
  let rs ← a.takeRows
  if isCount then return .count (← countOfRows rs) else return .rows rs

end Output

namespace FirstOutput

/-- The row, if it is one. -/
def row? : FirstOutput → Option Row
  | row r => some r
  | count _ => none

/-- The number, if it is one. -/
def count? : FirstOutput → Option Int64
  | row _ => none
  | count n => some n

end FirstOutput

end BoundSql
