import BoundSql.Command.Modify
import BoundSql.Query.Select
import BoundSql.Session.Client

/-!
# Running commands

A command is checked, and if it passes, its statement is sent and the answer becomes its result.
A query always passes. Its result can be asked for in several ways: as it is, the first of it only,
rows read as values of a type, or the number of rows.
-/

namespace BoundSql

/-- Sends a statement if the check has passed, and makes a result of the answer. -/
def checkedTalk {α : Type} (check : Except Error Unit) (s : Statement)
    (f : Answer → Except Error α) : Talk (Except Error α) :=
  match check with
  | .error e => .done (.error e)
  | .ok () => .single s fun a ↦ a.bind f

/-- Runs an `INSERT`. -/
def Insert.run (d : Dialect) (c : Insert) : Talk (Except Error Report) :=
  checkedTalk c.validate (c.statement d) Answer.takeReport

/-- Runs an `UPDATE`. -/
def Update.run (d : Dialect) (c : Update) : Talk (Except Error Report) :=
  checkedTalk c.validate (c.statement d) Answer.takeReport

/-- Runs a `DELETE`. -/
def Delete.run (d : Dialect) (c : Delete) : Talk (Except Error Report) :=
  checkedTalk c.validate (c.statement d) Answer.takeReport

namespace Output

variable {α : Type}

/-- Every row of a result, read by `decode`; the first that cannot be read is reported. -/
def readAll (decode : Row → Except Error α) : Output → Except Error (List α)
  | .rows rs => rs.mapM decode
  | .count _ => .error .countForRows

/-- The first row of a result, if there is one, read by `decode`. -/
def readFirst (decode : Row → Except Error α) (o : Output) : Except Error (Option α) :=
  match o.first? with
  | some (.row r) => (decode r).map some
  | some (.count _) => .error .countForRows
  | none => .ok none

/-- The number that a result is. -/
def readCount : Output → Except Error Int64
  | .count n => .ok n
  | .rows _ => .error .rowsForCount

end Output

namespace Select

variable {α : Type}

/-- Whether a query may be sent: always. -/
def validate (_ : Select) : Except Error Unit := .ok ()

/-- Runs a query. -/
def run (d : Dialect) (q : Select) : Talk (Except Error Output) :=
  checkedTalk q.validate (q.statement d) (Output.ofAnswer q.isCount)

/-- Runs a query and makes something of its result. -/
def runWith (d : Dialect) (q : Select) (f : Output → Except Error α) : Talk (Except Error α) :=
  (q.run d).map fun r ↦ r.bind f

/-- Runs a query for the first thing in its result. -/
def takeFirst (d : Dialect) (q : Select) : Talk (Except Error (Option FirstOutput)) :=
  q.runWith d fun o ↦ .ok o.first?

/-- Runs a query for all rows, read by `decode`. -/
def fetchAll (d : Dialect) (q : Select) (decode : Row → Except Error α) :
    Talk (Except Error (List α)) :=
  q.runWith d (Output.readAll decode)

/-- Runs a query for the first row, read by `decode`. -/
def fetchFirst (d : Dialect) (q : Select) (decode : Row → Except Error α) :
    Talk (Except Error (Option α)) :=
  q.runWith d (Output.readFirst decode)

/-- Runs a query for the number of rows, whatever its `SELECT` list is. -/
def fetchCount (d : Dialect) (q : Select) : Talk (Except Error Int64) :=
  (q.apply .count).runWith d Output.readCount

end Select

end BoundSql
