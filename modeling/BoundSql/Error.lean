/-!
# Errors

Everything that can go wrong with a command, by cause. The texts that come with a cause are those of
whoever found it: a database, a caller's value, or one of the checks of this library, whose texts
are the definitions below.
-/

namespace BoundSql

/-- Why a command failed. -/
inductive Error where
  /-- The command was refused before anything was sent. -/
  | precondition (message : String)
  /-- The connection could not be used. -/
  | connection (message : String)
  /-- The database refused the statement. -/
  | database (message : String)
  /-- The connection cannot do what is asked of it. -/
  | unsupported (message : String)
  /-- The answer of the database is not of the kind that the command expects. -/
  | unexpectedResult (message : String)
  /-- A column, or the whole row, cannot be read as the type asked for. -/
  | decode (column : String) (message : String)
  /-- A caller's value has no JSON form, or not the form of a record. -/
  | serialization (message : String)
  /-- Any other cause. -/
  | other (message : String)
deriving DecidableEq

namespace Error

/-- The text shown to a user. -/
def message : Error → String
  | .precondition m => "Precondition failed: " ++ m
  | .connection m => "Connection error: " ++ m
  | .database m => "Database error: " ++ m
  | .unsupported m => "Unsupported operation: " ++ m
  | .unexpectedResult m => "Unexpected result: " ++ m
  | .decode column m => "Decode error on column '" ++ column ++ "': " ++ m
  | .serialization m => "Serialization error: " ++ m
  | .other m => m

/-- Whether the command was refused before anything was sent. -/
def isPrecondition : Error → Bool
  | .precondition _ => true
  | _ => false

/-- Whether the connection cannot do what was asked of it. -/
def isUnsupported : Error → Bool
  | .unsupported _ => true
  | _ => false

/-! ## Refusals -/

/-- An `INSERT` without a record, or with an empty one. -/
def noDataToInsert : Error := .precondition "no data to insert"

/-- An `UPDATE` without a record, or with an empty one. -/
def nothingToUpdate : Error := .precondition "nothing to update"

/-- An `UPDATE` of every row of a table. -/
def updateWithoutCondition : Error := .precondition "can't update without condition"

/-- A `DELETE` of every row of a table. -/
def deleteWithoutCondition : Error := .precondition "can't delete without condition"

/-- A transaction on a client without dedicated connections. -/
def noTransactions : Error := .unsupported "this client can't begin a transaction"

/-! ## Unexpected answers -/

/-- A query was answered by the report of a modification. -/
def reportForRows : Error := .unexpectedResult "expected rows, got a modification report"

/-- A modification was answered by rows. -/
def rowsForReport : Error := .unexpectedResult "expected a modification report, got rows"

/-- Rows were asked of a query that counts. -/
def countForRows : Error :=
  .unexpectedResult "a count(*) projection yields a number, not rows"

/-- A number was asked of a query that gave rows. -/
def rowsForCount : Error := .unexpectedResult "count query returned rows"

end Error

end BoundSql
