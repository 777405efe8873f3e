import BoundSql.Json.Reader

/-!
# Reports

What a database says after a statement that changes a table: a few counts and a message. The counts
are words, and a report read from JSON has zero for a count that is not mentioned.
-/

namespace BoundSql

/-- The report of a modification. -/
structure Report where
  /-- How many columns the result has. -/
  fieldCount : UInt64 := 0
  /-- How many rows were matched. -/
  affectedRows : UInt64 := 0
  /-- The key generated for a new row. -/
  insertId : UInt64 := 0
  /-- The status flags of the server. -/
  serverStatus : UInt64 := 0
  /-- How many warnings there are. -/
  warningCount : UInt64 := 0
  /-- What the server says. -/
  message : String := ""
  /-- How many rows were changed. -/
  changedRows : UInt64 := 0
deriving DecidableEq

namespace Report

/-- A count. -/
def count : Reader UInt64 := fun v ↦ (Reader.natural .unsigned64 v).map Nat.toUInt64

/-- The fields of a report in order. -/
def fields : List (Reader.Field Report) :=
  [Reader.field "fieldCount" count fun r n ↦ { r with fieldCount := n },
    Reader.field "affectedRows" count fun r n ↦ { r with affectedRows := n },
    Reader.field "insertId" count fun r n ↦ { r with insertId := n },
    Reader.field "serverStatus" count fun r n ↦ { r with serverStatus := n },
    Reader.field "warningCount" count fun r n ↦ { r with warningCount := n },
    Reader.field "message" Reader.text fun r s ↦ { r with message := s },
    Reader.field "changedRows" count fun r n ↦ { r with changedRows := n }]

/-- A report from JSON. -/
def read : Reader Report := Reader.record "struct ModifyResult" fields {}

/-- A report as JSON, with all fields in order. -/
def toJson (r : Report) : Json :=
  .object
    [("fieldCount", .ofUInt64 r.fieldCount), ("affectedRows", .ofUInt64 r.affectedRows),
      ("insertId", .ofUInt64 r.insertId), ("serverStatus", .ofUInt64 r.serverStatus),
      ("warningCount", .ofUInt64 r.warningCount), ("message", .text r.message),
      ("changedRows", .ofUInt64 r.changedRows)]

end Report

end BoundSql
