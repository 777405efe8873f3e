import BoundSql.Decimal.Text
import BoundSql.Error
import BoundSql.Json.Text
import BoundSql.Text.Blank

/-!
# Records

The row that an `INSERT` or `UPDATE` writes comes from a value of the caller. The value may fail to
have a JSON form, or have one that is no record; a command keeps the failure and reports it when it
is run. Setting the record again forgets what was there, the failure included.
-/

namespace BoundSql

/-! ## Positions in a failure -/

/-- The line and column in a text of the form ` at line L column C`. -/
def readPosition? (cs : List Char) : Option (Nat × Nat) := do
  let rest ← Text.afterWord? " at line " cs
  let line ← Decimal.readNumeral? (rest.takeWhile Char.isDigit)
  let rest ← Text.afterWord? " column " (rest.dropWhile Char.isDigit)
  let column ← Decimal.readNumeral? rest
  if line < 0x1_0000_0000_0000_0000 ∧ column < 0x1_0000_0000_0000_0000 then some (line, column)
  else none

/-- The failure text `cs` with a position at its end in normal form: numbers without leading zeros,
and no position at all where the line is zero, since lines are counted from one. Only the last
place where a position could begin is looked at. -/
def normalizePosition : List Char → List Char
  | [] => []
  | c :: cs =>
    match readPosition? (c :: cs) with
    | some (line, column) =>
      if line = 0 then []
      else " at line ".toList ++ Nat.toDigits 10 line ++ " column ".toList ++
        Nat.toDigits 10 column
    | none => c :: normalizePosition cs

/-! ## Payloads -/

/-- What a caller's value is in JSON. -/
inductive Payload where
  /-- It has a JSON form. -/
  | json (v : Json)
  /-- It has none, for the reason given. -/
  | failure (reason : String)

namespace Payload

/-- A value that has no JSON form because its keys are no texts. -/
def badKeys : Payload := .failure "key must be a string"

/-- The record of a payload: the members of an object, and no members for `null`. -/
def record : Payload → Except Error Members
  | .json (.object ms) => .ok ms
  | .json .null => .ok []
  | .json v => .error (.serialization ("record must serialize to an object, got " ++ v.compact))
  | .failure reason =>
    .error (.serialization (String.ofList (normalizePosition reason.toList)))

end Payload

/-! ## The record of a command -/

/-- The record that a command writes, as far as it is known. -/
inductive RecordSlot where
  /-- None was given. -/
  | unset
  /-- The last one given. -/
  | ready (record : Members)
  /-- The last one given is no record, for this reason. -/
  | failed (message : String)

namespace RecordSlot

/-- The slot after a payload was given. -/
def ofPayload (p : Payload) : RecordSlot :=
  match p.record with
  | .ok ms => .ready ms
  | .error (.serialization m) => .failed m
  | .error e => .failed e.message

/-- The reason why there is no record, if one was given that is none. -/
def failure? : RecordSlot → Option String
  | failed m => some m
  | _ => none

/-- The record as a value; without one it is the empty object. -/
def toJson : RecordSlot → Json
  | ready ms => .object ms
  | _ => .object []

/-- Whether there is a record with at least one member. -/
def isFilled : RecordSlot → Bool
  | ready ms => !ms.isEmpty
  | _ => false

end RecordSlot

end BoundSql
