import BoundSql.Condition.Basic

/-!
# Arguments of a comparison

A column can be compared with a value of any of the basic types. An `Argument` is such a value, and
`Argument.toJson` the JSON value that takes its place in the condition: integers keep their value, a
single-precision number becomes the double with the same value, and what has no numeral, an infinity
or NaN, becomes `null`, as does an optional value that is absent.
-/

namespace BoundSql

/-- A value to compare a column with. -/
inductive Argument where
  | bool (b : Bool)
  | int8 (n : Int8)
  | int16 (n : Int16)
  | int32 (n : Int32)
  | int64 (n : Int64)
  | uint8 (n : UInt8)
  | uint16 (n : UInt16)
  | uint32 (n : UInt32)
  | uint64 (n : UInt64)
  | single (x : Float32)
  | double (x : Float)
  | text (s : String)
  | json (v : Json)
  /-- An optional value that is absent. -/
  | absent

namespace Argument

/-- The value that stands for an argument in a condition. -/
def toJson : Argument → Json
  | bool b => .bool b
  | int8 n => .ofInt64 n.toInt64
  | int16 n => .ofInt64 n.toInt64
  | int32 n => .ofInt64 n.toInt64
  | int64 n => .ofInt64 n
  | uint8 n => .ofUInt64 n.toUInt64
  | uint16 n => .ofUInt64 n.toUInt64
  | uint32 n => .ofUInt64 n.toUInt64
  | uint64 n => .ofUInt64 n
  | single x => .ofFloat32 x
  | double x => .ofFloat x
  | text s => .text s
  | json v => v
  | absent => .null

end Argument

/-- An argument as an operand. -/
def Operand.ofArgument (a : Argument) : Operand := .value a.toJson

end BoundSql
