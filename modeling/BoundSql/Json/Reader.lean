import BoundSql.Json.Text
import BoundSql.Text.Quoted

/-!
# Reading values of a wanted shape

Settings, reports and the columns of a row come as JSON and are wanted as something more definite.
A `Reader α` turns a value into an `α` or says why it does not fit. The reasons are few: a value of
the wrong kind, an integer out of range, an array of the wrong length, a field that is missing or
has no meaning. Each has one wording.

Readers of records go through the members in the order of the value, so of two members that do not
fit the first is reported, and only then look for fields that are missing. A record may also be
written as an array of its fields in order.
-/

namespace BoundSql

/-- Why a value does not fit the shape that is wanted. -/
inductive Mismatch where
  /-- The value is of another kind than the one described. -/
  | kind (found : Json) (wanted : String)
  /-- The value is an integer, but not in the range described. -/
  | range (found : Integer) (wanted : String)
  /-- The array has a number of items that the description does not allow. -/
  | length (found : Nat) (wanted : String)
  /-- The field has no value and no default. -/
  | missing (field : String)
  /-- The field is none of those that have a meaning. -/
  | unknown (field : String) (wanted : String)
  /-- The parts fit but not together, for the reason given. -/
  | whole (reason : String)

namespace Mismatch

/-- How a message names the kind of a value, with the value itself where it is short. -/
def describe : Json → String
  | .null => "null"
  | .bool b => "boolean `" ++ (if b then "true" else "false") ++ "`"
  | .number (.integer n) => "integer `" ++ toString n.val ++ "`"
  | .number (.double x) => "floating point `" ++ Number.layout.text x ++ "`"
  | .text s => "string " ++ Text.quoted s
  | .array _ => "sequence"
  | .object _ => "map"

/-- The wording of a mismatch. -/
def message : Mismatch → String
  | .kind found wanted => "invalid type: " ++ describe found ++ ", expected " ++ wanted
  | .range found wanted =>
    "invalid value: integer `" ++ toString found.val ++ "`, expected " ++ wanted
  | .length found wanted => "invalid length " ++ toString found ++ ", expected " ++ wanted
  | .missing field => "missing field `" ++ field ++ "`"
  | .unknown field wanted => "unknown field `" ++ field ++ "`, expected " ++ wanted
  | .whole reason => reason

end Mismatch

/-- A way to read a value as an `α`. -/
abbrev Reader (α : Type) := Json → Except Mismatch α

namespace Reader

/-! ## Single values -/

/-- Any value, as it is. -/
def any : Reader Json := .ok

/-- A truth value. -/
def bool : Reader Bool
  | .bool b => .ok b
  | v => .error (.kind v "a boolean")

/-- A text. -/
def text : Reader String
  | .text s => .ok s
  | v => .error (.kind v "a string")

/-- A range of integers with the name that messages use for it. -/
structure Width where
  /-- The name. -/
  name : String
  /-- The least integer of the range. -/
  least : Int
  /-- The greatest integer of the range. -/
  greatest : Int

namespace Width

/-- Signed 8-bit integers. -/
def signed8 : Width := ⟨"i8", -0x80, 0x7f⟩

/-- Signed 32-bit integers. -/
def signed32 : Width := ⟨"i32", -0x8000_0000, 0x7fff_ffff⟩

/-- Signed 64-bit integers. -/
def signed64 : Width := ⟨"i64", -0x8000_0000_0000_0000, 0x7fff_ffff_ffff_ffff⟩

/-- Unsigned 8-bit integers. -/
def unsigned8 : Width := ⟨"u8", 0, 0xff⟩

/-- Unsigned 32-bit integers. -/
def unsigned32 : Width := ⟨"u32", 0, 0xffff_ffff⟩

/-- Unsigned 64-bit integers. -/
def unsigned64 : Width := ⟨"u64", 0, 0xffff_ffff_ffff_ffff⟩

/-- Sizes in memory, which are unsigned 64-bit integers under a name of their own. -/
def size : Width := ⟨"usize", 0, 0xffff_ffff_ffff_ffff⟩

end Width

/-- An integer of the given range. A double is refused also where it is an integer. -/
def integer (w : Width) : Reader Integer
  | .number (.integer n) =>
    if w.least ≤ n.val ∧ n.val ≤ w.greatest then .ok n else .error (.range n w.name)
  | v => .error (.kind v w.name)

/-- A natural number of the given range. -/
def natural (w : Width) : Reader Nat := fun v ↦ (integer w v).map fun n ↦ n.val.toNat

/-- A double; an integer is read as the nearest one. -/
def double : Reader Double
  | .number (.double x) => .ok x
  | .number (.integer n) => .ok (.ofInt n.val)
  | v => .error (.kind v "f64")

/-- The members of an object. -/
def members : Reader Members
  | .object ms => .ok ms
  | v => .error (.kind v "a map")

/-! ## Values made of values -/

/-- What `r` reads, or nothing for `null`. -/
def option {α : Type} (r : Reader α) : Reader (Option α)
  | .null => .ok none
  | v => (r v).map some

/-- A list of what `r` reads; the first item that does not fit is reported. -/
def list {α : Type} (r : Reader α) : Reader (List α)
  | .array items => items.mapM r
  | v => .error (.kind v "a sequence")

/-- The members of an object with values that `r` reads; the first that does not fit is
reported. -/
def fields {α : Type} (r : Reader α) : Reader (List (String × α))
  | .object ms => ms.mapM fun m ↦ (r m.2).map fun x ↦ (m.1, x)
  | v => .error (.kind v "a map")

/-! ## Records -/

/-- A field of a record under construction. -/
structure Field (α : Type) where
  /-- Its name. -/
  name : String
  /-- How a value for the field changes what is read so far. -/
  put : α → Reader α

/-- A field that `r` reads and `set` stores. -/
def field {α β : Type} (name : String) (r : Reader β) (set : α → β → α) : Field α :=
  ⟨name, fun x v ↦ (r v).map (set x)⟩

/-- A record with defaults. Members that are no field are passed over, and a field that is missing
keeps its default. An array gives the fields in order and may be short, but not long. -/
def record {α : Type} (wanted : String) (fs : List (Field α)) (start : α) : Reader α
  | .object ms =>
    ms.foldlM (fun x m ↦
      match fs.find? fun f ↦ f.name == m.1 with
      | some f => f.put x m.2
      | none => .ok x) start
  | .array items => do
    let x ← (fs.zip items).foldlM (fun x e ↦ e.1.put x e.2) start
    if fs.length < items.length then
      .error (.length items.length "fewer elements in array")
    else .ok x
  | v => .error (.kind v wanted)

/-- A field that must have been given. -/
def required {α : Type} (name : String) : Option α → Except Mismatch α
  | some x => .ok x
  | none => .error (.missing name)

end Reader

end BoundSql
