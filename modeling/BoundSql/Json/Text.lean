import BoundSql.Decimal.Text
import BoundSql.Json.Basic

/-!
# JSON text

The compact text of a value: no blanks, members in order. Inside a string only the quotation mark,
the backslash and the characters below U+0020 are escaped, five of them by a letter and the others
by four hexadecimal digits; every other character stands for itself.
-/

namespace BoundSql

/-- Numbers from a hundred-thousandth up to below `10 ^ 16` are written positionally. -/
def Number.layout : Decimal.Layout := ⟨-5, 15⟩

/-- The numeral of a number. -/
def Number.text : Number → String
  | .integer n => toString n.val
  | .double x => Number.layout.text x

namespace Json

/-- The four hexadecimal digits of a code point below `2 ^ 16`. -/
def hex4 (n : Nat) : List Char :=
  [n / 4096 % 16, n / 256 % 16, n / 16 % 16, n % 16].map Nat.digitChar

/-- How a character is written inside a string. -/
def escapeChar (c : Char) : List Char :=
  if c = '\x22' then ['\\', '\x22']
  else if c = '\\' then ['\\', '\\']
  else if c = '\x08' then ['\\', 'b']
  else if c = '\t' then ['\\', 't']
  else if c = '\n' then ['\\', 'n']
  else if c = '\x0c' then ['\\', 'f']
  else if c = '\r' then ['\\', 'r']
  else if c.toNat < 0x20 then '\\' :: 'u' :: hex4 c.toNat
  else [c]

/-- The text of a string value. -/
def stringText (s : String) : String :=
  "\"" ++ String.ofList (s.toList.flatMap escapeChar) ++ "\""

mutual

/-- The compact text of a value. -/
def compact : Json → String
  | .null => "null"
  | .bool b => if b then "true" else "false"
  | .number n => n.text
  | .text s => stringText s
  | .array items => "[" ++ ",".intercalate (compactItems items) ++ "]"
  | .object members => "\x7b" ++ ",".intercalate (compactMembers members) ++ "\x7d"

/-- The texts of the items of an array. -/
def compactItems : List Json → List String
  | [] => []
  | v :: vs => compact v :: compactItems vs

/-- The texts of the members of an object. -/
def compactMembers : List (String × Json) → List String
  | [] => []
  | (key, v) :: ms => (stringText key ++ ":" ++ compact v) :: compactMembers ms

end

end Json

end BoundSql
