import BoundSql.Json.Text

/-!
# Dialects

Where databases differ, statements differ in two places only: how a name is quoted and how a value
is written. A `Dialect` is these two functions, and everything that renders SQL takes one. Names and
values enter the text of a statement in no other form. The dialect of MySQL writes them as follows.

* An identifier stands between backticks, and a backtick in it is written twice.
* A text stands between apostrophes, and the nine characters that could end it or change how it is
  read are written as a backslash and a letter.
* Other values are written as literals of SQL. The items of an array are listed, with parentheses
  around those that are arrays. An object is written as a list of assignments, which is how a record
  appears after `SET`; inside another value it is the quoted text of its JSON.
-/

namespace BoundSql

/-! ## Quoted identifiers and literals -/

/-- `s` between two marks, with every mark in it doubled. -/
def wrapDoubling (mark : Char) (s : String) : String :=
  String.ofList (mark :: (s.toList.flatMap fun c ↦ if c = mark then [c, c] else [c]) ++ [mark])

/-- The mark around an identifier: the backtick. -/
def identifierMark : Char := '\x60'

/-- A name as a quoted identifier. -/
def quoteIdentifier (name : String) : String := wrapDoubling identifierMark name

/-- The mark around a text: the apostrophe. -/
def textMark : Char := '\x27'

/-- The letter that stands for `c` after a backslash, if `c` has to be escaped in a text. -/
def escapeLetter? (c : Char) : Option Char :=
  if c = '\x00' then some '0'
  else if c = '\x08' then some 'b'
  else if c = '\t' then some 't'
  else if c = '\n' then some 'n'
  else if c = '\r' then some 'r'
  else if c = '\x1a' then some 'Z'
  else if c = '\x22' then some c
  else if c = textMark then some c
  else if c = '\\' then some c
  else none

/-- How `c` is written inside a text. -/
def escapedChar (c : Char) : List Char :=
  match escapeLetter? c with
  | some letter => ['\\', letter]
  | none => [c]

/-- A text as a quoted literal. -/
def quoteText (s : String) : String :=
  String.ofList (textMark :: s.toList.flatMap escapedChar ++ [textMark])

mutual

/-- A value inside another one, or any value but an object, as a literal. -/
def nestedLiteral : Json → String
  | .null => "NULL"
  | .bool b => if b then "true" else "false"
  | .number n => n.text
  | .text s => quoteText s
  | .array items => ", ".intercalate (itemLiterals items)
  | .object members => quoteText (Json.object members).compact

/-- The items of an array as literals, those that are arrays between parentheses. -/
def itemLiterals : List Json → List String
  | [] => []
  | v :: vs =>
    (if v.isArray then "(" ++ nestedLiteral v ++ ")" else nestedLiteral v) :: itemLiterals vs

end

/-- One assignment of a `SET` list. -/
def assignment (m : String × Json) : String := quoteIdentifier m.1 ++ " = " ++ nestedLiteral m.2

/-- A value as it stands in the text of a statement. -/
def literal : Json → String
  | .object members => ", ".intercalate (members.map assignment)
  | v => nestedLiteral v

/-! ## Quoting as a parameter -/

/-- How names are quoted and values are written. -/
structure Dialect where
  /-- The quoted form of a name. -/
  identifier : String → String
  /-- The literal for a value. -/
  literal : Json → String

namespace Dialect

/-- The dialect with backticks around names and backslash escapes in texts. -/
def mysql : Dialect := ⟨quoteIdentifier, BoundSql.literal⟩

/-- A dialect to look at: names stand between quotation marks, and a value is shown as JSON between
angle brackets, which no database would accept. -/
def display : Dialect := ⟨wrapDoubling '\x22', fun v ↦ "<" ++ v.compact ++ ">"⟩

end Dialect

end BoundSql
