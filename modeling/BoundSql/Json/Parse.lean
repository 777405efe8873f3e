import BoundSql.Decimal.Text
import BoundSql.Json.Basic
import BoundSql.Text.Blank

/-!
# Reading JSON text

`Json.parse?` reads a value from a text that holds nothing else but blanks around it. Members keep
the order of the text, and of two members with one key the first keeps its place and the second
gives the value. A numeral without fraction and exponent is an integer if it is in range; the
negative zero, an integer out of range and every other numeral are the nearest double.

Each reader takes the text as a list of characters and gives back what it did not read. Values nest,
so the readers of values, items and members call one another; their recursion is bounded by a
number that starts above the length of the text and goes down with every call.
-/

namespace BoundSql.Json

/-- The text after the blanks of JSON. -/
def skipBlanks (cs : List Char) : List Char :=
  cs.dropWhile fun c ↦ c == ' ' || c == '\t' || c == '\n' || c == '\r'

/-! ## Numerals -/

/-- The double nearest to `mantissa · 10 ^ exponent`; none beyond the largest finite one. Outside
the exponents that a double can have, the answer is clear without computing the power. -/
def nearestDouble? (negative : Bool) (mantissa : Nat) (exponent : Int) : Option Double :=
  let size : Int := (Nat.toDigits 10 mantissa).length + exponent
  let magnitude : Option Float :=
    if mantissa = 0 ∨ size < -400 then some 0.0
    else if 400 < size then none
    else some (Float.ofScientific mantissa (decide (exponent < 0)) exponent.natAbs)
  magnitude.bind fun x ↦ Double.ofFloat? (if negative then -x else x)

/-- The exponent after the letter `e`, with its sign; zero if there is none. -/
def readExponent? : List Char → Option (Bool × Int × List Char)
  | c :: cs =>
    if c = 'e' ∨ c = 'E' then
      let (negative, cs) := match cs with
        | '-' :: r => (true, r)
        | '+' :: r => (false, r)
        | r => (false, r)
      let ds := cs.takeWhile Char.isDigit
      if ds.isEmpty then none
      else
        let n : Int := Decimal.valueOf ds
        some (true, if negative then -n else n, cs.dropWhile Char.isDigit)
    else some (false, 0, c :: cs)
  | [] => some (false, 0, [])

/-- A numeral: digits, and after them a fraction and an exponent if there are any. -/
def readNumber? (cs : List Char) : Option (Number × List Char) := do
  let (negative, cs) := match cs with
    | '-' :: r => (true, r)
    | r => (false, r)
  let whole := cs.takeWhile Char.isDigit
  let cs := cs.dropWhile Char.isDigit
  if whole.isEmpty ∨ (whole.head? = some '0' ∧ 1 < whole.length) then none
  let (hasPoint, fraction, cs) := match cs with
    | '.' :: r => (true, r.takeWhile Char.isDigit, r.dropWhile Char.isDigit)
    | r => (false, [], r)
  if hasPoint ∧ fraction.isEmpty then none
  let (hasExponent, exponent, cs) ← readExponent? cs
  let mantissa := Decimal.valueOf (whole ++ fraction)
  let asDouble := do
    let x ← nearestDouble? negative mantissa (exponent - fraction.length)
    return (Number.double x, cs)
  if hasPoint ∨ hasExponent ∨ (negative ∧ mantissa = 0) then asDouble
  else
    match Integer.ofInt? (if negative then -(mantissa : Int) else mantissa) with
    | some n => some (.integer n, cs)
    | none => asDouble

/-! ## Strings -/

/-- The value of a hexadecimal digit. -/
def hexDigit? (c : Char) : Option Nat :=
  if c.isDigit then some (c.toNat - 48)
  else if 'a' ≤ c ∧ c ≤ 'f' then some (c.toNat - 87)
  else if 'A' ≤ c ∧ c ≤ 'F' then some (c.toNat - 55)
  else none

/-- The number that four hexadecimal digits stand for. -/
def readHex4? : List Char → Option (Nat × List Char)
  | a :: b :: c :: d :: cs => do
    let a ← hexDigit? a
    let b ← hexDigit? b
    let c ← hexDigit? c
    let d ← hexDigit? d
    return (((a * 16 + b) * 16 + c) * 16 + d, cs)
  | _ => none

/-- The character that an escape stands for, after its backslash. Two escapes that are a surrogate
pair stand for one character, and a surrogate alone for none. -/
def readEscape? : List Char → Option (Char × List Char)
  | '\x22' :: cs => some ('\x22', cs)
  | '\\' :: cs => some ('\\', cs)
  | '/' :: cs => some ('/', cs)
  | 'b' :: cs => some ('\x08', cs)
  | 'f' :: cs => some ('\x0c', cs)
  | 'n' :: cs => some ('\n', cs)
  | 'r' :: cs => some ('\r', cs)
  | 't' :: cs => some ('\t', cs)
  | 'u' :: cs => do
    let (n, cs) ← readHex4? cs
    if 0xD800 ≤ n ∧ n < 0xDC00 then
      let (m, cs) ← readHex4? (← Text.afterWord? "\\u" cs)
      if 0xDC00 ≤ m ∧ m < 0xE000 then
        return (Char.ofNat (0x10000 + (n - 0xD800) * 0x400 + (m - 0xDC00)), cs)
      else none
    else if 0xDC00 ≤ n ∧ n < 0xE000 then none
    else return (Char.ofNat n, cs)
  | _ => none

/-- The rest of a string after its opening quotation mark; `read` holds the characters before, last
first. -/
def readString? : Nat → List Char → List Char → Option (String × List Char)
  | 0, _, _ => none
  | _ + 1, _, [] => none
  | fuel + 1, read, c :: cs =>
    if c = '\x22' then some (String.ofList read.reverse, cs)
    else if c = '\\' then
      match readEscape? cs with
      | some (d, cs) => readString? fuel (d :: read) cs
      | none => none
    else if c.toNat < 0x20 then none
    else readString? fuel (c :: read) cs

/-! ## Values -/

mutual

/-- A value, after blanks. -/
def readValue? : Nat → List Char → Option (Json × List Char)
  | 0, _ => none
  | fuel + 1, cs =>
    match skipBlanks cs with
    | [] => none
    | c :: rest =>
      if c = '\x22' then
        (readString? (rest.length + 1) [] rest).map fun r ↦ (.text r.1, r.2)
      else if c = '[' then
        match skipBlanks rest with
        | ']' :: rest => some (.array [], rest)
        | rest => (readItems? fuel [] rest).map fun r ↦ (.array r.1, r.2)
      else if c = '\x7b' then
        match skipBlanks rest with
        | '\x7d' :: rest => some (.object [], rest)
        | rest => (readMembers? fuel [] rest).map fun r ↦ (.object r.1, r.2)
      else if c = 'n' then (Text.afterWord? "null" (c :: rest)).map fun r ↦ (.null, r)
      else if c = 't' then (Text.afterWord? "true" (c :: rest)).map fun r ↦ (.bool true, r)
      else if c = 'f' then (Text.afterWord? "false" (c :: rest)).map fun r ↦ (.bool false, r)
      else (readNumber? (c :: rest)).map fun r ↦ (.number r.1, r.2)

/-- The items of an array up to its closing bracket; `read` holds the items before, last first. -/
def readItems? : Nat → List Json → List Char → Option (List Json × List Char)
  | 0, _, _ => none
  | fuel + 1, read, cs =>
    match readValue? fuel cs with
    | none => none
    | some (v, cs) =>
      match skipBlanks cs with
      | ',' :: cs => readItems? fuel (v :: read) cs
      | ']' :: cs => some ((v :: read).reverse, cs)
      | _ => none

/-- The members of an object up to its closing brace; `read` holds the members before. -/
def readMembers? : Nat → Members → List Char → Option (Members × List Char)
  | 0, _, _ => none
  | fuel + 1, read, cs =>
    match skipBlanks cs with
    | '\x22' :: cs =>
      match readString? (cs.length + 1) [] cs with
      | none => none
      | some (key, cs) =>
        match skipBlanks cs with
        | ':' :: cs =>
          match readValue? fuel cs with
          | none => none
          | some (v, cs) =>
            let read := Members.insert read key v
            match skipBlanks cs with
            | ',' :: cs => readMembers? fuel read cs
            | '\x7d' :: cs => some (read, cs)
            | _ => none
        | _ => none
    | _ => none

end

/-- The value that a text stands for. -/
def parse? (s : String) : Option Json :=
  match readValue? (s.length + 2) s.toList with
  | some (v, rest) => if (skipBlanks rest).isEmpty then some v else none
  | none => none

end BoundSql.Json
