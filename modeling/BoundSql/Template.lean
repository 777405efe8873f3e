import BoundSql.Bindings
import BoundSql.Dialect
import BoundSql.Text.Word

/-!
# Templates and statements

A *template* is SQL text with holes, and each hole holds the value that belongs there and the
column it is for. Rendering a command produces a template; what becomes of the holes is decided
afterwards, in one of two ways.

* `bind` makes a statement: from left to right each value is bound, and the placeholder of its name
  is put in the hole. No value gets into the text this way.
* `inline` writes each value as a literal in its hole.

The two meet in `Statement.inlined`, which shows a statement with its values: it looks for
placeholders in the finished text, a colon and the longest run of word characters after it, and
replaces those that are bound by literals. It reads the text once from left to right, so a literal
is never searched for placeholders.
-/

namespace BoundSql

/-- A piece of a template. -/
inductive Fragment where
  /-- Text that is there for every value. -/
  | text (s : String)
  /-- A place for a value of the column `field`. -/
  | hole (field : String) (value : Json)

/-- SQL text with holes. -/
abbrev Template := List Fragment

namespace Template

/-- The text with a placeholder in each hole, and the bindings `b` followed by the values of the
holes. -/
def bind : Template → Bindings → String × Bindings
  | [], b => ("", b)
  | .text s :: rest, b =>
    let r := bind rest b
    (s ++ r.1, r.2)
  | .hole field value :: rest, b =>
    let h := b.bind field value
    let r := bind rest h.2
    (placeholder h.1 ++ r.1, r.2)

/-- The text with a literal in each hole. -/
def inline (d : Dialect) : Template → String
  | [] => ""
  | .text s :: rest => s ++ inline d rest
  | .hole _ value :: rest => d.literal value ++ inline d rest

/-- The values of the holes, with their columns. -/
def holes : Template → List (String × Json)
  | [] => []
  | .text _ :: rest => holes rest
  | .hole field value :: rest => (field, value) :: holes rest

/-- Templates one after the other, with text between them. -/
def joined (separator : String) : List Template → Template
  | [] => []
  | [t] => t
  | t :: ts => t ++ .text separator :: joined separator ts

/-- Binding goes through a template from left to right. -/
theorem bind_append (s t : Template) (b : Bindings) :
    bind (s ++ t) b = ((bind s b).1 ++ (bind t (bind s b).2).1, (bind t (bind s b).2).2) := by
  induction s generalizing b with
  | nil => simp [bind]
  | cons f s ih => cases f <;> simp [bind, ih, String.append_assoc]

theorem holes_append (s t : Template) : holes (s ++ t) = holes s ++ holes t := by
  induction s with
  | nil => rfl
  | cons f s ih => cases f <;> simp [holes, ih]

/-- The bindings depend on the holes only. -/
theorem bind_snd (t : Template) (b : Bindings) : (bind t b).2 = b.bindAll (holes t) := by
  induction t generalizing b with
  | nil => rfl
  | cons f t ih => cases f <;> simp [bind, holes, ih, Bindings.bindAll]

end Template

/-- SQL text with the values for its placeholders. -/
structure Statement where
  /-- The text. -/
  sql : String
  /-- The values. -/
  bindings : Bindings

/-- The statement of a template. -/
def Template.statement (t : Template) : Statement :=
  let r := t.bind .empty
  ⟨r.1, r.2⟩

/-! ## Showing a statement with its values -/

/-- What a colon becomes with the word characters `name` after it: a text if `value?` knows one, and
itself otherwise. A colon without word characters is no placeholder. -/
def shownPlaceholder (value? : String → Option String) (name : List Char) : List Char :=
  if name.isEmpty then [':']
  else
    match value? (String.ofList name) with
    | some s => s.toList
    | none => ':' :: name

/-- Replaces the placeholders of a text for which `value?` knows a text. -/
def fillPlaceholders (value? : String → Option String) : List Char → List Char
  | [] => []
  | c :: cs =>
    if c = ':' then
      shownPlaceholder value? (cs.takeWhile Text.isWord) ++
        fillPlaceholders value? (cs.dropWhile Text.isWord)
    else c :: fillPlaceholders value? cs
termination_by cs => cs.length
decreasing_by
  · exact Nat.lt_succ_of_le (List.dropWhile_suffix _).length_le
  · exact Nat.lt_succ_self _

/-- `sql` with the literals of bound values in place of their placeholders. -/
def fillText (d : Dialect) (b : Bindings) (sql : String) : String :=
  String.ofList (fillPlaceholders (fun name ↦ (b.get? name).map d.literal) sql.toList)

/-- The text of a statement with its values written in. -/
def Statement.inlined (d : Dialect) (s : Statement) : String := fillText d s.bindings s.sql

end BoundSql
