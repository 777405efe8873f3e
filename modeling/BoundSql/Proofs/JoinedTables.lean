import BoundSql.Proofs.JoinedAliases
import BoundSql.Proofs.QuotedNames
import BoundSql.Proofs.ReferencedNames
import BoundSql.Text.Blank

/-!
# Tables in the text of a join

Tables may be joined and left joined in any order. What is declared depends on the calls of each
kind alone, and it has a closed form (`TableSet.foldl_declare_eq`): the aliases in the order of
their first uses, each with its last one.

The text is a list of entries with a keyword between any two of them. The keyword is that of the
second entry, so the one before the first left join is written only because an inner table stands in
front of it. There always is one, whatever the join is started with, so no entry of the text lacks
its keyword and no keyword begins the text. A reader of quoted names finds the entries again, one
after the other and each of them once (`Tables.namesIn_render`).
-/

namespace BoundSql

open Text

/-! ## Declared tables -/

namespace TableSet

/-- A set is known from its aliases and the use that each of them has. -/
theorem eq_filterMap_aliases {s : TableSet} {use? : String → Option TableUse}
    (h : ∀ u ∈ s, use? u.name = some u) : s = s.aliases.filterMap use? := by
  induction s with
  | nil => rfl
  | cons u us ih =>
    obtain ⟨hu, hus⟩ := List.forall_mem_cons.mp h
    rw [aliases_cons, List.filterMap_cons_some hu, ← ih hus]

/-- Tables declared one after the other: the aliases in the order of their first uses, each with
its last one. -/
theorem foldl_declare_eq (us : List TableUse) :
    us.foldl declare [] = (us.map TableUse.name).eraseDups.filterMap (lastUse? us) := by
  rw [← aliases_foldl_declare]
  exact eq_filterMap_aliases fun _ hu ↦ (mem_foldl_declare us).mp hu

end TableSet

/-! ## The text entry by entry -/

namespace Tables

/-- The first entry is an inner one, and each of the others stands behind its keyword. -/
theorem exists_render_eq_first (d : Dialect) {t : Tables} (h : t.inner ≠ []) :
    ∃ u others, t.joined = ⟨.inner, u⟩ :: others ∧ t.render d
      = u.render d ++ String.join (others.map fun j ↦ j.kind.keyword ++ j.use.render d) := by
  obtain ⟨u, us, hu⟩ := List.exists_cons_of_ne_nil h
  refine ⟨u, us.map (⟨.inner, ·⟩) ++ t.left.map (⟨.left, ·⟩), by rw [joined, hu]; rfl, ?_⟩
  rw [render_eq_text d h, joined, hu]
  rfl

end Tables

/-! ## Reading the entries back -/

/-- The name of a quoted part. -/
def Lexeme.name? : Lexeme → Option String
  | .name s => some s
  | .plain _ | .unclosed _ => none

/-- The quoted names in a text, in order. -/
def namesIn (cs : List Char) : List String := (lexemes .outside cs).filterMap Lexeme.name?

theorem namesIn_of_notMem {cs : List Char} (h : identifierMark ∉ cs) (rest : List Char) :
    namesIn (cs ++ rest) = namesIn rest := by
  have hplain : (cs.map Lexeme.plain).filterMap Lexeme.name? = [] := by
    rw [List.filterMap_map]
    exact List.filterMap_eq_nil_iff.mpr fun _ _ ↦ rfl
  rw [namesIn, lexemes_of_notMem h, List.filterMap_append, hplain, List.nil_append, namesIn]

theorem namesIn_quoteIdentifier (name : String) {rest : List Char}
    (h : rest.head? ≠ some identifierMark) :
    namesIn ((quoteIdentifier name).toList ++ rest) = name :: namesIn rest := by
  rw [namesIn, lexemes_quoteIdentifier name h]
  rfl

/-- An entry has two names, its table and its alias. -/
theorem TableUse.namesIn_render (u : TableUse) {rest : List Char}
    (h : rest.head? ≠ some identifierMark) :
    namesIn ((u.render .mysql).toList ++ rest) = u.table :: u.name :: namesIn rest := by
  have htext : (u.render .mysql).toList ++ rest
      = (quoteIdentifier u.table).toList
        ++ (" AS ".toList ++ ((quoteIdentifier u.name).toList ++ rest)) := by
    simp [render, Dialect.mysql]
  rw [htext, namesIn_quoteIdentifier _ (by simp; decide), namesIn_of_notMem (by decide),
    namesIn_quoteIdentifier _ h]

/-- The entries behind their keywords are found in order. No entry reaches into the next one, since
a keyword begins with a blank. -/
theorem Joined.namesIn_join (js : List Joined) :
    (String.join (js.map fun j ↦ j.kind.keyword ++ j.use.render .mysql)).toList.head?
        ≠ some identifierMark ∧
      namesIn (String.join (js.map fun j ↦ j.kind.keyword ++ j.use.render .mysql)).toList
        = js.flatMap fun j ↦ [j.use.table, j.use.name] := by
  -- both at once: an entry is read to its end only if no mark follows it
  induction js with
  | nil => exact ⟨by decide, rfl⟩
  | cons j js ih =>
    obtain ⟨hhead, hnames⟩ := ih
    have hblank : ∀ kind : JoinKind, kind.keyword.toList.head? = some ' ' := by
      rintro (_ | _) <;> rfl
    have hkeyword : ∀ kind : JoinKind, identifierMark ∉ kind.keyword.toList := by
      rintro (_ | _) <;> decide
    rw [List.map_cons, String.join_cons, String.toList_append, String.toList_append,
      List.append_assoc]
    constructor
    · rw [List.head?_append, hblank, Option.some_or]
      decide
    · rw [namesIn_of_notMem (hkeyword _), j.use.namesIn_render hhead, hnames]
      rfl

namespace Tables

/-- The names in the text are the tables and the aliases of the entries. -/
theorem namesIn_render {t : Tables} (h : t.inner ≠ []) :
    namesIn (t.render .mysql).toList = t.joined.flatMap fun j ↦ [j.use.table, j.use.name] := by
  obtain ⟨u, others, hjoined, htext⟩ := exists_render_eq_first .mysql h
  obtain ⟨hhead, hnames⟩ := Joined.namesIn_join others
  rw [htext, hjoined, String.toList_append, u.namesIn_render hhead, hnames]
  rfl

/-- The text begins with a quoted name, and no keyword begins with a mark. -/
theorem not_keyword_isPrefix_render {t : Tables} (h : t.inner ≠ []) (kind : JoinKind) :
    ¬ trim kind.keyword.toList <+: trimStart (t.render .mysql).toList := by
  obtain ⟨u, others, -, htext⟩ := exists_render_eq_first .mysql h
  obtain ⟨rest, hrest⟩ : ∃ rest, (t.render .mysql).toList = identifierMark :: rest := by
    rw [htext, TableUse.render]
    simp [Dialect.mysql, quoteIdentifier, wrapDoubling]
  have hmark : isBlank identifierMark = false := by decide
  rw [hrest, trimStart, List.dropWhile_cons_of_neg (by simp [hmark])]
  have hkeyword : ∃ c cs, trim kind.keyword.toList = c :: cs ∧ c ≠ identifierMark := by
    cases kind <;> exact ⟨_, _, rfl, by decide⟩
  obtain ⟨c, cs, hcs, hc⟩ := hkeyword
  rw [hcs, List.cons_prefix_cons]
  exact fun hprefix ↦ hc hprefix.1

/-- **Joined tables stand in the text once and in order.** Tables that are declared one after the
other have different aliases, in the order of their first uses, and each alias has its last use.

Now take any call that starts a join and any calls that add to it.

* The tables of each kind are declared by the calls of this kind alone, and there is an inner one.
* The text has the inner entries with ` INNER JOIN ` between them and the left entries with
  ` LEFT JOIN ` between them. The keyword between the two kinds is written only where something
  stands in front of it, and that makes no difference: it is the same text as with every left entry
  behind ` LEFT JOIN `. So the text begins with the first inner entry, and each of the others stands
  behind the keyword of its kind. A query on the join has this text after `FROM`.
* With MySQL quotes the text does not begin with a keyword, and the names that are quoted in it are
  the table and the alias of each entry, in order. -/
theorem tables_rendered_once_in_order :
    (∀ us : List TableUse,
      let s := us.foldl TableSet.declare []
      s.aliases.Nodup ∧ s.aliases = (us.map TableUse.name).eraseDups ∧
        s = s.aliases.filterMap (TableSet.lastUse? us)) ∧
    ∀ (table : String) (start : Start) (edits : List Edit),
      let t := edits.foldl apply (start.tables table)
      let calls := start.joins table ++ edits.flatMap Edit.joins
      (∀ kind : JoinKind, t.declared kind = (kind.uses calls).foldl TableSet.declare []) ∧
      t.inner ≠ [] ∧
      (∀ d : Dialect,
        let entry := fun u : TableUse ↦ d.identifier u.table ++ " AS " ++ d.identifier u.name
        let front := " INNER JOIN ".intercalate (t.inner.map entry)
        let back := " LEFT JOIN ".intercalate (t.left.map entry)
        t.render d = (if t.left = [] then front else if front = "" then back
            else front ++ " LEFT JOIN " ++ back) ∧
          t.render d = front ++ String.join (t.left.map fun u ↦ " LEFT JOIN " ++ entry u) ∧
          ∃ u others, t.joined = ⟨.inner, u⟩ :: others ∧ t.render d
            = entry u ++ String.join (others.map fun j ↦ j.kind.keyword ++ entry j.use)) ∧
      (∀ (d : Dialect) (q : Select), ∃ rest,
        (({ q with source := .joined t } : Select).statement d).sql
          = "SELECT " ++ renderProjection d q.projection ++ " FROM " ++ t.render d ++ rest) ∧
      (∀ kind : JoinKind, ¬ trim kind.keyword.toList <+: trimStart (t.render .mysql).toList) ∧
      namesIn (t.render .mysql).toList = t.joined.flatMap fun j ↦ [j.use.table, j.use.name] := by
  constructor
  · intro us s
    refine ⟨TableSet.nodup_aliases_foldl_declare us, TableSet.aliases_foldl_declare us, ?_⟩
    rw [TableSet.aliases_foldl_declare]
    exact TableSet.foldl_declare_eq us
  · intro table start edits t calls
    have hinner : t.inner ≠ [] := inner_build_ne_nil table start edits
    refine ⟨declared_build table start edits, hinner, fun d ↦ ⟨rfl, ?_, ?_⟩, fun d q ↦ ?_, ?_,
      namesIn_render hinner⟩
    · exact render_eq_append_join d hinner
    · exact exists_render_eq_first d hinner
    · exact Select.exists_sql_eq d { q with source := .joined t }
    · exact not_keyword_isPrefix_render hinner

/-- Left joins that are asked for first stand behind the inner tables all the same. -/
example :
    let t := [Edit.leftJoin "p", .join "c", .leftJoin "phone as p"].foldl apply
      ((Start.alias "u").tables "user")
    t.render .mysql = "`user` AS `u` INNER JOIN `c` AS `c` LEFT JOIN `phone` AS `p`" := by
  decide +kernel

end Tables
end BoundSql
