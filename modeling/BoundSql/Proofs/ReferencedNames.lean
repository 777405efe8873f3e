import BoundSql.Proofs.JoinedAliases
import BoundSql.Proofs.QuotedNames
import BoundSql.Proofs.ReadableComparisons
import Mathlib.Tactic.TFAE

/-!
# References and declarations

A join declares each of its tables under an alias and quotes the alias as a whole. A condition
refers to a column of the table by the path of the column, in which the alias is glued to the name,
and the path is cut again at its first dot. So the reference agrees with the declaration exactly if
the alias has no dot. A table that goes by its own name may well have one, if the name says which
database the table is in.

In the same way a result column is declared under its name, quoted as a whole, and a reference to it
is read as a path. Here the name must not be the star either, which a path does not quote.

The declarations and the references that are compared are those of one statement. Its text has each
alias after `AS`, and each comparison of its conditions with the text of the columns in place.
-/

namespace BoundSql

/-! ## Paths -/

/-- A path is cut after a qualifier without dots. -/
theorem renderPath_of_qualifier (d : Dialect) {qualifier : String} (h : '.' ∉ qualifier.toList)
    (name : String) :
    renderPath d (qualifier ++ "." ++ name)
      = d.identifier qualifier ++ "." ++ renderName d name := by
  have hpath : (qualifier ++ "." ++ name).toList = qualifier.toList ++ '.' :: name.toList := by
    simp
  rw [renderPath, hpath, splitDot?_append h]
  simp only [String.ofList_toList]

/-- A path without dots is a name. -/
theorem renderPath_of_notMem (d : Dialect) {path : String} (h : '.' ∉ path.toList) :
    renderPath d path = renderName d path := by
  rw [renderPath, splitDot?_of_notMem h]

/-- A path with a dot is cut after a qualifier that has none. -/
theorem exists_qualifier {path : String} (h : '.' ∈ path.toList) :
    ∃ qualifier name : String, path = qualifier ++ "." ++ name ∧ '.' ∉ qualifier.toList := by
  obtain ⟨before, after, hpath, hbefore⟩ := List.eq_append_cons_of_mem h
  refine ⟨String.ofList before, String.ofList after, ?_, by rwa [String.toList_ofList]⟩
  rw [← String.toList_inj, hpath]
  simp

/-- What is quoted at the front of a path has no dot. -/
theorem dot_notMem_of_renderPath_eq {path name rest : String}
    (hpath : '.' ∈ path.toList) (hrest : rest.toList.head? ≠ some identifierMark)
    (h : renderPath .mysql path = quoteIdentifier name ++ rest) : '.' ∉ name.toList := by
  obtain ⟨qualifier, field, rfl, hqualifier⟩ := exists_qualifier hpath
  have hdot : ("." ++ renderName .mysql field).toList.head? ≠ some identifierMark := by
    rw [String.toList_append]
    exact show some '.' ≠ some identifierMark by decide
  rw [renderPath_of_qualifier _ hqualifier, String.append_assoc] at h
  have hparts : (quoteIdentifier qualifier).toList ++ ("." ++ renderName .mysql field).toList
      = (quoteIdentifier name).toList ++ rest.toList := by
    rw [← String.toList_append, ← String.toList_append]
    exact congrArg String.toList h
  obtain ⟨rfl, -⟩ := quoteIdentifier_append_inj hdot hrest hparts
  exact hqualifier

/-! ## References -/

namespace Scope

/-- A reference to a column of a table, in every dialect, if the alias has no dot. -/
theorem render_ofTable (d : Dialect) {t name : String} (ht : '.' ∉ t.toList) (hname : name ≠ "*") :
    (ofTable t name).render d = d.identifier t ++ "." ++ d.identifier name := by
  rw [Column.render, ofTable, Column.path, renderPath_of_qualifier d ht, renderName, if_neg hname]

/-- A reference to a column of a table is the quoted alias with the quoted name exactly if the alias
has no dot. -/
theorem render_ofTable_tfae (t : String) {name : String} (hname : name ≠ "*") :
    List.TFAE ['.' ∉ t.toList,
      ∀ d, (ofTable t name).render d = d.identifier t ++ "." ++ d.identifier name,
      (ofTable t name).render .mysql = quoteIdentifier t ++ "." ++ quoteIdentifier name] := by
  tfae_have 1 → 2 := fun ht d ↦ render_ofTable d ht hname
  tfae_have 2 → 3 := fun h ↦ h .mysql
  tfae_have 3 → 1 := by
    intro h
    have hpath : '.' ∈ (t ++ "." ++ name).toList := by simp
    rw [Column.render, ofTable, Column.path, String.append_assoc] at h
    exact dot_notMem_of_renderPath_eq hpath (by simp; decide) h
  tfae_finish

/-- A reference to a result column, in every dialect, if the name has no dot and is not the star. -/
theorem render_ofAlias (d : Dialect) {a : String} (ha : '.' ∉ a.toList) (hstar : a ≠ "*") :
    (ofAlias a).render d = d.identifier a := by
  rw [Column.render, ofAlias, Column.path, renderPath_of_notMem d ha, renderName, if_neg hstar]

/-- A reference to a result column is the quoted name exactly if that has no dot and is not the
star. -/
theorem render_ofAlias_tfae (a : String) :
    List.TFAE ['.' ∉ a.toList ∧ a ≠ "*",
      ∀ d, (ofAlias a).render d = d.identifier a,
      (ofAlias a).render .mysql = quoteIdentifier a] := by
  tfae_have 1 → 2 := fun ⟨ha, hstar⟩ d ↦ render_ofAlias d ha hstar
  tfae_have 2 → 3 := fun h ↦ h .mysql
  tfae_have 3 → 1 := by
    intro h
    constructor
    · intro ha
      rw [Column.render, ofAlias, Column.path, ← String.append_empty (s := quoteIdentifier a)] at h
      exact dot_notMem_of_renderPath_eq ha (by decide) h ha
    · rintro rfl
      exact absurd h (by decide)
  tfae_finish

end Scope

/-! ## Declarations -/

theorem toList_prefix_append (s t : String) : s.toList <+: (s ++ t).toList :=
  String.toList_append ▸ List.prefix_append _ _

theorem toList_suffix_append (s t : String) : t.toList <:+ (s ++ t).toList :=
  String.toList_append ▸ List.suffix_append _ _

theorem toList_infix_intercalate {separator s : String} {ss : List String} (h : s ∈ ss) :
    s.toList <:+: (separator.intercalate ss).toList := by
  induction ss with
  | nil => exact absurd h List.not_mem_nil
  | cons u us ih =>
    cases us with
    | nil =>
      obtain rfl := List.mem_singleton.mp h
      simp only [String.intercalate_singleton, List.infix_rfl]
    | cons v vs =>
      rw [String.intercalate_cons_cons]
      rcases List.mem_cons.mp h with rfl | h
      · exact ((toList_prefix_append _ _).trans (toList_prefix_append _ _)).isInfix
      · exact (ih h).trans (toList_suffix_append _ _).isInfix

/-- A table that is joined stands in the text. -/
theorem Joined.render_infix_text (d : Dialect) {js : List Joined} {j : Joined} (h : j ∈ js) :
    (j.use.render d).toList <:+: (Joined.text d js).toList := by
  cases js with
  | nil => exact absurd h List.not_mem_nil
  | cons k ks =>
    rw [Joined.text]
    rcases List.mem_cons.mp h with rfl | h
    · exact (toList_prefix_append _ _).isInfix
    · refine List.IsInfix.trans ?_ (toList_suffix_append _ _).isInfix
      rw [String.toList_join, List.flatMap_map]
      exact (toList_suffix_append _ _).isInfix.trans
        (List.infix_of_mem_flatten (List.mem_map_of_mem h))

/-- A join declares each of its aliases. -/
theorem Tables.declares_alias (d : Dialect) {t : Tables} (ht : t.inner ≠ []) {a : String}
    (h : a ∈ t.aliases) :
    ∃ table, (d.identifier table ++ " AS " ++ d.identifier a).toList <:+: (t.render d).toList := by
  rw [aliases_eq_map_joined] at h
  obtain ⟨j, hj, rfl⟩ := List.mem_map.mp h
  refine ⟨j.use.table, ?_⟩
  rw [render_eq_text d ht]
  exact Joined.render_infix_text d hj

/-- An entry with a name ends with its declaration. -/
theorem Selected.declaration_suffix_render (d : Dialect) {e : Selected} {a : String}
    (h : e.name? = some a) : (" AS " ++ d.identifier a).toList <:+ (e.render d).toList := by
  have hclose : ") AS " = ")" ++ " AS " := by decide
  cases e with
  | aliased path name =>
    cases h
    rw [render, String.append_assoc]
    exact toList_suffix_append _ _
  | aggregate f distinct path name =>
    cases h
    rw [render, hclose, ← String.append_assoc, String.append_assoc]
    exact toList_suffix_append _ _
  | _ => cases h

/-- A `SELECT` list declares each of its names. -/
theorem renderProjection_declares_alias (d : Dialect) {entries : List String} {a : String}
    (h : a ∈ projectionAliases entries) :
    (" AS " ++ d.identifier a).toList <:+: (renderProjection d entries).toList := by
  obtain ⟨e, he, hname⟩ := List.mem_filterMap.mp h
  have hne : entries ≠ [] := List.ne_nil_of_mem he
  rw [renderProjection, if_neg (by simpa using hne)]
  exact (Selected.declaration_suffix_render d hname).isInfix.trans
    (toList_infix_intercalate (List.mem_map_of_mem he))

/-! ## Comparisons in the text of a statement -/

namespace Template

theorem infix_joined {separator : String} {ts : List Template} {t : Template} (h : t ∈ ts) :
    t <:+: joined separator ts := by
  induction ts with
  | nil => exact absurd h List.not_mem_nil
  | cons u us ih =>
    cases us with
    | nil =>
      obtain rfl := List.mem_singleton.mp h
      exact List.infix_rfl
    | cons v vs =>
      rw [joined_cons_cons]
      rcases List.mem_cons.mp h with rfl | h
      · exact (List.prefix_append _ _).isInfix
      · exact ((ih h).trans (List.suffix_cons _ _).isInfix).trans (List.suffix_append _ _).isInfix

theorem infix_grouped (t : Template) : t <:+: grouped t :=
  ⟨[.text "( "], [.text " )"], rfl⟩

theorem infix_ofParts {separator empty : String} {ts : List Template} {t : Template} (h : t ∈ ts) :
    t <:+: ofParts separator empty ts := by
  have hne : ts ≠ [] := List.ne_nil_of_mem h
  rw [ofParts, if_neg (by simpa using hne)]
  exact (infix_joined h).trans (infix_grouped _)

/-- What is bound in a part of a template is a part of the text. -/
theorem exists_bind_isInfix {s t : Template} (h : s <:+: t) (b : Bindings) :
    ∃ b', (bind s b').1.toList <:+: (bind t b).1.toList := by
  obtain ⟨before, after, rfl⟩ := h
  refine ⟨(bind before b).2, ?_⟩
  rw [bind_append, bind_append]
  simp only [String.toList_append]
  exact List.infix_append _ _ _

end Template

/-- A condition has the comparisons at its leaves. -/
theorem Condition.template_isInfix {c : Condition} {test : Comparison} (h : test ∈ c.leaves)
    (d : Dialect) : (Condition.compare test).template d <:+: c.template d := by
  induction c with
  | all parts ih =>
    obtain ⟨p, hp, htest⟩ := mem_leaves_all.mp h
    rw [template_all]
    exact (ih p hp htest).trans (Template.infix_ofParts (List.mem_map_of_mem hp))
  | any parts ih =>
    obtain ⟨p, hp, htest⟩ := mem_leaves_any.mp h
    rw [template_any]
    exact (ih p hp htest).trans (Template.infix_ofParts (List.mem_map_of_mem hp))
  | negated part ih =>
    have hpart :
        (negated part).template d = Template.grouped (.text "NOT " :: part.template d) := by
      rw [template]
    rw [hpart]
    exact ((ih h).trans (List.suffix_cons _ _).isInfix).trans (Template.infix_grouped _)
  | compare test' =>
    rw [leaves, List.mem_singleton] at h
    subst h
    exact List.infix_rfl

/-- The comparisons of a filter. -/
def Filter.tests (f : Filter) : List Comparison := f.condition.elim [] Condition.leaves

theorem Filter.template_isInfix {f : Filter} {test : Comparison} (h : test ∈ f.tests) (d : Dialect)
    (keyword : String) : (Condition.compare test).template d <:+: f.clause d keyword := by
  obtain ⟨condition⟩ := f
  cases condition with
  | none => exact absurd h List.not_mem_nil
  | some c => exact (Condition.template_isInfix h d).trans (List.suffix_cons _ _).isInfix

namespace Select

/-- The comparisons of a query: those of `ON`, `WHERE` and `HAVING`. -/
def tests (q : Select) : List Comparison := q.source.on.tests ++ q.filter.tests ++ q.having.tests

/-- A query has the comparisons of its three conditions. -/
theorem template_isInfix {q : Select} {test : Comparison} (h : test ∈ q.tests) (d : Dialect) :
    (Condition.compare test).template d <:+: q.template d := by
  have hlater {s t u : Template} (h : s <:+: u) : s <:+: t ++ u :=
    h.trans (List.suffix_append _ _).isInfix
  rw [template]
  simp only [List.append_assoc]
  rw [tests, List.mem_append, List.mem_append] at h
  rcases h with (h | h) | h
  · exact (Filter.template_isInfix h d " ON ").trans (List.infix_append' _ _ _)
  · exact (Filter.template_isInfix h d " WHERE ").trans (hlater (List.infix_append' _ _ _))
  · exact (Filter.template_isInfix h d " HAVING ").trans
      (hlater (hlater (hlater (List.infix_append' _ _ _))))

/-- A query begins with the declarations of its result columns and tables. -/
theorem exists_sql_eq (d : Dialect) (q : Select) :
    ∃ rest, (q.statement d).sql
      = "SELECT " ++ renderProjection d q.projection ++ " FROM " ++ q.source.render d ++ rest := by
  simp only [statement, template, Template.statement, List.append_assoc, List.singleton_append]
  exact ⟨_, rfl⟩

/-- A query has the text of each of its comparisons: the column, the relation, and what the column
is compared with, where a placeholder stands for a value. -/
theorem exists_sql_isInfix {q : Select} {test : Comparison} (h : test ∈ q.tests) (d : Dialect) :
    ∃ name, ("( " ++ (test.column.render d ++ (test.verb.text ++
        (test.rightText d (placeholder name) ++ test.verb.closing))) ++ " )").toList
      <:+: (q.statement d).sql.toList := by
  obtain ⟨b, hb⟩ := Template.exists_bind_isInfix (template_isInfix h d) .empty
  have hcompile := Condition.compile_fst (d := d) (.compare test) b
  rw [Condition.compile, Condition.sql, test.sql_eq] at hcompile
  rw [hcompile] at hb
  exact ⟨_, hb⟩

/-- The entries and the tables of a query stand in its text. -/
theorem head_infix_sql (d : Dialect) (q : Select) :
    (renderProjection d q.projection).toList <:+: (q.statement d).sql.toList ∧
      (q.source.render d).toList <:+: (q.statement d).sql.toList := by
  obtain ⟨rest, hsql⟩ := q.exists_sql_eq d
  rw [hsql]
  simp only [String.toList_append, List.append_assoc]
  constructor
  · exact List.infix_append' _ _ _
  · exact ((List.infix_append' _ _ _).trans (List.suffix_append _ _).isInfix).trans
      (List.suffix_append _ _).isInfix

end Select

/-! ## Agreement -/

/-- **When references agree with declarations.** A query on any join declares each alias of a table
and each name of a result column, quoted as a whole after `AS`, and its text has each comparison of
`ON`, `WHERE` and `HAVING` with its columns in place. A reference to a column of a declared table is
the quoted alias with the quoted name if and only if the alias has no dot, and a reference to a
declared result column is its quoted name if and only if that has no dot and is not the star. -/
theorem references_agree_iff (q : Select) (table : String) (start : Tables.Start)
    (edits : List Tables.Edit) :
    let tables := edits.foldl Tables.apply (start.tables table)
    let query := { q with source := .joined tables }
    (∀ t ∈ tables.aliases,
      (∀ d, ∃ owner, (d.identifier owner ++ " AS " ++ d.identifier t).toList
        <:+: (query.statement d).sql.toList) ∧
      ∀ name, name ≠ "*" → List.TFAE ['.' ∉ t.toList,
        ∀ d, (Scope.ofTable t name).render d = d.identifier t ++ "." ++ d.identifier name,
        (Scope.ofTable t name).render .mysql
          = quoteIdentifier t ++ "." ++ quoteIdentifier name]) ∧
    (∀ a ∈ query.aliases,
      (∀ d, (" AS " ++ d.identifier a).toList <:+: (query.statement d).sql.toList) ∧
      List.TFAE ['.' ∉ a.toList ∧ a ≠ "*",
        ∀ d, (Scope.ofAlias a).render d = d.identifier a,
        (Scope.ofAlias a).render .mysql = quoteIdentifier a]) ∧
    ∀ test ∈ query.tests, ∀ d, ∃ name,
      ("( " ++ (test.column.render d ++ (test.verb.text ++
          (test.rightText d (placeholder name) ++ test.verb.closing))) ++ " )").toList
        <:+: (query.statement d).sql.toList := by
  intro tables query
  have hinner : tables.inner ≠ [] := Tables.inner_build_ne_nil table start edits
  refine ⟨fun t ht ↦ ⟨fun d ↦ ?_, fun name hname ↦ Scope.render_ofTable_tfae t hname⟩,
    fun a ha ↦ ⟨fun d ↦ ?_, Scope.render_ofAlias_tfae a⟩,
    fun test htest d ↦ Select.exists_sql_isInfix htest d⟩
  · obtain ⟨owner, howner⟩ := Tables.declares_alias d hinner ht
    exact ⟨owner, howner.trans (query.head_infix_sql d).2⟩
  · exact (renderProjection_declares_alias d ha).trans (query.head_infix_sql d).1

/-- A table that goes by a name with a dot is declared under that name, but a reference to one of
its columns is cut at the dot. -/
theorem reference_to_dotted_table_is_cut :
    let tables := [].foldl Tables.apply ((Tables.Start.join "b").tables "db.user")
    let test : Comparison :=
      ⟨Scope.ofTable "db.user" "id", .equal, .column (Scope.ofTable "b" "id")⟩
    let query : Select := { source := .joined { tables with on := ⟨some (.compare test)⟩ } }
    "db.user" ∈ tables.aliases ∧
      (query.statement .mysql).sql
        = "SELECT * FROM `db.user` AS `db.user` INNER JOIN `b` AS `b` ON "
          ++ "( `db`.`user.id` = `b`.`id` )" ∧
      test.column.render .mysql ≠ quoteIdentifier "db.user" ++ "." ++ quoteIdentifier "id" := by
  intro tables test query
  exact ⟨by decide +kernel, by decide +kernel, by decide +kernel⟩

end BoundSql
