import BoundSql.Proofs.BoundValues
import BoundSql.Proofs.RenderedNames
import BoundSql.Proofs.SameForm
import BoundSql.Proofs.SpelledNames

/-!
# Names in a statement that is shown with its values

A statement is shown with its values by looking for placeholders in its text, and the names in it
are looked through like everything else. A name that spells a bound name is shown with the value in
it. So a statement is not always shown as it was written, and this module says how it is shown:
piece by piece. Each quoted name is shown as it is shown alone, each placeholder too, and all the
rest is kept, because it has no colon.

That pieces do not get in each other's way comes from how they end. A quoted name ends in a mark,
and behind a placeholder there is a blank or a parenthesis, so no piece is the beginning of a name
that goes on in the next one.

To say where the names are in a statement, the statement is rendered twice: `Dialect.showing` is the
dialect that quotes a name as it is shown. Rendering does not look into what a dialect makes of a
name, and so the two texts differ in the names and nowhere else.
-/

namespace BoundSql

/-- The dialect with backticks and backslashes, with names as they are shown when values are
bound. -/
def Dialect.showing (b : Bindings) : Dialect :=
  ⟨fun n ↦ fillText .mysql b (quoteIdentifier n), BoundSql.literal⟩

/-! ## Pieces of a text -/

/-- Text that is shown as `s'`, whatever stands behind it. -/
def ShownAs (b : Bindings) (s s' : String) : Prop :=
  ∀ rest, fillPlaceholders (fun n ↦ (b.get? n).map literal) (s.toList ++ rest)
    = s'.toList ++ fillPlaceholders (fun n ↦ (b.get? n).map literal) rest

namespace ShownAs

variable {b : Bindings} {s s' t t' : String}

theorem of_colonFree (h : ColonFree s := by decide) : ShownAs b s s :=
  fun rest ↦ fillPlaceholders_append h rest

theorem append (hs : ShownAs b s s') (ht : ShownAs b t t') : ShownAs b (s ++ t) (s' ++ t') := by
  intro rest
  rw [String.toList_append, String.toList_append, List.append_assoc, List.append_assoc, hs, ht]

theorem fillText_append (hs : ShownAs b s s') (t : String) :
    fillText .mysql b (s ++ t) = s' ++ fillText .mysql b t := by
  rw [← String.toList_inj, String.toList_append, fillText, fillText, String.toList_ofList,
    String.toList_ofList, String.toList_append]
  exact hs t.toList

/-- A text is shown in one way. -/
theorem eq_fillText (hs : ShownAs b s s') : s' = fillText .mysql b s := by
  have hempty : fillText .mysql b "" = "" := by
    rw [fillText, String.toList_empty, fillPlaceholders]
  have hfill := hs.fillText_append ""
  rwa [String.append_empty, hempty, String.append_empty, eq_comm] at hfill

/-- A quoted name ends in a mark, and no placeholder goes on behind it. -/
theorem identifier (name : String) :
    ShownAs b (quoteIdentifier name) ((Dialect.showing b).identifier name) := by
  have hshown : (Dialect.showing b).identifier name = fillText .mysql b (quoteIdentifier name) :=
    rfl
  intro rest
  rw [hshown, fillText, String.toList_ofList, quoteIdentifier, wrapDoubling, String.toList_ofList]
  exact fillPlaceholders_append_of_mark _ (by decide) (by decide) rest

theorem intercalate {separator : String} {α : Type} {f g : α → String} {xs : List α}
    (h : ∀ x ∈ xs, ShownAs b (f x) (g x)) (hsep : ColonFree separator := by decide) :
    ShownAs b (separator.intercalate (xs.map f)) (separator.intercalate (xs.map g)) := by
  induction xs with
  | nil => exact of_colonFree (of_decide_eq_true rfl)
  | cons x xs ih =>
    have hx := h x List.mem_cons_self
    have hxs := ih fun y hy ↦ h y (List.mem_cons_of_mem _ hy)
    cases xs with
    | nil => simpa only [List.map_cons, List.map_nil, String.intercalate_singleton] using hx
    | cons y ys =>
      rw [List.map_cons, List.map_cons, List.map_cons, List.map_cons, String.intercalate_cons_cons,
        String.intercalate_cons_cons]
      exact (hx.append (of_colonFree hsep)).append hxs

end ShownAs

/-! ## Rendered names -/

section Render

variable (b : Bindings)

theorem shownAs_renderName (name : String) :
    ShownAs b (renderName .mysql name) (renderName (.showing b) name) := by
  rw [renderName, renderName]
  split
  · exact .of_colonFree
  · exact .identifier name

theorem shownAs_renderPath (path : String) :
    ShownAs b (renderPath .mysql path) (renderPath (.showing b) path) := by
  rw [renderPath, renderPath]
  split
  · exact ((ShownAs.identifier _).append .of_colonFree).append (shownAs_renderName b _)
  · exact shownAs_renderName b path

theorem Selected.shownAs_render (e : Selected) :
    ShownAs b (e.render .mysql) (e.render (.showing b)) := by
  cases e with
  | star | countStar => exact .of_colonFree (of_decide_eq_true rfl)
  | field path => exact shownAs_renderPath b path
  | aliased path name =>
    exact ((shownAs_renderPath b path).append .of_colonFree).append (.identifier name)
  | aggregate f distinct path name =>
    have hcall : ColonFree (f.name ++ "(" ++ if distinct then "DISTINCT " else "") := by
      cases f <;> cases distinct <;> decide
    exact (((ShownAs.of_colonFree hcall).append (shownAs_renderPath b path)).append
      .of_colonFree).append (.identifier name)

theorem shownAs_renderProjection (entries : List String) :
    ShownAs b (renderProjection .mysql entries) (renderProjection (.showing b) entries) := by
  rw [renderProjection, renderProjection]
  split
  · exact .of_colonFree
  · exact .intercalate fun e _ ↦ (Selected.parse e).shownAs_render b

theorem shownAs_renderGroupBy (paths : List String) :
    ShownAs b (renderGroupBy .mysql paths) (renderGroupBy (.showing b) paths) :=
  .intercalate fun p _ ↦ shownAs_renderPath b (Text.trimmed p)

theorem OrderTerm.shownAs_render (t : OrderTerm) :
    ShownAs b (t.render .mysql) (t.render (.showing b)) := by
  have hfield := (Selected.parse t.field).shownAs_render b
  rw [render, render]
  split
  · next direction _ =>
    have hkeyword : ColonFree direction.keyword := by cases direction <;> decide
    exact (hfield.append .of_colonFree).append (.of_colonFree hkeyword)
  · exact hfield

theorem shownAs_renderOrderBy (terms : List OrderTerm) :
    ShownAs b (renderOrderBy .mysql terms) (renderOrderBy (.showing b) terms) :=
  .intercalate fun t _ ↦ t.shownAs_render b

theorem TableUse.shownAs_render (u : TableUse) :
    ShownAs b (u.render .mysql) (u.render (.showing b)) :=
  ((ShownAs.identifier u.table).append .of_colonFree).append (.identifier u.name)

theorem TableSet.shownAs_render {keyword : String} (hkeyword : ColonFree keyword) (s : TableSet) :
    ShownAs b (s.render keyword .mysql) (s.render keyword (.showing b)) :=
  .intercalate (fun u _ ↦ u.shownAs_render b) hkeyword

theorem Tables.shownAs_render (t : Tables) :
    ShownAs b (t.render .mysql) (t.render (.showing b)) := by
  have hinner : ColonFree " INNER JOIN " := by decide
  have hleft : ColonFree leftKeyword := by decide
  have hfront := TableSet.shownAs_render b hinner t.inner
  have hback := TableSet.shownAs_render b hleft t.left
  rw [render_eq_ite, render_eq_ite]
  split
  · exact hfront
  · split
    · exact hback
    · exact (hfront.append (.of_colonFree hleft)).append hback

theorem Source.shownAs_render (s : Source) :
    ShownAs b (s.render .mysql) (s.render (.showing b)) := by
  cases s with
  | table name => exact .identifier name
  | joined tables => exact tables.shownAs_render b

end Render

/-! ## Templates -/

namespace Template

/-- Templates with the same holes, whose texts are shown as each other. Behind a hole no name goes
on. -/
inductive ShownAs (b : Bindings) : Template → Template → Prop
  | nil : ShownAs b [] []
  | text {s s' : String} {t t' : Template} (hs : BoundSql.ShownAs b s s') (ht : ShownAs b t t') :
    ShownAs b (.text s :: t) (.text s' :: t')
  | hole (field : String) (value : Json) {t t' : Template} (hsep : Separate t)
    (ht : ShownAs b t t') : ShownAs b (.hole field value :: t) (.hole field value :: t')

namespace ShownAs

variable {b : Bindings} {s s' t t' : Template}

theorem word {s : String} (ht : ShownAs b t t') (h : ColonFree s := by decide) :
    ShownAs b (.text s :: t) (.text s :: t') := .text (.of_colonFree h) ht

theorem lastHole (field : String) (value : Json) :
    ShownAs b [.hole field value] [.hole field value] := .hole field value trivial .nil

theorem append (hs : ShownAs b s s') (ht : ShownAs b t t') (hsep : Separate t := by decide) :
    ShownAs b (s ++ t) (s' ++ t') := by
  induction hs with
  | nil => exact ht
  | text hs _ ih => exact .text hs ih
  | hole field value hsep' _ ih => exact .hole field value (separate_append hsep' hsep) ih

theorem grouped (h : ShownAs b t t') : ShownAs b (grouped t) (grouped t') :=
  .word (h.append (.word .nil))

theorem joined {separator : String} {α : Type} {f g : α → Template} {xs : List α}
    (h : ∀ x ∈ xs, ShownAs b (f x) (g x)) (hcolon : ColonFree separator)
    (hsep : Separate [.text separator]) :
    ShownAs b (joined separator (xs.map f)) (joined separator (xs.map g)) := by
  induction xs with
  | nil => exact .nil
  | cons x xs ih =>
    have hx := h x List.mem_cons_self
    have hxs := ih fun y hy ↦ h y (List.mem_cons_of_mem _ hy)
    cases xs with
    | nil => exact hx
    | cons y ys => exact hx.append (.word hxs hcolon) hsep

theorem ofParts {separator empty : String} {α : Type} {f g : α → Template} {xs : List α}
    (h : ∀ x ∈ xs, ShownAs b (f x) (g x)) (hcolon : ColonFree separator := by decide)
    (hsep : Separate [.text separator] := by decide) (hempty : ColonFree empty := by decide) :
    ShownAs b (ofParts separator empty (xs.map f)) (ofParts separator empty (xs.map g)) := by
  rw [Template.ofParts, Template.ofParts, List.isEmpty_map, List.isEmpty_map]
  refine .grouped ?_
  split
  · exact .word .nil hempty
  · exact .joined h hcolon hsep

end ShownAs

/-- What can stand behind a placeholder stands behind it in the text, too. -/
theorem Separate.endsName_withTokens {t : Template} (h : Separate t) (names : Nat → String)
    (k : Nat) : EndsName (withTokens (fun i ↦ placeholder (names i)) k t).toList := by
  cases t with
  | nil => exact fun c hc ↦ nomatch hc
  | cons f t =>
    cases f with
    | text s => exact h.endsName_text _
    | hole field value => exact endsName_placeholder _ _

/-- A template with placeholders is shown piece by piece. -/
theorem ShownAs.fillText_withTokens {b : Bindings} {t t' : Template} (h : ShownAs b t t')
    (names : Nat → String) (k : Nat) :
    fillText .mysql b (withTokens (fun i ↦ placeholder (names i)) k t)
      = withTokens (fun i ↦ fillText .mysql b (placeholder (names i))) k t' := by
  induction h generalizing k with
  | nil => rw [withTokens, withTokens, fillText, String.toList_empty, fillPlaceholders]
  | text hs _ ih => rw [withTokens, withTokens, hs.fillText_append, ih]
  | hole field value hsep _ ih =>
    rw [withTokens, withTokens, fillText_append_of_endsName _ (hsep.endsName_withTokens names _),
      ih]

/-- The names that the texts of a template spell. -/
def spelledNames : Template → List String
  | [] => []
  | .text s :: t => BoundSql.spelledNames s.toList ++ spelledNames t
  | .hole _ _ :: t => spelledNames t

/-- The texts of a template are shown as they are if and only if nothing is bound under the names
that they spell. -/
theorem ShownAs.eq_iff {b : Bindings} {t t' : Template} (h : ShownAs b t t') :
    t' = t ↔ ∀ n ∈ spelledNames t, b.get? n = none := by
  induction h with
  | nil => simp [spelledNames]
  | text hs _ ih =>
    rw [spelledNames, List.forall_mem_append, ← fillText_mysql_eq_self_iff, ← hs.eq_fillText, ← ih,
      List.cons.injEq, Fragment.text.injEq]
  | hole field value _ _ ih => rw [spelledNames, ← ih, List.cons_inj_right]

end Template

/-! ## Conditions -/

open Template (Separate)

section Conditions

variable (b : Bindings)

theorem Column.shownAs_render (c : Column) : ShownAs b (c.render .mysql) (c.render (.showing b)) :=
  shownAs_renderPath b c.path

namespace Comparison

theorem shownAs_around {column column' : String} (hcolumn : ShownAs b column column')
    (op : CompareOp) {rhs rhs' : Template} (hrhs : rhs.ShownAs b rhs') :
    (around column op rhs).ShownAs b (around column' op rhs') := by
  by_cases hop : op = .oneOf
  · rw [hop, around_oneOf, around_oneOf]
    refine .text (hcolumn.append .of_colonFree) ?_
    exact hrhs.append (.word .nil)
  · have hsymbol : ColonFree op.symbol := by cases op <;> decide
    rw [around_of_ne_oneOf hop, around_of_ne_oneOf hop]
    exact .text (((hcolumn.append .of_colonFree).append (.of_colonFree hsymbol)).append
      .of_colonFree) hrhs

theorem shownAs_rightSide (t : Comparison) :
    (t.rightSide .mysql).ShownAs b (t.rightSide (.showing b)) := by
  obtain ⟨column, op, operand⟩ := t
  cases operand with
  | value v => exact .lastHole _ v
  | column other => exact .text (other.shownAs_render b) .nil
  | list items => exact .lastHole _ _

theorem shownAs_template (t : Comparison) :
    (t.template .mysql).ShownAs b (t.template (.showing b)) := by
  cases hnull : t.isNullTest with
  | true =>
    have htest : ColonFree (if t.op = .equal then " IS NULL" else " IS NOT NULL") := by
      split <;> decide
    rw [template_of_isNullTest hnull, template_of_isNullTest hnull]
    exact .text ((t.column.shownAs_render b).append (.of_colonFree htest)) .nil
  | false =>
    rw [template_of_not_isNullTest hnull, template_of_not_isNullTest hnull]
    exact shownAs_around b (t.column.shownAs_render b) t.op (t.shownAs_rightSide b)

end Comparison

/-- A condition is shown piece by piece. -/
theorem Condition.shownAs_template (c : Condition) :
    (c.template .mysql).ShownAs b (c.template (.showing b)) := by
  induction c with
  | all parts ih =>
    rw [template_all, template_all]
    exact .ofParts ih
  | any parts ih =>
    rw [template_any, template_any]
    exact .ofParts ih
  | negated part ih =>
    rw [template, template]
    exact .grouped (.word ih)
  | compare test =>
    rw [template, template]
    exact .grouped (test.shownAs_template b)

/-! ## Commands -/

/-- Clauses that are shown as each other and can be put behind a placeholder. -/
structure Template.ShownClause (t t' : Template) : Prop where
  /-- No name goes on in the clause. -/
  separate : Separate t
  /-- The texts are shown as each other. -/
  shown : t.ShownAs b t'

theorem Template.ShownAs.before {b : Bindings} {s s' t t' : Template} (hs : s.ShownAs b s')
    (ht : ShownClause b t t') : (s ++ t).ShownAs b (s' ++ t') := hs.append ht.shown ht.separate

theorem Filter.shownClause (f : Filter) (keyword : String)
    (hsep : Separate [.text keyword] := by decide) (hkeyword : ColonFree keyword := by decide) :
    Template.ShownClause b (f.clause .mysql keyword) (f.clause (.showing b) keyword) := by
  obtain ⟨condition⟩ := f
  cases condition with
  | none => exact ⟨trivial, .nil⟩
  | some c => exact ⟨hsep, .word (c.shownAs_template b) hkeyword⟩

theorem Select.shownClause_listClause {α : Type} (keyword : String) {f g : List α → String}
    {items : List α} (h : ShownAs b (f items) (g items))
    (hsep : Separate [.text keyword] := by decide) (hkeyword : ColonFree keyword := by decide) :
    Template.ShownClause b (listClause keyword f items) (listClause keyword g items) := by
  rw [listClause, listClause]
  split
  · exact ⟨trivial, .nil⟩
  · exact ⟨Template.separate_text_append hsep _ _,
      .text ((ShownAs.of_colonFree hkeyword).append h) .nil⟩

/-- A query is shown piece by piece. -/
theorem Select.shownAs_template (q : Select) :
    (q.template .mysql).ShownAs b (q.template (.showing b)) := by
  have hlist : ShownAs b ("SELECT " ++ renderProjection .mysql q.projection ++ " FROM ")
      ("SELECT " ++ renderProjection (.showing b) q.projection ++ " FROM ") :=
    ((ShownAs.of_colonFree).append (shownAs_renderProjection b q.projection)).append .of_colonFree
  have hhead := Template.ShownAs.text (hlist.append (q.source.shownAs_render b)) .nil
  have hon := q.source.on.shownClause b " ON "
  have hfilter := q.filter.shownClause b " WHERE "
  have hgroupBy := shownClause_listClause b " GROUP BY " (shownAs_renderGroupBy b q.groupBy)
  have hhaving := q.having.shownClause b " HAVING "
  have horderBy := shownClause_listClause b " ORDER BY " (shownAs_renderOrderBy b q.orderBy)
  have hlimit : Template.ShownClause b
      (listClause " " (fun ls ↦ String.join (ls.map Limit.render)) q.limit.toList)
      (listClause " " (fun ls ↦ String.join (ls.map Limit.render)) q.limit.toList) :=
    shownClause_listClause b " " (.of_colonFree (colonFree_limits q.limit.toList))
  exact (((((hhead.before hon).before hfilter).before hgroupBy).before hhaving).before
    horderBy).before hlimit

theorem Insert.shownAs_template (c : Insert) :
    (c.template .mysql).ShownAs b (c.template (.showing b)) := by
  have htext : ShownAs b ("INSERT INTO " ++ Dialect.mysql.identifier c.table ++ " SET ")
      ("INSERT INTO " ++ (Dialect.showing b).identifier c.table ++ " SET ") :=
    ((ShownAs.of_colonFree).append (.identifier c.table)).append .of_colonFree
  have hhead := Template.ShownAs.text htext (.lastHole recordField c.record.toJson)
  rw [template, template]
  split
  · exact hhead.append (.word (.lastHole _ _)) ⟨by decide, by decide⟩
  · exact hhead.append .nil

theorem Update.shownAs_template (c : Update) :
    (c.template .mysql).ShownAs b (c.template (.showing b)) := by
  have htext : ShownAs b ("UPDATE " ++ Dialect.mysql.identifier c.table ++ " SET ")
      ("UPDATE " ++ (Dialect.showing b).identifier c.table ++ " SET ") :=
    ((ShownAs.of_colonFree).append (.identifier c.table)).append .of_colonFree
  have hhead := Template.ShownAs.text htext (.lastHole recordField c.record.toJson)
  exact hhead.before (c.filter.shownClause b " WHERE ")

theorem Delete.shownAs_template (c : Delete) :
    (c.template .mysql).ShownAs b (c.template (.showing b)) :=
  .text ((ShownAs.of_colonFree).append (.identifier c.table))
    (c.filter.shownClause b " WHERE ").shown

end Conditions

/-- A finished command of any kind. -/
inductive Command
  | select (query : Select)
  | insert (command : Insert)
  | update (command : Update)
  | delete (command : Delete)

namespace Command

/-- The text of a command, with holes for the values. -/
def template (d : Dialect) : Command → Template
  | select query => query.template d
  | insert command => command.template d
  | update command => command.template d
  | delete command => command.template d

theorem shownAs_template (b : Bindings) (c : Command) :
    (c.template .mysql).ShownAs b (c.template (.showing b)) := by
  cases c with
  | select query => exact query.shownAs_template b
  | insert command => exact command.shownAs_template b
  | update command => exact command.shownAs_template b
  | delete command => exact command.shownAs_template b

end Command

/-! ## Statements -/

/-- A statement is its template with the placeholders of the names that were given. -/
theorem Template.statement_sql_eq_withTokens (t : Template) :
    t.statement.sql
      = t.withTokens (fun k ↦ placeholder ((Bindings.empty.given t.holes).getD k "")) 0 :=
  bind_fst_eq_withTokens _ _ _ fun i _ ↦ by rw [Nat.zero_add]

theorem Template.ShownAs.inlined_statement {t t' : Template}
    (h : t.ShownAs t.statement.bindings t') :
    t.statement.inlined .mysql = t'.withTokens (fun k ↦ fillText .mysql t.statement.bindings
      (placeholder ((Bindings.empty.given t.holes).getD k ""))) 0 := by
  rw [Statement.inlined, t.statement_sql_eq_withTokens]
  exact h.fillText_withTokens _ 0

/-- **How names are shown.** Every command is shown with its values piece by piece.

* Its statement has the placeholders of the names that were given. What is shown is the command in
  the dialect that quotes names as they are shown, with each placeholder as it is shown alone.
* That is the command as it was rendered, with the placeholders replaced and nothing else, if and
  only if nothing is bound under the names that its text spells between the placeholders.
* A quoted name is shown as it is if and only if no word behind a colon in it is the name of a bound
  value, whatever the values are. -/
theorem names_shown_iff (c : Command) :
    let stmt := (c.template .mysql).statement
    let token (k : Nat) := placeholder ((Bindings.empty.given (c.template .mysql).holes).getD k "")
    let shown (k : Nat) := fillText .mysql stmt.bindings (token k)
    (stmt.sql = (c.template .mysql).withTokens token 0 ∧
      stmt.inlined .mysql = (c.template (.showing stmt.bindings)).withTokens shown 0) ∧
    (c.template (.showing stmt.bindings) = c.template .mysql
      ↔ ∀ n ∈ (c.template .mysql).spelledNames, stmt.bindings.get? n = none) ∧
    ∀ name : String, (Dialect.showing stmt.bindings).identifier name = quoteIdentifier name
      ↔ ∀ n ∈ spelledNames name.toList, stmt.bindings.get? n = none := by
  intro stmt token shown
  have hshown := c.shownAs_template stmt.bindings
  refine ⟨⟨(c.template .mysql).statement_sql_eq_withTokens, hshown.inlined_statement⟩,
    hshown.eq_iff, fun name ↦ ?_⟩
  rw [← spelledNames_quoteIdentifier]
  exact fillText_mysql_eq_self_iff stmt.bindings (quoteIdentifier name)

/-- A table whose name spells the placeholder of the condition is shown as another table. -/
theorem value_shown_in_name :
    let a : Column := ⟨none, "a"⟩
    let c : Delete := ⟨":__a__0", ⟨some (a.compare .equal (.value (.ofInt64 1)))⟩⟩
    let stmt := c.statement .mysql
    stmt.sql = "DELETE FROM `:__a__0` WHERE ( `a` = :__a__0 )" ∧
      stmt.inlined .mysql = "DELETE FROM `1` WHERE ( `a` = 1 )" := by
  decide +kernel

end BoundSql
