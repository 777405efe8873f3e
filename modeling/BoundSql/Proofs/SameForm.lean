import BoundSql.Command.Modify
import BoundSql.Proofs.ConditionTree
import BoundSql.Query.Select
import Mathlib.Data.List.Forall2

/-!
# Commands of the same form

Two commands have the same *form* if they differ in nothing but values: the values that columns are
compared with, and the records that are written. Templates have the same form if they have the same
texts between holes for the same columns.

A value decides about text in two places, and there the form says what is decided: comparing for
equality with `null` is a test of its own (`Comparison.isNullTest`), and a record without members is
left out after `ON DUPLICATE KEY UPDATE`. Commands of the same form have templates of the same form,
and so these are the only places.

Form is kept call by call. Whatever calls two chains make, if each call of one has the form of the
call at the same place in the other, the commands that they build have the same form.
-/

namespace BoundSql

/-! ## Templates -/

/-- Two pieces of a template that differ in the value at most. -/
inductive Fragment.SameForm : Fragment → Fragment → Prop
  | text (s : String) : SameForm (.text s) (.text s)
  | hole (field : String) (v w : Json) : SameForm (.hole field v) (.hole field w)

namespace Template

/-- Two templates that differ in the values at most. -/
abbrev SameForm : Template → Template → Prop := List.Forall₂ Fragment.SameForm

theorem SameForm.refl (t : Template) : SameForm t t := by
  refine List.forall₂_same.mpr fun f _ ↦ ?_
  cases f with
  | text s => exact .text s
  | hole field value => exact .hole field value value

theorem SameForm.append {s s' t t' : Template} (hs : SameForm s s') (ht : SameForm t t') :
    SameForm (s ++ t) (s' ++ t') := List.rel_append hs ht

theorem SameForm.grouped {t t' : Template} (h : SameForm t t') : SameForm t.grouped t'.grouped :=
  .cons (.text "( ") (h.append (.refl [.text " )"]))

theorem SameForm.joined {separator : String} {ts ts' : List Template}
    (h : List.Forall₂ SameForm ts ts') :
    SameForm (Template.joined separator ts) (Template.joined separator ts') := by
  induction h with
  | nil => exact .nil
  | cons ht hts ih =>
    cases hts with
    | nil => exact ht
    | cons hu hus => exact ht.append (.cons (.text separator) ih)

theorem SameForm.ofParts {separator empty : String} {ts ts' : List Template}
    (h : List.Forall₂ SameForm ts ts') :
    SameForm (ofParts separator empty ts) (ofParts separator empty ts') := by
  cases h with
  | nil => exact .refl _
  | cons ht hts => exact (SameForm.joined (.cons ht hts)).grouped

end Template

/-! ## Conditions -/

/-- Operands of the same kind; a column is the same column. -/
inductive Operand.SameForm : Operand → Operand → Prop
  | value (v w : Json) : SameForm (.value v) (.value w)
  | column (c : Column) : SameForm (.column c) (.column c)
  | list (items items' : List Json) : SameForm (.list items) (.list items')

/-- Whether an operand is the value `null`. -/
def Operand.isNull : Operand → Bool
  | .value v => v.isNull
  | _ => false

theorem Operand.isNull_eq_true {o : Operand} : o.isNull = true ↔ o = .value .null := by
  cases o with
  | value v => cases v <;> simp [isNull, Json.isNull]
  | _ => simp [isNull]

/-- Whether a comparison is a test for `null`. -/
def Comparison.isNullTest (t : Comparison) : Bool :=
  (t.op = .equal || t.op = .notEqual) && t.operand.isNull

/-- Comparisons of the same column by the same relation with operands of the same kind. -/
structure Comparison.SameForm (t u : Comparison) : Prop where
  /-- The column. -/
  column : t.column = u.column
  /-- The relation. -/
  op : t.op = u.op
  /-- The kind of the operand. -/
  operand : t.operand.SameForm u.operand
  /-- Both are tests for `null`, or none is. -/
  nullTest : t.isNullTest = u.isNullTest

/-- Conditions with the same tree whose leaves are of the same form. -/
inductive Condition.SameForm : Condition → Condition → Prop
  | all {ps qs : List Condition} (h : List.Forall₂ SameForm ps qs) : SameForm (.all ps) (.all qs)
  | any {ps qs : List Condition} (h : List.Forall₂ SameForm ps qs) : SameForm (.any ps) (.any qs)
  | negated {p q : Condition} (h : SameForm p q) : SameForm (.negated p) (.negated q)
  | compare {t u : Comparison} (h : t.SameForm u) : SameForm (.compare t) (.compare u)

namespace Comparison

variable {d : Dialect} {t u : Comparison}

theorem SameForm.refl (t : Comparison) : t.SameForm t where
  column := rfl
  op := rfl
  operand := by
    cases t.operand with
    | value v => exact .value v v
    | column c => exact .column c
    | list items => exact .list items items
  nullTest := rfl

/-- The text of a test for `null`. -/
theorem template_of_isNullTest (h : t.isNullTest = true) :
    t.template d
      = [.text (t.column.render d ++ if t.op = .equal then " IS NULL" else " IS NOT NULL")] := by
  obtain ⟨column, op, operand⟩ := t
  rw [isNullTest, Bool.and_eq_true, Operand.isNull_eq_true] at h
  obtain ⟨hop, rfl⟩ := h
  cases op with
  | equal => rfl
  | notEqual => rfl
  | _ => cases hop

/-- Every other comparison has its operand on its right-hand side. -/
theorem template_of_not_isNullTest (h : t.isNullTest = false) :
    t.template d = around (t.column.render d) t.op (t.rightSide d) := by
  rw [template]
  split
  · next hop hoperand => simp [isNullTest, hop, hoperand, Operand.isNull, Json.isNull] at h
  · next hop hoperand => simp [isNullTest, hop, hoperand, Operand.isNull, Json.isNull] at h
  · rfl

theorem sameForm_around {column : String} {op : CompareOp} {rhs rhs' : Template}
    (h : rhs.SameForm rhs') : (around column op rhs).SameForm (around column op rhs') := by
  by_cases hop : op = .oneOf
  · rw [hop, around_oneOf, around_oneOf]
    exact Template.SameForm.append (.cons (.text _) h) (.refl [.text ")"])
  · rw [around_of_ne_oneOf hop, around_of_ne_oneOf hop]
    exact .cons (.text _) h

theorem SameForm.rightSide (h : t.SameForm u) : (t.rightSide d).SameForm (u.rightSide d) := by
  obtain ⟨column, op, operand⟩ := t
  obtain ⟨column', op', operand'⟩ := u
  obtain ⟨rfl, rfl, hoperand, -⟩ := h
  cases hoperand with
  | value v w => exact .cons (.hole column.name v w) .nil
  | column c => exact .refl _
  | list items items' => exact .cons (.hole column.name _ _) .nil

theorem SameForm.template (h : t.SameForm u) : (t.template d).SameForm (u.template d) := by
  cases hnull : u.isNullTest with
  | true =>
    rw [template_of_isNullTest hnull, template_of_isNullTest (h.nullTest.trans hnull), h.column,
      h.op]
    exact .refl _
  | false =>
    rw [template_of_not_isNullTest hnull, template_of_not_isNullTest (h.nullTest.trans hnull),
      h.column, h.op]
    exact sameForm_around h.rightSide

end Comparison

namespace Condition

theorem SameForm.refl (c : Condition) : c.SameForm c := by
  induction c with
  | all parts ih => exact .all (List.forall₂_same.mpr ih)
  | any parts ih => exact .any (List.forall₂_same.mpr ih)
  | negated part ih => exact .negated ih
  | compare test => exact .compare (.refl test)

/-- Parts of the same form in groups have templates of the same form if each of them has. -/
private theorem sameForm_templates {d : Dialect} {ps qs : List Condition}
    (h : List.Forall₂ SameForm ps qs)
    (ih : ∀ p ∈ ps, ∀ q, p.SameForm q → (p.template d).SameForm (q.template d)) :
    List.Forall₂ Template.SameForm (ps.map (template d)) (qs.map (template d)) := by
  induction h with
  | nil => exact .nil
  | cons hpq _ ihs =>
    exact .cons (ih _ List.mem_cons_self _ hpq)
      (ihs fun p hp ↦ ih p (List.mem_cons_of_mem _ hp))

/-- Conditions of the same form have templates of the same form. -/
theorem SameForm.template {c e : Condition} (h : c.SameForm e) (d : Dialect) :
    (c.template d).SameForm (e.template d) := by
  induction c generalizing e with
  | all parts ih =>
    cases h with
    | all hparts =>
      rw [template_all, template_all]
      exact .ofParts (sameForm_templates hparts fun p hp q hpq ↦ ih p hp hpq)
  | any parts ih =>
    cases h with
    | any hparts =>
      rw [template_any, template_any]
      exact .ofParts (sameForm_templates hparts fun p hp q hpq ↦ ih p hp hpq)
  | negated part ih =>
    cases h with
    | negated hpart => exact Template.SameForm.grouped (.cons (.text _) (ih hpart))
  | compare test =>
    cases h with
    | compare htest => exact Template.SameForm.grouped htest.template

end Condition

/-! ## Filters -/

/-- Filters with conditions of the same form, or without any. -/
def Filter.SameForm (f g : Filter) : Prop :=
  Option.Rel Condition.SameForm f.condition g.condition

/-- The same call with conditions of the same form. -/
inductive Filter.Edit.SameForm : Filter.Edit → Filter.Edit → Prop
  | filter {c c' : Option Condition} (h : Option.Rel Condition.SameForm c c') :
    SameForm (.filter c) (.filter c')
  | and {c c' : Option Condition} (h : Option.Rel Condition.SameForm c c') :
    SameForm (.and c) (.and c')
  | or {c c' : Option Condition} (h : Option.Rel Condition.SameForm c c') :
    SameForm (.or c) (.or c')
  | not {c c' : Option Condition} (h : Option.Rel Condition.SameForm c c') :
    SameForm (.not c) (.not c')
  | clear : SameForm .clear .clear

theorem sameForm_option_refl (c : Option Condition) : Option.Rel Condition.SameForm c c := by
  cases c with
  | none => exact .none
  | some c => exact .some (.refl c)

namespace Filter

variable {f g : Filter} {c c' : Option Condition}

theorem SameForm.empty : SameForm {} {} := .none

theorem Edit.SameForm.refl (e : Edit) : e.SameForm e := by
  cases e with
  | filter c => exact .filter (sameForm_option_refl c)
  | and c => exact .and (sameForm_option_refl c)
  | or c => exact .or (sameForm_option_refl c)
  | not c => exact .not (sameForm_option_refl c)
  | clear => exact .clear

theorem SameForm.replace (h : f.SameForm g) (hc : Option.Rel Condition.SameForm c c') :
    (f.replace c).SameForm (g.replace c') := by
  cases hc with
  | none => exact h
  | some hc => exact .some hc

theorem SameForm.combine {join : Condition → Condition → Condition}
    (hjoin : ∀ {a a' b b' : Condition}, a.SameForm a' → b.SameForm b' →
      (join a b).SameForm (join a' b'))
    (h : f.SameForm g) (hc : Option.Rel Condition.SameForm c c') :
    (f.combine join c).SameForm (g.combine join c') := by
  obtain ⟨condition⟩ := f
  obtain ⟨condition'⟩ := g
  cases hc with
  | none => exact h
  | some hc =>
    cases h with
    | none => exact .some hc
    | some hprior => exact .some (hjoin hprior hc)

/-- A call of the same form keeps filters of the same form. -/
theorem SameForm.apply (h : f.SameForm g) {e e' : Edit} (he : e.SameForm e') :
    (f.apply e).SameForm (g.apply e') := by
  have hand {a a' b b' : Condition} (ha : a.SameForm a') (hb : b.SameForm b') :
      (a.and b).SameForm (a'.and b') := .all (.cons ha (.cons hb .nil))
  have hor {a a' b b' : Condition} (ha : a.SameForm a') (hb : b.SameForm b') :
      (a.or b).SameForm (a'.or b') := .any (.cons ha (.cons hb .nil))
  cases he with
  | filter hc => exact h.replace hc
  | and hc => exact h.combine hand hc
  | or hc => exact h.combine hor hc
  | not hc =>
    refine h.combine hand ?_
    cases hc with
    | none => exact .none
    | some hc => exact .some (.negated hc)
  | clear => exact .empty

theorem SameForm.clause (h : f.SameForm g) (d : Dialect) (keyword : String) :
    (f.clause d keyword).SameForm (g.clause d keyword) := by
  obtain ⟨condition⟩ := f
  obtain ⟨condition'⟩ := g
  cases h with
  | none => exact .nil
  | some hc => exact .cons (.text keyword) (hc.template d)

end Filter

/-! ## Queries -/

/-- The same call with conditions of the same form. -/
inductive Tables.Edit.SameForm : Tables.Edit → Tables.Edit → Prop
  | join (target : String) : SameForm (.join target) (.join target)
  | leftJoin (target : String) : SameForm (.leftJoin target) (.leftJoin target)
  | on {c c' : Option Condition} (h : Option.Rel Condition.SameForm c c') :
    SameForm (.on c) (.on c')

/-- The same tables, tied by conditions of the same form. -/
structure Tables.SameForm (t u : Tables) : Prop where
  /-- The tables of the inner join. -/
  inner : t.inner = u.inner
  /-- The tables of the left join. -/
  left : t.left = u.left
  /-- What ties them. -/
  on : t.on.SameForm u.on

/-- The same table, or the same tables tied by conditions of the same form. -/
inductive Source.SameForm : Source → Source → Prop
  | table (name : String) : SameForm (.table name) (.table name)
  | joined {t u : Tables} (h : t.SameForm u) : SameForm (.joined t) (.joined u)

/-- The same call, with conditions of the same form where it brings any. -/
inductive Select.Edit.SameForm : Select.Edit → Select.Edit → Prop
  | same (e : Select.Edit) : SameForm e e
  | filter {e e' : Filter.Edit} (h : e.SameForm e') : SameForm (.filter e) (.filter e')
  | having {c c' : Option Condition} (h : Option.Rel Condition.SameForm c c') :
    SameForm (.having c) (.having c')

/-- Queries that differ in the values of their conditions at most. -/
structure Select.SameForm (q r : Select) : Prop where
  /-- Where they read from. -/
  source : q.source.SameForm r.source
  /-- The `SELECT` list. -/
  projection : q.projection = r.projection
  /-- The condition on rows. -/
  filter : q.filter.SameForm r.filter
  /-- The columns to group by. -/
  groupBy : q.groupBy = r.groupBy
  /-- The condition on groups. -/
  having : q.having.SameForm r.having
  /-- The terms to sort by. -/
  orderBy : q.orderBy = r.orderBy
  /-- How many rows are wanted. -/
  limit : q.limit = r.limit

theorem Tables.SameForm.apply {t u : Tables} (h : t.SameForm u) {e e' : Tables.Edit}
    (he : e.SameForm e') : (t.apply e).SameForm (u.apply e') := by
  obtain ⟨hinner, hleft, hon⟩ := h
  cases he with
  | join target => exact ⟨congrArg (TableSet.declare · _) hinner, hleft, hon⟩
  | leftJoin target => exact ⟨hinner, congrArg (TableSet.declare · _) hleft, hon⟩
  | on hc => exact ⟨hinner, hleft, hon.apply (.and hc)⟩

namespace Source

variable {s s' : Source}

theorem SameForm.render (h : s.SameForm s') (d : Dialect) : s.render d = s'.render d := by
  cases h with
  | table name => rfl
  | joined h => rw [Source.render, Source.render, Tables.render, Tables.render, h.inner, h.left]

theorem SameForm.on (h : s.SameForm s') : s.on.SameForm s'.on := by
  cases h with
  | table name => exact .empty
  | joined h => exact h.on

end Source

namespace Select

variable {q r : Select}

/-- A call of the same form keeps queries of the same form. -/
theorem SameForm.apply (h : q.SameForm r) {e e' : Edit} (he : e.SameForm e') :
    (q.apply e).SameForm (r.apply e') := by
  obtain ⟨hsource, hprojection, hfilter, hgroupBy, hhaving, horderBy, hlimit⟩ := h
  cases he with
  | filter he =>
    exact ⟨hsource, hprojection, hfilter.apply he, hgroupBy, hhaving, horderBy, hlimit⟩
  | having hc =>
    exact ⟨hsource, hprojection, hfilter, hgroupBy, hhaving.replace hc, horderBy, hlimit⟩
  | same e =>
    cases e with
    | project entries => exact ⟨hsource, rfl, hfilter, hgroupBy, hhaving, horderBy, hlimit⟩
    | count => exact ⟨hsource, rfl, hfilter, hgroupBy, hhaving, horderBy, hlimit⟩
    | filter e =>
      exact ⟨hsource, hprojection, hfilter.apply (.refl e), hgroupBy, hhaving, horderBy, hlimit⟩
    | groupBy paths => exact ⟨hsource, hprojection, hfilter, rfl, hhaving, horderBy, hlimit⟩
    | having c =>
      have hreplaced := hhaving.replace (sameForm_option_refl c)
      exact ⟨hsource, hprojection, hfilter, hgroupBy, hreplaced, horderBy, hlimit⟩
    | clearHaving => exact ⟨hsource, hprojection, hfilter, hgroupBy, .empty, horderBy, hlimit⟩
    | orderBy terms => exact ⟨hsource, hprojection, hfilter, hgroupBy, hhaving, rfl, hlimit⟩
    | limit l => exact ⟨hsource, hprojection, hfilter, hgroupBy, hhaving, horderBy, rfl⟩

theorem SameForm.template (h : q.SameForm r) (d : Dialect) :
    (q.template d).SameForm (r.template d) := by
  rw [Select.template, Select.template, h.projection, h.source.render d, h.groupBy, h.orderBy,
    h.limit]
  refine .append (.append (.append (.append (.append (.append (.refl _) ?_) ?_) (.refl _)) ?_)
    (.refl _)) (.refl _)
  · exact h.source.on.clause d " ON "
  · exact h.filter.clause d " WHERE "
  · exact h.having.clause d " HAVING "

end Select

/-! ## Commands that change a table -/

/-- The same call with records; those to change a row with are both empty or both filled. -/
inductive Insert.Edit.SameForm : Insert.Edit → Insert.Edit → Prop
  | values (p p' : Payload) : SameForm (.values p) (.values p')
  | orUpdate {p p' : Payload}
      (h : (RecordSlot.ofPayload p).isFilled = (RecordSlot.ofPayload p').isFilled) :
    SameForm (.orUpdate p) (.orUpdate p')

/-- `INSERT`s into the same table, both of which change a row that is there, or none. -/
structure Insert.SameForm (c e : Insert) : Prop where
  /-- The table. -/
  table : c.table = e.table
  /-- Whether a row that is there is changed. -/
  onDuplicate : c.onDuplicate.isFilled = e.onDuplicate.isFilled

/-- The same call with records, or with conditions of the same form. -/
inductive Update.Edit.SameForm : Update.Edit → Update.Edit → Prop
  | set (p p' : Payload) : SameForm (.set p) (.set p')
  | filter {e e' : Filter.Edit} (h : e.SameForm e') : SameForm (.filter e) (.filter e')

/-- `UPDATE`s of the same table with conditions of the same form. -/
structure Update.SameForm (c e : Update) : Prop where
  /-- The table. -/
  table : c.table = e.table
  /-- The condition on rows. -/
  filter : c.filter.SameForm e.filter

/-- `DELETE`s from the same table with conditions of the same form. -/
structure Delete.SameForm (c e : Delete) : Prop where
  /-- The table. -/
  table : c.table = e.table
  /-- The condition on rows. -/
  filter : c.filter.SameForm e.filter

theorem RecordSlot.sameForm_hole (r r' : RecordSlot) : r.hole.SameForm r'.hole :=
  .hole recordField r.toJson r'.toJson

theorem Insert.SameForm.apply {c c' : Insert} (h : c.SameForm c') {e e' : Insert.Edit}
    (he : e.SameForm e') : (c.apply e).SameForm (c'.apply e') := by
  cases he with
  | values p p' => exact ⟨h.table, h.onDuplicate⟩
  | orUpdate hfilled => exact ⟨h.table, hfilled⟩

theorem Insert.SameForm.template {c c' : Insert} (h : c.SameForm c') (d : Dialect) :
    (c.template d).SameForm (c'.template d) := by
  rw [Insert.template, Insert.template, h.table, h.onDuplicate]
  refine .append (.cons (.text _) (.cons (c.record.sameForm_hole c'.record) .nil)) ?_
  split
  · exact .cons (.text _) (.cons (c.onDuplicate.sameForm_hole c'.onDuplicate) .nil)
  · exact .nil

theorem Update.SameForm.apply {c c' : Update} (h : c.SameForm c') {e e' : Update.Edit}
    (he : e.SameForm e') : (c.apply e).SameForm (c'.apply e') := by
  cases he with
  | set p p' => exact ⟨h.table, h.filter⟩
  | filter he => exact ⟨h.table, h.filter.apply he⟩

theorem Update.SameForm.template {c c' : Update} (h : c.SameForm c') (d : Dialect) :
    (c.template d).SameForm (c'.template d) := by
  rw [Update.template, Update.template, h.table]
  exact .append (.cons (.text _) (.cons (c.record.sameForm_hole c'.record) .nil))
    (h.filter.clause d " WHERE ")

theorem Delete.SameForm.apply {c c' : Delete} (h : c.SameForm c') {e e' : Filter.Edit}
    (he : e.SameForm e') : (c.apply e).SameForm (c'.apply e') := ⟨h.table, h.filter.apply he⟩

theorem Delete.SameForm.template {c c' : Delete} (h : c.SameForm c') (d : Dialect) :
    (c.template d).SameForm (c'.template d) := by
  rw [Delete.template, Delete.template, h.table]
  exact .cons (.text _) (h.filter.clause d " WHERE ")

end BoundSql
