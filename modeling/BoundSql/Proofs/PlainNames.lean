import BoundSql.Command.Chain
import BoundSql.Proofs.ConditionTree
import BoundSql.Proofs.RenderedNames

/-!
# Plain names

The names in a command are *plain* if none of them has a colon and the columns that are compared are
called by word characters only. The second demand is the stronger one, and it is made only of names
that are written again in placeholders.

Plainness is asked of what callers write, and it is a property of single calls: each call that
brings plain names along keeps a command plain. So a command that is built by a chain of such calls
(`Chain.Plain`) is plain, in whatever order its clauses were set.
-/

namespace BoundSql

/-! ## Plain commands -/

/-- A comparison between plainly named columns. The name of the compared column is written again in
a placeholder, and so it is a word. -/
structure Comparison.Plain (t : Comparison) : Prop where
  /-- The name of the column is a word. -/
  name : WordName t.column.name
  /-- The path of the column has no colon. -/
  column : ColonFree t.column.path
  /-- Another column that it is compared with has none either. -/
  operand : ∀ other, t.operand = .column other → ColonFree other.path

/-- A condition on plainly named columns. -/
def Condition.Plain (c : Condition) : Prop := ∀ t ∈ c.leaves, t.Plain

/-- A filter on plainly named columns. -/
def Filter.Plain (f : Filter) : Prop := ∀ c ∈ f.condition, c.Plain

/-- A join of plainly named tables. -/
structure Tables.Plain (t : Tables) : Prop where
  /-- The tables of the inner join. -/
  inner : ∀ u ∈ t.inner, u.ColonFree
  /-- The tables of the left join. -/
  left : ∀ u ∈ t.left, u.ColonFree
  /-- What ties them. -/
  on : t.on.Plain

/-- A plainly named table or a join of such tables. -/
def Source.Plain : Source → Prop
  | .table name => ColonFree name
  | .joined tables => tables.Plain

/-- A query with plain names only. -/
structure Select.Plain (q : Select) : Prop where
  /-- Where it reads from. -/
  source : q.source.Plain
  /-- The entries of the `SELECT` list. -/
  projection : ∀ e ∈ q.projection, ColonFree e
  /-- The condition on rows. -/
  filter : q.filter.Plain
  /-- The columns to group by. -/
  groupBy : ∀ p ∈ q.groupBy, ColonFree p
  /-- The condition on groups. -/
  having : q.having.Plain
  /-- The terms to sort by. -/
  orderBy : ∀ t ∈ q.orderBy, ColonFree t.field

/-- An `UPDATE` with plain names only. -/
structure Update.Plain (c : Update) : Prop where
  /-- The table. -/
  table : ColonFree c.table
  /-- The condition on rows. -/
  filter : c.filter.Plain

/-- A `DELETE` with plain names only. -/
structure Delete.Plain (c : Delete) : Prop where
  /-- The table. -/
  table : ColonFree c.table
  /-- The condition on rows. -/
  filter : c.filter.Plain

/-! ## Plain calls -/

namespace Condition

theorem Plain.and {a b : Condition} (ha : a.Plain) (hb : b.Plain) : (a.and b).Plain := by
  intro t ht
  obtain ⟨p, hp, htp⟩ := mem_leaves_all.mp ht
  rcases List.mem_pair.mp hp with rfl | rfl
  · exact ha t htp
  · exact hb t htp

theorem Plain.or {a b : Condition} (ha : a.Plain) (hb : b.Plain) : (a.or b).Plain := by
  intro t ht
  obtain ⟨p, hp, htp⟩ := mem_leaves_any.mp ht
  rcases List.mem_pair.mp hp with rfl | rfl
  · exact ha t htp
  · exact hb t htp

end Condition

namespace Filter

/-- The condition that a call brings along. -/
def Edit.condition? : Edit → Option Condition
  | .filter c => c
  | .and c => c
  | .or c => c
  | .not c => c
  | .clear => none

/-- A call with a plain condition. -/
def Edit.Plain (e : Edit) : Prop := ∀ c ∈ e.condition?, c.Plain

theorem plain_none : Plain {} := fun _ hc ↦ nomatch hc

theorem Plain.replace {f : Filter} (h : f.Plain) {c : Option Condition}
    (hc : ∀ p ∈ c, p.Plain) : (f.replace c).Plain := by
  cases c with
  | none => exact h
  | some c => exact hc

theorem Plain.combine {join : Condition → Condition → Condition}
    (hjoin : ∀ {a b : Condition}, a.Plain → b.Plain → (join a b).Plain) {f : Filter} (h : f.Plain)
    {c : Option Condition} (hc : ∀ p ∈ c, p.Plain) : (f.combine join c).Plain := by
  obtain ⟨condition⟩ := f
  cases c with
  | none => exact h
  | some c =>
    cases condition with
    | none => exact hc
    | some prior =>
      intro p hp
      rw [← Option.some.inj hp]
      exact hjoin (h prior rfl) (hc c rfl)

theorem Plain.apply {f : Filter} (h : f.Plain) {e : Edit} (he : e.Plain) : (f.apply e).Plain := by
  cases e with
  | filter c => exact h.replace he
  | and c => exact Plain.combine Condition.Plain.and h he
  | or c => exact Plain.combine Condition.Plain.or h he
  | not c =>
    have hnegated : ∀ p ∈ c.map Condition.negated, p.Plain := by
      intro p hp
      obtain ⟨part, hpart, rfl⟩ := Option.map_eq_some_iff.mp hp
      exact he part hpart
    exact Plain.combine Condition.Plain.and h hnegated
  | clear => exact plain_none

end Filter

theorem TableSet.mem_declare {s : TableSet} {u v : TableUse} (h : v ∈ s.declare u) :
    v = u ∨ v ∈ s := by
  induction s with
  | nil => exact .inl (List.mem_singleton.mp h)
  | cons w s ih =>
    rw [declare] at h
    split at h
    · exact (List.mem_cons.mp h).imp_right (List.mem_cons_of_mem _)
    · rcases List.mem_cons.mp h with rfl | htail
      · exact .inr List.mem_cons_self
      · exact (ih htail).imp_right (List.mem_cons_of_mem _)

namespace Tables

/-- A call that names a table plainly or has a plain condition. -/
def Edit.Plain : Edit → Prop
  | .join target => ColonFree target
  | .leftJoin target => ColonFree target
  | .on c => ∀ p ∈ c, p.Plain

private theorem colonFree_declare {s : TableSet} (hs : ∀ u ∈ s, u.ColonFree) {target : String}
    (htarget : ColonFree target) : ∀ u ∈ s.declare (.parse target), u.ColonFree := by
  intro u hu
  rcases TableSet.mem_declare hu with hparse | hmem
  · -- rewritten and not substituted, which would evaluate `parse`
    rw [hparse]
    exact TableUse.colonFree_parse htarget
  · exact hs u hmem

theorem Plain.apply {t : Tables} (h : t.Plain) {e : Edit} (he : e.Plain) : (t.apply e).Plain := by
  cases e with
  | join target =>
    have hinner : ∀ u ∈ t.inner.declare (.parse target), u.ColonFree :=
      colonFree_declare h.inner he
    exact { h with inner := hinner }
  | leftJoin target =>
    have hleft : ∀ u ∈ t.left.declare (.parse target), u.ColonFree :=
      colonFree_declare h.left he
    exact { h with left := hleft }
  | on c =>
    have hand : Filter.Edit.Plain (.and c) := he
    exact { h with on := h.on.apply hand }

/-- A run: a join that is added to by calls with plain names stays plain. -/
theorem Plain.foldl_apply {t : Tables} (h : t.Plain) {edits : List Edit}
    (he : ∀ e ∈ edits, e.Plain) : (edits.foldl Tables.apply t).Plain :=
  List.foldlRecOn edits Tables.apply h fun _ ht e hmem ↦ ht.apply (he e hmem)

/-- A start with a plain alias, or with another table that is named plainly. -/
def Start.Plain : Start → Prop
  | .alias name => ColonFree name
  | .join target => ColonFree target
  | .leftJoin target => ColonFree target

private theorem plain_untied {inner left : TableSet} (hinner : ∀ u ∈ inner, u.ColonFree)
    (hleft : ∀ u ∈ left, u.ColonFree) : Plain { inner, left } := ⟨hinner, hleft, Filter.plain_none⟩

theorem Start.Plain.tables {start : Start} (h : start.Plain) {table : String}
    (htable : ColonFree table) : (start.tables table).Plain := by
  have hbare : ∀ u ∈ [TableUse.bare table], u.ColonFree :=
    List.forall_mem_singleton.mpr ⟨htable, htable⟩
  have hnone : ∀ u ∈ ([] : TableSet), u.ColonFree := fun _ hu ↦ nomatch hu
  rcases start with name | target | target
  · have halias : ∀ u ∈ [TableUse.mk name table], u.ColonFree :=
      List.forall_mem_singleton.mpr ⟨htable, h⟩
    exact plain_untied halias hnone
  · exact plain_untied (colonFree_declare hbare h) hnone
  · have hparse : (TableUse.parse target).ColonFree := TableUse.colonFree_parse h
    exact plain_untied hbare (List.forall_mem_singleton.mpr hparse)

end Tables

/-- A term to sort by whose field is named plainly, or that a text without a colon describes. -/
inductive OrderTerm.Plain : OrderTerm → Prop
  | field {t : OrderTerm} (h : ColonFree t.field) : Plain t
  | parse {s : String} (h : ColonFree s) : Plain (.parse s)

theorem OrderTerm.Plain.colonFree_field {t : OrderTerm} (h : t.Plain) : ColonFree t.field := by
  cases h with
  | field h => exact h
  | parse h => exact h.of_subset (field_parse_subset _)

namespace Select

/-- A call with plain names. -/
def Edit.Plain : Edit → Prop
  | .project entries => ∀ e ∈ entries, ColonFree e
  | .filter e => e.Plain
  | .groupBy paths => ∀ p ∈ paths, ColonFree p
  | .having c => ∀ p ∈ c, p.Plain
  | .orderBy terms => ∀ t ∈ terms, t.Plain
  | _ => True

/-- One step: a call with plain names keeps a query plain. -/
theorem Plain.apply {q : Select} (h : q.Plain) {e : Edit} (he : e.Plain) : (q.apply e).Plain := by
  cases e with
  | project entries => exact { h with projection := he }
  | count =>
    have hcount : ∀ e ∈ [countColumn], ColonFree e := by decide
    exact { h with projection := hcount }
  | filter e => exact { h with filter := h.filter.apply he }
  | groupBy paths => exact { h with groupBy := he }
  | having c => exact { h with having := h.having.replace he }
  | clearHaving => exact { h with having := Filter.plain_none }
  | orderBy terms => exact { h with orderBy := fun t ht ↦ (he t ht).colonFree_field }
  | limit l => exact { h with }

/-- A run: a query that is built by calls with plain names is plain. -/
theorem Plain.foldl_apply {q : Select} (h : q.Plain) {edits : List Edit}
    (he : ∀ e ∈ edits, e.Plain) : (edits.foldl Select.apply q).Plain :=
  List.foldlRecOn edits Select.apply h fun _ hq e hmem ↦ hq.apply (he e hmem)

/-- A query on a plain source is plain before any call. -/
theorem plain_of_source {source : Source} (h : source.Plain) : Plain { source } where
  source := h
  projection := fun _ hentry ↦ nomatch hentry
  filter := Filter.plain_none
  groupBy := fun _ hpath ↦ nomatch hpath
  having := Filter.plain_none
  orderBy := fun _ hterm ↦ nomatch hterm

end Select

/-- No call changes the table of an `INSERT`. -/
theorem Insert.table_foldl (c : Insert) (edits : List Edit) :
    (edits.foldl apply c).table = c.table := by
  induction edits generalizing c with
  | nil => rfl
  | cons e es ih =>
    have hstep : (c.apply e).table = c.table := by cases e <;> rfl
    rw [List.foldl_cons, ih, hstep]

/-- A call that sets any record or has a plain condition. -/
def Update.Edit.Plain : Update.Edit → Prop
  | .set _ => True
  | .filter e => e.Plain

theorem Update.Plain.apply {c : Update} (h : c.Plain) {e : Edit} (he : e.Plain) :
    (c.apply e).Plain := by
  cases e with
  | set p => exact { h with }
  | filter e => exact { h with filter := h.filter.apply he }

theorem Update.Plain.foldl_apply {c : Update} (h : c.Plain) {edits : List Edit}
    (he : ∀ e ∈ edits, e.Plain) : (edits.foldl Update.apply c).Plain :=
  List.foldlRecOn edits Update.apply h fun _ hc e hmem ↦ hc.apply (he e hmem)

theorem Delete.Plain.apply {c : Delete} (h : c.Plain) {e : Filter.Edit} (he : e.Plain) :
    (c.apply e).Plain := { h with filter := h.filter.apply he }

theorem Delete.Plain.foldl_apply {c : Delete} (h : c.Plain) {edits : List Filter.Edit}
    (he : ∀ e ∈ edits, e.Plain) : (edits.foldl Delete.apply c).Plain :=
  List.foldlRecOn edits Delete.apply h fun _ hc e hmem ↦ hc.apply (he e hmem)

/-! ## Plain chains -/

/-- A chain of calls that name everything plainly. -/
def Chain.Plain : Chain → Prop
  | .select table calls => ColonFree table ∧ ∀ e ∈ calls, e.Plain
  | .join table start joins calls =>
    ColonFree table ∧ start.Plain ∧ (∀ e ∈ joins, e.Plain) ∧ ∀ e ∈ calls, e.Plain
  | .insert table _ => ColonFree table
  | .update table calls => ColonFree table ∧ ∀ e ∈ calls, e.Plain
  | .delete table calls => ColonFree table ∧ ∀ e ∈ calls, e.Plain

end BoundSql
