import BoundSql.Proofs.BoundValues
import BoundSql.Proofs.PlainNames

/-!
# Statements shown with their values

A statement that is logged is shown with its values: its text is searched for placeholders. For the
reader this should be the statement as it would have been written with literals in the first place,
and for commands with plain names it is. Values may be anything, since they are not searched.

Plain names make the template of a command legible, clause by clause. The first text of a command
stands alone, and each clause after it begins with a blank, so it ends a placeholder before it and
no clause has to know which one that is.
-/

namespace BoundSql

/-! ## Legible conditions -/

namespace Template

theorem legible_text {s : String} (h : ColonFree s) : Legible [.text s] := ⟨h, trivial⟩

theorem legible_grouped {t : Template} (h : Legible t) : Legible (grouped t) := by
  have hclose : Separate [.text " )"] := ⟨by decide, by decide⟩
  rw [grouped, List.cons_append]
  exact ⟨by decide, legible_append h hclose (legible_text (by decide))⟩

theorem legible_joined {separator : String} (hsep : ColonFree separator)
    (hbreak : Separate [.text separator]) {ts : List Template} (h : ∀ t ∈ ts, Legible t) :
    Legible (joined separator ts) := by
  induction ts with
  | nil => trivial
  | cons t ts ih =>
    have ht : Legible t := h t List.mem_cons_self
    have hts : Legible (joined separator ts) := ih fun u hu ↦ h u (List.mem_cons_of_mem _ hu)
    cases ts with
    | nil => exact ht
    | cons u us => exact legible_append ht hbreak ⟨hsep, hts⟩

theorem legible_ofParts {separator empty : String} (hsep : ColonFree separator)
    (hbreak : Separate [.text separator]) (hempty : ColonFree empty) {ts : List Template}
    (h : ∀ t ∈ ts, Legible t) : Legible (ofParts separator empty ts) := by
  rw [ofParts]
  refine legible_grouped ?_
  split
  · exact legible_text hempty
  · exact legible_joined hsep hbreak h

end Template

open Template

theorem Comparison.legible_around {column : String} (hcolumn : ColonFree column) (op : CompareOp)
    {rhs : Template} (hrhs : Legible rhs) : Legible (around column op rhs) := by
  by_cases hop : op = .oneOf
  · have hclose : Separate [.text ")"] := ⟨by decide, by decide⟩
    rw [hop, around_oneOf, List.cons_append]
    exact ⟨colonFree_append.mpr ⟨hcolumn, by decide⟩,
      legible_append hrhs hclose (legible_text (by decide))⟩
  · have hsymbol : ColonFree op.symbol := by cases op <;> decide
    rw [around_of_ne_oneOf hop, Legible, colonFree_append, colonFree_append, colonFree_append]
    exact ⟨⟨⟨⟨hcolumn, by decide⟩, hsymbol⟩, by decide⟩, hrhs⟩

theorem Comparison.Plain.legible_template {t : Comparison} (h : t.Plain) :
    Legible (t.template .mysql) := by
  have hcolumn : ColonFree (t.column.render .mysql) := colonFree_renderPath h.column
  rcases hbinding : t.binding? with _ | e
  · rcases template_of_binding?_eq_none hbinding with htext | htext | ⟨other, hother, htext⟩
    · rw [htext]
      exact legible_text (colonFree_append.mpr ⟨hcolumn, by decide⟩)
    · rw [htext]
      exact legible_text (colonFree_append.mpr ⟨hcolumn, by decide⟩)
    · rw [htext]
      exact legible_around hcolumn _ (legible_text (colonFree_renderPath (h.operand other hother)))
  · rw [(template_of_binding?_eq_some hbinding).2]
    exact legible_around hcolumn _ ⟨h.name, trivial, trivial⟩

/-- The template of a plain condition is legible. -/
theorem Condition.Plain.legible_template {c : Condition} (h : c.Plain) :
    Legible (c.template .mysql) := by
  induction c with
  | all parts ih =>
    rw [template_all]
    refine legible_ofParts (by decide) ⟨by decide, by decide⟩ (by decide) fun t ht ↦ ?_
    obtain ⟨p, hp, rfl⟩ := List.mem_map.mp ht
    exact ih p hp fun test htest ↦ h test (mem_leaves_all.mpr ⟨p, hp, htest⟩)
  | any parts ih =>
    rw [template_any]
    refine legible_ofParts (by decide) ⟨by decide, by decide⟩ (by decide) fun t ht ↦ ?_
    obtain ⟨p, hp, rfl⟩ := List.mem_map.mp ht
    exact ih p hp fun test htest ↦ h test (mem_leaves_any.mpr ⟨p, hp, htest⟩)
  | negated part ih =>
    rw [template]
    exact legible_grouped ⟨by decide, ih h⟩
  | compare test =>
    rw [template]
    exact legible_grouped (h test List.mem_cons_self).legible_template

/-! ## Legible commands -/

/-- A clause that can be put after any other one. -/
structure LegibleClause (t : Template) : Prop where
  /-- It ends a placeholder before it. -/
  separate : Separate t
  /-- Its own holes can be found. -/
  legible : Legible t

theorem LegibleClause.after {s t : Template} (ht : LegibleClause t) (hs : Legible s) :
    Legible (s ++ t) := legible_append hs ht.separate ht.legible

theorem Filter.Plain.legibleClause {f : Filter} (h : f.Plain) {keyword : String}
    (hbreak : Separate [.text keyword]) (hkeyword : ColonFree keyword) :
    LegibleClause (f.clause .mysql keyword) := by
  obtain ⟨condition⟩ := f
  cases condition with
  | none => exact ⟨trivial, trivial⟩
  | some c => exact ⟨hbreak, hkeyword, (h c rfl).legible_template⟩

theorem Select.legibleClause_listClause {α : Type} {keyword : String} {render : List α → String}
    {items : List α} (hbreak : Separate [.text keyword]) (hkeyword : ColonFree keyword)
    (h : ColonFree (render items)) : LegibleClause (listClause keyword render items) := by
  rw [listClause]
  split
  · exact ⟨trivial, trivial⟩
  · exact ⟨separate_text_append hbreak _ _, legible_text (colonFree_append.mpr ⟨hkeyword, h⟩)⟩

theorem Source.Plain.on {s : Source} (h : s.Plain) : s.on.Plain := by
  cases s with
  | table name => exact fun c hc ↦ nomatch hc
  | joined tables => exact Tables.Plain.on h

theorem Source.Plain.colonFree_render {s : Source} (h : s.Plain) :
    ColonFree (s.render .mysql) := by
  cases s with
  | table name => exact ColonFree.identifier h
  | joined tables => exact Tables.colonFree_render (Tables.Plain.inner h) (Tables.Plain.left h)

/-- The template of a plain query is legible. -/
theorem Select.Plain.legible_template {q : Select} (h : q.Plain) :
    Legible (q.template .mysql) := by
  have hhead : Legible [.text ("SELECT " ++ renderProjection .mysql q.projection ++ " FROM "
      ++ q.source.render .mysql)] := by
    refine legible_text ?_
    rw [colonFree_append, colonFree_append, colonFree_append]
    exact ⟨⟨⟨by decide, colonFree_renderProjection h.projection⟩, by decide⟩,
      h.source.colonFree_render⟩
  have hon : LegibleClause (q.source.on.clause .mysql " ON ") :=
    h.source.on.legibleClause ⟨by decide, by decide⟩ (by decide)
  have hfilter : LegibleClause (q.filter.clause .mysql " WHERE ") :=
    h.filter.legibleClause ⟨by decide, by decide⟩ (by decide)
  have hgroupBy : LegibleClause (listClause " GROUP BY " (renderGroupBy .mysql) q.groupBy) :=
    legibleClause_listClause ⟨by decide, by decide⟩ (by decide)
      (colonFree_renderGroupBy h.groupBy)
  have hhaving : LegibleClause (q.having.clause .mysql " HAVING ") :=
    h.having.legibleClause ⟨by decide, by decide⟩ (by decide)
  have horderBy : LegibleClause (listClause " ORDER BY " (renderOrderBy .mysql) q.orderBy) :=
    legibleClause_listClause ⟨by decide, by decide⟩ (by decide)
      (colonFree_renderOrderBy h.orderBy)
  have hlimit : LegibleClause
      (listClause " " (fun ls ↦ String.join (ls.map Limit.render)) q.limit.toList) :=
    legibleClause_listClause ⟨by decide, by decide⟩ (by decide) (colonFree_limits _)
  -- every clause may follow a placeholder of the clause before it, or of an earlier one
  exact hlimit.after (horderBy.after (hhaving.after (hgroupBy.after (hfilter.after
    (hon.after hhead)))))

theorem Insert.legible_template {c : Insert} (h : ColonFree c.table) :
    Legible (c.template .mysql) := by
  have hrecord : WordName recordField := by decide
  have hhead : Legible [.text ("INSERT INTO " ++ Dialect.mysql.identifier c.table ++ " SET "),
      c.record.hole] := by
    refine ⟨?_, hrecord, trivial, trivial⟩
    rw [colonFree_append, colonFree_append]
    exact ⟨⟨by decide, h.identifier⟩, by decide⟩
  rw [template]
  split
  · have hupdate : LegibleClause [.text " ON DUPLICATE KEY UPDATE ", c.onDuplicate.hole] :=
      ⟨⟨by decide, by decide⟩, by decide, hrecord, trivial, trivial⟩
    exact hupdate.after hhead
  · rwa [List.append_nil]

theorem Update.Plain.legible_template {c : Update} (h : c.Plain) :
    Legible (c.template .mysql) := by
  have hhead : Legible [.text ("UPDATE " ++ Dialect.mysql.identifier c.table ++ " SET "),
      c.record.hole] := by
    refine ⟨?_, by decide, trivial, trivial⟩
    rw [colonFree_append, colonFree_append]
    exact ⟨⟨by decide, h.table.identifier⟩, by decide⟩
  have hfilter : LegibleClause (c.filter.clause .mysql " WHERE ") :=
    h.filter.legibleClause ⟨by decide, by decide⟩ (by decide)
  exact hfilter.after hhead

theorem Delete.Plain.legible_template {c : Delete} (h : c.Plain) :
    Legible (c.template .mysql) := by
  have hfilter : LegibleClause (c.filter.clause .mysql " WHERE ") :=
    h.filter.legibleClause ⟨by decide, by decide⟩ (by decide)
  exact ⟨colonFree_append.mpr ⟨by decide, h.table.identifier⟩, hfilter.legible⟩

/-- The template of a command that is built by calls with plain names is legible. -/
theorem Chain.Plain.legible_template {c : Chain} (h : c.Plain) : Legible (c.template .mysql) := by
  cases c with
  | select table calls =>
    obtain ⟨htable, hcalls⟩ := h
    have hsource : Source.Plain (.table table) := htable
    exact ((Select.plain_of_source hsource).foldl_apply hcalls).legible_template
  | join table start joins calls =>
    obtain ⟨htable, hstart, hjoins, hcalls⟩ := h
    have htables : (joins.foldl Tables.apply (start.tables table)).Plain :=
      (hstart.tables htable).foldl_apply hjoins
    have hsource : Source.Plain (.joined (joins.foldl Tables.apply (start.tables table))) := htables
    exact ((Select.plain_of_source hsource).foldl_apply hcalls).legible_template
  | insert table calls =>
    have htable : ColonFree (calls.foldl Insert.apply { table }).table := by
      rw [Insert.table_foldl]
      exact h
    exact Insert.legible_template htable
  | update table calls =>
    obtain ⟨htable, hcalls⟩ := h
    have hstart : Update.Plain { table } := ⟨htable, Filter.plain_none⟩
    exact (hstart.foldl_apply hcalls).legible_template
  | delete table calls =>
    obtain ⟨htable, hcalls⟩ := h
    have hstart : Delete.Plain { table } := ⟨htable, Filter.plain_none⟩
    exact (hstart.foldl_apply hcalls).legible_template

/-! ## Showing a statement -/

/-- The statement of a legible template shows the literals of its values. -/
theorem Template.inlined_statement {d : Dialect} {t : Template} (ht : Legible t) :
    t.statement.inlined d = inline d t :=
  fillText_bind ht Bindings.sound_empty []

/-- Literals are one more choice of tokens. -/
theorem Template.inline_eq_withTokens {d : Dialect} {token : Nat → String} (t : Template) (k : Nat)
    (h : ∀ i < t.holes.length,
      token (k + i) = (t.holes.map fun e ↦ d.literal e.2).getD i "") :
    inline d t = withTokens token k t := by
  induction t generalizing k with
  | nil => rfl
  | cons f t ih =>
    cases f with
    | text s => rw [inline, withTokens, ih k h]
    | hole field value =>
      have hfirst : token k = d.literal value := h 0 (Nat.succ_pos _)
      have hrest : inline d t = withTokens token (k + 1) t := by
        refine ih _ fun i hi ↦ ?_
        rw [Nat.add_right_comm, Nat.add_assoc]
        exact h (i + 1) (Nat.succ_lt_succ hi)
      rw [inline, withTokens, hfirst, hrest]

theorem Condition.inline_template (d : Dialect) (c : Condition) :
    (c.template d).inline d
      = c.sql d (fun k ↦ (c.bound.map fun e ↦ d.literal e.2).getD k "") 0 := by
  rw [← withTokens_template]
  refine Template.inline_eq_withTokens _ _ fun i _ ↦ ?_
  rw [Nat.zero_add, holes_template]

/-- **What is shown is what was meant.** A condition with plain names that is compiled after any
values and shown after any further ones is its parenthesised rendering with the literals of its own
values, from left to right, and the statement of a plain command is shown as the command written
with literals. So is the statement of a command that is built by any chain of calls with plain
names. This holds for all values, also for texts that spell placeholders. -/
theorem shown_with_literals :
    (∀ (calls more : List (String × Json)) (c : Condition), c.Plain →
      let r := c.compile .mysql (Bindings.empty.bindAll calls)
      fillText .mysql (r.2.bindAll more) r.1
        = c.sql .mysql (fun k ↦ (c.bound.map fun e ↦ literal e.2).getD k "") 0) ∧
    (∀ q : Select, q.Plain →
      (q.statement .mysql).inlined .mysql = (q.template .mysql).inline .mysql) ∧
    (∀ c : Insert, ColonFree c.table →
      (c.statement .mysql).inlined .mysql = (c.template .mysql).inline .mysql) ∧
    (∀ c : Update, c.Plain →
      (c.statement .mysql).inlined .mysql = (c.template .mysql).inline .mysql) ∧
    (∀ c : Delete, c.Plain →
      (c.statement .mysql).inlined .mysql = (c.template .mysql).inline .mysql) ∧
    ∀ c : Chain, c.Plain →
      (c.statement .mysql).inlined .mysql = (c.template .mysql).inline .mysql := by
  refine ⟨?_, ?_, ?_, ?_, ?_, ?_⟩
  · intro calls more c hc r
    have hsound := Bindings.sound_bindAll_empty calls
    exact (fillText_bind hc.legible_template hsound more).trans (c.inline_template .mysql)
  · intro q hq
    exact inlined_statement hq.legible_template
  · intro c hc
    exact inlined_statement (c.legible_template hc)
  · intro c hc
    exact inlined_statement hc.legible_template
  · intro c hc
    exact inlined_statement hc.legible_template
  · intro c hc
    rw [c.statement_eq_template]
    exact inlined_statement hc.legible_template

/-- A query that compares two columns of like names with texts that spell each other's
placeholders. -/
def crossedQuery : Select where
  source := .table "t"
  filter := ⟨some (.all [
    .compare ⟨⟨none, "a"⟩, .equal, .value (.text ":__a___0")⟩,
    .compare ⟨⟨none, "a_"⟩, .equal, .value (.text ":__a__0")⟩])⟩

/-- A query on a join with a text that spells the placeholder of the value after it. -/
def crossedChain : Chain :=
  let name : Comparison := ⟨⟨some "u", "name"⟩, .equal, .value (.text ":__age__0")⟩
  let age : Comparison := ⟨⟨some "u", "age"⟩, .less, .value (.ofInt64 30)⟩
  .join "user" (.alias "u") [.leftJoin "city as c"]
    [.filter (.and (some (.compare name))), .orderBy [.parse "u.age desc"],
      .filter (.or (some (.compare age)))]

/-- Both queries are shown with the texts as they are. -/
theorem crossedQuery_shown :
    (crossedQuery.Plain ∧
      (crossedQuery.statement .mysql).inlined .mysql
        = "SELECT * FROM `t` WHERE ( ( `a` = ':__a___0' ) AND ( `a_` = ':__a__0' ) )") ∧
    crossedChain.Plain ∧
      (crossedChain.statement .mysql).inlined .mysql
        = "SELECT * FROM `user` AS `u` LEFT JOIN `city` AS `c` WHERE"
          ++ " ( ( `u`.`name` = ':__age__0' ) OR ( `u`.`age` < 30 ) ) ORDER BY `u`.`age` DESC" := by
  have htest (column : Column) (op : CompareOp) (v : Json) (hname : WordName column.name)
      (hpath : ColonFree column.path) : Comparison.Plain ⟨column, op, .value v⟩ :=
    ⟨hname, hpath, fun other hother ↦ nomatch hother⟩
  have hcompare {t : Comparison} (ht : t.Plain) :
      ∀ c ∈ some (Condition.compare t), c.Plain := by
    intro c hc
    rw [← Option.some.inj hc]
    exact List.forall_mem_singleton.mpr ht
  constructor
  · have htable : ColonFree "t" := by decide
    have hplain : crossedQuery.Plain := by
      refine ⟨htable, by decide, ?_, by decide, Filter.plain_none, by decide⟩
      intro c hc t ht
      rw [← Option.some.inj hc] at ht
      rcases List.mem_pair.mp ht with rfl | rfl
      · exact htest _ _ _ (by decide) (by decide)
      · exact htest _ _ _ (by decide) (by decide)
    refine ⟨hplain, (shown_with_literals.2.1 crossedQuery hplain).trans ?_⟩
    decide
  · have hplain : crossedChain.Plain := by
      have halias : ColonFree "u" := by decide
      have htarget : ColonFree "city as c" := by decide
      have hterm : (OrderTerm.parse "u.age desc").Plain := .parse (by decide)
      refine ⟨by decide, halias, List.forall_mem_singleton.mpr htarget, ?_⟩
      refine List.forall_mem_cons.mpr ⟨hcompare (htest _ _ _ (by decide) (by decide)), ?_⟩
      refine List.forall_mem_cons.mpr ⟨List.forall_mem_singleton.mpr hterm, ?_⟩
      exact List.forall_mem_singleton.mpr (hcompare (htest _ _ _ (by decide) (by decide)))
    refine ⟨hplain, (shown_with_literals.2.2.2.2.2 crossedChain hplain).trans ?_⟩
    decide +kernel

end BoundSql
