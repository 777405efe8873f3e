import BoundSql.Proofs.EntryGrammar
import BoundSql.Proofs.FilledPlaceholders
import BoundSql.Query.Select

/-!
# Rendered names

Names are what callers put into the text of a statement, and every colon that does not open a
placeholder comes from one of them. Quoting adds none, and neither do the keywords around the names.

What callers write is cut into names first, and cutting only drops characters: the names in an entry
of a `SELECT` list, in a table with its alias and in a term of an `ORDER BY` list have no character
that the caller's text does not have. So it is enough to ask the callers' texts to be free of
colons.
-/

namespace BoundSql

/-! ## Cutting drops characters -/

namespace Text

theorem trim_subset (cs : List Char) : trim cs ⊆ cs :=
  List.Subset.trans (dropEnd_isPrefix isBlank _).subset (List.dropWhile_subset _)

/-- What stands before the last word and the blanks in front of it. -/
theorem trimEnd_beforeLastWord_subset (cs : List Char) : trimEnd (beforeLastWord cs) ⊆ cs :=
  List.Subset.trans (dropEnd_isPrefix isBlank _).subset (dropEnd_isPrefix isInk _).subset

end Text

open Text

theorem Naming.name_subset_text (n : Naming) : n.name.text ⊆ n.text := by
  intro c hc
  simp [text, hc]

theorem splitAlias?_subset {cs target name : List Char} (h : splitAlias? cs = some (target, name)) :
    target ⊆ cs ∧ name ⊆ cs := by
  obtain ⟨-, -, n, rfl, rfl⟩ := Naming.exists_naming h
  have hname := List.Subset.trans n.name_subset_text (List.subset_append_right target _)
  exact ⟨List.subset_append_left _ _, hname⟩

theorem splitDot?_subset {cs table name : List Char} (h : splitDot? cs = some (table, name)) :
    table ⊆ cs ∧ name ⊆ cs := by
  rw [splitDot?] at h
  split at h
  · cases h
  · next dot after hafter =>
    obtain ⟨rfl, rfl⟩ := Prod.mk.inj (Option.some.inj h)
    have hrest : dot :: after ⊆ cs := hafter ▸ List.dropWhile_subset _
    exact ⟨List.takeWhile_subset _, List.Subset.trans (List.subset_cons_self _ _) hrest⟩

theorem Call.path_subset_text (c : Call) : c.argument.path.text ⊆ c.text := by
  intro x hx
  simp [text, CallArgument.text, hx]

/-- The names in an entry of a `SELECT` list. -/
def Selected.names : Selected → List String
  | star => []
  | countStar => []
  | field path => [path]
  | aliased path name => [path, name]
  | aggregate _ _ path name => [path, name]

private theorem Selected.names_ofTrimmed_subset {cs : List Char} {name : String}
    (h : name ∈ (ofTrimmed cs).names) : name.toList ⊆ cs := by
  -- an entry with an alias has two names, both cut out of the text
  have hpair {p n : List Char} (hp : p ⊆ cs) (hn : n ⊆ cs)
      (hname : name ∈ [String.ofList p, String.ofList n]) : name.toList ⊆ cs := by
    rcases List.mem_pair.mp hname with rfl | rfl
    · rwa [String.toList_ofList]
    · rwa [String.toList_ofList]
  cases means_ofTrimmed cs with
  | star _ he | countStar _ he =>
    rw [he] at h
    cases h
  | aggregate form hform he =>
    obtain ⟨htarget, hname⟩ := splitAlias?_subset (hform ▸ form.splitAlias?_text)
    rw [he] at h
    exact hpair (List.Subset.trans form.call.path_subset_text htarget) hname h
  | aliased form hform _ he =>
    obtain ⟨htarget, hname⟩ := splitAlias?_subset (hform ▸ form.splitAlias?_text)
    rw [he] at h
    exact hpair htarget hname h
  | field _ _ he =>
    rw [he] at h
    rw [List.mem_singleton.mp h, String.toList_ofList]
    exact List.Subset.refl _

/-- The names in an entry have no other characters than the text of the caller. -/
theorem Selected.names_parse_subset {s name : String} (h : name ∈ (parse s).names) :
    name.toList ⊆ s.toList :=
  List.Subset.trans (names_ofTrimmed_subset h) (trim_subset _)

theorem tableAndAlias_subset (target : String) :
    (tableAndAlias target).1.toList ⊆ target.toList ∧
      (tableAndAlias target).2.toList ⊆ target.toList := by
  have htrim := trim_subset target.toList
  rw [tableAndAlias]
  split
  · next table name hsplit =>
    obtain ⟨htable, hname⟩ := splitAlias?_subset hsplit
    split
    · rw [String.toList_ofList, String.toList_ofList]
      exact ⟨List.Subset.trans htable htrim, List.Subset.trans hname htrim⟩
    · rw [String.toList_ofList]
      exact ⟨htrim, htrim⟩
  · rw [String.toList_ofList]
    exact ⟨htrim, htrim⟩

/-- The field of a sort term has no other characters than the text of the caller. -/
theorem OrderTerm.field_parse_subset (s : String) : (parse s).field.toList ⊆ s.toList := by
  have htrim := trim_subset s.toList
  rw [parse]
  split
  · split
    · rwa [String.toList_ofList]
    · rw [String.toList_ofList]
      exact List.Subset.trans (trimEnd_beforeLastWord_subset _) htrim
  · rwa [String.toList_ofList]

/-! ## Text without colons -/

section ColonFree

variable {s t : String}

theorem ColonFree.of_subset (hs : ColonFree s) (h : t.toList ⊆ s.toList) : ColonFree t :=
  fun hc ↦ hs (h hc)

@[simp] theorem colonFree_append : ColonFree (s ++ t) ↔ ColonFree s ∧ ColonFree t := by
  rw [ColonFree, String.toList_append, List.mem_append, not_or]
  rfl

theorem colonFree_intercalate {separator : String} {ss : List String} (hsep : ColonFree separator)
    (h : ∀ s ∈ ss, ColonFree s) : ColonFree (separator.intercalate ss) := by
  induction ss with
  | nil => exact of_decide_eq_true rfl
  | cons s ss ih =>
    have hs : ColonFree s := h s List.mem_cons_self
    have hss := ih fun s' hs' ↦ h s' (List.mem_cons_of_mem _ hs')
    cases ss with
    | nil => rwa [String.intercalate_singleton]
    | cons s' ss =>
      rw [String.intercalate_cons_cons]
      exact colonFree_append.mpr ⟨colonFree_append.mpr ⟨hs, hsep⟩, hss⟩

theorem colonFree_join {ss : List String} (h : ∀ s ∈ ss, ColonFree s) :
    ColonFree (String.join ss) := by
  induction ss with
  | nil => exact of_decide_eq_true rfl
  | cons s ss ih =>
    rw [String.join_cons, colonFree_append]
    exact ⟨h s List.mem_cons_self, ih fun s' hs' ↦ h s' (List.mem_cons_of_mem _ hs')⟩

theorem colonFree_repr (n : Nat) : ColonFree (Nat.repr n) := by
  intro hc
  rw [Nat.toList_repr] at hc
  have hdigit : Char.isDigit ':' = true := Nat.isDigit_of_mem_toDigits (by decide) (by decide) hc
  exact absurd hdigit (by decide)

/-- Quoting adds no colon. -/
theorem ColonFree.identifier (hs : ColonFree s) : ColonFree (Dialect.mysql.identifier s) := by
  have hmark : (':' : Char) ≠ identifierMark := by decide
  intro hc
  rw [show Dialect.mysql.identifier s = wrapDoubling identifierMark s from rfl, wrapDoubling,
    String.toList_ofList] at hc
  simp only [List.cons_append, List.mem_cons, List.mem_append, List.mem_flatMap, List.not_mem_nil,
    or_false] at hc
  rcases hc with hfirst | ⟨c, hmem, hdoubled⟩ | hlast
  · exact hmark hfirst
  · have hc : ':' = c := by
      split at hdoubled
      · simpa using hdoubled
      · simpa using hdoubled
    exact hs (hc ▸ hmem)
  · exact hmark hlast

end ColonFree

/-! ## Rendering adds no colon -/

theorem colonFree_renderName {name : String} (h : ColonFree name) :
    ColonFree (renderName .mysql name) := by
  rw [renderName]
  split
  · decide
  · exact h.identifier

theorem colonFree_renderPath {path : String} (h : ColonFree path) :
    ColonFree (renderPath .mysql path) := by
  rw [renderPath]
  split
  · next table name hsplit =>
    obtain ⟨htable, hname⟩ := splitDot?_subset hsplit
    have htable' : ColonFree (String.ofList table) :=
      h.of_subset (by rwa [String.toList_ofList])
    have hname' : ColonFree (String.ofList name) :=
      h.of_subset (by rwa [String.toList_ofList])
    rw [colonFree_append, colonFree_append]
    exact ⟨⟨htable'.identifier, by decide⟩, colonFree_renderName hname'⟩
  · exact colonFree_renderName h

theorem Selected.colonFree_render {e : Selected} (h : ∀ n ∈ e.names, ColonFree n) :
    ColonFree (e.render .mysql) := by
  cases e with
  | star => exact of_decide_eq_true rfl
  | countStar => exact of_decide_eq_true rfl
  | field path => exact colonFree_renderPath (h path List.mem_cons_self)
  | aliased path name =>
    have hpath := colonFree_renderPath (h path (by simp [names]))
    have hname := (h name (by simp [names])).identifier
    rw [render, colonFree_append, colonFree_append]
    exact ⟨⟨hpath, by decide⟩, hname⟩
  | aggregate f distinct path name =>
    have hpath := colonFree_renderPath (h path (by simp [names]))
    have hname := (h name (by simp [names])).identifier
    have hcall : ColonFree (f.name ++ "(" ++ if distinct then "DISTINCT " else "") := by
      cases f <;> cases distinct <;> decide
    rw [render, colonFree_append, colonFree_append, colonFree_append]
    exact ⟨⟨⟨hcall, hpath⟩, by decide⟩, hname⟩

/-- A caller's entry without a colon is rendered without one. -/
theorem colonFree_render_parse {entry : String} (h : ColonFree entry) :
    ColonFree ((Selected.parse entry).render .mysql) :=
  Selected.colonFree_render fun _ hn ↦ h.of_subset (Selected.names_parse_subset hn)

theorem colonFree_renderProjection {entries : List String} (h : ∀ e ∈ entries, ColonFree e) :
    ColonFree (renderProjection .mysql entries) := by
  rw [renderProjection]
  split
  · decide
  · refine colonFree_intercalate (by decide) fun s hs ↦ ?_
    obtain ⟨e, he, rfl⟩ := List.mem_map.mp hs
    exact colonFree_render_parse (h e he)

theorem colonFree_renderGroupBy {paths : List String} (h : ∀ p ∈ paths, ColonFree p) :
    ColonFree (renderGroupBy .mysql paths) := by
  refine colonFree_intercalate (by decide) fun s hs ↦ ?_
  obtain ⟨p, hp, rfl⟩ := List.mem_map.mp hs
  have htrim : (trimmed p).toList ⊆ p.toList := by
    rw [toList_trimmed]
    exact trim_subset _
  exact colonFree_renderPath ((h p hp).of_subset htrim)

theorem colonFree_renderOrderBy {terms : List OrderTerm} (h : ∀ t ∈ terms, ColonFree t.field) :
    ColonFree (renderOrderBy .mysql terms) := by
  refine colonFree_intercalate (by decide) fun s hs ↦ ?_
  obtain ⟨t, ht, rfl⟩ := List.mem_map.mp hs
  have hfield := colonFree_render_parse (h t ht)
  rw [OrderTerm.render]
  split
  · next direction _ =>
    have hkeyword : ColonFree direction.keyword := by cases direction <;> decide
    rw [colonFree_append, colonFree_append]
    exact ⟨⟨hfield, by decide⟩, hkeyword⟩
  · exact hfield

theorem Limit.colonFree_render (l : Limit) : ColonFree l.render := by
  cases l with
  | first count =>
    rw [render, colonFree_append]
    exact ⟨by decide, colonFree_repr _⟩
  | window offset count =>
    rw [render, colonFree_append, colonFree_append, colonFree_append]
    exact ⟨⟨⟨by decide, colonFree_repr _⟩, by decide⟩, colonFree_repr _⟩

theorem colonFree_limits (ls : List Limit) : ColonFree (String.join (ls.map Limit.render)) := by
  refine colonFree_join fun s hs ↦ ?_
  obtain ⟨l, -, rfl⟩ := List.mem_map.mp hs
  exact l.colonFree_render

/-- A table whose name and alias have no colon. -/
structure TableUse.ColonFree (u : TableUse) : Prop where
  /-- The table has none. -/
  table : BoundSql.ColonFree u.table
  /-- The alias has none. -/
  name : BoundSql.ColonFree u.name

/-- A caller's text without a colon describes a table and an alias without one. -/
theorem TableUse.colonFree_parse {target : String} (h : BoundSql.ColonFree target) :
    (parse target).ColonFree := by
  -- the pair is named, since `parse` would otherwise be evaluated to find its parts
  rcases hpair : tableAndAlias target with ⟨table, name⟩
  have hsubset := tableAndAlias_subset target
  rw [hpair] at hsubset
  rw [parse, hpair]
  exact ⟨h.of_subset hsubset.1, h.of_subset hsubset.2⟩

theorem TableUse.ColonFree.render {u : TableUse} (h : u.ColonFree) :
    BoundSql.ColonFree (u.render .mysql) := by
  rw [TableUse.render, colonFree_append, colonFree_append]
  exact ⟨⟨h.table.identifier, by decide⟩, h.name.identifier⟩

theorem TableSet.colonFree_render {keyword : String} (hkeyword : ColonFree keyword) {s : TableSet}
    (h : ∀ u ∈ s, u.ColonFree) : ColonFree (s.render keyword .mysql) := by
  refine colonFree_intercalate hkeyword fun text htext ↦ ?_
  obtain ⟨u, hu, rfl⟩ := List.mem_map.mp htext
  exact (h u hu).render

theorem Tables.colonFree_render {t : Tables} (hinner : ∀ u ∈ t.inner, u.ColonFree)
    (hleft : ∀ u ∈ t.left, u.ColonFree) : ColonFree (t.render .mysql) := by
  have hfront : ColonFree (t.inner.render " INNER JOIN " .mysql) :=
    TableSet.colonFree_render (by decide) hinner
  have hback : ColonFree (t.left.render leftKeyword .mysql) :=
    TableSet.colonFree_render (by decide) hleft
  rw [render]
  split
  · exact hfront
  · split
    · exact hback
    · rw [colonFree_append, colonFree_append]
      exact ⟨⟨hfront, by decide⟩, hback⟩

/-! ## The beginning of a column -/

/-- A column begins with the mark of identifiers or with the star, and never with the mark of
placeholders. -/
theorem Column.exists_toList_render_eq_cons (c : Column) :
    ∃ mark cs, (c.render .mysql).toList = mark :: cs ∧ mark ≠ ':' := by
  have hquoted (name : String) (s : String) :
      ∃ cs, (quoteIdentifier name ++ s).toList = identifierMark :: cs := by
    rw [String.toList_append, quoteIdentifier, wrapDoubling, String.toList_ofList]
    exact ⟨_, rfl⟩
  rw [render, renderPath]
  split
  · next table name _ =>
    obtain ⟨cs, hcs⟩ :=
      hquoted (String.ofList table) ("." ++ renderName .mysql (String.ofList name))
    refine ⟨identifierMark, cs, ?_, by decide⟩
    rw [String.append_assoc]
    exact hcs
  · rw [renderName]
    split
    · exact ⟨'*', [], rfl, by decide⟩
    · obtain ⟨cs, hcs⟩ := hquoted c.path ""
      exact ⟨identifierMark, cs, by rwa [String.append_empty] at hcs, by decide⟩

end BoundSql
