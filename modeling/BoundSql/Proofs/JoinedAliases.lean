import BoundSql.Query.Tables
import Mathlib.Data.List.Induction
import Mathlib.Data.List.Nodup

/-!
# Aliases of joined tables

A chain of calls starts a join and adds tables to it. Each kind of join keeps a list of its own, and
there an alias has one place at most: the place of its first use (`TableSet.aliases_foldl_declare`),
with the table of its last one (`TableSet.mem_foldl_declare`).

The two lists do not know of each other. An alias that is joined by both kinds stands in both, once
with the last table of each kind, and the text declares it twice. So the aliases of a join are told
apart exactly if none of them is joined by both kinds, and then each stands for the table that it
was joined with last.
-/

namespace BoundSql

/-! ## Tables declared one after the other -/

namespace TableSet

variable {s : TableSet} {u v : TableUse}

@[simp] theorem aliases_cons (u : TableUse) (us : List TableUse) :
    aliases (u :: us) = u.name :: aliases us := rfl

theorem aliases_declare (s : TableSet) (u : TableUse) :
    (s.declare u).aliases = if u.name ∈ s.aliases then s.aliases else s.aliases ++ [u.name] := by
  induction s with
  | nil => rfl
  | cons v vs ih =>
    rw [declare]
    by_cases h : v.name = u.name
    · simp [h]
    · rw [if_neg h, aliases_cons, ih, aliases_cons]
      by_cases hmem : u.name ∈ aliases vs <;> simp [hmem, Ne.symm h]

theorem nodup_aliases_declare (h : s.aliases.Nodup) : (s.declare u).aliases.Nodup := by
  rw [aliases_declare]
  split
  · exact h
  · next hfresh => exact List.nodup_append'.mpr ⟨h, List.nodup_singleton _, by simpa using hfresh⟩

/-- Declaring a use puts it in the place of the one with its alias. -/
theorem mem_declare_iff (h : s.aliases.Nodup) :
    v ∈ s.declare u ↔ v = u ∨ v ∈ s ∧ v.name ≠ u.name := by
  induction s with
  | nil => simp [declare]
  | cons w ws ih =>
    obtain ⟨hw, hws⟩ := List.nodup_cons.mp h
    rw [declare]
    by_cases hname : w.name = u.name
    · have hothers : v ∈ ws → v.name ≠ u.name := by
        intro hv hvu
        exact hw (List.mem_map.mpr ⟨v, hv, hvu.trans hname.symm⟩)
      rw [if_pos hname, List.mem_cons, List.mem_cons]
      constructor
      · rintro (rfl | hv)
        · exact .inl rfl
        · exact .inr ⟨.inr hv, hothers hv⟩
      · rintro (rfl | ⟨rfl | hv, hne⟩)
        · exact .inl rfl
        · exact absurd hname hne
        · exact .inr hv
    · have hkept : v = w → v.name ≠ u.name := fun hvw ↦ hvw ▸ hname
      rw [if_neg hname, List.mem_cons, List.mem_cons, ih hws]
      grind

/-- The use that an alias was given last. -/
def lastUse? (us : List TableUse) (name : String) : Option TableUse :=
  us.reverse.find? fun u ↦ u.name = name

theorem lastUse?_concat (us : List TableUse) (u : TableUse) (name : String) :
    lastUse? (us ++ [u]) name = if u.name = name then some u else lastUse? us name := by
  rw [lastUse?, List.reverse_concat, List.find?_cons]
  by_cases h : u.name = name <;> simp [h, lastUse?]

private theorem eraseDups_concat (names : List String) (name : String) :
    (names ++ [name]).eraseDups
      = if name ∈ names then names.eraseDups else names.eraseDups ++ [name] := by
  rw [List.eraseDups_append]
  by_cases h : name ∈ names <;> simp [List.removeAll, List.eraseDups_cons, h]

theorem mem_of_lastUse? {us : List TableUse} {name : String} (h : lastUse? us name = some u) :
    u ∈ us := List.mem_reverse.mp (List.mem_of_find?_eq_some h)

/-- The aliases keep the order in which they were used first. -/
theorem aliases_foldl_declare (us : List TableUse) :
    aliases (us.foldl declare []) = (us.map TableUse.name).eraseDups := by
  induction us using List.reverseRecOn with
  | nil => rfl
  | append_singleton us u ih =>
    simp only [List.foldl_concat, aliases_declare, ih, List.map_append, List.map_singleton,
      eraseDups_concat, List.mem_eraseDups]

theorem nodup_aliases_foldl_declare (us : List TableUse) :
    (aliases (us.foldl declare [])).Nodup := by
  induction us using List.reverseRecOn with
  | nil => exact List.nodup_nil
  | append_singleton us u ih =>
    rw [List.foldl_concat]
    exact nodup_aliases_declare ih

/-- Each alias keeps the use that it was given last. -/
theorem mem_foldl_declare (us : List TableUse) :
    v ∈ us.foldl declare [] ↔ lastUse? us v.name = some v := by
  induction us using List.reverseRecOn with
  | nil => simp [lastUse?]
  | append_singleton us u ih =>
    rw [List.foldl_concat, mem_declare_iff (nodup_aliases_foldl_declare us), ih, lastUse?_concat]
    by_cases h : u.name = v.name
    · simp [h, eq_comm]
    · have hne : v ≠ u := fun hvu ↦ h (congrArg TableUse.name hvu.symm)
      simp [h, hne, Ne.symm h]

end TableSet

/-! ## Calls that join tables -/

/-- The kinds of join. -/
inductive JoinKind where
  /-- Rows must come from the table. -/
  | inner
  /-- The table may have nothing for a row. -/
  | left
deriving DecidableEq

/-- What stands before a table of that kind in the text. -/
def JoinKind.keyword : JoinKind → String
  | .inner => " INNER JOIN "
  | .left => Tables.leftKeyword

/-- A table that is joined. -/
structure Joined where
  /-- By which kind of join. -/
  kind : JoinKind
  /-- The table under its alias. -/
  use : TableUse

/-- The uses of one kind in order. -/
def JoinKind.uses (kind : JoinKind) (js : List Joined) : List TableUse :=
  (js.filter fun j ↦ j.kind = kind).map Joined.use

/-- No alias is joined by both kinds. -/
def Joined.Apart (js : List Joined) : Prop :=
  ∀ j ∈ js, ∀ k ∈ js, j.use.name = k.use.name → j.kind = k.kind

theorem JoinKind.mem_uses_iff {kind : JoinKind} {js : List Joined} {u : TableUse} :
    u ∈ kind.uses js ↔ ⟨kind, u⟩ ∈ js := by
  simp only [uses, List.mem_map, List.mem_filter, decide_eq_true_eq]
  constructor
  · rintro ⟨⟨_, _⟩, ⟨hj, rfl⟩, rfl⟩
    exact hj
  · exact fun h ↦ ⟨⟨kind, u⟩, ⟨h, rfl⟩, rfl⟩

theorem Joined.apart_iff {js : List Joined} :
    Apart js ↔ List.Disjoint ((JoinKind.inner.uses js).map TableUse.name)
      ((JoinKind.left.uses js).map TableUse.name) := by
  simp only [List.disjoint_left, List.mem_map, JoinKind.mem_uses_iff]
  constructor
  · rintro h _ ⟨u, hu, rfl⟩ ⟨v, hv, hvu⟩
    cases h _ hu _ hv hvu.symm
  · rintro h ⟨kind, u⟩ hu ⟨kind', v⟩ hv hname
    cases kind <;> cases kind'
    · rfl
    · exact absurd ⟨v, hv, hname.symm⟩ (h ⟨u, hu, rfl⟩)
    · exact absurd ⟨u, hu, hname⟩ (h ⟨v, hv, rfl⟩)
    · rfl

/-- The last use of an alias is that of its kind if it is joined by one kind only. -/
theorem JoinKind.lastUse?_uses {js : List Joined} {kind : JoinKind} {name : String}
    (h : ∀ j ∈ js, j.use.name = name → j.kind = kind) :
    TableSet.lastUse? (kind.uses js) name = TableSet.lastUse? (js.map Joined.use) name := by
  induction js using List.reverseRecOn with
  | nil => rfl
  | append_singleton js j ih =>
    have hjs := ih fun k hk ↦ h k (List.mem_append_left _ hk)
    rw [List.map_append, List.map_singleton, TableSet.lastUse?_concat, ← hjs, uses,
      List.filter_append, List.map_append]
    by_cases hkind : j.kind = kind
    · simp [hkind, TableSet.lastUse?_concat, uses]
    · have hname : j.use.name ≠ name := fun hname ↦ hkind (h j (by simp) hname)
      simp [hkind, hname, uses]

theorem JoinKind.uses_append (kind : JoinKind) (js ks : List Joined) :
    kind.uses (js ++ ks) = kind.uses js ++ kind.uses ks := by
  rw [uses, List.filter_append, List.map_append, uses, uses]

namespace Tables

/-- What is joined at the start. -/
def Start.joins (table : String) : Start → List Joined
  | .alias name => [⟨.inner, ⟨name, table⟩⟩]
  | .join target => [⟨.inner, .bare table⟩, ⟨.inner, .parse target⟩]
  | .leftJoin target => [⟨.inner, .bare table⟩, ⟨.left, .parse target⟩]

/-- What a call joins. -/
def Edit.joins : Edit → List Joined
  | .join target => [⟨.inner, .parse target⟩]
  | .leftJoin target => [⟨.left, .parse target⟩]
  | .on _ => []

/-- The tables of one kind that a join keeps. -/
def declared (t : Tables) : JoinKind → TableSet
  | .inner => t.inner
  | .left => t.left

/-- The tables that a join keeps in the order of the text. -/
def joined (t : Tables) : List Joined := t.inner.map (⟨.inner, ·⟩) ++ t.left.map (⟨.left, ·⟩)

theorem aliases_eq_declared (t : Tables) :
    t.aliases = (t.declared .inner).aliases ++ (t.declared .left).aliases := rfl

theorem aliases_eq_map_joined (t : Tables) : t.aliases = t.joined.map (fun j ↦ j.use.name) := by
  simp [aliases, joined, TableSet.aliases, Function.comp_def]

theorem mem_joined_iff {t : Tables} {j : Joined} : j ∈ t.joined ↔ j.use ∈ t.declared j.kind := by
  obtain ⟨kind, use⟩ := j
  cases kind <;> simp [joined, declared]

/-- A call joins its tables. -/
theorem declared_apply (t : Tables) (e : Edit) (kind : JoinKind) :
    (t.apply e).declared kind = (kind.uses e.joins).foldl TableSet.declare (t.declared kind) := by
  cases e <;> cases kind <;> simp [apply, declared, JoinKind.uses, Edit.joins]

theorem declared_foldl_apply (t : Tables) (edits : List Edit) (kind : JoinKind) :
    (edits.foldl apply t).declared kind
      = (kind.uses (edits.flatMap Edit.joins)).foldl TableSet.declare (t.declared kind) := by
  induction edits generalizing t with
  | nil => rfl
  | cons e es ih =>
    rw [List.foldl_cons, ih, declared_apply, List.flatMap_cons, JoinKind.uses_append,
      List.foldl_append]

theorem Start.declared_tables (table : String) (start : Start) (kind : JoinKind) :
    (start.tables table).declared kind
      = (kind.uses (start.joins table)).foldl TableSet.declare [] := by
  cases start <;> cases kind <;>
    simp [tables, startAlias, startJoin, startLeftJoin, TableSet.declare, declared, JoinKind.uses,
      joins]

/-- Each kind of join keeps what is joined by it. -/
theorem declared_build (table : String) (start : Start) (edits : List Edit) (kind : JoinKind) :
    (edits.foldl apply (start.tables table)).declared kind
      = (kind.uses (start.joins table ++ edits.flatMap Edit.joins)).foldl TableSet.declare [] := by
  rw [declared_foldl_apply, start.declared_tables, JoinKind.uses_append, List.foldl_append]

/-- A join is never without its inner tables. -/
theorem inner_build_ne_nil (table : String) (start : Start) (edits : List Edit) :
    (edits.foldl apply (start.tables table)).inner ≠ [] := by
  intro hnil
  have hdeclared := declared_build table start edits .inner
  obtain ⟨u, hu⟩ : ∃ u, u ∈ JoinKind.inner.uses (start.joins table) := by
    cases start <;> exact ⟨_, JoinKind.mem_uses_iff.mpr List.mem_cons_self⟩
  have halias := congrArg TableSet.aliases hdeclared
  rw [declared, hnil, TableSet.aliases_foldl_declare, JoinKind.uses_append] at halias
  have hmem : u.name ∈ TableSet.aliases [] := by
    rw [halias, List.mem_eraseDups]
    exact List.mem_map_of_mem (List.mem_append_left _ hu)
  exact absurd hmem List.not_mem_nil

end Tables

/-! ## Text -/

/-- The text of joined tables: each stands after the keyword of its kind, apart from the first. -/
def Joined.text (d : Dialect) : List Joined → String
  | [] => ""
  | j :: js => j.use.render d ++ String.join (js.map fun k ↦ k.kind.keyword ++ k.use.render d)

theorem intercalate_eq_join (separator s : String) (ss : List String) :
    separator.intercalate (s :: ss) = s ++ String.join (ss.map (separator ++ ·)) := by
  induction ss generalizing s with
  | nil => rw [String.intercalate_singleton, List.map_nil, String.join_nil, String.append_empty]
  | cons u us ih =>
    rw [String.intercalate_cons_cons, ih, List.map_cons, String.join_cons, String.append_assoc,
      String.append_assoc]

namespace Tables

/-- Where there is an inner table, each left joined one stands behind its keyword. -/
theorem render_eq_append_join (d : Dialect) {t : Tables} (h : t.inner ≠ []) :
    t.render d = " INNER JOIN ".intercalate (t.inner.map (TableUse.render d)) ++
      String.join (t.left.map fun u ↦ leftKeyword ++ u.render d) := by
  rw [render_eq_ite, if_neg h]
  rcases t.left with _ | ⟨u, us⟩
  · rw [if_pos rfl, List.map_nil, String.join_nil, String.append_empty, TableSet.render]
  · rw [if_neg (List.cons_ne_nil u us), TableSet.render, TableSet.render, List.map_cons,
      intercalate_eq_join, List.map_cons, String.join_cons, List.map_map, String.append_assoc,
      String.append_assoc]
    rfl

/-- The text declares each table that is kept once, in order. -/
theorem render_eq_text (d : Dialect) {t : Tables} (h : t.inner ≠ []) :
    t.render d = Joined.text d t.joined := by
  obtain ⟨u, us, hu⟩ := List.exists_cons_of_ne_nil h
  rw [render_eq_append_join d h, joined, hu, List.map_cons, List.map_cons, List.cons_append,
    Joined.text, intercalate_eq_join, List.map_append, String.join_append, String.append_assoc,
    List.map_map, List.map_map, List.map_map]
  rfl

/-! ## Which aliases are told apart -/

section Build

variable (table : String) (start : Start) (edits : List Edit)

/-- Each kind keeps the order of first use. -/
theorem aliases_declared_build (kind : JoinKind) :
    ((edits.foldl apply (start.tables table)).declared kind).aliases
      = ((kind.uses (start.joins table ++ edits.flatMap Edit.joins)).map
          TableUse.name).eraseDups := by
  rw [declared_build, TableSet.aliases_foldl_declare]

/-- Each kind keeps the last use of an alias. -/
theorem mem_joined_build {j : Joined} :
    j ∈ (edits.foldl apply (start.tables table)).joined
      ↔ TableSet.lastUse? (j.kind.uses (start.joins table ++ edits.flatMap Edit.joins)) j.use.name
        = some j.use := by
  rw [mem_joined_iff, declared_build, TableSet.mem_foldl_declare]

theorem nodup_aliases_build_iff :
    (edits.foldl apply (start.tables table)).aliases.Nodup
      ↔ Joined.Apart (start.joins table ++ edits.flatMap Edit.joins) := by
  have hmem (kind : JoinKind) (name : String) :
      name ∈ ((edits.foldl apply (start.tables table)).declared kind).aliases
        ↔ name ∈ (kind.uses (start.joins table ++ edits.flatMap Edit.joins)).map
            TableUse.name := by
    rw [aliases_declared_build, List.mem_eraseDups]
  have hnodup (kind : JoinKind) :
      ((edits.foldl apply (start.tables table)).declared kind).aliases.Nodup := by
    rw [declared_build]
    exact TableSet.nodup_aliases_foldl_declare _
  rw [aliases_eq_declared, List.nodup_append', Joined.apart_iff]
  constructor
  · rintro ⟨-, -, hdisjoint⟩ name hinner hleft
    exact hdisjoint ((hmem .inner name).mpr hinner) ((hmem .left name).mpr hleft)
  · intro hdisjoint
    refine ⟨hnodup .inner, hnodup .left, fun name hinner hleft ↦ ?_⟩
    exact hdisjoint ((hmem .inner name).mp hinner) ((hmem .left name).mp hleft)

/-- An alias that is joined by one kind only stands for the table that it was joined with last. -/
theorem mem_uses_build_iff (h : Joined.Apart (start.joins table ++ edits.flatMap Edit.joins))
    {u : TableUse} :
    u ∈ (edits.foldl apply (start.tables table)).joined.map Joined.use
      ↔ TableSet.lastUse? ((start.joins table ++ edits.flatMap Edit.joins).map Joined.use) u.name
        = some u := by
  set calls := start.joins table ++ edits.flatMap Edit.joins with hcalls
  have hkind {j : Joined} (hj : j ∈ calls) :
      TableSet.lastUse? (j.kind.uses calls) j.use.name
        = TableSet.lastUse? (calls.map Joined.use) j.use.name :=
    JoinKind.lastUse?_uses fun k hk hname ↦ h k hk j hj hname
  constructor
  · intro hu
    obtain ⟨j, hj, rfl⟩ := List.mem_map.mp hu
    have hlast := (mem_joined_build table start edits).mp hj
    rw [← hcalls] at hlast
    rwa [← hkind (JoinKind.mem_uses_iff.mp (TableSet.mem_of_lastUse? hlast))]
  · intro hlast
    obtain ⟨j, hj, rfl⟩ := List.mem_map.mp (TableSet.mem_of_lastUse? hlast)
    rw [← hkind hj] at hlast
    exact List.mem_map_of_mem ((mem_joined_build table start edits).mpr hlast)

end Build

/-- **Which aliases are told apart.** Whatever calls start a join and add to it, each kind of join
keeps the aliases in the order of their first use with the table of their last one, and the text
declares what is kept. No alias is declared twice and each stands for the table that it was joined
with last if and only if no alias is joined by both kinds. -/
theorem aliases_told_apart_iff (table : String) (start : Start) (edits : List Edit) :
    let t := edits.foldl apply (start.tables table)
    let calls := start.joins table ++ edits.flatMap Edit.joins
    (∀ kind : JoinKind,
        (t.declared kind).aliases = ((kind.uses calls).map TableUse.name).eraseDups) ∧
      (∀ j, j ∈ t.joined ↔ TableSet.lastUse? (j.kind.uses calls) j.use.name = some j.use) ∧
      (∀ d, t.render d = Joined.text d t.joined) ∧
      t.aliases = t.joined.map (fun j ↦ j.use.name) ∧
      ((t.aliases.Nodup ∧ ∀ u, u ∈ t.joined.map Joined.use
          ↔ TableSet.lastUse? (calls.map Joined.use) u.name = some u) ↔ Joined.Apart calls) := by
  intro t calls
  refine ⟨aliases_declared_build table start edits, fun j ↦ mem_joined_build table start edits,
    fun d ↦ render_eq_text d (inner_build_ne_nil table start edits), aliases_eq_map_joined t, ?_⟩
  constructor
  · exact fun h ↦ (nodup_aliases_build_iff table start edits).mp h.1
  · intro h
    exact ⟨(nodup_aliases_build_iff table start edits).mpr h,
      fun u ↦ mem_uses_build_iff table start edits h⟩

/-- An alias that is joined by both kinds is declared twice, and the table that it was joined with
last does not replace the first one. -/
theorem declared_twice_of_both_kinds :
    let t := [Edit.leftJoin "admin as u"].foldl apply ((Start.alias "u").tables "user")
    t.aliases = ["u", "u"] ∧ ¬ t.aliases.Nodup ∧
      t.render .mysql = "`user` AS `u` LEFT JOIN `admin` AS `u`" := by
  intro t
  have haliases : t.aliases = ["u", "u"] := by decide +kernel
  exact ⟨haliases, haliases ▸ by decide, by decide +kernel⟩

end Tables

end BoundSql
