import BoundSql.Proofs.ReadableComparisons

/-!
# Conditions can be read back

The text of a condition and the values bound for it determine the canonical form of the condition.
The text alone determines its shape.

## Reading a node

Every node is a group of parentheses, and the character after the blank tells what is inside: a
column begins with a mark, a negation with a letter, a group without parts with a digit, and a group
with parts with the parenthesis of the first one. After a part, a group either ends or goes on with
the word that ties its parts. So a tree is read from left to right without looking back, and what
follows it does not matter. The induction goes over one of the two trees and keeps the other one and
both remainders general.

## Names of values

Two conditions that are read as alike bind values for the same columns, so the same names are given
to them. Their bindings are then compared value by value.
-/

namespace BoundSql

namespace Condition

/-- A condition on columns whose names are words. -/
def WordNamed (c : Condition) : Prop := ∀ t ∈ c.leaves, t.WordNamed

theorem WordNamed.part {κ : Connective} {parts : List Condition} (h : (κ.group parts).WordNamed) :
    ∀ p ∈ parts, p.WordNamed := by
  intro p hp t ht
  cases κ with
  | and => exact h t (mem_leaves_all.mpr ⟨p, hp, ht⟩)
  | or => exact h t (mem_leaves_any.mpr ⟨p, hp, ht⟩)

theorem WordNamed.negated {p : Condition} (h : (Condition.negated p).WordNamed) : p.WordNamed := h

theorem WordNamed.test {t : Comparison} (h : (compare t).WordNamed) : t.WordNamed :=
  h t (List.mem_singleton.mpr rfl)

theorem WordNamed.bound {c : Condition} (h : c.WordNamed) : ∀ e ∈ c.bound, WordName e.1 := by
  intro e he
  obtain ⟨t, ht, hbinding⟩ := List.mem_filterMap.mp he
  rw [(Comparison.template_of_binding?_eq_some hbinding (d := .mysql)).1]
  exact (h t ht).column.name

end Condition

/-! ## The text of a node -/

namespace Connective

variable {κ κ' : Connective} {rest rest' : List Char}

theorem eq_of_separator (h : κ.separator.toList ++ rest = κ'.separator.toList ++ rest') :
    κ = κ' := by
  cases κ <;> cases κ' <;> first | rfl | cases h

theorem eq_of_empty (h : κ.empty.toList ++ rest = κ'.empty.toList ++ rest') : κ = κ' := by
  cases κ <;> cases κ' <;> first | rfl | cases h

/-- The text of a group after its first part. -/
def tail (κ : Connective) : List String → List Char
  | [] => [' ', ')']
  | s :: ss => κ.separator.toList ++ (s.toList ++ κ.tail ss)

theorem toList_groupSql_nil (κ : Connective) :
    (groupSql κ.separator κ.empty []).toList = '(' :: ' ' :: (κ.empty.toList ++ [' ', ')']) := by
  simp [groupSql]

theorem toList_groupSql_cons (κ : Connective) (s : String) (ss : List String) :
    (groupSql κ.separator κ.empty (s :: ss)).toList = '(' :: ' ' :: (s.toList ++ κ.tail ss) := by
  have hparts : (κ.separator.intercalate (s :: ss)).toList ++ [' ', ')']
      = s.toList ++ κ.tail ss := by
    induction ss generalizing s with
    | nil => rw [String.intercalate_singleton, tail]
    | cons s' ss ih =>
      rw [String.intercalate_cons_cons, String.toList_append, String.toList_append,
        List.append_assoc, ih, tail, List.append_assoc]
  simp [groupSql, ← hparts]

end Connective

namespace Condition

variable {d : Dialect} {token token' : Nat → String}

theorem sql_group (k : Nat) (κ : Connective) (parts : List Condition) :
    (κ.group parts).sql d token k = groupSql κ.separator κ.empty (sqls d token k parts) := by
  cases κ <;> rfl

theorem toList_sql_negated (k : Nat) (part : Condition) :
    ((negated part).sql d token k).toList
      = ['(', ' ', 'N', 'O', 'T', ' '] ++ ((part.sql d token k).toList ++ [' ', ')']) := by
  rw [sql, String.toList_append, String.toList_append, List.append_assoc]
  rfl

theorem toList_sql_compare (k : Nat) (test : Comparison) :
    ((compare test).sql d token k).toList
      = ['(', ' '] ++ ((test.sql d (token k)).toList ++ [' ', ')']) := by
  rw [sql, String.toList_append, String.toList_append, List.append_assoc]
  rfl

private theorem exists_toList_sql_eq_cons (c : Condition) (k : Nat) :
    ∃ cs, (c.sql d token k).toList = '(' :: cs := by
  induction c using induct_group with
  | group κ parts =>
    rw [sql_group]
    rcases sqls d token k parts with _ | ⟨s, ss⟩
    · exact ⟨_, κ.toList_groupSql_nil⟩
    · exact ⟨_, κ.toList_groupSql_cons s ss⟩
  | negated part => exact ⟨_, toList_sql_negated k part⟩
  | compare test => exact ⟨_, toList_sql_compare k test⟩

/-- The character after the blank, by which a node is recognised. -/
def mark : Condition → Char
  | .all [] => '1'
  | .any [] => '1'
  | .all (_ :: _) => '('
  | .any (_ :: _) => '('
  | .negated _ => 'N'
  | .compare _ => identifierMark

theorem mark_group_nil (κ : Connective) : (κ.group []).mark = '1' := by
  cases κ <;> rfl

theorem mark_group_cons (κ : Connective) (p : Condition) (ps : List Condition) :
    (κ.group (p :: ps)).mark = '(' := by
  cases κ <;> rfl

/-- A group is recognised by a character that no other node has. -/
theorem mark_group (κ : Connective) (parts : List Condition) :
    (κ.group parts).mark ∈ ['1', '('] := by
  rcases parts with _ | ⟨p, ps⟩
  · simp [mark_group_nil]
  · simp [mark_group_cons]

theorem mark_group_ne_negated (κ : Connective) (parts : List Condition) (part : Condition) :
    (κ.group parts).mark ≠ (negated part).mark :=
  ne_of_mem_of_not_mem (mark_group κ parts) (show 'N' ∉ ['1', '('] by decide)

theorem mark_group_ne_compare (κ : Connective) (parts : List Condition) (test : Comparison) :
    (κ.group parts).mark ≠ (compare test).mark :=
  ne_of_mem_of_not_mem (mark_group κ parts) (show identifierMark ∉ ['1', '('] by decide)

theorem mark_negated_ne_compare (part : Condition) (test : Comparison) :
    (negated part).mark ≠ (compare test).mark := show 'N' ≠ identifierMark by decide

theorem WordNamed.exists_toList_sql_eq_mark {c : Condition} (h : c.WordNamed)
    (token : Nat → String) (k : Nat) :
    ∃ cs, (c.sql .mysql token k).toList = '(' :: ' ' :: c.mark :: cs := by
  induction c using induct_group with
  | group κ parts =>
    rw [sql_group]
    rcases parts with _ | ⟨p, ps⟩
    · rw [sqls, κ.toList_groupSql_nil, mark_group_nil]
      cases κ <;> exact ⟨_, rfl⟩
    · obtain ⟨cs, hcs⟩ : ∃ cs, (p.sql .mysql token k).toList = '(' :: cs :=
        exists_toList_sql_eq_cons p k
      rw [sqls, κ.toList_groupSql_cons, hcs, mark_group_cons]
      exact ⟨_, rfl⟩
  | negated part => exact ⟨_, toList_sql_negated k part⟩
  | compare test =>
    obtain ⟨cs, hcs⟩ := h.test.column.exists_toList_render_eq_cons
    rw [toList_sql_compare, Comparison.sql_eq, String.toList_append, hcs]
    exact ⟨_, rfl⟩

/-- Conditions with one text are nodes of one kind. -/
theorem mark_eq_of_sql_append {c e : Condition} (hc : c.WordNamed) (he : e.WordNamed) {k k' : Nat}
    {rest rest' : List Char} (h : (c.sql .mysql token k).toList ++ rest
      = (e.sql .mysql token' k').toList ++ rest') : c.mark = e.mark := by
  obtain ⟨cs, hcs⟩ := hc.exists_toList_sql_eq_mark token k
  obtain ⟨cs', hcs'⟩ := he.exists_toList_sql_eq_mark token' k'
  rw [hcs, hcs'] at h
  exact (List.cons.inj (List.cons.inj (List.cons.inj h).2).2).1

/-! ## Reading a tree -/

/-- Tokens that are read to their end. -/
def WordTokens (token : Nat → String) : Prop :=
  ∀ k, ∃ name, WordName name ∧ token k = placeholder name

/-- Whatever follows a condition, its text is only that of conditions alike. -/
def ReadsBack (token token' : Nat → String) (c : Condition) : Prop :=
  ∀ {e : Condition} {k k' : Nat} {rest rest' : List Char}, c.WordNamed → e.WordNamed →
    (c.sql .mysql token k).toList ++ rest = (e.sql .mysql token' k').toList ++ rest' →
    Alike c e ∧ rest = rest'

/-- What follows the first part of a group is read back, if the other parts are. -/
theorem tail_inj {ps qs : List Condition} {κ κ' : Connective} {k k' : Nat} {rest rest' : List Char}
    (hread : ∀ p ∈ ps, ReadsBack token token' p) (hps : ∀ p ∈ ps, p.WordNamed)
    (hqs : ∀ q ∈ qs, q.WordNamed)
    (h : κ.tail (sqls .mysql token k ps) ++ rest = κ'.tail (sqls .mysql token' k' qs) ++ rest') :
    List.Forall₂ Alike ps qs ∧ (ps = [] ∨ κ = κ') ∧ rest = rest' := by
  induction ps generalizing qs k k' with
  | nil =>
    cases qs with
    | nil => exact ⟨.nil, .inl rfl, List.append_cancel_left h⟩
    | cons q qs => cases κ' <;> cases h
  | cons p ps ih =>
    cases qs with
    | nil => cases κ <;> cases h
    | cons q qs =>
      rw [sqls, sqls, Connective.tail, Connective.tail, List.append_assoc, List.append_assoc,
        List.append_assoc, List.append_assoc] at h
      obtain rfl : κ = κ' := Connective.eq_of_separator h
      -- the first part is followed by the others, and these by the rest
      obtain ⟨hpq, htail⟩ := hread p List.mem_cons_self (hps p List.mem_cons_self)
        (hqs q List.mem_cons_self) (List.append_cancel_left h)
      obtain ⟨hparts, -, hrest⟩ := ih (fun r hr ↦ hread r (List.mem_cons_of_mem _ hr))
        (fun r hr ↦ hps r (List.mem_cons_of_mem _ hr))
        (fun r hr ↦ hqs r (List.mem_cons_of_mem _ hr)) htail
      exact ⟨.cons hpq hparts, .inr rfl, hrest⟩

/-- A group is read back, if its parts are. -/
theorem group_inj {ps qs : List Condition} {κ κ' : Connective} {k k' : Nat} {rest rest' : List Char}
    (hread : ∀ p ∈ ps, ReadsBack token token' p) (hps : ∀ p ∈ ps, p.WordNamed)
    (hqs : ∀ q ∈ qs, q.WordNamed) (hmark : (κ.group ps).mark = (κ'.group qs).mark)
    (h : ((κ.group ps).sql .mysql token k).toList ++ rest
      = ((κ'.group qs).sql .mysql token' k').toList ++ rest') :
    Alike (κ.group ps) (κ'.group qs) ∧ rest = rest' := by
  rw [sql_group, sql_group] at h
  rcases ps with _ | ⟨p, ps⟩ <;> rcases qs with _ | ⟨q, qs⟩
  · obtain rfl : κ = κ' := by
      rw [sqls, sqls, Connective.toList_groupSql_nil, Connective.toList_groupSql_nil] at h
      simp only [List.cons_append, List.append_assoc, List.cons.injEq, true_and] at h
      exact Connective.eq_of_empty h
    exact ⟨.group .nil (.inr rfl), List.append_cancel_left h⟩
  · rw [mark_group_nil, mark_group_cons] at hmark
    cases hmark
  · rw [mark_group_nil, mark_group_cons] at hmark
    cases hmark
  · rw [sqls, sqls, Connective.toList_groupSql_cons, Connective.toList_groupSql_cons,
      List.cons_append, List.cons_append, List.cons_append, List.cons_append, List.append_assoc,
      List.append_assoc] at h
    obtain ⟨hpq, htail⟩ := hread p List.mem_cons_self (hps p List.mem_cons_self)
      (hqs q List.mem_cons_self) (List.cons.inj (List.cons.inj h).2).2
    obtain ⟨hparts, hκ, hrest⟩ := tail_inj (fun r hr ↦ hread r (List.mem_cons_of_mem _ hr))
      (fun r hr ↦ hps r (List.mem_cons_of_mem _ hr))
      (fun r hr ↦ hqs r (List.mem_cons_of_mem _ hr)) htail
    refine ⟨.group (.cons hpq hparts) (hκ.imp_left ?_), hrest⟩
    rintro rfl
    rfl

theorem readsBack (htoken : WordTokens token) (htoken' : WordTokens token') (c : Condition) :
    ReadsBack token token' c := by
  induction c using induct_group with
  | group κ parts ih =>
    intro e k k' rest rest' hc he h
    -- the mark rules out that the other condition is a node of another kind, here and below
    have hmark := mark_eq_of_sql_append hc he h
    induction e using induct_group with
    | group κ' parts' => exact group_inj ih hc.part he.part hmark h
    | negated part' => exact absurd hmark (mark_group_ne_negated κ parts part')
    | compare test' => exact absurd hmark (mark_group_ne_compare κ parts test')
  | negated part ih =>
    intro e k k' rest rest' hc he h
    have hmark := mark_eq_of_sql_append hc he h
    induction e using induct_group with
    | group κ' parts' => exact absurd hmark.symm (mark_group_ne_negated κ' parts' part)
    | negated part' =>
      rw [toList_sql_negated, toList_sql_negated, List.append_assoc, List.append_assoc,
        List.append_assoc, List.append_assoc] at h
      obtain ⟨hpart, hrest⟩ := ih hc.negated he.negated (List.append_cancel_left h)
      exact ⟨hpart.negated, List.append_cancel_left hrest⟩
    | compare test' => exact absurd hmark (mark_negated_ne_compare part test')
  | compare test =>
    intro e k k' rest rest' hc he h
    have hmark := mark_eq_of_sql_append hc he h
    induction e using induct_group with
    | group κ' parts' => exact absurd hmark.symm (mark_group_ne_compare κ' parts' test)
    | negated part' => exact absurd hmark.symm (mark_negated_ne_compare part' test)
    | compare test' =>
      rw [toList_sql_compare, toList_sql_compare, List.append_assoc, List.append_assoc,
        List.append_assoc, List.append_assoc] at h
      obtain ⟨name, hname, hk⟩ := htoken k
      obtain ⟨name', hname', hk'⟩ := htoken' k'
      rw [hk, hk'] at h
      obtain ⟨htest, hrest⟩ := hc.test.sql_inj he.test hname hname' (List.append_cancel_left h)
      exact ⟨htest, (List.cons.inj hrest).2⟩

end Condition

/-! ## Values and their names -/

namespace Bindings

variable {b b' : Bindings}

theorem used_eq (b : Bindings) (field : String) :
    b.used field = b.names.countP fun n ↦ (stem field).toList.isPrefixOf n.toList := by
  rw [names, Members.keys, List.countP_map]
  rfl

/-- The names for values depend on their columns only. -/
theorem Sound.given_eq (hb : b.Sound) (hb' : b'.Sound) (hnames : b.names = b'.names)
    {calls calls' : List (String × Json)} (h : calls.map Prod.fst = calls'.map Prod.fst) :
    b.given calls = b'.given calls' := by
  induction calls generalizing b b' calls' with
  | nil =>
    rw [List.map_eq_nil_iff.mp h.symm]
    rfl
  | cons call calls ih =>
    obtain ⟨call', rest', rfl, hfield, hrest⟩ := List.map_eq_cons_iff.mp h.symm
    have hname : b.nextName call.1 = b'.nextName call'.1 := by
      rw [nextName_eq, nextName_eq, used_eq, used_eq, hnames, hfield]
    have hstep : (b.bind call.1 call.2).2.names = (b'.bind call'.1 call'.2).2.names := by
      rw [hb.names_bind, hb'.names_bind, hnames, hname]
    rw [given, given, ih (hb.bind _ _) (hb'.bind _ _) hstep hrest.symm]
    exact congrArg (· :: _) hname

theorem wordName_of_mem_given {calls : List (String × Json)} (h : ∀ e ∈ calls, WordName e.1)
    {name : String} (hname : name ∈ b.given calls) : WordName name := by
  induction calls generalizing b with
  | nil => cases hname
  | cons call calls ih =>
    rcases List.mem_cons.mp hname with rfl | hname
    · exact (h call List.mem_cons_self).numberedName _
    · exact ih (fun e he ↦ h e (List.mem_cons_of_mem _ he)) hname

end Bindings

/-- A member of an object has a counterpart in any object that is the same. -/
theorem Json.exists_same_of_sameMembers {xs ys : Members} (h : sameMembers xs ys = true)
    {key : String} {v : Json} (hmem : (key, v) ∈ xs) :
    ∃ w, ys.get? key = some w ∧ v.same w = true := by
  induction xs with
  | nil => cases hmem
  | cons x xs ih =>
    obtain ⟨key', v'⟩ := x
    rw [sameMembers, Bool.and_eq_true] at h
    rcases List.mem_cons.mp hmem with heq | hmem
    · cases heq
      rcases hget : ys.get? key with _ | w
      · simp [hget] at h
      · exact ⟨w, rfl, by simpa [hget] using h.1⟩
    · exact ih h.2 hmem

namespace Condition

variable {c e : Condition}

theorem WordNamed.wordTokens (h : c.WordNamed) (b : Bindings) :
    WordTokens fun k ↦ placeholder ((b.given c.bound).getD k "") := by
  intro k
  refine ⟨_, ?_, rfl⟩
  rw [List.getD_eq_getElem?_getD]
  rcases hk : (b.given c.bound)[k]? with _ | name
  · exact of_decide_eq_true rfl
  · exact Bindings.wordName_of_mem_given h.bound (List.mem_of_getElem? hk)

/-- The text shows a condition up to the values that it binds. -/
theorem WordNamed.alike_of_compile_fst (hc : c.WordNamed) (he : e.WordNamed) {b b' : Bindings}
    (h : (c.compile .mysql b).1 = (e.compile .mysql b').1) : Alike c e := by
  rw [compile_fst, compile_fst] at h
  exact (readsBack (hc.wordTokens b) (he.wordTokens b') c hc he
    (congrArg (fun s ↦ s.toList ++ []) h)).1

/-- Values in the same place of conditions that are alike are bound under one name. -/
theorem Alike.exists_name {b : Bindings} (hb : b.Sound) (h : Alike c e) {x : Json × Json}
    (hx : x ∈ (c.bound.map Prod.snd).zip (e.bound.map Prod.snd)) :
    ∃ name, (name, x.1) ∈ (b.bindAll c.bound).entries ∧
      (name, x.2) ∈ (b.bindAll e.bound).entries := by
  have hnames : b.given e.bound = b.given c.bound := hb.given_eq hb rfl h.fields.symm
  rw [hb.entries_bindAll, hb.entries_bindAll, hnames]
  obtain ⟨i, hi, rfl⟩ := List.mem_iff_getElem.mp hx
  have hi' : i < c.bound.length ∧ i < e.bound.length := by simpa [Nat.lt_min] using hi
  have hname : i < (b.given c.bound).length := hi'.1.trans_eq (b.length_given _).symm
  refine ⟨(b.given c.bound)[i], List.mem_append_right _ ?_, List.mem_append_right _ ?_⟩
  · exact List.mem_iff_getElem.mpr ⟨i, by simpa using hi'.1, by simp⟩
  · exact List.mem_iff_getElem.mpr ⟨i, by simpa [← hnames] using hi'.2, by simp⟩

theorem WordNamed.canonical_eq_of_compile_eq (hc : c.WordNamed) (he : e.WordNamed) {b : Bindings}
    (hb : b.Sound) (h : c.compile .mysql b = e.compile .mysql b) : c.canonical = e.canonical := by
  have halike := hc.alike_of_compile_fst he (congrArg Prod.fst h)
  refine halike.related congruence_canonical fun x hx ↦ ?_
  obtain ⟨name, hfst, hsnd⟩ := halike.exists_name hb hx
  have hbindings : b.bindAll e.bound = b.bindAll c.bound := by
    rw [← compile_snd (d := .mysql), ← compile_snd (d := .mysql), h]
  rw [hbindings] at hsnd
  have hnodup := (hb.bindAll c.bound).nodup
  exact Option.some.inj
    ((Members.get?_of_mem hnodup hfst).symm.trans (Members.get?_of_mem hnodup hsnd))

theorem WordNamed.same_canonical_of_compile (hc : c.WordNamed) (he : e.WordNamed) {b : Bindings}
    (hb : b.Sound) (htext : (c.compile .mysql b).1 = (e.compile .mysql b).1)
    (hsame : (c.compile .mysql b).2.toJson.same (e.compile .mysql b).2.toJson = true) :
    c.canonical.same e.canonical = true := by
  have halike := hc.alike_of_compile_fst he htext
  refine halike.related congruence_same fun x hx ↦ ?_
  -- bindings that are the same may list their names in another order, so values are looked up
  obtain ⟨name, hfst, hsnd⟩ := halike.exists_name hb hx
  rw [compile_snd, compile_snd, Bindings.toJson, Bindings.toJson, Json.same,
    Bool.and_eq_true] at hsame
  obtain ⟨w, hw, hvw⟩ := Json.exists_same_of_sameMembers hsame.2 hfst
  rw [Members.get?_of_mem (hb.bindAll e.bound).nodup hsnd] at hw
  rwa [Option.some.inj hw]

/-- **Conditions are unambiguous.** Let the names of all columns of two conditions be words. If both
have one text, whatever was bound before, then they agree in everything but the values that they
bind: in the nesting, and in the column, the operator and the kind of operand of each comparison. If
in addition they are compiled after the same bindings and leave the same bindings, then they are the
same condition up to what ties a single part and whether an array is a list. -/
theorem compile_unambiguous (hc : c.WordNamed) (he : e.WordNamed) :
    (∀ b b' : Bindings, (c.compile .mysql b).1 = (e.compile .mysql b').1 → c.shape = e.shape) ∧
    ∀ calls : List (String × Json),
      let b := Bindings.empty.bindAll calls
      (c.compile .mysql b = e.compile .mysql b ↔ c.canonical = e.canonical) ∧
      ((c.compile .mysql b).1 = (e.compile .mysql b).1 →
        (c.compile .mysql b).2.toJson.same (e.compile .mysql b).2.toJson = true →
          c.canonical.same e.canonical = true) := by
  refine ⟨fun b b' htext ↦ ?_, fun calls ↦ ?_⟩
  · exact (hc.alike_of_compile_fst he htext).related congruence_shape fun _ _ ↦ trivial
  · intro b
    have hb : b.Sound := Bindings.sound_bindAll_empty calls
    refine ⟨⟨hc.canonical_eq_of_compile_eq he hb, fun h ↦ ?_⟩,
      hc.same_canonical_of_compile he hb⟩
    rw [← compile_canonical, h, compile_canonical]

/-- A disjunction of one part, a negated comparison with a list. -/
def disjoinedList : Condition := .any [.negated (Column.inList ⟨some "t", "a"⟩ [.bool true])]

/-- A conjunction of one part, a negated comparison with an array. -/
def conjoinedArray : Condition :=
  .all [.negated (Column.compare ⟨some "t", "a"⟩ .oneOf (.value (.array [.bool true])))]

/-- Two conditions that differ, but not in their text and not in their bindings. -/
theorem canonical_disjoinedList :
    (disjoinedList.WordNamed ∧ conjoinedArray.WordNamed) ∧
      (disjoinedList.compile .mysql .empty).1 = "( ( NOT ( `t`.`a` IN (:__a__0) ) ) )" ∧
      disjoinedList.compile .mysql .empty = conjoinedArray.compile .mysql .empty ∧
      disjoinedList.canonical = conjoinedArray.canonical := by
  have hcolumn : Column.WordNamed ⟨some "t", "a"⟩ :=
    ⟨of_decide_eq_true rfl, fun t ht ↦ by cases ht; exact of_decide_eq_true rfl⟩
  have hc : disjoinedList.WordNamed := by
    intro t ht
    obtain rfl : t = _ := List.mem_singleton.mp ht
    exact ⟨hcolumn, fun other h ↦ by cases h⟩
  have he : conjoinedArray.WordNamed := by
    intro t ht
    obtain rfl : t = _ := List.mem_singleton.mp ht
    exact ⟨hcolumn, fun other h ↦ by cases h⟩
  have hcompile : disjoinedList.compile .mysql .empty = conjoinedArray.compile .mysql .empty := rfl
  exact ⟨⟨hc, he⟩, rfl, hcompile, ((compile_unambiguous hc he).2 []).1.mp hcompile⟩

end Condition

end BoundSql
