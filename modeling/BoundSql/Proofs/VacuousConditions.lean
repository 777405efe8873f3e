import BoundSql.Proofs.CanonicalConditions
import BoundSql.Proofs.CollectedConditions

/-!
# Conditions that say something of a row

An `UPDATE` or `DELETE` is refused if no condition was given, so that no row is changed because one
was forgotten. A condition that was given need not say anything, though: a conjunction of nothing
holds of every row. This module says when the condition of a command that is sent depends on the
row.

`Condition.truth` is what a condition says of a row of which each comparison says that it holds,
that it does not, or nothing, as the comparisons of a `null` do. A condition without comparisons
says the same of every row. A condition is `Grounded` if no group in it is without parts; then it
has comparisons, and it says nothing where none of them does. Whatever is built from comparisons by
`and`, `or` and negation is grounded, so a group without parts has to be written down as such.

What a command collects has the comparisons of all the conditions that count and no others, so the
question is put back to what the caller has given.
-/

namespace BoundSql

/-! ## Truth -/

namespace Connective

/-- The truth value of a part that decides the whole group. -/
def decisive : Connective → Bool
  | and => false
  | or => true

/-- What a group says whose parts say `values`, with `none` for nothing. -/
def truth (κ : Connective) (values : List (Option Bool)) : Option Bool :=
  if some κ.decisive ∈ values then some κ.decisive
  else if none ∈ values then none else some !κ.decisive

theorem isSome_truth (κ : Connective) {values : List (Option Bool)} (h : none ∉ values) :
    (κ.truth values).isSome := by
  rw [truth, if_neg h]
  split <;> rfl

/-- Parts that say nothing make a group that says nothing, if there are any. -/
theorem truth_eq_none (κ : Connective) {values : List (Option Bool)} (hne : values ≠ [])
    (h : ∀ v ∈ values, v = none) : κ.truth values = none := by
  have hdecisive : some κ.decisive ∉ values := fun hmem ↦ nomatch h _ hmem
  have hnone : none ∈ values := by
    obtain ⟨v, hv⟩ := List.exists_mem_of_ne_nil values hne
    exact h v hv ▸ hv
  rw [truth, if_neg hdecisive, if_pos hnone]

theorem mem_leaves_group {κ : Connective} {parts : List Condition} {t : Comparison} :
    t ∈ (κ.group parts).leaves ↔ ∃ p ∈ parts, t ∈ p.leaves := by
  rw [leaves_group, List.mem_flatMap]

end Connective

namespace Condition

mutual

/-- What a condition says of a row of which its comparisons say what `test` tells. -/
def truth (test : Comparison → Option Bool) : Condition → Option Bool
  | .all parts => Connective.and.truth (truths test parts)
  | .any parts => Connective.or.truth (truths test parts)
  | .negated part => (truth test part).map not
  | .compare t => test t

/-- What several conditions say of a row. -/
def truths (test : Comparison → Option Bool) : List Condition → List (Option Bool)
  | [] => []
  | p :: ps => truth test p :: truths test ps

end

variable {test test' : Comparison → Option Bool} {c : Condition}

theorem truths_eq_map (parts : List Condition) :
    truths test parts = parts.map (truth test) := by
  induction parts with
  | nil => rfl
  | cons p ps ih => rw [truths, ih, List.map_cons]

theorem truth_group (κ : Connective) (parts : List Condition) :
    (κ.group parts).truth test = κ.truth (parts.map (truth test)) := by
  rw [← truths_eq_map]
  cases κ <;> rfl

/-- A condition depends on its own comparisons only. -/
theorem truth_congr (h : ∀ t ∈ c.leaves, test t = test' t) : c.truth test = c.truth test' := by
  induction c using induct_group with
  | group κ parts ih =>
    rw [truth_group, truth_group]
    refine congrArg κ.truth (List.map_congr_left fun p hp ↦ ih p hp fun t ht ↦ ?_)
    exact h t (Connective.mem_leaves_group.mpr ⟨p, hp, ht⟩)
  | negated part ih => rw [truth, truth, ih h]
  | compare t => exact h t (List.mem_singleton_self t)

/-- If every comparison says something, the condition does. -/
theorem isSome_truth (h : ∀ t ∈ c.leaves, (test t).isSome) : (c.truth test).isSome := by
  induction c using induct_group with
  | group κ parts ih =>
    rw [truth_group]
    refine κ.isSome_truth fun hmem ↦ ?_
    obtain ⟨p, hp, hnone⟩ := List.mem_map.mp hmem
    have hpart := ih p hp fun t ht ↦ h t (Connective.mem_leaves_group.mpr ⟨p, hp, ht⟩)
    rw [hnone] at hpart
    cases hpart
  | negated part ih => rw [truth, Option.isSome_map]; exact ih h
  | compare t => exact h t (List.mem_singleton_self t)

/-- A condition without comparisons says the same of every row. -/
theorem exists_truth_of_leaves_eq_nil (h : c.leaves = []) :
    ∃ b, ∀ test, c.truth test = some b := by
  have hsome : (c.truth fun _ ↦ some true).isSome := isSome_truth fun _ _ ↦ rfl
  obtain ⟨b, hb⟩ := Option.isSome_iff_exists.mp hsome
  exact ⟨b, fun test ↦ hb ▸ truth_congr (by simp [h])⟩

/-! ## Grounded conditions -/

/-- A condition in which every group has parts. -/
inductive Grounded : Condition → Prop where
  | group (κ : Connective) {parts : List Condition} (hne : parts ≠ [])
      (hparts : ∀ p ∈ parts, Grounded p) : Grounded (κ.group parts)
  | negated {part : Condition} (hpart : Grounded part) : Grounded (.negated part)
  | compare (t : Comparison) : Grounded (.compare t)

namespace Grounded

variable {a b : Condition}

theorem pair (κ : Connective) (ha : a.Grounded) (hb : b.Grounded) :
    (κ.group [a, b]).Grounded :=
  .group κ (List.cons_ne_nil _ _) (by simp [ha, hb])

theorem leaves_ne_nil (h : c.Grounded) : c.leaves ≠ [] := by
  induction h with
  | @group κ parts hne _ ih =>
    obtain ⟨p, hp⟩ := List.exists_mem_of_ne_nil parts hne
    rw [κ.leaves_group, Ne, List.flatMap_eq_nil_iff]
    exact fun hall ↦ ih p hp (hall p hp)
  | negated _ ih => exact ih
  | compare t => exact List.cons_ne_nil t []

/-- Where no comparison says anything, a grounded condition does not. -/
theorem truth_eq_none (h : c.Grounded) : (c.truth fun _ ↦ none) = none := by
  induction h with
  | group κ hne _ ih =>
    rw [truth_group]
    refine κ.truth_eq_none (by simpa using hne) ?_
    rintro _ hv
    obtain ⟨p, hp, rfl⟩ := List.mem_map.mp hv
    exact ih p hp
  | negated _ ih => rw [truth, ih, Option.map_none]
  | compare t => rfl

end Grounded

end Condition

/-! ## What is collected -/

namespace Filter

/-- The condition that a term brings. -/
def Term.condition : Term → Condition
  | filter c | and c | or c | not c => c

/-- The conditions that count after some calls: those given since the condition was dropped last,
from the last `filter` among them on. -/
def counted (edits : List Edit) : List Condition :=
  (fromLastFilter (terms edits)).map Term.condition

namespace Term

theorem leaves_alone (t : Term) : t.alone.leaves = t.condition.leaves := by
  cases t <;> rfl

theorem leaves_wrap {t : Term} (h : t.isFilter = false) (prior : Condition) :
    (t.wrap prior).leaves = prior.leaves ++ t.condition.leaves := by
  cases t with
  | filter c => cases h
  | and c | or c | not c => simp [wrap, condition, Condition.leaves, Condition.leavesOf]

theorem grounded_alone {t : Term} (h : t.condition.Grounded) : t.alone.Grounded := by
  cases t with
  | filter c | and c | or c => exact h
  | not c => exact .negated h

theorem grounded_wrap {t : Term} {prior : Condition} (hprior : prior.Grounded)
    (h : t.condition.Grounded) : (t.wrap prior).Grounded := by
  cases t with
  | filter c => exact h
  | and c => exact .pair .and hprior h
  | or c => exact .pair .or hprior h
  | not c => exact .pair .and hprior (.negated h)

end Term

theorem leaves_foldl_wrap {ts : List Term} (h : ts.any Term.isFilter = false)
    (prior : Condition) :
    (ts.foldl Term.wrap prior).leaves
      = prior.leaves ++ (ts.map Term.condition).flatMap Condition.leaves := by
  induction ts generalizing prior with
  | nil => rw [List.foldl_nil, List.map_nil, List.flatMap_nil, List.append_nil]
  | cons t ts ih =>
    rw [List.any_cons, Bool.or_eq_false_iff] at h
    rw [List.foldl_cons, ih h.2, Term.leaves_wrap h.1, List.map_cons, List.flatMap_cons,
      List.append_assoc]

theorem grounded_foldl_wrap {ts : List Term} (h : ∀ t ∈ ts, t.condition.Grounded)
    {prior : Condition} (hprior : prior.Grounded) : (ts.foldl Term.wrap prior).Grounded := by
  induction ts generalizing prior with
  | nil => exact hprior
  | cons t ts ih =>
    rw [List.forall_mem_cons] at h
    exact ih h.2 (Term.grounded_wrap hprior h.1)

/-- What a condition that was collected from others says of a row. -/
structure Gathers (given : List Condition) (condition : Condition) : Prop where
  /-- Its comparisons are those that were given. -/
  leaves : condition.leaves = given.flatMap Condition.leaves
  /-- It depends on the row if no group without parts was given. -/
  grounded : (∀ g ∈ given, g.Grounded) →
    condition.leaves ≠ [] ∧ (condition.truth fun _ ↦ none) = none
  /-- It does not if no comparison was given. -/
  constant : (∀ g ∈ given, g.leaves = []) → ∃ b, ∀ test, condition.truth test = some b

theorem Gathers.of_grounded {given : List Condition} {condition : Condition}
    (hleaves : condition.leaves = given.flatMap Condition.leaves)
    (hgrounded : (∀ g ∈ given, g.Grounded) → condition.Grounded) : Gathers given condition where
  leaves := hleaves
  grounded h := ⟨(hgrounded h).leaves_ne_nil, (hgrounded h).truth_eq_none⟩
  constant h := Condition.exists_truth_of_leaves_eq_nil <| by
    rw [hleaves, List.flatMap_eq_nil_iff]
    exact h

theorem gathers_counted {edits : List Edit} {condition : Condition}
    (h : (edits.foldl apply {}).condition = some condition) :
    Gathers (counted edits) condition := by
  have htail := tail_fromLastFilter (terms edits)
  rw [condition_foldl, ← collected_fromLastFilter] at h
  rw [counted]
  generalize fromLastFilter (terms edits) = ts at h htail ⊢
  rcases ts with _ | ⟨t, ts⟩
  · cases h
  · obtain rfl := Option.some.inj h
    refine .of_grounded ?_ fun hgiven ↦ ?_
    · have htail : ts.any Term.isFilter = false := htail
      rw [leaves_foldl_wrap htail, Term.leaves_alone, List.map_cons, List.flatMap_cons]
    · rw [List.map_cons, List.forall_mem_cons, List.forall_mem_map] at hgiven
      exact grounded_foldl_wrap hgiven.2 (Term.grounded_alone hgiven.1)

end Filter

/-! ## What is sent -/

/-- After a command something was sent, namely one statement that ends in a condition, and that was
gathered from the conditions that count after `edits`. -/
def Client.SentWhere {σ : Type} (c : Client σ) (edits : List Filter.Edit) (w w' : World σ) :
    Prop :=
  ∃ (condition : Condition) (request : Request) (front : String) (b : Bindings),
    w'.events = w.events ++ [.query c.channel request] ∧
      request.sql = front ++ " WHERE " ++ (condition.compile c.database.dialect b).1 ∧
      (edits.foldl Filter.apply {}).condition = some condition ∧
      Filter.Gathers (Filter.counted edits) condition

section

variable {σ : Type} {c : Client σ} {w : World σ} {r : Option Error} {s : Statement}
  {command : Talk (Except Error Report)}

/-- A command that leaves a trace was not refused. -/
theorem Client.SendsUnless.refusal_eq_none (h : c.SendsUnless r s command)
    (hevents : (c.run command w).2.events ≠ w.events) : r = none := by
  cases r with
  | none => rfl
  | some e =>
    rw [h.refused e rfl w] at hevents
    exact absurd rfl hevents

/-- A command that was sent has left its statement. -/
theorem Client.SendsUnless.sentWhere {edits : List Filter.Edit} {condition : Condition}
    (h : c.SendsUnless none s command)
    (hcondition : (edits.foldl Filter.apply {}).condition = some condition)
    (front : String) (b : Bindings)
    (hsql : s.sql = front ++ " WHERE " ++ (condition.compile c.database.dialect b).1) :
    c.SentWhere edits w (c.run command w).2 :=
  ⟨condition, _, front, b, (h.sent rfl w).1, hsql, hcondition, Filter.gathers_counted hcondition⟩

end

theorem Update.sendsUnless_run {σ : Type} (c : Client σ) (table : String)
    (edits : List Update.Edit) :
    let command := edits.foldl Update.apply { table }
    c.SendsUnless (refusal? edits) (command.statement c.database.dialect)
      (command.run c.database.dialect) := by
  intro command
  rw [run, validate_foldl]
  exact c.sendsUnless_checkedTalk _ _

theorem Delete.sendsUnless_run {σ : Type} (c : Client σ) (table : String)
    (edits : List Filter.Edit) :
    let command := edits.foldl Delete.apply { table }
    c.SendsUnless (refusal? edits) (command.statement c.database.dialect)
      (command.run c.database.dialect) := by
  intro command
  rw [run, validate_foldl]
  exact c.sendsUnless_checkedTalk _ _

/-- **What the condition of a sent command says.** What is built from comparisons by `and`, `or` and
negation is grounded. If a chain of calls makes an `UPDATE` or `DELETE` that sends anything, then it
sends one statement, and this ends in a condition with the comparisons of all the conditions that
count. If these are grounded, then it has comparisons, and says nothing of a row of which they say
nothing; if they are without comparisons, it says the same of every row. -/
theorem sent_condition_gathers :
    (∀ (column : Column) (op : CompareOp) (operand : Operand),
      (column.compare op operand).Grounded) ∧
    (∀ a b : Condition, a.Grounded → b.Grounded →
      (a.and b).Grounded ∧ (a.or b).Grounded ∧ (Condition.negated a).Grounded) ∧
    (∀ {σ : Type} (c : Client σ) (table : String) (edits : List Update.Edit) (w : World σ),
      let w' := (c.run ((edits.foldl Update.apply { table }).run c.database.dialect) w).2
      w'.events ≠ w.events → c.SentWhere (edits.filterMap Update.Edit.filter?) w w') ∧
    ∀ {σ : Type} (c : Client σ) (table : String) (edits : List Filter.Edit) (w : World σ),
      let w' := (c.run ((edits.foldl Delete.apply { table }).run c.database.dialect) w).2
      w'.events ≠ w.events → c.SentWhere edits w w' := by
  refine ⟨fun column op operand ↦ .compare ⟨column, op, operand⟩,
    fun a b ha hb ↦ ⟨.pair .and ha hb, .pair .or ha hb, .negated ha⟩, ?_, ?_⟩
  · intro σ c table edits w w' hevents
    have hsends := Update.sendsUnless_run c table edits
    have hnone := hsends.refusal_eq_none hevents
    have hgiven := ((Update.refusal?_eq_none_iff edits).mp hnone).2.2
    rw [← Update.isSome_condition_foldl table] at hgiven
    obtain ⟨condition, hcondition⟩ := Option.isSome_iff_exists.mp hgiven
    have hsql := Update.statement_of_condition c.database.dialect hcondition
    have hwhere : " SET :__record__0 WHERE " = " SET :__record__0" ++ " WHERE " := rfl
    rw [hwhere, ← String.append_assoc] at hsql
    rw [Update.filter_foldl] at hcondition
    rw [hnone] at hsends
    exact hsends.sentWhere hcondition _ _ (congrArg Statement.sql hsql)
  · intro σ c table edits w w' hevents
    have hsends := Delete.sendsUnless_run c table edits
    have hnone := hsends.refusal_eq_none hevents
    have hgiven := errorUnless_eq_none_iff.mp hnone
    rw [← Delete.isSome_condition_foldl table] at hgiven
    obtain ⟨condition, hcondition⟩ := Option.isSome_iff_exists.mp hgiven
    have hsql := Delete.statement_of_condition c.database.dialect hcondition
    rw [Delete.filter_foldl] at hcondition
    rw [hnone] at hsends
    exact hsends.sentWhere hcondition _ _ (congrArg Statement.sql hsql)

/-- A conjunction of nothing that was dropped does not count, so an `UPDATE` and a `DELETE` are sent
with a condition that was built from comparisons. -/
theorem grounded_condition_sent :
    let c : Client Script.Answers := { database := ({} : Script).database }
    let w : World Script.Answers := ⟨[], [], []⟩
    let unset := Column.compare ⟨none, "a"⟩ .equal (.value .null)
    let edits : List Filter.Edit := [.filter (some (.all [])), .clear, .not (some (unset.or unset))]
    let update := (Update.Edit.set (.json (.object [("n", .null)])) :: edits.map .filter).foldl
      Update.apply { table := "t" }
    let delete := edits.foldl Delete.apply { table := "t" }
    (unset.or unset).Grounded ∧
      c.SentWhere edits w (c.run (update.run .mysql) w).2 ∧
      c.SentWhere edits w (c.run (delete.run .mysql) w).2 ∧
      Filter.counted edits = [unset.or unset] := by
  intro c w unset edits update delete
  have hunset := sent_condition_gathers.1 ⟨none, "a"⟩ .equal (.value .null)
  exact ⟨(sent_condition_gathers.2.1 unset unset hunset hunset).2.1,
    sent_condition_gathers.2.2.1 c "t" _ w (List.cons_ne_nil _ _),
    sent_condition_gathers.2.2.2 c "t" edits w (List.cons_ne_nil _ _), rfl⟩

/-- A conjunction of nothing passes for a condition: the `DELETE` is sent, it has no comparison, and
it holds of every row. -/
theorem empty_conjunction_sent :
    let c : Client Script.Answers := { database := ({} : Script).database }
    let delete := [Filter.Edit.filter (some (.all []))].foldl Delete.apply { table := "t" }
    (c.run (delete.run .mysql) ⟨[], [], []⟩).2.events
        = [.query .pool ⟨"DELETE FROM `t` WHERE ( 1 = 1 )", none⟩] ∧
      delete.filter.condition = some (.all []) ∧ (Condition.all []).leaves = [] ∧
      ∀ test, (Condition.all []).truth test = some true :=
  ⟨rfl, rfl, rfl, fun _ ↦ rfl⟩

end BoundSql
