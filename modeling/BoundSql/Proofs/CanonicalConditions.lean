import BoundSql.Condition.Json
import BoundSql.Condition.Template
import BoundSql.Proofs.ConditionTree
import Mathlib.Data.List.Forall2

/-!
# Canonical conditions

Different trees can have the same text: a group of one part does not show what ties its parts, and a
list is bound as an array. `Condition.canonical` removes these two differences and no others, and it
does not change the SQL of a condition.

Values are not part of the text. `Condition.shape` is what remains of a canonical condition without
the values that it binds, and `Condition.same` compares conditions as values are compared, up to the
order of members. These relations have in common that they hold of two trees as soon as they hold
at the leaves, which is what `Congruence` says of a relation.
-/

namespace BoundSql

/-! ## Groups -/

/-- What ties the parts of a group. -/
inductive Connective where
  | and
  | or

namespace Connective

def group : Connective → List Condition → Condition
  | and => .all
  | or => .any

def separator : Connective → String
  | and => " AND "
  | or => " OR "

/-- The text in place of the parts where there are none. -/
def empty : Connective → String
  | and => "1 = 1"
  | or => "1 = 0"

/-- What ties `n` parts in a canonical group: with a single part nothing does, and it is written as
a conjunction. -/
def canonical (n : Nat) (κ : Connective) : Connective := if n = 1 then and else κ

theorem canonical_eq {κ κ' : Connective} {n : Nat} (h : n = 1 ∨ κ = κ') :
    κ.canonical n = κ'.canonical n := by
  rcases h with rfl | rfl <;> rfl

end Connective

/-- Induction over a condition, with conjunctions and disjunctions treated alike. -/
theorem Condition.induct_group {motive : Condition → Prop}
    (group : ∀ κ parts, (∀ p ∈ parts, motive p) → motive (Connective.group κ parts))
    (negated : ∀ part, motive part → motive (.negated part))
    (compare : ∀ test, motive (.compare test)) (c : Condition) : motive c :=
  Condition.induct (group .and) (group .or) negated compare c

theorem Connective.leaves_group (κ : Connective) (parts : List Condition) :
    (κ.group parts).leaves = parts.flatMap Condition.leaves := by
  cases κ <;> exact Condition.leavesOf_eq_flatMap parts

theorem Connective.bound_group (κ : Connective) (parts : List Condition) :
    (κ.group parts).bound = parts.flatMap Condition.bound := by
  cases κ with
  | and => exact Condition.bound_all parts
  | or => exact Condition.bound_any parts

/-! ## Normal forms -/

namespace Condition

mutual

/-- The condition with `f` applied to its leaves and its groups made canonical. -/
def normalize (f : Comparison → Comparison) : Condition → Condition
  | .all parts => (Connective.and.canonical parts.length).group (normalizeAll f parts)
  | .any parts => (Connective.or.canonical parts.length).group (normalizeAll f parts)
  | .negated part => .negated (normalize f part)
  | .compare test => .compare (f test)

def normalizeAll (f : Comparison → Comparison) : List Condition → List Condition
  | [] => []
  | p :: ps => normalize f p :: normalizeAll f ps

end

theorem normalizeAll_eq_map (f : Comparison → Comparison) (parts : List Condition) :
    normalizeAll f parts = parts.map (normalize f) := by
  induction parts with
  | nil => rfl
  | cons p ps ih => rw [normalizeAll, ih, List.map_cons]

theorem normalize_group (f : Comparison → Comparison) (κ : Connective) (parts : List Condition) :
    (κ.group parts).normalize f
      = (κ.canonical parts.length).group (parts.map (normalize f)) := by
  rw [← normalizeAll_eq_map]
  cases κ <;> rfl

end Condition

/-- A comparison with the list, if it has one, given as an array. -/
def Comparison.canonical (t : Comparison) : Comparison :=
  match t.operand with
  | .list items => { t with operand := .value (.array items) }
  | _ => t

/-- A comparison without its value: what is bound is replaced by the empty array. -/
def Comparison.shape (t : Comparison) : Comparison :=
  if t.binding?.isSome then { t with operand := .value (.array []) } else t

/-- The condition with each disjunction of one part written as a conjunction, and each list as an
array. -/
def Condition.canonical : Condition → Condition := normalize Comparison.canonical

/-- What the text of a condition shows: the canonical condition without the values that it binds. -/
def Condition.shape : Condition → Condition := normalize Comparison.shape

theorem Comparison.canonical_of_binding?_eq_some {t : Comparison} {e : String × Json}
    (h : t.binding? = some e) : t.canonical = ⟨t.column, t.op, .value e.2⟩ := by
  obtain ⟨column, op, operand⟩ := t
  cases operand with
  | value v => cases op <;> cases v <;> cases h <;> rfl
  | column other => cases op <;> cases h
  | list items => cases op <;> cases h <;> rfl

theorem Comparison.canonical_of_binding?_eq_none {t : Comparison} (h : t.binding? = none) :
    t.canonical = t := by
  obtain ⟨column, op, operand⟩ := t
  cases operand with
  | list items => cases op <;> cases h
  | _ => rfl

theorem Comparison.shape_of_binding?_eq_some {t : Comparison} {e : String × Json}
    (h : t.binding? = some e) : t.shape = ⟨t.column, t.op, .value (.array [])⟩ := by
  rw [shape, h]
  rfl

/-! ### The SQL of a canonical condition -/

namespace Condition

theorem template_group (d : Dialect) (κ : Connective) (parts : List Condition) :
    (κ.group parts).template d
      = Template.ofParts κ.separator κ.empty (parts.map (template d)) := by
  cases κ with
  | and => exact template_all d parts
  | or => exact template_any d parts

/-- What ties a single part does not show. -/
theorem template_canonical_group (d : Dialect) (κ : Connective) (parts : List Condition) :
    ((κ.canonical parts.length).group parts).template d = (κ.group parts).template d := by
  rw [template_group, template_group]
  by_cases h : parts.length = 1
  · obtain ⟨p, rfl⟩ := List.length_eq_one_iff.mp h
    rfl
  · rw [Connective.canonical, if_neg h]

end Condition

theorem Comparison.template_canonical (d : Dialect) (t : Comparison) :
    t.canonical.template d = t.template d := by
  obtain ⟨column, op, operand⟩ := t
  cases operand with
  | list items => cases op <;> rfl
  | _ => rfl

theorem Condition.template_canonical (d : Dialect) (c : Condition) :
    c.canonical.template d = c.template d := by
  induction c using Condition.induct_group with
  | group κ parts ih =>
    -- the parts are as many as before, so the same connective is chosen
    have hparts : (parts.map canonical).map (template d) = parts.map (template d) := by
      rw [List.map_map]
      exact List.map_congr_left ih
    have hlength : parts.length = (parts.map canonical).length := by rw [List.length_map]
    rw [canonical, normalize_group, ← canonical, hlength, template_canonical_group,
      template_group, template_group, hparts]
  | negated part ih =>
    have hpart : (part.normalize Comparison.canonical).template d = part.template d := ih
    rw [canonical, normalize, template, hpart, template]
  | compare test => rw [canonical, normalize, template, test.template_canonical, template]

theorem Condition.compile_canonical (d : Dialect) (c : Condition) (b : Bindings) :
    c.canonical.compile d b = c.compile d b := by
  rw [compile, template_canonical, compile]

/-! ## Equality of conditions -/

namespace Condition

theorem sameParts_iff_forall₂ {ps qs : List Condition} :
    sameParts ps qs = true ↔ List.Forall₂ (fun p q ↦ p.same q = true) ps qs := by
  induction ps generalizing qs with
  | nil => cases qs <;> simp [sameParts]
  | cons p ps ih =>
    cases qs with
    | nil => simp [sameParts]
    | cons q qs => rw [sameParts, Bool.and_eq_true, ih, List.forall₂_cons]

theorem same_group {κ : Connective} {ps qs : List Condition} :
    (κ.group ps).same (κ.group qs) = sameParts ps qs := by
  cases κ <;> rfl

end Condition

/-! ## Congruences -/

/-- A relation of conditions that follows from the relation `R` of values at the leaves that bind.
It does not see what ties a single part. -/
structure Congruence (R : Json → Json → Prop) (S : Condition → Condition → Prop) : Prop where
  /-- Groups of related parts are related. -/
  group : ∀ {κ κ' : Connective} {ps qs : List Condition}, List.Forall₂ S ps qs →
    ps.length = 1 ∨ κ = κ' → S (κ.group ps) (κ'.group qs)
  /-- Negations of related parts are related. -/
  negated : ∀ {p q : Condition}, S p q → S (.negated p) (.negated q)
  /-- A leaf that binds nothing is related to itself. -/
  unbound : ∀ {t : Comparison}, t.binding? = none → S (.compare t) (.compare t)
  /-- Leaves are related if they compare one column in one way with related values. -/
  bound : ∀ {t u : Comparison} {e e' : String × Json}, t.binding? = some e → u.binding? = some e' →
    t.column = u.column → t.op = u.op → R e.2 e'.2 → S (.compare t) (.compare u)

namespace Condition

private theorem map_eq_map_of_forall₂ {f : Comparison → Comparison} {ps qs : List Condition}
    (h : List.Forall₂ (fun p q ↦ p.normalize f = q.normalize f) ps qs) :
    ps.map (normalize f) = qs.map (normalize f) := by
  induction h with
  | nil => rfl
  | cons hpq _ ih => rw [List.map_cons, List.map_cons, hpq, ih]

/-- Having one normal form is a congruence, if leaves have one when their values are related. -/
theorem congruence_normalize {R : Json → Json → Prop} {f : Comparison → Comparison}
    (hf : ∀ {t u : Comparison} {e e' : String × Json}, t.binding? = some e → u.binding? = some e' →
      t.column = u.column → t.op = u.op → R e.2 e'.2 → f t = f u) :
    Congruence R fun c e ↦ c.normalize f = e.normalize f where
  group hparts hκ := by
    have hmap := map_eq_map_of_forall₂ hparts
    rw [normalize_group, normalize_group, hmap, Connective.canonical_eq hκ, hparts.length_eq]
  negated hpart := by rw [normalize, normalize, hpart]
  unbound _ := rfl
  bound ht hu hcolumn hop hvalue := by rw [normalize, normalize, hf ht hu hcolumn hop hvalue]

theorem congruence_canonical : Congruence Eq fun c e ↦ c.canonical = e.canonical := by
  refine congruence_normalize fun ht hu hcolumn hop hvalue ↦ ?_
  rw [Comparison.canonical_of_binding?_eq_some ht, Comparison.canonical_of_binding?_eq_some hu,
    hcolumn, hop, hvalue]

theorem congruence_shape : Congruence (fun _ _ ↦ True) fun c e ↦ c.shape = e.shape := by
  refine congruence_normalize fun ht hu hcolumn hop _ ↦ ?_
  rw [Comparison.shape_of_binding?_eq_some ht, Comparison.shape_of_binding?_eq_some hu, hcolumn,
    hop]

end Condition

/-- A comparison that binds nothing has no value with members, so it equals itself. -/
theorem Comparison.same_self_of_binding?_eq_none {t : Comparison} (h : t.binding? = none) :
    t.same t = true := by
  obtain ⟨column, op, operand⟩ := t
  cases operand with
  | value v => cases op <;> cases v <;> cases h <;> simp [same, Operand.same, Json.same]
  | column other => simp [same, Operand.same]
  | list items => cases op <;> cases h

theorem Condition.congruence_same :
    Congruence (fun v w ↦ v.same w = true) fun c e ↦ c.canonical.same e.canonical = true where
  group {κ κ' ps qs} hparts hκ := by
    have hsame : sameParts (ps.map canonical) (qs.map canonical) = true := by
      rw [sameParts_iff_forall₂, List.forall₂_map_left_iff, List.forall₂_map_right_iff]
      exact hparts
    rw [canonical, normalize_group, normalize_group, Connective.canonical_eq hκ,
      hparts.length_eq, same_group]
    exact hsame
  negated hpart := hpart
  unbound {t} ht := by
    have hself : t.same t = true := Comparison.same_self_of_binding?_eq_none ht
    rwa [canonical, normalize, Comparison.canonical_of_binding?_eq_none ht]
  bound {t u e e'} ht hu hcolumn hop hvalue := by
    rw [canonical, normalize, normalize, Comparison.canonical_of_binding?_eq_some ht,
      Comparison.canonical_of_binding?_eq_some hu, hcolumn, hop]
    simpa [same, Comparison.same, Operand.same] using hvalue

/-! ## Conditions that are alike -/

namespace Condition

/-- Conditions that cannot be told apart but by the values that they bind, in whatever way trees are
compared. -/
structure Alike (c e : Condition) : Prop where
  /-- They bind values for the same columns. -/
  fields : c.bound.map Prod.fst = e.bound.map Prod.fst
  /-- They are related by a congruence if their values are, one by one. -/
  related : ∀ {R : Json → Json → Prop} {S : Condition → Condition → Prop}, Congruence R S →
    (∀ x ∈ (c.bound.map Prod.snd).zip (e.bound.map Prod.snd), R x.1 x.2) → S c e

variable {ps qs : List Condition}

private theorem fields_flatMap (h : List.Forall₂ Alike ps qs) :
    (ps.flatMap bound).map Prod.fst = (qs.flatMap bound).map Prod.fst := by
  induction h with
  | nil => rfl
  | cons hpq _ ih =>
    rw [List.flatMap_cons, List.flatMap_cons, List.map_append, List.map_append, hpq.fields, ih]

/-- The values of several conditions alike are paired condition by condition. -/
private theorem forall₂_of_flatMap {R : Json → Json → Prop} {S : Condition → Condition → Prop}
    (hS : Congruence R S) (h : List.Forall₂ Alike ps qs)
    (hR : ∀ x ∈ ((ps.flatMap bound).map Prod.snd).zip ((qs.flatMap bound).map Prod.snd),
      R x.1 x.2) : List.Forall₂ S ps qs := by
  induction h with
  | nil => exact .nil
  | @cons p q ps qs hpq _ ih =>
    -- the first parts bind equally many values, so the pairs of values split where the parts do
    have hlength : (p.bound.map Prod.snd).length = (q.bound.map Prod.snd).length := by
      simpa using congrArg List.length hpq.fields
    rw [List.flatMap_cons, List.flatMap_cons, List.map_append, List.map_append,
      List.zip_append hlength, List.forall_mem_append] at hR
    exact .cons (hpq.related hS hR.1) (ih hR.2)

theorem Alike.group {κ κ' : Connective} (h : List.Forall₂ Alike ps qs)
    (hκ : ps.length = 1 ∨ κ = κ') : Alike (κ.group ps) (κ'.group qs) where
  fields := by rw [κ.bound_group, κ'.bound_group, fields_flatMap h]
  related hS hR := by
    rw [κ.bound_group, κ'.bound_group] at hR
    exact hS.group (forall₂_of_flatMap hS h hR) hκ

theorem Alike.negated {p q : Condition} (h : Alike p q) : Alike (.negated p) (.negated q) where
  fields := by rw [bound_negated, bound_negated, h.fields]
  related hS hR := by
    rw [bound_negated, bound_negated] at hR
    exact hS.negated (h.related hS hR)

theorem Alike.of_unbound {t u : Comparison} (ht : t.binding? = none) (hcolumn : t.column = u.column)
    (hop : t.op = u.op) (hoperand : t.operand = u.operand) : Alike (.compare t) (.compare u) := by
  have htu : t = u := by
    obtain ⟨column, op, operand⟩ := t
    subst hcolumn hop hoperand
    rfl
  subst htu
  exact ⟨rfl, fun hS _ ↦ hS.unbound ht⟩

theorem Alike.of_bound {t u : Comparison} {e e' : String × Json} (ht : t.binding? = some e)
    (hu : u.binding? = some e') (hcolumn : t.column = u.column) (hop : t.op = u.op) :
    Alike (.compare t) (.compare u) where
  fields := by
    have hname : e.1 = e'.1 := by
      rw [(Comparison.template_of_binding?_eq_some ht (d := .mysql)).1,
        (Comparison.template_of_binding?_eq_some hu (d := .mysql)).1, hcolumn]
    simp [bound_compare, ht, hu, hname]
  related hS hR := by
    refine hS.bound ht hu hcolumn hop (hR (e.2, e'.2) ?_)
    simp [bound_compare, ht, hu]

end Condition

end BoundSql
