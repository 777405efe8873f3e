import BoundSql.Proofs.BoundValues
import BoundSql.Proofs.CanonicalConditions
import BoundSql.Proofs.DistinctTexts
import BoundSql.Proofs.RenderedNames
import Mathlib.Tactic.TFAE

/-!
# What the JSON of a condition tells

A condition is sent elsewhere as JSON, and its operands carry no mark of their kind there: a column
is the object that describes it, and a value can be the same object. `Condition.described` is what
is left of a condition without this difference: in place of each operand stands the value that
describes it. This is what can be told from the text of the JSON, so two conditions have the same
text if and only if they are described alike.

Conditions that are described alike are compiled alike as well, unless one of them compares with a
column where the other compares with the object that describes it. That they do not can be seen from
the text of the SQL alone: a placeholder begins with a colon, and no column does.
-/

namespace BoundSql

/-! ## Descriptions -/

/-- Whether an operand is another column. -/
def Operand.isColumn : Operand → Bool
  | .column _ => true
  | _ => false

/-- The comparison with its operand given by the value that describes it. -/
def Comparison.described (t : Comparison) : Comparison :=
  { t with operand := .value t.operand.toJson }

namespace Connective

/-- The name of a group in JSON. -/
def tag : Connective → String
  | and => "and"
  | or => "or"

end Connective

namespace Condition

mutual

/-- The condition with each operand given by the value that describes it. -/
def described : Condition → Condition
  | .all parts => .all (describedParts parts)
  | .any parts => .any (describedParts parts)
  | .negated part => .negated (described part)
  | .compare t => .compare t.described

/-- The parts of a condition, described. -/
def describedParts : List Condition → List Condition
  | [] => []
  | p :: ps => described p :: describedParts ps

end

theorem described_group (κ : Connective) (parts : List Condition) :
    (κ.group parts).described = κ.group (parts.map described) := by
  have hparts : describedParts parts = parts.map described := by
    induction parts with
    | nil => rfl
    | cons p ps ih => rw [describedParts, ih, List.map_cons]
  rw [← hparts]
  cases κ <;> rfl

theorem toJson_group (κ : Connective) (parts : List Condition) :
    (κ.group parts).toJson
      = .object [("type", .text κ.tag), ("exprs", .array (parts.map toJson))] := by
  have hparts : toJsons parts = parts.map toJson := by
    induction parts with
    | nil => rfl
    | cons p ps ih => rw [toJsons, ih, List.map_cons]
  rw [← hparts]
  cases κ <;> rfl

/-- A condition and its description have the same JSON. -/
theorem toJson_described (c : Condition) : c.described.toJson = c.toJson := by
  induction c using induct_group with
  | group κ parts ih =>
    rw [described_group, toJson_group, toJson_group, List.map_map]
    exact congrArg (fun vs ↦ Json.object [("type", .text κ.tag), ("exprs", .array vs)])
      (List.map_congr_left ih)
  | negated part ih => rw [described, toJson, ih, toJson]
  | compare t => rfl

end Condition

/-! ### Reading descriptions off -/

theorem CompareOp.tag_injective : Function.Injective CompareOp.tag := by
  intro a b h
  cases a <;> cases b <;> first | rfl | exact absurd h (by decide)

/-- A column can be told from its members, whatever stands behind them. -/
theorem Column.members_append_inj {c e : Column} {op op' : String} {v w : Json}
    (h : c.members ++ [("op", .text op), ("value", v)]
      = e.members ++ [("op", .text op'), ("value", w)]) : c = e ∧ op = op' ∧ v = w := by
  obtain ⟨_ | table, name⟩ := c <;> obtain ⟨_ | table', name'⟩ := e <;>
    simp_all [Column.members]

theorem Column.members_injective : Function.Injective members := fun _ _ h ↦
  (members_append_inj (congrArg (· ++ [("op", .text ""), ("value", .null)]) h)).1

theorem Comparison.described_eq_of_members {t u : Comparison} (h : t.members = u.members) :
    t.described = u.described := by
  rw [members, members, List.cons_append, List.cons_append] at h
  obtain ⟨hcolumn, hop, hoperand⟩ := Column.members_append_inj (List.cons.inj h).2
  rw [described, described, hcolumn, CompareOp.tag_injective hop, hoperand]

theorem Connective.tag_injective : Function.Injective tag := by
  intro κ κ' h
  cases κ <;> cases κ' <;> first | rfl | exact absurd h (by decide)

theorem map_eq_map_iff_forall₂ {α β : Type} {f : α → β} {xs ys : List α} :
    xs.map f = ys.map f ↔ List.Forall₂ (fun x y ↦ f x = f y) xs ys := by
  rw [← List.forall₂_eq_eq_eq, List.forall₂_map_left_iff, List.forall₂_map_right_iff]

theorem forall₂_imp_of_mem {α : Type} {R S : α → α → Prop} {xs ys : List α}
    (h : List.Forall₂ R xs ys) (himp : ∀ x ∈ xs, ∀ y, R x y → S x y) : List.Forall₂ S xs ys := by
  induction h with
  | nil => exact .nil
  | cons hxy _ ih =>
    rw [List.forall_mem_cons] at himp
    exact .cons (himp.1 _ hxy) (ih himp.2)

namespace Condition

/-- Induction over two conditions with the same JSON: they have the same groups and negations, and
their comparisons are described alike. -/
theorem induct_toJson {motive : Condition → Condition → Prop}
    (group : ∀ κ ps qs, List.Forall₂ motive ps qs →
      motive (Connective.group κ ps) (Connective.group κ qs))
    (negated : ∀ p q, motive p q → motive (.negated p) (.negated q))
    (compare : ∀ t u : Comparison, t.described = u.described → motive (.compare t) (.compare u))
    {c e : Condition} (h : c.toJson = e.toJson) : motive c e := by
  -- the name of the root tells the three kinds of conditions apart
  induction c using induct_group generalizing e with
  | group κ ps ih =>
    rw [toJson_group] at h
    induction e using induct_group with
    | group κ' qs _ =>
      rw [toJson_group] at h
      obtain ⟨htag, hparts⟩ : κ.tag = κ'.tag ∧ ps.map toJson = qs.map toJson := by simpa using h
      obtain rfl := Connective.tag_injective htag
      rw [map_eq_map_iff_forall₂] at hparts
      exact group κ ps qs (forall₂_imp_of_mem hparts fun p hp q ↦ ih p hp)
    | negated q _ => cases κ <;> simp [Connective.tag, toJson] at h
    | compare u => cases κ <;> simp [Connective.tag, toJson, Comparison.members] at h
  | negated p ih =>
    induction e using induct_group with
    | group κ qs _ =>
      rw [toJson_group] at h
      cases κ <;> simp [Connective.tag, toJson] at h
    | negated q _ =>
      have hpart : p.toJson = q.toJson := by simpa [toJson] using h
      exact negated p q (ih hpart)
    | compare u => simp [toJson, Comparison.members] at h
  | compare t =>
    induction e using induct_group with
    | group κ qs _ =>
      rw [toJson_group] at h
      cases κ <;> simp [Connective.tag, toJson, Comparison.members] at h
    | negated q _ => simp [toJson, Comparison.members] at h
    | compare u =>
      rw [toJson, toJson, Json.object.injEq] at h
      exact compare t u (Comparison.described_eq_of_members h)

/-- Conditions have the same JSON if they are described alike, and only then. -/
theorem toJson_eq_iff {c e : Condition} : c.toJson = e.toJson ↔ c.described = e.described := by
  constructor
  · intro h
    refine induct_toJson (motive := fun c e ↦ c.described = e.described) ?_ ?_ ?_ h
    · intro κ ps qs hparts
      rw [described_group, described_group, map_eq_map_iff_forall₂.mpr hparts]
    · intro p q hpart
      rw [described, described, hpart]
    · intro t u hleaf
      rw [described, described, hleaf]
  · intro h
    rw [← c.toJson_described, h, e.toJson_described]

end Condition

/-! ## Texts that tell templates apart -/

namespace Template

/-- If the texts of two templates begin alike, then `P` holds and the templates are the same. -/
def Tells (P : Prop) (s t : Template) : Prop :=
  ∀ (b : Bindings) (rest rest' : List Char),
    (s.bind b).1.toList ++ rest = (t.bind b).1.toList ++ rest' → P ∧ s = t ∧ rest = rest'

namespace Tells

variable {P Q : Prop} {s t s' t' : Template}

theorem refl (t : Template) : Tells True t t := fun _ _ _ h ↦
  ⟨trivial, rfl, List.append_cancel_left h⟩

theorem symm (h : Tells P s t) : Tells P t s := fun b rest rest' heq ↦ by
  obtain ⟨hP, rfl, rfl⟩ := h b rest' rest heq.symm
  exact ⟨hP, rfl, rfl⟩

theorem mono (h : Tells P s t) (hPQ : P → Q) : Tells Q s t := fun b rest rest' heq ↦ by
  obtain ⟨hP, hst, hrest⟩ := h b rest rest' heq
  exact ⟨hPQ hP, hst, hrest⟩

theorem append (h : Tells P s t) (h' : Tells Q s' t') : Tells (P ∧ Q) (s ++ s') (t ++ t') := by
  intro b rest rest' heq
  rw [bind_append, bind_append, String.toList_append, String.toList_append, List.append_assoc,
    List.append_assoc] at heq
  obtain ⟨hP, rfl, hafter⟩ := h b _ _ heq
  obtain ⟨hQ, rfl, hrest⟩ := h' _ _ _ hafter
  exact ⟨⟨hP, hQ⟩, rfl, hrest⟩

theorem grouped (h : Tells P s t) : Tells P s.grouped t.grouped :=
  (((refl [.text "( "]).append h).append (refl [.text " )"])).mono fun hP ↦ hP.1.2

end Tells

section

variable {α : Type} {R : α → α → Prop} {f : α → Template} {xs ys : List α}

theorem tells_joined (separator : String)
    (h : List.Forall₂ (fun x y ↦ Tells (R x y) (f x) (f y)) xs ys) :
    Tells (List.Forall₂ R xs ys) (joined separator (xs.map f)) (joined separator (ys.map f)) := by
  induction h with
  | nil => exact (Tells.refl []).mono fun _ ↦ .nil
  | @cons x y xs ys hxy hxys ih =>
    cases hxys with
    | nil => exact hxy.mono fun hR ↦ .cons hR .nil
    | cons _ _ =>
      exact (hxy.append ((Tells.refl [.text separator]).append ih)).mono
        fun hR ↦ .cons hR.1 hR.2.2

theorem tells_ofParts (separator empty : String)
    (h : List.Forall₂ (fun x y ↦ Tells (R x y) (f x) (f y)) xs ys) :
    Tells (List.Forall₂ R xs ys) (ofParts separator empty (xs.map f))
      (ofParts separator empty (ys.map f)) := by
  cases h with
  | nil => exact (Tells.refl _).mono fun _ ↦ .nil
  | cons hxy hxys => exact (tells_joined separator (.cons hxy hxys)).grouped

end

/-- A column and a placeholder do not begin alike. -/
theorem tells_column_hole (P : Prop) (front : String) (c : Column) (field : String) (v : Json)
    (back : Template) :
    Tells P (.text front :: [.text (c.render .mysql)] ++ back)
      (.text front :: [.hole field v] ++ back) := by
  intro b rest rest' h
  obtain ⟨mark, cs, hrender, hmark⟩ := c.exists_toList_render_eq_cons
  simp only [List.cons_append, List.nil_append, bind, placeholder, String.toList_append,
    List.append_assoc, List.append_cancel_left_eq, hrender] at h
  exact absurd (List.cons.inj h).1 hmark

end Template

/-! ## Comparisons that are described alike -/

namespace Comparison

variable {t u : Comparison}

/-- The right-hand side of a comparison stands between two texts. -/
theorem exists_around (column : String) (op : CompareOp) :
    ∃ (front : String) (back : Template),
      ∀ rhs, around column op rhs = .text front :: rhs ++ back := by
  by_cases hop : op = .oneOf
  · subst hop
    exact ⟨_, _, fun rhs ↦ around_oneOf column rhs⟩
  · exact ⟨_, [], fun rhs ↦ by rw [around_of_ne_oneOf hop, List.append_nil]⟩

theorem template_of_column (d : Dialect) (c : Column) (op : CompareOp) (other : Column) :
    template d ⟨c, op, .column other⟩
      = around (c.render d) op [.text (other.render d)] := by
  cases op <;> rfl

theorem template_of_object (d : Dialect) (c : Column) (op : CompareOp) (members : Members) :
    template d ⟨c, op, .value (.object members)⟩
      = around (c.render d) op [.hole c.name (.object members)] := by
  cases op <;> rfl

/-- Comparisons that are described alike are the same up to lists, or one of them is with a column
and the other with the object that describes it. -/
theorem described_cases (h : t.described = u.described) :
    t.canonical = u.canonical ∧ t.operand.isColumn = u.operand.isColumn ∨ ∃ c op other,
      (t = ⟨c, op, .column other⟩ ∧ u = ⟨c, op, .value (.object other.members)⟩) ∨
      (u = ⟨c, op, .column other⟩ ∧ t = ⟨c, op, .value (.object other.members)⟩) := by
  obtain ⟨c, op, operand⟩ := t
  obtain ⟨c', op', operand'⟩ := u
  simp only [described, mk.injEq, Operand.value.injEq] at h
  obtain ⟨rfl, rfl, hoperand⟩ := h
  cases operand with
  | value v =>
    cases operand' with
    | value w =>
      cases hoperand
      exact .inl ⟨rfl, rfl⟩
    | column other =>
      cases hoperand
      exact .inr ⟨c, op, other, .inr ⟨rfl, rfl⟩⟩
    | list items =>
      cases hoperand
      exact .inl ⟨rfl, rfl⟩
  | column other =>
    cases operand' with
    | value w =>
      cases hoperand
      exact .inr ⟨c, op, other, .inl ⟨rfl, rfl⟩⟩
    | column other' =>
      obtain rfl := Column.members_injective (Json.object.inj hoperand)
      exact .inl ⟨rfl, rfl⟩
    | list items => cases hoperand
  | list items =>
    cases operand' with
    | value w =>
      cases hoperand
      exact .inl ⟨rfl, rfl⟩
    | column other => cases hoperand
    | list items' =>
      cases hoperand
      exact .inl ⟨rfl, rfl⟩

/-- Comparisons that are described alike have one template if both are with columns or neither
is. -/
theorem template_eq_of_described (h : t.described = u.described)
    (hkind : t.operand.isColumn = u.operand.isColumn) (d : Dialect) :
    t.template d = u.template d := by
  rcases described_cases h with ⟨hcanonical, _⟩ | ⟨c, op, other, ⟨rfl, rfl⟩ | ⟨rfl, rfl⟩⟩
  · rw [← t.template_canonical, hcanonical, u.template_canonical]
  · cases hkind
  · cases hkind

theorem tells_of_described (h : t.described = u.described) :
    Template.Tells (t.operand.isColumn = u.operand.isColumn) (t.template .mysql)
      (u.template .mysql) := by
  rcases described_cases h with ⟨_, hkind⟩ | ⟨c, op, other, ⟨rfl, rfl⟩ | ⟨rfl, rfl⟩⟩
  · rw [template_eq_of_described h hkind]
    exact (Template.Tells.refl _).mono fun _ ↦ hkind
  · obtain ⟨front, back, haround⟩ := exists_around (c.render .mysql) op
    rw [template_of_column, template_of_object, haround, haround]
    exact Template.tells_column_hole _ front other c.name _ back
  · obtain ⟨front, back, haround⟩ := exists_around (c.render .mysql) op
    rw [template_of_column, template_of_object, haround, haround]
    exact (Template.tells_column_hole _ front other c.name _ back).symm

end Comparison

/-! ## Conditions with the same JSON -/

namespace Condition

/-- Which of the comparisons, from left to right, are with columns. -/
def columnPlaces (c : Condition) : List Bool := c.leaves.map fun t ↦ t.operand.isColumn

theorem columnPlaces_group (κ : Connective) (parts : List Condition) :
    (κ.group parts).columnPlaces = parts.flatMap columnPlaces := by
  rw [columnPlaces, κ.leaves_group, List.map_flatMap]
  rfl

/-- The text of a condition tells where the comparisons with columns are, among conditions with the
same JSON. -/
theorem tells_of_toJson {c e : Condition} (h : c.toJson = e.toJson) :
    Template.Tells (c.columnPlaces = e.columnPlaces) (c.template .mysql) (e.template .mysql) := by
  refine induct_toJson (motive := fun c e ↦ Template.Tells (c.columnPlaces = e.columnPlaces)
    (c.template .mysql) (e.template .mysql)) ?_ ?_ ?_ h
  · intro κ ps qs hparts
    rw [template_group, template_group, columnPlaces_group, columnPlaces_group]
    refine (Template.tells_ofParts κ.separator κ.empty hparts).mono fun hplaces ↦ ?_
    rw [List.flatMap_def, List.flatMap_def, map_eq_map_iff_forall₂.mpr hplaces]
  · intro p q hpart
    rw [template, template]
    exact ((Template.Tells.refl [.text "NOT "]).append hpart).grouped.mono fun h ↦ h.2
  · intro t u hleaf
    rw [template, template]
    exact (Comparison.tells_of_described hleaf).grouped.mono fun hkind ↦
      congrArg (fun b ↦ [b]) hkind

/-- What two conditions with the same JSON have in common: as many comparisons, and the template if
they compare with columns at the same places. -/
private structure SameIfPlaced (c e : Condition) : Prop where
  length : c.columnPlaces.length = e.columnPlaces.length
  template : c.columnPlaces = e.columnPlaces → ∀ d, c.template d = e.template d

private theorem SameIfPlaced.group {κ : Connective} {ps qs : List Condition}
    (h : List.Forall₂ SameIfPlaced ps qs) : SameIfPlaced (κ.group ps) (κ.group qs) where
  length := by
    have hlengths := map_eq_map_iff_forall₂.mpr (h.imp fun _ _ hpart ↦ hpart.length)
    rw [columnPlaces_group, columnPlaces_group, List.length_flatMap, List.length_flatMap, hlengths]
  template hplaces d := by
    rw [columnPlaces_group, columnPlaces_group] at hplaces
    have hparts : ps.map (Condition.template d) = qs.map (Condition.template d) := by
      induction h with
      | nil => rfl
      | cons hpart _ ih =>
        rw [List.flatMap_cons, List.flatMap_cons] at hplaces
        obtain ⟨hfirst, hrest⟩ := List.append_inj hplaces hpart.length
        rw [List.map_cons, List.map_cons, hpart.template hfirst d, ih hrest]
    rw [template_group, template_group, hparts]

/-- Conditions with the same JSON have one template if they compare with columns at the same
places. -/
theorem template_eq_of_toJson {c e : Condition} (h : c.toJson = e.toJson)
    (hplaces : c.columnPlaces = e.columnPlaces) (d : Dialect) : c.template d = e.template d := by
  have hsame : SameIfPlaced c e := by
    refine induct_toJson (motive := SameIfPlaced) ?_ ?_ ?_ h
    · exact fun κ ps qs hparts ↦ .group hparts
    · exact fun p q hpart ↦ ⟨hpart.length, fun hplaces d ↦ by
        rw [template, template, hpart.template hplaces d]⟩
    · exact fun t u hleaf ↦ ⟨rfl, fun hplaces d ↦ by
        rw [template, template,
          Comparison.template_eq_of_described hleaf (List.singleton_inj.mp hplaces)]⟩
  exact hsame.template hplaces d

end Condition

/-- **What the JSON of a condition tells.** Two conditions have the same JSON text if and only if
they have the same groups and negations, and at the leaves the same columns and operators with
operands that are described by the same value. Conditions with the same JSON text are compiled
alike, in every dialect and after any bindings, if and only if they compare with columns at the same
places; and if they do not, then already their texts differ in MySQL. -/
theorem same_json_iff_described (c e : Condition) :
    (c.toJson.compact = e.toJson.compact ↔ c.described = e.described) ∧
      (c.toJson.compact = e.toJson.compact →
        [c.columnPlaces = e.columnPlaces,
          ∀ (d : Dialect) (b : Bindings), c.compile d b = e.compile d b,
          ∃ b, (c.compile .mysql b).1 = (e.compile .mysql b).1].TFAE) := by
  have hjson : c.toJson.compact = e.toJson.compact ↔ c.toJson = e.toJson :=
    Json.compact_injective.eq_iff
  refine ⟨hjson.trans Condition.toJson_eq_iff, fun h ↦ ?_⟩
  have hsame := hjson.mp h
  tfae_have 1 → 2 := fun hplaces d b ↦ by
    rw [Condition.compile, Condition.compile, Condition.template_eq_of_toJson hsame hplaces]
  tfae_have 2 → 3 := fun hcompile ↦ ⟨.empty, by rw [hcompile]⟩
  tfae_have 3 → 1 := by
    rintro ⟨b, htext⟩
    have hbegin := congrArg (fun text : String ↦ text.toList ++ []) htext
    exact (Condition.tells_of_toJson hsame b [] [] hbegin).1
  tfae_finish

/-- A list and the array of its items have the same JSON text, and so they are compiled alike also
beside a comparison with a column. -/
theorem list_described_as_array :
    let joined := Column.compare ⟨none, "a"⟩ .equal (.column ⟨some "u", "id"⟩)
    let c := Condition.any [Column.inList ⟨some "u", "id"⟩ [.bool true], joined]
    let e := Condition.any
      [Column.compare ⟨some "u", "id"⟩ .oneOf (.value (.array [.bool true])), joined]
    c.toJson.compact = e.toJson.compact ∧ c.columnPlaces = [false, true] ∧
      ∀ (d : Dialect) (b : Bindings), c.compile d b = e.compile d b := by
  intro joined c e
  have htext : c.toJson.compact = e.toJson.compact := rfl
  have hsame := (same_json_iff_described c e).2 htext
  exact ⟨htext, rfl, (hsame.out 0 1).mp rfl⟩

/-- A column and a value that is the object that describes it have the same JSON text. One is a
comparison of two columns, and the other binds the value. -/
theorem column_described_as_value :
    let c := Column.compare ⟨none, "a"⟩ .equal (.column ⟨some "u", "id"⟩)
    let e := Column.compare ⟨none, "a"⟩ .equal
      (.value (.object [("table", .text "u"), ("field", .text "id")]))
    c.toJson.compact = e.toJson.compact ∧
      c.compile .mysql .empty = ("( `a` = `u`.`id` )", .empty) ∧
      (e.compile .mysql .empty).1 = "( `a` = :__a__0 )" ∧
      (e.compile .mysql .empty).2.entries.map Prod.fst = ["__a__0"] :=
  ⟨rfl, rfl, rfl, rfl⟩

end BoundSql
