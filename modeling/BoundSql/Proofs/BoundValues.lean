import BoundSql.Command.Modify
import BoundSql.Proofs.ConditionTree
import BoundSql.Proofs.FreshNames
import BoundSql.Query.Select

/-!
# What statements bind

Compiling a condition changes two things at once: it adds text and it adds bindings, and the text
names the bindings. The two are separated here. The bindings are those of the leaves, in order, and
the text is `Condition.sql`, the parenthesised rendering in which the `k`-th leaf that binds has
the token number `k` as its right-hand side. Compiling is then this rendering with the placeholders
of the names that were given.

Numbering the tokens, and not passing the names along, is what makes the rendering of a part
independent of its neighbours: a part starts at the number of values bound before it.

Clauses are bound one after the other, so the bindings of a statement follow from the holes of its
template alone.
-/

namespace BoundSql

/-! ## Templates with tokens -/

namespace Template

/-- The text with the tokens number `k`, `k + 1`, … in the holes. -/
def withTokens (token : Nat → String) (k : Nat) : Template → String
  | [] => ""
  | .text s :: rest => s ++ withTokens token k rest
  | .hole _ _ :: rest => token k ++ withTokens token (k + 1) rest

/-- Several templates with consecutive tokens. -/
def eachWithTokens (token : Nat → String) (k : Nat) : List Template → List String
  | [] => []
  | t :: ts => withTokens token k t :: eachWithTokens token (k + (holes t).length) ts

variable (token : Nat → String)

theorem withTokens_append (k : Nat) (s t : Template) :
    withTokens token k (s ++ t)
      = withTokens token k s ++ withTokens token (k + (holes s).length) t := by
  induction s generalizing k with
  | nil => simp [withTokens, holes]
  | cons f s ih =>
    cases f with
    | text s' => rw [List.cons_append, withTokens, ih, withTokens, holes, String.append_assoc]
    | hole field value =>
      -- the hole takes token `k`, so what follows starts one later on both sides
      rw [List.cons_append, withTokens, ih, withTokens, holes, List.length_cons,
        String.append_assoc, Nat.add_right_comm, Nat.add_assoc]

theorem withTokens_grouped (k : Nat) (t : Template) :
    withTokens token k (grouped t) = "( " ++ withTokens token k t ++ " )" := by
  rw [grouped, List.cons_append, withTokens, withTokens_append, withTokens, withTokens,
    String.append_empty, String.append_assoc]

theorem withTokens_joined (k : Nat) (separator : String) (ts : List Template) :
    withTokens token k (joined separator ts)
      = separator.intercalate (eachWithTokens token k ts) := by
  induction ts generalizing k with
  | nil => rfl
  | cons t ts ih =>
    cases ts with
    | nil => rw [eachWithTokens, eachWithTokens, String.intercalate_singleton, joined]
    | cons u us =>
      have hsplit : separator.intercalate (eachWithTokens token k (t :: u :: us))
          = withTokens token k t ++ separator
            ++ separator.intercalate (eachWithTokens token (k + (holes t).length) (u :: us)) :=
        String.intercalate_cons_cons
      rw [joined_cons_cons, withTokens_append, withTokens, ih, hsplit, String.append_assoc]

/-- The text of a bound template has the placeholders of the given names for tokens. -/
theorem bind_fst_eq_withTokens {token : Nat → String} (t : Template) (b : Bindings) (k : Nat)
    (h : ∀ i < t.holes.length, token (k + i) = placeholder ((b.given t.holes).getD i "")) :
    (bind t b).1 = withTokens token k t := by
  induction t generalizing b k with
  | nil => rfl
  | cons f t ih =>
    cases f with
    | text s => rw [bind, withTokens, ih b k h]
    | hole field value =>
      have hfirst : token k = placeholder (b.bind field value).1 := h 0 (Nat.succ_pos _)
      have hrest : (bind t (b.bind field value).2).1 = withTokens token (k + 1) t := by
        refine ih _ _ fun i hi ↦ ?_
        rw [Nat.add_right_comm, Nat.add_assoc]
        exact h (i + 1) (Nat.succ_lt_succ hi)
      rw [bind, withTokens, hfirst, hrest]

end Template

/-! ## Conditions with tokens -/

/-- A comparison with `rhs` on its right-hand side, where it has one that is bound. -/
def Comparison.sql (d : Dialect) (rhs : String) (t : Comparison) : String :=
  let column := t.column.render d
  match t.op, t.operand with
  | .equal, .value .null => column ++ " IS NULL"
  | .notEqual, .value .null => column ++ " IS NOT NULL"
  | .oneOf, .column other => column ++ " IN (" ++ other.render d ++ ")"
  | op, .column other => column ++ " " ++ op.symbol ++ " " ++ other.render d
  | .oneOf, _ => column ++ " IN (" ++ rhs ++ ")"
  | op, _ => column ++ " " ++ op.symbol ++ " " ++ rhs

/-- A group in SQL: its parts with `separator` between them, or `empty` without parts. -/
def groupSql (separator empty : String) (parts : List String) : String :=
  "( " ++ (if parts.isEmpty then empty else separator.intercalate parts) ++ " )"

namespace Condition

mutual

/-- A condition in SQL, with parentheses around every node. The leaves that bind have the tokens
number `k`, `k + 1`, … on their right-hand sides, from left to right. -/
def sql (d : Dialect) (token : Nat → String) (k : Nat) : Condition → String
  | .all parts => groupSql " AND " "1 = 1" (sqls d token k parts)
  | .any parts => groupSql " OR " "1 = 0" (sqls d token k parts)
  | .negated part => "( NOT " ++ sql d token k part ++ " )"
  | .compare test => "( " ++ test.sql d (token k) ++ " )"

/-- Several conditions in SQL with consecutive tokens. -/
def sqls (d : Dialect) (token : Nat → String) (k : Nat) : List Condition → List String
  | [] => []
  | p :: ps => sql d token k p :: sqls d token (k + p.bound.length) ps

end

end Condition

theorem Comparison.withTokens_template (d : Dialect) (token : Nat → String) (k : Nat)
    (t : Comparison) : (t.template d).withTokens token k = t.sql d (token k) := by
  obtain ⟨column, op, operand⟩ := t
  cases operand with
  | value v =>
    cases op <;> cases v <;>
      simp [template, sql, around, rightSide, Template.withTokens, String.append_assoc]
  | column other =>
    cases op <;> simp [template, sql, around, rightSide, Template.withTokens, String.append_assoc]
  | list items =>
    cases op <;> simp [template, sql, around, rightSide, Template.withTokens, String.append_assoc]

theorem Template.withTokens_ofParts (token : Nat → String) (k : Nat) (separator empty : String)
    (ts : List Template) :
    withTokens token k (ofParts separator empty ts)
      = groupSql separator empty (eachWithTokens token k ts) := by
  rw [ofParts, withTokens_grouped, groupSql]
  cases ts with
  | nil => simp [withTokens, eachWithTokens]
  | cons t ts =>
    rw [List.isEmpty_cons, if_neg Bool.false_ne_true, withTokens_joined, eachWithTokens,
      List.isEmpty_cons, if_neg Bool.false_ne_true]

namespace Condition

variable {d : Dialect} {token : Nat → String}

private theorem eachWithTokens_templates {parts : List Condition}
    (h : ∀ p ∈ parts, ∀ k, (p.template d).withTokens token k = p.sql d token k) (k : Nat) :
    Template.eachWithTokens token k (parts.map (template d)) = sqls d token k parts := by
  induction parts generalizing k with
  | nil => rfl
  | cons p ps ih =>
    rw [List.map_cons, Template.eachWithTokens, h p List.mem_cons_self, holes_template,
      ih (fun q hq ↦ h q (List.mem_cons_of_mem _ hq)), sqls]

/-- The template of a condition is its rendering with the tokens left open. -/
theorem withTokens_template (c : Condition) (k : Nat) :
    (c.template d).withTokens token k = c.sql d token k := by
  induction c generalizing k with
  | all parts ih =>
    rw [template_all, Template.withTokens_ofParts, eachWithTokens_templates ih, sql]
  | any parts ih =>
    rw [template_any, Template.withTokens_ofParts, eachWithTokens_templates ih, sql]
  | negated part ih =>
    rw [template, Template.withTokens_grouped, Template.withTokens, ih, sql]
    rfl
  | compare test =>
    rw [template, Template.withTokens_grouped, test.withTokens_template, sql]

theorem compile_fst (c : Condition) (b : Bindings) :
    (c.compile d b).1
      = c.sql d (fun k ↦ placeholder ((b.given c.bound).getD k "")) 0 := by
  rw [← withTokens_template, compile]
  refine Template.bind_fst_eq_withTokens _ _ _ fun i _ ↦ ?_
  rw [Nat.zero_add, holes_template]

theorem compile_snd (c : Condition) (b : Bindings) :
    (c.compile d b).2 = b.bindAll c.bound := by
  rw [compile, Template.bind_snd, holes_template]

end Condition

/-! ## Statements -/

private theorem given_record (record : Json) (rest : List (String × Json)) :
    Bindings.empty.given ((recordField, record) :: rest)
      = "__record__0" :: (Bindings.empty.bind recordField record).2.given rest := by
  have hname : (Bindings.empty.bind recordField record).1 = numberedName recordField 0 := rfl
  rw [Bindings.given, hname]
  rfl

private theorem given_second_record (record second : Json) :
    (Bindings.empty.bind recordField record).2.given [(recordField, second)]
      = ["__record__1"] := by
  have hname : ((Bindings.empty.bind recordField record).2.bind recordField second).1
      = numberedName recordField (Bindings.empty.used recordField + 1) := by
    -- the first record counts itself
    rw [← Bindings.sound_empty.used_bind_self recordField record]
    rfl
  rw [Bindings.given, Bindings.given, hname]
  rfl

namespace Template

theorem bindings_statement (t : Template) :
    t.statement.bindings = Bindings.empty.bindAll t.holes :=
  t.bind_snd .empty

end Template

/-- Only the tables of a join are tied. -/
theorem Source.bound_on (s : Source) :
    s.on.bound = match s with
      | .table _ => []
      | .joined t => t.on.bound := by
  cases s with
  | table name => rfl
  | joined t => rfl

namespace Select

theorem holes_listClause {α : Type} (keyword : String) (render : List α → String)
    (items : List α) : (listClause keyword render items).holes = [] := by
  rw [listClause]
  split <;> rfl

/-- The holes of a query are those of `ON`, `WHERE` and `HAVING`, in this order. -/
theorem holes_template (d : Dialect) (q : Select) :
    (q.template d).holes = q.source.on.bound ++ q.filter.bound ++ q.having.bound := by
  simp only [template, Template.holes_append, holes_listClause, Filter.holes_clause,
    Template.holes, List.nil_append, List.append_nil]

end Select

theorem Update.holes_template (d : Dialect) (c : Update) :
    (c.template d).holes = (recordField, c.record.toJson) :: c.filter.bound := by
  rw [template, Template.holes_append, Filter.holes_clause]
  rfl

theorem Insert.holes_template (d : Dialect) (c : Insert) :
    (c.template d).holes = (recordField, c.record.toJson) ::
      if c.onDuplicate.isFilled then [(recordField, c.onDuplicate.toJson)] else [] := by
  rw [template, Template.holes_append]
  cases c.onDuplicate.isFilled <;> rfl

/-- **Statements bind their leaves in order.** A condition that is compiled after some bindings
leaves them alone and appends one entry for each leaf that binds, from left to right, under names
that are all distinct; its text is the parenthesised rendering with the placeholders of these
names. So a query on a join binds the values of `ON`, then those of `WHERE`, then those of `HAVING`;
a query on one table has no `ON`. An `INSERT` or `UPDATE` binds its records first, under fixed
names, whatever its condition compares. -/
theorem statement_binds_leaves_in_order :
    (∀ (d : Dialect) (calls : List (String × Json)) (c : Condition),
      let b := Bindings.empty.bindAll calls
      let names := b.given c.bound
      names.length = c.bound.length ∧
        (b.names ++ names).Nodup ∧
        (c.compile d b).2.entries = b.entries ++ names.zip (c.bound.map Prod.snd) ∧
        (c.compile d b).1 = c.sql d (fun k ↦ placeholder (names.getD k "")) 0) ∧
    (∀ (d : Dialect) (q : Select),
      let tied := match q.source with
        | .table _ => []
        | .joined t => t.on.bound
      let values := tied ++ q.filter.bound ++ q.having.bound
      let names := Bindings.empty.given values
      names.length = values.length ∧
        names.Nodup ∧
        (q.statement d).bindings.entries = names.zip (values.map Prod.snd)) ∧
    (∀ (d : Dialect) (c : Insert),
      (c.statement d).bindings.entries = ("__record__0", c.record.toJson) ::
        if c.onDuplicate.isFilled then [("__record__1", c.onDuplicate.toJson)] else []) ∧
    ∀ (d : Dialect) (c : Update),
      let names := (Bindings.empty.bind recordField c.record.toJson).2.given c.filter.bound
      names.length = c.filter.bound.length ∧
        ("__record__0" :: names).Nodup ∧
        (c.statement d).bindings.entries
          = ("__record__0", c.record.toJson) :: names.zip (c.filter.bound.map Prod.snd) := by
  have hempty := Bindings.sound_empty
  refine ⟨?_, ?_, ?_, ?_⟩
  · intro d calls c b names
    have hb : b.Sound := Bindings.sound_bindAll_empty calls
    refine ⟨b.length_given _, hb.nodup_names_append_given _, ?_, c.compile_fst b⟩
    rw [c.compile_snd, hb.entries_bindAll]
  · intro d q tied values names
    have htied : q.source.on.bound = tied := q.source.bound_on
    refine ⟨Bindings.length_given _ _, hempty.nodup_names_append_given values, ?_⟩
    rw [Select.statement, Template.bindings_statement, q.holes_template, htied,
      hempty.entries_bindAll]
    rfl
  · intro d c
    rw [Insert.statement, Template.bindings_statement, c.holes_template, hempty.entries_bindAll,
      given_record]
    cases c.onDuplicate.isFilled with
    | false => rfl
    | true =>
      rw [if_pos rfl, given_second_record]
      rfl
  · intro d c names
    have hrecord := hempty.bind recordField c.record.toJson
    refine ⟨Bindings.length_given _ _, hrecord.nodup_names_append_given c.filter.bound, ?_⟩
    rw [Update.statement, Template.bindings_statement, c.holes_template, hempty.entries_bindAll,
      given_record]
    rfl

end BoundSql
