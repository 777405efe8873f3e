import BoundSql.Proofs.AssignmentLists
import BoundSql.Proofs.ShownNames
import BoundSql.Proofs.WholePlaceholders

/-!
# Operands that show nothing

A statement is shown with the values in it so that it can be read, or sent to a database that knows
no placeholders, and then a comparison has to have something on its right-hand side. Compiling gives
every comparison a placeholder, a column or a test for `null`, and a group without parts has a text
of its own. But what takes the place of the placeholder is decided by the literal alone, and the
literals of two values are empty: a list without items and an object without members.

So this module says how a comparison is shown, with any column on its left-hand side, and that these
are the only operands behind which nothing is shown.
-/

namespace BoundSql

/-! ## Literals -/

private theorem intercalate_cons_ne_empty {separator s : String} (hs : s ≠ "") (ss : List String) :
    separator.intercalate (s :: ss) ≠ "" := by
  cases ss with
  | nil => rwa [String.intercalate_singleton]
  | cons t ts =>
    rw [String.intercalate_cons_cons, String.append_assoc]
    exact fun h ↦ hs (String.append_eq_empty_iff.mp h).1

/-- The values whose literals are empty. -/
theorem literal_eq_empty_iff (v : Json) : literal v = "" ↔ v = .array [] ∨ v = .object [] := by
  cases v with
  | object members =>
    cases members with
    | nil => simp [literal]
    | cons m ms =>
      have hassignment : assignment m ≠ "" := by simp [assignment]
      rw [literal, List.map_cons]
      simpa using intercalate_cons_ne_empty hassignment _
  | _ => simp [literal, nestedLiteral_eq_empty_iff]

/-! ## Comparisons -/

/-- What is shown of an operand: the literal of a value, a list being one array, and of another
column its text with the values that its names spell. -/
def Operand.shown (b : Bindings) : Operand → String
  | .value v => literal v
  | .column c => fillText .mysql b (c.render .mysql)
  | .list items => literal (.array items)

/-- An operand in SQL, with a token for what is bound. -/
def Operand.text (d : Dialect) (token : String) : Operand → String
  | .column c => c.render d
  | _ => token

/-- The text of a comparison of `column` with `operand`. A test for `null` has no operand. -/
def Comparison.written (t : Comparison) (column operand : String) : String :=
  if t.isNullTest then column ++ if t.op = .equal then " IS NULL" else " IS NOT NULL"
  else if t.op = .oneOf then column ++ " IN (" ++ operand ++ ")"
  else column ++ " " ++ t.op.symbol ++ " " ++ operand

theorem Operand.shown_eq_empty_iff (b : Bindings) (operand : Operand) :
    operand.shown b = ""
      ↔ operand = .list [] ∨ operand = .value (.array []) ∨ operand = .value (.object []) := by
  cases operand with
  | value v => simp [shown, literal_eq_empty_iff]
  | list items => simp [shown, literal_eq_empty_iff]
  | column c =>
    -- the first character is kept, because no placeholder begins with it
    obtain ⟨mark, cs, hrender, hmark⟩ := c.exists_toList_render_eq_cons
    have hshown : shown b (.column c) ≠ "" := by
      rw [shown, fillText, hrender, fillPlaceholders, if_neg hmark]
      simp
    simp [hshown]

namespace Comparison

theorem sql_eq_written (d : Dialect) (token : String) (t : Comparison) :
    t.sql d token = t.written (t.column.render d) (t.operand.text d token) := by
  obtain ⟨column, op, operand⟩ := t
  cases operand with
  | value v => cases op <;> cases v <;> rfl
  | column c => cases op <;> rfl
  | list items => cases op <;> rfl

theorem written_of_isNullTest {t : Comparison} (h : t.isNullTest = true) (column s s' : String) :
    t.written column s = t.written column s' := by
  rw [written, written, if_pos h, if_pos h]

/-- A comparison binds its operand, unless that is a column or the comparison a test for `null`. -/
theorem binding?_of_not_isNullTest {t : Comparison} (h : t.isNullTest = false) :
    t.binding? = t.operand.bound?.map fun v ↦ (t.column.name, v) := by
  obtain ⟨column, op, operand⟩ := t
  cases operand with
  | value v => cases op <;> cases v <;> first | rfl | cases h
  | column c => cases op <;> rfl
  | list items => cases op <;> rfl

/-- The placeholder of a comparison is shown as the literal of what is bound. -/
theorem fillText_placeholder_compile {t : Comparison} (hname : WordName t.column.name)
    {b : Bindings} (hb : b.Sound) {v : Json} (hv : t.binding? = some (t.column.name, v))
    (more : List (String × Json)) :
    fillText .mysql (((Condition.compare t).compile .mysql b).2.bindAll more)
        (placeholder ((b.given (Condition.compare t).bound).getD 0 ""))
      = literal v := by
  rw [Condition.compile_snd, Condition.bound_compare, hv]
  exact fillText_placeholder hname .mysql hb v more

/-- A comparison of a column whose name is a word is shown with its operand, whatever the name of
its table is and whatever is bound before and after it. -/
theorem fillText_compile {t : Comparison} (hname : WordName t.column.name)
    {b : Bindings} (hb : b.Sound) (more : List (String × Json)) :
    let leaf := (Condition.compare t).compile .mysql b
    let final := leaf.2.bindAll more
    fillText .mysql final leaf.1
      = "( " ++ t.written (fillText .mysql final (t.column.render .mysql)) (t.operand.shown final)
        ++ " )" := by
  intro leaf final
  let token := placeholder ((b.given (Condition.compare t).bound).getD 0 "")
  have hpieces : fillText .mysql final leaf.1
      = "( " ++ t.sql (.showing final) (fillText .mysql final token) ++ " )" := by
    have h := ((Condition.compare t).shownAs_template final).fillText_withTokens
      (fun k ↦ (b.given (Condition.compare t).bound).getD k "") 0
    rwa [Condition.withTokens_template, ← Condition.compile_fst, Condition.withTokens_template] at h
  rw [hpieces, sql_eq_written, (t.column.shownAs_render final).eq_fillText]
  cases hnull : t.isNullTest with
  | true => rw [written_of_isNullTest hnull]
  | false =>
    have hbinding := binding?_of_not_isNullTest hnull
    have hoperand : t.operand.text (.showing final) (fillText .mysql final token)
        = t.operand.shown final := by
      cases hkind : t.operand with
      | column c => exact (c.shownAs_render final).eq_fillText
      | value v | list items =>
        rw [hkind] at hbinding
        exact fillText_placeholder_compile hname hb hbinding more
    rw [hoperand]

end Comparison

/-- **Which operands show nothing.** Compile a comparison of a column whose name is a word after any
values, and show it with these and any later values. What is shown is the column, the relation, and
the operand, with parentheses of its own after `IN`. Nothing is shown of the operand if and only if
it is an empty list or array, or an object without members. -/
theorem operand_shown_empty_iff (calls more : List (String × Json)) {t : Comparison}
    (hname : WordName t.column.name) :
    let leaf := (Condition.compare t).compile .mysql (Bindings.empty.bindAll calls)
    let final := leaf.2.bindAll more
    fillText .mysql final leaf.1
        = "( " ++ t.written (fillText .mysql final (t.column.render .mysql))
          (t.operand.shown final) ++ " )" ∧
      (t.operand.shown final = "" ↔
        t.operand = .list [] ∨ t.operand = .value (.array []) ∨
          t.operand = .value (.object [])) :=
  ⟨Comparison.fillText_compile hname (Bindings.sound_bindAll_empty calls) more,
    Operand.shown_eq_empty_iff _ _⟩

/-- A list with an empty array in it is shown as something, after a value of the same column. -/
theorem nested_list_shown :
    let t : Comparison := ⟨⟨some "u", "id"⟩, .oneOf, .list [.array []]⟩
    let leaf := (Condition.compare t).compile .mysql (Bindings.empty.bindAll [("id", .null)])
    let final := leaf.2.bindAll [("id", .bool true)]
    WordName t.column.name ∧ fillText .mysql final leaf.1 = "( `u`.`id` IN (()) )" ∧
      t.operand.shown final ≠ "" := by
  intro t leaf final
  have hname : WordName t.column.name := by decide
  have hshown := operand_shown_empty_iff [("id", .null)] [("id", .bool true)] hname
  refine ⟨hname, hshown.1.trans (by decide +kernel), ?_⟩
  rw [Ne, hshown.2]
  simp [t]

/-- A list without items and an object without members leave nothing on the right-hand side. -/
theorem nothing_shown_of_empty_list :
    let shown (t : Comparison) :=
      let leaf := (Condition.compare t).compile .mysql .empty
      fillText .mysql leaf.2 leaf.1
    shown ⟨⟨none, "a"⟩, .oneOf, .list []⟩ = "( `a` IN () )" ∧
      shown ⟨⟨none, "a"⟩, .equal, .value (.array [])⟩ = "( `a` =  )" ∧
      shown ⟨⟨none, "a"⟩, .greater, .value (.object [])⟩ = "( `a` >  )" := by
  decide +kernel

end BoundSql
