import BoundSql.Command.Chain
import BoundSql.Proofs.FreshNames
import BoundSql.Proofs.JoinedAliases
import BoundSql.Proofs.SameForm
import BoundSql.Session.Client
import BoundSql.Session.Script

/-!
# Texts that do not depend on values

Two chains of calls that differ in values only build statements with the same text and the same
names. A value may decide about the form of a command (`SameForm`), and beyond that it is bound and
gets nowhere: the name that it is bound under is made from its column and from the names so far,
never from a value.

A client that does not log values logs the text of a statement and how many values it has before it
sends it. So a reader of that record learns nothing about the values but the form of the command.
-/

namespace BoundSql

/-! ## Names -/

namespace Members

theorem keys_cons (m : String × Json) (ms : Members) : keys (m :: ms) = m.1 :: keys ms := rfl

theorem keys_insert (ms : Members) (key : String) (value : Json) :
    keys (insert ms key value) = if key ∈ keys ms then keys ms else keys ms ++ [key] := by
  induction ms with
  | nil => rfl
  | cons m ms ih =>
    rw [insert]
    by_cases h : m.1 = key
    · simp [keys_cons, h]
    · rw [if_neg h, keys_cons, ih, keys_cons]
      by_cases hmem : key ∈ keys ms <;> simp [hmem, Ne.symm h]

end Members

namespace Bindings

variable {b c : Bindings}

theorem used_eq_countP_names (b : Bindings) (field : String) :
    b.used field = b.names.countP fun name ↦ (stem field).toList.isPrefixOf name.toList := by
  rw [used, names, Members.keys, List.countP_map]
  rfl

/-- The next name depends on the names so far. -/
theorem nextName_congr (h : b.names = c.names) (field : String) :
    b.nextName field = c.nextName field := by
  rw [nextName, nextName, used_eq_countP_names, used_eq_countP_names, h]

theorem names_bind_congr (h : b.names = c.names) (field : String) (v w : Json) :
    (b.bind field v).2.names = (c.bind field w).2.names := by
  rw [bind, bind, names, names, Members.keys_insert, Members.keys_insert, nextName_congr h field]
  exact congrArg
    (fun ks ↦ if c.nextName field ∈ ks then ks else ks ++ [c.nextName field]) h

end Bindings

/-! ## Statements -/

/-- Statements with the same text and the same names in the same order. -/
structure Statement.SameText (s t : Statement) : Prop where
  /-- The text. -/
  sql : s.sql = t.sql
  /-- The names. -/
  names : s.bindings.names = t.bindings.names

/-- Templates of the same form are bound to the same text under the same names. -/
theorem Template.SameForm.bind {s t : Template} (h : s.SameForm t) {b c : Bindings}
    (hbc : b.names = c.names) :
    (Template.bind s b).1 = (Template.bind t c).1 ∧
      (Template.bind s b).2.names = (Template.bind t c).2.names := by
  induction h generalizing b c with
  | nil => exact ⟨rfl, hbc⟩
  | cons hfragment _ ih =>
    cases hfragment with
    | text s => exact ⟨congrArg (s ++ ·) (ih hbc).1, (ih hbc).2⟩
    | hole field v w =>
      obtain ⟨hsql, hnames⟩ := ih (Bindings.names_bind_congr hbc field v w)
      have hname : (b.bind field v).1 = (c.bind field w).1 := Bindings.nextName_congr hbc field
      exact ⟨congrArg₂ (placeholder · ++ ·) hname hsql, hnames⟩

theorem Template.SameForm.statement {s t : Template} (h : s.SameForm t) :
    s.statement.SameText t.statement := by
  obtain ⟨hsql, hnames⟩ := h.bind (b := .empty) rfl
  exact ⟨hsql, hnames⟩

/-! ## The log -/

namespace Client

/-- Without values, the record before a statement tells its kind, its number of values and its
text. -/
theorem announcement_of_not_logBindings {s : Settings} (h : s.logBindings = false)
    (stmt : Statement) :
    announcement s stmt
      = if s.logSql then
          [.statement (.ofSql stmt.sql) stmt.bindings.names.length (s.shownSql stmt.sql) none]
        else [] := by
  rw [announcement, h, Bindings.names, Members.keys, List.length_map]
  rfl

theorem log_send {σ : Type} (c : Client σ) (stmt : Statement) (w : World σ) :
    ∃ later, (c.send stmt w).2.log = w.log ++ announcement c.settings stmt ++ later := ⟨_, rfl⟩

end Client

/-! ## Chains of calls -/

namespace Chain

/-- Chains whose calls are of the same form one by one. -/
inductive SameForm : Chain → Chain → Prop
  | select (table : String) {calls calls' : List Select.Edit}
      (h : List.Forall₂ Select.Edit.SameForm calls calls') :
    SameForm (.select table calls) (.select table calls')
  | join (table : String) (start : Tables.Start) {joins joins' : List Tables.Edit}
      {calls calls' : List Select.Edit} (hjoins : List.Forall₂ Tables.Edit.SameForm joins joins')
      (h : List.Forall₂ Select.Edit.SameForm calls calls') :
    SameForm (.join table start joins calls) (.join table start joins' calls')
  | insert (table : String) {calls calls' : List Insert.Edit}
      (h : List.Forall₂ Insert.Edit.SameForm calls calls') :
    SameForm (.insert table calls) (.insert table calls')
  | update (table : String) {calls calls' : List Update.Edit}
      (h : List.Forall₂ Update.Edit.SameForm calls calls') :
    SameForm (.update table calls) (.update table calls')
  | delete (table : String) {calls calls' : List Filter.Edit}
      (h : List.Forall₂ Filter.Edit.SameForm calls calls') :
    SameForm (.delete table calls) (.delete table calls')

end Chain

/-- A relation that is kept by each pair of related calls is kept by a run of them. -/
theorem foldl_kept {S E : Type} {apply : S → E → S} {R : S → S → Prop} {T : E → E → Prop}
    (step : ∀ {s s' : S}, R s s' → ∀ {e e' : E}, T e e' → R (apply s e) (apply s' e')) {s s' : S}
    (h : R s s') {calls calls' : List E} (hcalls : List.Forall₂ T calls calls') :
    R (calls.foldl apply s) (calls'.foldl apply s') := by
  induction hcalls generalizing s s' with
  | nil => exact h
  | cons he _ ih => exact ih (step h he)

/-- Queries on sources of the same form stay of the same form. -/
theorem Source.SameForm.foldl_select {s s' : Source} (h : s.SameForm s')
    {calls calls' : List Select.Edit} (hcalls : List.Forall₂ Select.Edit.SameForm calls calls') :
    (calls.foldl Select.apply { source := s }).SameForm
      (calls'.foldl Select.apply { source := s' }) := by
  have hstart : Select.SameForm { source := s } { source := s' } :=
    ⟨h, rfl, .empty, rfl, .empty, rfl, rfl⟩
  exact foldl_kept Select.SameForm.apply hstart hcalls

namespace Chain

theorem SameForm.statement {c c' : Chain} (h : c.SameForm c') (d : Dialect) :
    (c.statement d).SameText (c'.statement d) := by
  cases h with
  | select table h => exact ((Source.SameForm.table table).foldl_select h |>.template d).statement
  | join table start hjoins h =>
    have htables : (start.tables table).SameForm (start.tables table) := by
      cases start <;> exact ⟨rfl, rfl, .empty⟩
    have hjoined := foldl_kept Tables.SameForm.apply htables hjoins
    exact ((Source.SameForm.joined hjoined).foldl_select h |>.template d).statement
  | insert table h =>
    have hstart : Insert.SameForm { table } { table } := ⟨rfl, rfl⟩
    have hbuilt := foldl_kept Insert.SameForm.apply hstart h
    exact (hbuilt.template d).statement
  | update table h =>
    have hstart : Update.SameForm { table } { table } := ⟨rfl, .empty⟩
    have hbuilt := foldl_kept Update.SameForm.apply hstart h
    exact (hbuilt.template d).statement
  | delete table h =>
    have hstart : Delete.SameForm { table } { table } := ⟨rfl, .empty⟩
    have hbuilt := foldl_kept Delete.SameForm.apply hstart h
    exact (hbuilt.template d).statement

/-- **Texts do not depend on values.** Chains of calls that differ in values only build statements
with the same text and the same names in the same order. With settings that keep values out of the
log, whatever they are otherwise, a client logs the same before it sends either of them. -/
theorem SameForm.tells_no_values {c c' : Chain} (h : c.SameForm c') (d : Dialect) :
    let s := c.statement d
    let s' := c'.statement d
    s.sql = s'.sql ∧ s.bindings.names = s'.bindings.names ∧
      ∀ {σ : Type} (client : Client σ), client.settings.logBindings = false → ∀ w w' : World σ,
        ∃ later later',
          (client.send s w).2.log = w.log ++ Client.announcement client.settings s ++ later ∧
          (client.send s' w').2.log
            = w'.log ++ Client.announcement client.settings s ++ later' := by
  intro s s'
  obtain ⟨hsql, hnames⟩ := h.statement d
  refine ⟨hsql, hnames, fun client hquiet w w' ↦ ?_⟩
  have hsame : Client.announcement client.settings s' = Client.announcement client.settings s := by
    rw [Client.announcement_of_not_logBindings hquiet,
      Client.announcement_of_not_logBindings hquiet, hsql, hnames]
  obtain ⟨later, hlater⟩ := client.log_send s w
  obtain ⟨later', hlater'⟩ := client.log_send s' w'
  exact ⟨later, later', hlater, hsame ▸ hlater'⟩

/-- An `UPDATE` of the users of some age who have none of some names and live in no city. -/
def moveIn (record : Members) (age : Json) (names : List Json) : Chain :=
  .update "user" [.set (.json (.object record)),
    .filter (.and (some (.all [
      .compare ⟨⟨none, "age"⟩, .greaterOrEqual, .value age⟩,
      .negated (.compare ⟨⟨none, "name"⟩, .oneOf, .list names⟩),
      .compare ⟨⟨none, "city"⟩, .equal, .value .null⟩])))]

theorem moveIn_tells_no_values :
    let c := moveIn [("city", .text "Rome")] (.ofInt64 18) [.text "Ann", .text "Bob"]
    let c' := moveIn [("zip", .ofInt64 184), ("note", .null)] .null []
    let client : Client Script.Answers := { database := ({} : Script).database }
    let w : World Script.Answers := ⟨[], [], []⟩
    c.SameForm c' ∧
      (c'.statement .mysql).sql = "UPDATE `user` SET :__record__0 WHERE ( ( `age` >= :__age__0 )"
        ++ " AND ( NOT ( `name` IN (:__name__0) ) ) AND ( `city` IS NULL ) )" ∧
      (c'.statement .mysql).bindings.names = ["__record__0", "__age__0", "__name__0"] ∧
      ∃ later later',
        (client.send (c.statement .mysql) w).2.log
          = Client.announcement client.settings (c.statement .mysql) ++ later ∧
        (client.send (c'.statement .mysql) w).2.log
          = Client.announcement client.settings (c.statement .mysql) ++ later' := by
  intro c c' client w
  have hage : Comparison.SameForm ⟨⟨none, "age"⟩, .greaterOrEqual, .value (.ofInt64 18)⟩
      ⟨⟨none, "age"⟩, .greaterOrEqual, .value .null⟩ := ⟨rfl, rfl, .value _ _, rfl⟩
  have hname : Comparison.SameForm ⟨⟨none, "name"⟩, .oneOf, .list [.text "Ann", .text "Bob"]⟩
      ⟨⟨none, "name"⟩, .oneOf, .list []⟩ := ⟨rfl, rfl, .list _ _, rfl⟩
  have hcondition := Condition.SameForm.all (.cons (.compare hage)
    (.cons (.negated (.compare hname)) (.cons (.refl (.compare ⟨⟨none, "city"⟩, .equal,
      .value .null⟩)) .nil)))
  have h : c.SameForm c' :=
    .update "user" (.cons (.set _ _) (.cons (.filter (.and (.some hcondition))) .nil))
  obtain ⟨hsql, hnames, hlog⟩ := h.tells_no_values .mysql
  exact ⟨h, hsql.symm.trans (by decide +kernel), hnames.symm.trans (by decide +kernel),
    hlog client rfl w w⟩

end Chain

end BoundSql
