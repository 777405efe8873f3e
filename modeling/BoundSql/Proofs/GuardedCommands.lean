import BoundSql.Command.Run
import BoundSql.Proofs.BoundValues
import BoundSql.Proofs.PlainNames
import BoundSql.Proofs.Sessions
import BoundSql.Session.Script
import Mathlib.Data.List.DropRight

/-!
# Commands are sent or refused

A command that changes a table is built by a chain of calls and checked when it is run. This module
reads the check off the chain: which payload was set last, and whether a condition was given since
the last time it was dropped. The chain decides alone whether the statement is sent, and if not,
which error is reported; a refused command leaves no trace at all.

## Reading the chain

Payloads overwrite each other, so of each kind only the last one matters, its failure included
(`foldl_overwrite`). Conditions pile up until they are dropped, and calls without a condition do not
count, so what matters is the chain from the last `clear` on (`Filter.isSome_condition_foldl`).

## Refusals in order

The checks of a command are made one after the other, and the first that fails is reported. As
optional errors they are put together by `<|>`, which is how the refusals below are written.
-/

namespace BoundSql

/-! ## Payloads -/

/-- A part of a command that some calls overwrite and all others leave alone is what the last of
them makes of it. -/
theorem foldl_overwrite {S E P V : Type} {apply : S → E → S} {part : S → V} {new? : E → Option P}
    {make : P → V} (h : ∀ s e, part (apply s e) = (new? e).elim (part s) make) (s : S)
    (edits : List E) :
    part (edits.foldl apply s) = (edits.filterMap new?).getLast?.elim (part s) make := by
  induction edits using List.reverseRecOn with
  | nil => rfl
  | append_singleton edits e ih =>
    rw [List.foldl_append, List.foldl_cons, List.foldl_nil, h, ih, List.filterMap_append]
    rcases hnew : new? e with _ | p <;> simp [hnew]

namespace Payload

/-- Why a payload is no record, if it is none. -/
def failure? (p : Payload) : Option Error :=
  match p.record with
  | .error e => some e
  | .ok _ => none

theorem exists_serialization_of_record_eq_error {p : Payload} {e : Error}
    (h : p.record = .error e) : ∃ m, e = .serialization m := by
  unfold record at h
  split at h <;> cases h <;> exact ⟨_, rfl⟩

theorem exists_serialization_of_failure? {p : Payload} {e : Error} (h : p.failure? = some e) :
    ∃ m, e = .serialization m := by
  rw [failure?] at h
  rcases hrecord : p.record with e' | ms
  · rw [hrecord, Option.some.injEq] at h
    exact h ▸ exists_serialization_of_record_eq_error hrecord
  · simp [hrecord] at h

/-- The failure of the payload that was set last. -/
def lastFailure? (payloads : List Payload) : Option Error := payloads.getLast?.bind failure?

/-- The members of the record that was set last; without one there are none. -/
def lastRecord (payloads : List Payload) : Members :=
  (payloads.getLast?.bind fun p ↦ p.record.toOption).getD []

end Payload

namespace RecordSlot

/-- The slot after payloads were set one after the other. -/
def ofLast (payloads : List Payload) : RecordSlot := payloads.getLast?.elim .unset .ofPayload

theorem toJson_ofLast (payloads : List Payload) :
    (ofLast payloads).toJson = .object (Payload.lastRecord payloads) := by
  rw [ofLast, Payload.lastRecord]
  rcases payloads.getLast? with _ | p
  · rfl
  · rcases hrecord : p.record with e | ms
    · obtain ⟨m, rfl⟩ := Payload.exists_serialization_of_record_eq_error hrecord
      simp [ofPayload, hrecord, toJson, Except.toOption]
    · simp [ofPayload, hrecord, toJson, Except.toOption]

theorem isFilled_ofLast (payloads : List Payload) :
    (ofLast payloads).isFilled = !(Payload.lastRecord payloads).isEmpty := by
  rw [ofLast, Payload.lastRecord]
  rcases payloads.getLast? with _ | p
  · rfl
  · rcases hrecord : p.record with e | ms
    · obtain ⟨m, rfl⟩ := Payload.exists_serialization_of_record_eq_error hrecord
      simp [ofPayload, hrecord, isFilled, Except.toOption]
    · simp [ofPayload, hrecord, isFilled, Except.toOption]

theorem failure?_ofLast (payloads : List Payload) :
    (ofLast payloads).failure?.map Error.serialization = Payload.lastFailure? payloads := by
  rw [ofLast, Payload.lastFailure?]
  rcases payloads.getLast? with _ | p
  · rfl
  · rcases hrecord : p.record with e | ms
    · obtain ⟨m, rfl⟩ := Payload.exists_serialization_of_record_eq_error hrecord
      simp [ofPayload, hrecord, failure?, Payload.failure?]
    · simp [ofPayload, hrecord, failure?, Payload.failure?]

end RecordSlot

/-! ## Conditions -/

namespace Filter

/-- Whether a call drops the condition. -/
def Edit.isClear : Edit → Bool
  | .clear => true
  | _ => false

/-- Whether a condition was given since the last time it was dropped. -/
def given (edits : List Edit) : Bool :=
  (edits.rtakeWhile fun e ↦ !e.isClear).any fun e ↦ e.condition?.isSome

theorem isSome_condition_apply (f : Filter) (e : Edit) :
    (f.apply e).condition.isSome
      = (!e.isClear && (f.condition.isSome || e.condition?.isSome)) := by
  obtain ⟨prior⟩ := f
  cases e with
  | clear => rfl
  | filter c | and c | or c | not c => cases c <;> cases prior <;> rfl

theorem isSome_condition_foldl (edits : List Edit) :
    (edits.foldl Filter.apply {}).condition.isSome = given edits := by
  induction edits using List.reverseRecOn with
  | nil => rfl
  | append_singleton edits e ih =>
    rw [List.foldl_append, List.foldl_cons, List.foldl_nil, isSome_condition_apply, ih, given,
      given, List.rtakeWhile_concat]
    cases e.isClear <;> simp

end Filter

/-! ## Checks -/

/-- Fails with the error, if there is one. -/
def check (refusal : Option Error) : Except Error Unit := refusal.elim (.ok ()) .error

/-- The error, unless the condition holds. -/
def errorUnless (e : Error) (holds : Bool) : Option Error := if holds then none else some e

theorem checkBuilt_eq_check (failure : Option String) :
    checkBuilt failure = check (failure.map .serialization) := by
  cases failure <;> rfl

theorem require_eq_check (e : Error) (holds : Bool) :
    require e holds = check (errorUnless e holds) := by
  cases holds <;> rfl

/-- Of two checks the first that fails is reported. -/
theorem check_bind (r r' : Option Error) : (check r >>= fun _ ↦ check r') = check (r <|> r') := by
  cases r <;> rfl

theorem errorUnless_eq_none_iff {e : Error} {holds : Bool} :
    errorUnless e holds = none ↔ holds = true := by
  cases holds <;> simp [errorUnless]

theorem orElse_eq_none_iff {r r' : Option Error} : (r <|> r') = none ↔ r = none ∧ r' = none := by
  cases r <;> simp

theorem map_serialization_orElse (m m' : Option String) :
    (m <|> m').map Error.serialization
      = (m.map Error.serialization <|> m'.map Error.serialization) := by
  cases m <;> rfl

/-! ## Refusals -/

namespace Insert

/-- The payload that a call sets for the row. -/
def Edit.values? : Edit → Option Payload
  | .values p => some p
  | .orUpdate _ => none

/-- The payload that a call sets for a row that is there. -/
def Edit.orUpdate? : Edit → Option Payload
  | .values _ => none
  | .orUpdate p => some p

/-- Why an `INSERT` is refused, if it is. -/
def refusal? (edits : List Edit) : Option Error :=
  (Payload.lastFailure? (edits.filterMap Edit.values?) <|>
    Payload.lastFailure? (edits.filterMap Edit.orUpdate?)) <|>
  errorUnless .noDataToInsert !(Payload.lastRecord (edits.filterMap Edit.values?)).isEmpty

variable (table : String) (edits : List Edit)

theorem record_foldl :
    (edits.foldl apply { table }).record = .ofLast (edits.filterMap Edit.values?) :=
  foldl_overwrite (fun _ e ↦ by cases e <;> rfl) _ _

theorem onDuplicate_foldl :
    (edits.foldl apply { table }).onDuplicate = .ofLast (edits.filterMap Edit.orUpdate?) :=
  foldl_overwrite (fun _ e ↦ by cases e <;> rfl) _ _

theorem validate_foldl : (edits.foldl apply { table }).validate = check (refusal? edits) := by
  rw [validate, record_foldl, onDuplicate_foldl, checkBuilt_eq_check, require_eq_check, check_bind,
    map_serialization_orElse, RecordSlot.failure?_ofLast, RecordSlot.failure?_ofLast,
    RecordSlot.isFilled_ofLast, refusal?]

theorem refusal?_eq_none_iff :
    refusal? edits = none ↔ Payload.lastFailure? (edits.filterMap Edit.values?) = none ∧
      Payload.lastFailure? (edits.filterMap Edit.orUpdate?) = none ∧
      Payload.lastRecord (edits.filterMap Edit.values?) ≠ [] := by
  rw [refusal?, orElse_eq_none_iff, orElse_eq_none_iff, errorUnless_eq_none_iff, and_assoc]
  simp

end Insert

namespace Update

/-- The payload that a call sets. -/
def Edit.set? : Edit → Option Payload
  | .set p => some p
  | .filter _ => none

/-- The change of the condition that a call is. -/
def Edit.filter? : Edit → Option Filter.Edit
  | .set _ => none
  | .filter e => some e

/-- Why an `UPDATE` is refused, if it is. -/
def refusal? (edits : List Edit) : Option Error :=
  Payload.lastFailure? (edits.filterMap Edit.set?) <|>
  errorUnless .nothingToUpdate !(Payload.lastRecord (edits.filterMap Edit.set?)).isEmpty <|>
  errorUnless .updateWithoutCondition (Filter.given (edits.filterMap Edit.filter?))

variable (table : String) (edits : List Edit)

theorem record_foldl :
    (edits.foldl apply { table }).record = .ofLast (edits.filterMap Edit.set?) :=
  foldl_overwrite (fun _ e ↦ by cases e <;> rfl) _ _

theorem filter_foldl (c : Update) :
    (edits.foldl apply c).filter = (edits.filterMap Edit.filter?).foldl Filter.apply c.filter := by
  rw [List.foldl_filterMap]
  exact (List.foldl_hom Update.filter fun _ e ↦ by cases e <;> rfl).symm

theorem table_foldl (c : Update) : (edits.foldl apply c).table = c.table := by
  have hfixed : edits.foldl (fun table _ ↦ table) c.table = (edits.foldl apply c).table :=
    List.foldl_hom Update.table fun _ e ↦ by cases e <;> rfl
  rw [← hfixed, List.foldl_fixed]

theorem isSome_condition_foldl :
    (edits.foldl apply { table }).filter.condition.isSome
      = Filter.given (edits.filterMap Edit.filter?) := by
  rw [filter_foldl, Filter.isSome_condition_foldl]

theorem validate_foldl : (edits.foldl apply { table }).validate = check (refusal? edits) := by
  simp only [validate, record_foldl, isSome_condition_foldl, checkBuilt_eq_check, require_eq_check,
    check_bind, RecordSlot.failure?_ofLast, RecordSlot.isFilled_ofLast, refusal?]

theorem refusal?_eq_none_iff :
    refusal? edits = none ↔ Payload.lastFailure? (edits.filterMap Edit.set?) = none ∧
      Payload.lastRecord (edits.filterMap Edit.set?) ≠ [] ∧
      Filter.given (edits.filterMap Edit.filter?) = true := by
  rw [refusal?, orElse_eq_none_iff, orElse_eq_none_iff, errorUnless_eq_none_iff,
    errorUnless_eq_none_iff]
  simp

end Update

namespace Delete

/-- Why a `DELETE` is refused, if it is. -/
def refusal? (edits : List Filter.Edit) : Option Error :=
  errorUnless .deleteWithoutCondition (Filter.given edits)

variable (table : String) (edits : List Filter.Edit)

theorem filter_foldl (c : Delete) :
    (edits.foldl apply c).filter = edits.foldl Filter.apply c.filter :=
  (List.foldl_hom Delete.filter fun _ _ ↦ rfl).symm

theorem table_foldl (c : Delete) : (edits.foldl apply c).table = c.table := by
  have hfixed : edits.foldl (fun table _ ↦ table) c.table = (edits.foldl apply c).table :=
    List.foldl_hom Delete.table fun _ _ ↦ rfl
  rw [← hfixed, List.foldl_fixed]

theorem isSome_condition_foldl :
    (edits.foldl apply { table }).filter.condition.isSome = Filter.given edits := by
  rw [filter_foldl, Filter.isSome_condition_foldl]

theorem validate_foldl : (edits.foldl apply { table }).validate = check (refusal? edits) := by
  rw [validate, isSome_condition_foldl, require_eq_check, refusal?]

end Delete

/-! ## Running -/

/-- Running a command either is refused and does nothing at all, or sends the statement once and
takes the report from the answer. A statement that binds nothing is sent without bindings. -/
structure Client.SendsUnless {σ : Type} (c : Client σ) (refusal : Option Error) (s : Statement)
    (command : Talk (Except Error Report)) : Prop where
  refused : ∀ e, refusal = some e → ∀ w, c.run command w = (.error e, w)
  sent : refusal = none → ∀ w,
    let request : Request := ⟨s.sql, if s.bindings.isEmpty then none else some s.bindings⟩
    (c.run command w).2.events = w.events ++ [.query c.channel request] ∧
      (c.run command w).1
        = (c.database.query c.channel request w.state).1.answer.bind Answer.takeReport

theorem Client.sendsUnless_checkedTalk {σ : Type} (c : Client σ) (refusal : Option Error)
    (s : Statement) :
    c.SendsUnless refusal s (checkedTalk (check refusal) s Answer.takeReport) := by
  refine ⟨?_, ?_⟩
  · rintro e rfl w
    rfl
  · rintro rfl w
    exact ⟨rfl, rfl⟩

/-! ## What is sent -/

namespace Bindings

/-- The bindings of a command after its record. -/
def ofRecord (record : Members) : Bindings := (empty.bind recordField (.object record)).2

theorem entries_ofRecord (record : Members) :
    (ofRecord record).entries = [("__record__0", .object record)] :=
  sound_empty.entries_bind recordField (.object record)

theorem get?_bindAll_ofRecord (record : Members) (more : List (String × Json)) :
    ((ofRecord record).bindAll more).get? "__record__0" = some (.object record) := by
  refine (sound_empty.bind recordField (.object record)).get?_bindAll_of_mem ?_ more
  rw [← ofRecord, entries_ofRecord]
  exact List.mem_singleton_self _

end Bindings

theorem Insert.get?_record (d : Dialect) (table : String) (edits : List Insert.Edit) :
    ((edits.foldl apply { table }).statement d).bindings.get? "__record__0"
      = some (.object (Payload.lastRecord (edits.filterMap Edit.values?))) := by
  rw [statement, Template.bindings_statement, holes_template, record_foldl,
    RecordSlot.toJson_ofLast]
  exact Bindings.get?_bindAll_ofRecord _ _

theorem Update.get?_record (d : Dialect) (table : String) (edits : List Update.Edit) :
    ((edits.foldl apply { table }).statement d).bindings.get? "__record__0"
      = some (.object (Payload.lastRecord (edits.filterMap Edit.set?))) := by
  rw [statement, Template.bindings_statement, holes_template, record_foldl,
    RecordSlot.toJson_ofLast]
  exact Bindings.get?_bindAll_ofRecord _ _

theorem Update.statement_of_condition (d : Dialect) {c : Update} {condition : Condition}
    (h : c.filter.condition = some condition) :
    let b := (Bindings.empty.bind recordField c.record.toJson).2
    c.statement d = ⟨"UPDATE " ++ d.identifier c.table ++ " SET :__record__0 WHERE "
      ++ (condition.compile d b).1, (condition.compile d b).2⟩ := by
  intro b
  have hname : placeholder (Bindings.empty.bind recordField c.record.toJson).1 = ":__record__0" :=
    rfl
  have hjoined : " SET :__record__0 WHERE " = " SET " ++ ":__record__0" ++ " WHERE " := rfl
  rw [statement, template, Filter.clause, h, hjoined]
  simp only [Template.statement, RecordSlot.hole, List.cons_append, List.nil_append, Template.bind,
    hname, Condition.compile, b, String.append_assoc]

theorem Delete.statement_of_condition (d : Dialect) {c : Delete} {condition : Condition}
    (h : c.filter.condition = some condition) :
    c.statement d = ⟨"DELETE FROM " ++ d.identifier c.table ++ " WHERE "
      ++ (condition.compile d .empty).1, (condition.compile d .empty).2⟩ := by
  rw [statement, template, Filter.clause, h]
  simp [Template.statement, Template.bind, Condition.compile, String.append_assoc]

/-- **Commands are sent or refused.** Whatever chain of calls has built it, a command that changes a
table either sends its statement once or is refused without a trace. It is refused for the first of
these reasons: the payload set last for the row is no record, or the one for a row that is there is
not; the record has no members; no condition was given since the last time it was dropped. So an
`UPDATE` or `DELETE` that is sent ends in its condition, and the record of an `INSERT` or `UPDATE`
that is sent is bound as `__record__0` and has members. -/
theorem sent_or_refused :
    (∀ (p : Payload) (e : Error), p.failure? = some e → ∃ m, e = .serialization m) ∧
    (∀ {σ : Type} (c : Client σ) (table : String) (edits : List Insert.Edit),
      let command := edits.foldl Insert.apply { table }
      let d := c.database.dialect
      let row := edits.filterMap Insert.Edit.values?
      let change := edits.filterMap Insert.Edit.orUpdate?
      c.SendsUnless (Insert.refusal? edits) (command.statement d) (command.run d) ∧
        (Insert.refusal? edits = none ↔ Payload.lastFailure? row = none ∧
          Payload.lastFailure? change = none ∧ Payload.lastRecord row ≠ []) ∧
        (command.statement d).bindings.get? "__record__0"
          = some (.object (Payload.lastRecord row))) ∧
    (∀ {σ : Type} (c : Client σ) (table : String) (edits : List Update.Edit),
      let command := edits.foldl Update.apply { table }
      let d := c.database.dialect
      let row := edits.filterMap Update.Edit.set?
      let b := Bindings.ofRecord (Payload.lastRecord row)
      c.SendsUnless (Update.refusal? edits) (command.statement d) (command.run d) ∧
        (Update.refusal? edits = none ↔ Payload.lastFailure? row = none ∧
          Payload.lastRecord row ≠ [] ∧
          Filter.given (edits.filterMap Update.Edit.filter?) = true) ∧
        (command.statement d).bindings.get? "__record__0"
          = some (.object (Payload.lastRecord row)) ∧
        (Update.refusal? edits = none → ∃ condition, command.filter.condition = some condition ∧
          command.statement d = ⟨"UPDATE " ++ d.identifier table ++ " SET :__record__0 WHERE "
            ++ (condition.compile d b).1, (condition.compile d b).2⟩)) ∧
    ∀ {σ : Type} (c : Client σ) (table : String) (edits : List Filter.Edit),
      let command := edits.foldl Delete.apply { table }
      let d := c.database.dialect
      c.SendsUnless (Delete.refusal? edits) (command.statement d) (command.run d) ∧
        (Delete.refusal? edits = none ↔ Filter.given edits = true) ∧
        (Delete.refusal? edits = none → ∃ condition, command.filter.condition = some condition ∧
          command.statement d = ⟨"DELETE FROM " ++ d.identifier table ++ " WHERE "
            ++ (condition.compile d .empty).1, (condition.compile d .empty).2⟩) := by
  refine ⟨fun p e h ↦ Payload.exists_serialization_of_failure? h, ?_, ?_, ?_⟩
  · intro σ c table edits command d row change
    refine ⟨?_, Insert.refusal?_eq_none_iff edits, Insert.get?_record d table edits⟩
    rw [Insert.run, Insert.validate_foldl]
    exact c.sendsUnless_checkedTalk _ _
  · intro σ c table edits command d row b
    refine ⟨?_, Update.refusal?_eq_none_iff edits, Update.get?_record d table edits, fun h ↦ ?_⟩
    · rw [Update.run, Update.validate_foldl]
      exact c.sendsUnless_checkedTalk _ _
    · have hgiven := ((Update.refusal?_eq_none_iff edits).mp h).2.2
      rw [← Update.isSome_condition_foldl table] at hgiven
      obtain ⟨condition, hcondition⟩ := Option.isSome_iff_exists.mp hgiven
      refine ⟨condition, hcondition, ?_⟩
      rw [Update.statement_of_condition d hcondition, Update.record_foldl,
        RecordSlot.toJson_ofLast, Update.table_foldl]
      rfl
  · intro σ c table edits command d
    refine ⟨?_, errorUnless_eq_none_iff, fun h ↦ ?_⟩
    · rw [Delete.run, Delete.validate_foldl]
      exact c.sendsUnless_checkedTalk _ _
    · have hgiven := errorUnless_eq_none_iff.mp h
      rw [← Delete.isSome_condition_foldl table] at hgiven
      obtain ⟨condition, hcondition⟩ := Option.isSome_iff_exists.mp hgiven
      refine ⟨condition, hcondition, ?_⟩
      rw [Delete.statement_of_condition d hcondition, Delete.table_foldl]

/-- Calls after which an `UPDATE` has a record but no condition: the first payload is no record and
is overwritten, and the only condition is dropped. -/
def withoutCondition : List Update.Edit :=
  [.set .badKeys, .filter (.filter (some (Column.compare ⟨none, "a"⟩ .equal (.value .null)))),
    .set (.json (.object [("n", .bool true)])), .filter .clear, .filter (.and none)]

/-- The same calls and a condition. -/
def withCondition : List Update.Edit :=
  withoutCondition ++ [.filter (.or (some (Column.compare ⟨none, "b"⟩ .equal (.value .null))))]

theorem update_sent_with_condition :
    let c : Client Script.Answers := { database := ({} : Script).database }
    let refused := withoutCondition.foldl Update.apply { table := "t" }
    let sent := withCondition.foldl Update.apply { table := "t" }
    c.run (refused.run .mysql) ⟨[], [], []⟩ = (.error .updateWithoutCondition, ⟨[], [], []⟩) ∧
      (c.run (sent.run .mysql) ⟨[], [], []⟩).2.events =
        [.query .pool ⟨"UPDATE `t` SET :__record__0 WHERE ( `b` IS NULL )",
          some ⟨[("__record__0", .object [("n", .bool true)])]⟩⟩] := by
  intro c refused sent
  have hrefused := (sent_or_refused.2.2.1 c "t" withoutCondition).1
  have hsent := (sent_or_refused.2.2.1 c "t" withCondition).1
  exact ⟨hrefused.refused _ rfl _, (hsent.sent rfl _).1⟩

end BoundSql
