import BoundSql.Proofs.Sessions
import Mathlib.Data.List.Basic

/-!
# The course of a transaction

A transaction goes through acquiring, beginning, the action and the commit, and each of them can
fail. The `Course` says how far it came. It is read off the answers to these four alone; undoing and
releasing follow from it, and whether they succeed does not matter.

Main statements:

* `transact_follows_course`: a transaction asks the database exactly the events of its course, and
  so do all transactions of a program, one after the other;
* `Database.outcome_course`: the outcome of a course is that of the action, or else the first
  failure.

The events of a course are a table of seven rows, so what they have in common (`Course.Orderly`) is
settled row by row, and a session inherits it because its events are those of its steps.
-/

namespace BoundSql

/-! ## Courses -/

/-- How far a transaction comes, and the statements of its action where that was run. -/
inductive Course (ε α : Type) where
  /-- Connections are not handed out. -/
  | unsupported
  /-- No connection was acquired. -/
  | refused (e : Error)
  /-- The transaction was not begun. -/
  | notBegun (e : Error)
  /-- The action gave a value, and it was committed. -/
  | committed (sent : List Statement) (x : α)
  /-- The action gave a value, and the commit failed. -/
  | notCommitted (sent : List Statement) (x : α) (e : Error)
  /-- The action failed. -/
  | failed (sent : List Statement) (e : ε)
  /-- The action gave no result. -/
  | interrupted (sent : List Statement) (how : Interruption)

namespace Course

variable {ε α : Type}

/-- What the database is asked. -/
def events : Course ε α → List Event
  | unsupported => []
  | refused _ => [.acquire]
  | notBegun _ => [.acquire, .begin, .rollback, .release]
  | committed sent _ => [.acquire, .begin] ++ queries .connection sent ++ [.commit, .release]
  | notCommitted sent _ _ =>
    [.acquire, .begin] ++ queries .connection sent ++ [.commit, .rollback, .release]
  | failed sent _ => [.acquire, .begin] ++ queries .connection sent ++ [.rollback, .release]
  | interrupted sent _ => [.acquire, .begin] ++ queries .connection sent ++ [.release]

/-- What the caller gets. -/
def outcome (lift : Error → ε) : Course ε α → Outcome ε α
  | unsupported => .error (lift .noTransactions)
  | refused e | notBegun e | notCommitted _ _ e => .error (lift e)
  | committed _ x => .value x
  | failed _ e => .error e
  | interrupted _ how => .interrupted how

/-- Whether a connection was acquired. -/
def acquired : Course ε α → Bool
  | unsupported | refused _ => false
  | _ => true

/-- The value of the action, if it gave one. -/
def value? : Course ε α → Option α
  | committed _ x | notCommitted _ x _ => some x
  | _ => none

/-- The statements of the action. -/
def sent : Course ε α → List Statement
  | committed sent _ | notCommitted sent _ _ | failed sent _ | interrupted sent _ => sent
  | _ => []

end Course

namespace Database

variable {σ ε α : Type} (db : Database σ)

/-- The course of a transaction whose action has ended or was given up. -/
def courseAfter (x : Exchange σ (Outcome ε α)) : Course ε α :=
  match x.result with
  | .error e => .failed x.sent e
  | .interrupted how => .interrupted x.sent how
  | .value v =>
    match (db.commit x.state).1 with
    | .error e => .notCommitted x.sent v e
    | .ok () => .committed x.sent v

/-- The course of a transaction in state `s`. -/
def course (action : Talk (Outcome ε α)) (s : σ) : Course ε α :=
  if db.canAcquire then
    match db.acquire s with
    | (.error e, _) => .refused e
    | (.ok (), s) =>
      match db.begin s with
      | (.error e, _) => .notBegun e
      | (.ok (), s) => db.courseAfter (action.exchange db .connection s)
  else .unsupported

variable {action : Talk (Outcome ε α)} {db} {s s₁ s₂ : σ} {e : Error}

theorem course_of_unsupported (h : db.canAcquire = false) :
    db.course action s = .unsupported := by
  simp [course, h]

theorem course_of_acquire_error (hcan : db.canAcquire = true)
    (hacquire : db.acquire s = (.error e, s₁)) : db.course action s = .refused e := by
  simp [course, hcan, hacquire]

theorem course_of_begin_error (hcan : db.canAcquire = true)
    (hacquire : db.acquire s = (.ok (), s₁)) (hbegin : db.begin s₁ = (.error e, s₂)) :
    db.course action s = .notBegun e := by
  simp [course, hcan, hacquire, hbegin]

theorem course_of_begun (hcan : db.canAcquire = true)
    (hacquire : db.acquire s = (.ok (), s₁)) (hbegin : db.begin s₁ = (.ok (), s₂)) :
    db.course action s = db.courseAfter (action.exchange db .connection s₂) := by
  simp [course, hcan, hacquire, hbegin]

end Database

/-! ## Following the course -/

namespace Client

variable {σ ε α : Type} (c : Client σ) (lift : Error → ε)

@[simp] theorem events_rollbackQuietly (w : World σ) :
    (c.rollbackQuietly w).2.events = w.events ++ [.rollback] := by
  rw [rollbackQuietly, Session.bind_apply, Session.ask_apply]
  cases (c.database.rollback w.state).1 <;> rfl

@[simp] theorem events_releaseQuietly (w : World σ) :
    (c.releaseQuietly w).2.events = w.events ++ [.release] := by
  rw [releaseQuietly, Session.bind_apply, Session.ask_apply]
  cases (c.database.release w.state).1 <;> rfl

/-- After the action, a transaction ends as its course says. -/
theorem conclude_eq_courseAfter {x : Exchange σ (Outcome ε α)} {w : World σ}
    (hstate : w.state = x.state) {before : List Event}
    (hevents : w.events = before ++ ([.acquire, .begin] ++ queries .connection x.sent)) :
    (c.conclude lift x.result w).1 = (c.database.courseAfter x).outcome lift ∧
      (c.conclude lift x.result w).2.events ++ [.release]
        = before ++ (c.database.courseAfter x).events := by
  obtain ⟨result, sent, s⟩ := x
  dsimp only at hstate hevents ⊢
  cases result with
  | value v =>
    rcases hcommit : (c.database.commit s).1 with e | ⟨⟩
    · simp [conclude, Database.courseAfter, Course.outcome, Course.events, hstate, hevents, hcommit]
    · simp [conclude, Database.courseAfter, Course.outcome, Course.events, hstate, hevents, hcommit]
  | error e => simp [conclude, Database.courseAfter, Course.outcome, Course.events, hevents]
  | interrupted how =>
    simp [conclude, Database.courseAfter, Course.outcome, Course.events, hevents]

/-- A transaction gives the outcome of its course and asks the events of it. -/
theorem transactTalk_eq_course (action : Talk (Outcome ε α)) (w : World σ) :
    (c.transactTalk lift action w).1 = (c.database.course action w.state).outcome lift ∧
      (c.transactTalk lift action w).2.events
        = w.events ++ (c.database.course action w.state).events := by
  rcases hcan : c.database.canAcquire with _ | _
  · rw [Database.course_of_unsupported hcan]
    simp [transactTalk, transact, hcan, Course.outcome, Course.events]
  · rcases hacquire : c.database.acquire w.state with ⟨e | ⟨⟩, s₁⟩
    · rw [Database.course_of_acquire_error hcan hacquire]
      simp [transactTalk, transact, hcan, hacquire, Course.outcome, Course.events]
    · rcases hbegin : c.database.begin s₁ with ⟨e | ⟨⟩, s₂⟩
      · rw [Database.course_of_begin_error hcan hacquire hbegin]
        simp [transactTalk, transact, runOnConnection, hcan, hacquire, hbegin, Course.outcome,
          Course.events]
      · rw [Database.course_of_begun hcan hacquire hbegin]
        let tx : Client σ := { c with channel := .connection }
        let begun : World σ := ⟨s₂, w.events ++ [.acquire, .begin], w.log ++ [.started]⟩
        obtain ⟨hresult, hstate, hevents⟩ := tx.run_eq_exchange action begun
        have hend := c.conclude_eq_courseAfter lift hstate
          (hevents.trans (List.append_assoc w.events [.acquire, .begin] _))
        rw [← hresult] at hend
        refine ⟨Eq.trans ?_ hend.1, Eq.trans ?_ hend.2⟩
        · simp [transactTalk, transact, runOnConnection, hcan, hacquire, hbegin, tx, begun]
        · simp [transactTalk, transact, runOnConnection, hcan, hacquire, hbegin, tx, begun]

end Client

/-! ## What all courses have in common -/

/-- Whether a connection is given back. -/
def Event.isRelease : Event → Bool
  | .release => true
  | _ => false

/-- Whether a transaction is made permanent. -/
def Event.isCommit : Event → Bool
  | .commit => true
  | _ => false

private theorem not_mem_queries {e : Event} (h : ∀ on r, e ≠ .query on r) (on : Channel)
    (sent : List Statement) : e ∉ queries on sent := by
  rw [queries, List.mem_map]
  rintro ⟨stmt, -, rfl⟩
  exact h _ _ rfl

private theorem countP_queries {p : Event → Bool} (h : ∀ on r, p (.query on r) = false)
    (on : Channel) (sent : List Statement) : (queries on sent).countP p = 0 := by
  rw [List.countP_eq_zero, queries]
  rintro e he
  obtain ⟨stmt, -, rfl⟩ := List.mem_map.mp he
  simp [h]

namespace Course

variable {ε α : Type}

/-- The rules that the events of a transaction obey. -/
structure Orderly (t : Course ε α) : Prop where
  /-- A connection that was acquired is given back once, and no other. -/
  release_once : t.events.countP Event.isRelease = if t.acquired then 1 else 0
  /-- Giving it back is the last event. -/
  release_last : t.acquired = true → t.events.getLast? = some .release
  /-- There is at most one commit. -/
  commit_once : t.events.countP Event.isCommit ≤ 1
  /-- Before a commit the action has given a value and all its statements were sent, and nothing was
  undone; after it the transaction is at most undone and released. -/
  commit_after : ∀ before after, t.events = before ++ .commit :: after →
    t.value?.isSome = true ∧ before = [.acquire, .begin] ++ queries .connection t.sent ∧
      (after = [.release] ∨ after = [.rollback, .release])

/-- The only commit of a list of events cuts it in one way. -/
private theorem cut_at_commit {sent : List Statement} {ending before after : List Event}
    (hending : .commit ∉ ending)
    (h : [.acquire, .begin] ++ queries .connection sent ++ .commit :: ending
      = before ++ .commit :: after) :
    before = [.acquire, .begin] ++ queries .connection sent ∧ after = ending := by
  have hstart : Event.commit ∉ [.acquire, .begin] ++ queries .connection sent := by
    simpa using not_mem_queries (by simp) .connection sent
  obtain ⟨hbefore, -, hafter⟩ := (List.append_cons_inj_of_notMem hstart hending).mp h
  exact ⟨hbefore.symm, hafter.symm⟩

/-- **Every course is orderly.** -/
theorem orderly (t : Course ε α) : t.Orderly := by
  have hrelease := countP_queries (p := Event.isRelease) (fun _ _ ↦ rfl) .connection
  have hcommit := countP_queries (p := Event.isCommit) (fun _ _ ↦ rfl) .connection
  have hnone := not_mem_queries (e := .commit) (by simp) .connection
  refine ⟨?_, ?_, ?_, ?_⟩
  · cases t <;> simp [events, acquired, Event.isRelease, hrelease]
  · cases t <;> simp [events, acquired, List.getLast?_cons, List.getLast?_append]
  · cases t <;> simp [events, Event.isCommit, hcommit, List.countP_cons]
  · intro before after h
    have hmem : Event.commit ∈ t.events := h ▸ List.mem_append_right _ List.mem_cons_self
    cases t with
    | committed sent x =>
      obtain ⟨rfl, rfl⟩ := cut_at_commit (by simp) h
      exact ⟨rfl, rfl, .inl rfl⟩
    | notCommitted sent x e =>
      obtain ⟨rfl, rfl⟩ := cut_at_commit (by simp) h
      exact ⟨rfl, rfl, .inr rfl⟩
    | _ => simp [events, hnone] at hmem

end Course

/-! ## The first failure -/

/-- The error of an outcome, if it is one. -/
def Outcome.error? {ε α : Type} : Outcome ε α → Option ε
  | .error e => some e
  | _ => none

/-- The error of a step, if it failed. -/
def failureOf : Except Error Unit → Option Error
  | .error e => some e
  | .ok () => none

namespace Database

variable {σ ε α : Type} (db : Database σ) (lift : Error → ε) (action : Talk (Outcome ε α)) (s : σ)

/-- What comes of the action of a transaction, if it is run. -/
def acted : Exchange σ (Outcome ε α) :=
  action.exchange db .connection (db.begin (db.acquire s).2).2

/-- The failures of the steps of a transaction, in the order of the steps: whether connections are
handed out, acquiring one, beginning, the action, and the commit of its value. Each step is taken in
the state that the one before leaves. -/
def failures : List (Option ε) :=
  [if db.canAcquire then none else some (lift .noTransactions),
    (failureOf (db.acquire s).1).map lift,
    (failureOf (db.begin (db.acquire s).2).1).map lift,
    (db.acted action s).result.error?,
    match (db.acted action s).result with
    | .value _ => (failureOf (db.commit (db.acted action s).state).1).map lift
    | _ => none]

theorem outcome_courseAfter (x : Exchange σ (Outcome ε α)) :
    (db.courseAfter x).outcome lift
      = ([x.result.error?, match x.result with
          | .value _ => (failureOf (db.commit x.state).1).map lift
          | _ => none].findSome? id).elim x.result .error := by
  obtain ⟨result, sent, s⟩ := x
  cases result with
  | value v => rcases hcommit : (db.commit s).1 with e | ⟨⟩ <;>
      simp [courseAfter, Course.outcome, Outcome.error?, failureOf, hcommit]
  | error e => simp [courseAfter, Course.outcome, Outcome.error?]
  | interrupted how => simp [courseAfter, Course.outcome, Outcome.error?]

/-- A transaction gives what its action gave, unless one of its steps failed: then it gives the
first failure. -/
theorem outcome_course :
    (db.course action s).outcome lift
      = ((db.failures lift action s).findSome? id).elim (db.acted action s).result .error := by
  rcases hcan : db.canAcquire with _ | _
  · simp [course_of_unsupported hcan, failures, hcan, Course.outcome]
  · rcases hacquire : db.acquire s with ⟨e | ⟨⟩, s₁⟩
    · simp [course_of_acquire_error hcan hacquire, failures, hcan, hacquire, failureOf,
        Course.outcome]
    · rcases hbegin : db.begin s₁ with ⟨e | ⟨⟩, s₂⟩
      · simp [course_of_begin_error hcan hacquire hbegin, failures, hcan, hacquire, hbegin,
          failureOf, Course.outcome]
      · rw [course_of_begun hcan hacquire hbegin, outcome_courseAfter]
        simp [failures, acted, hcan, hacquire, hbegin, failureOf]

end Database

/-! ## Sessions of transactions -/

namespace Program

/-- A step of a program as it went. -/
inductive Step (ε β : Type) where
  /-- A statement was sent outside of transactions. -/
  | statement (s : Statement)
  /-- A transaction took this course. -/
  | transaction (t : Course ε β)

namespace Step

variable {ε β : Type}

/-- What the database is asked in a step. -/
def events (on : Channel) : Step ε β → List Event
  | statement s => queries on [s]
  | transaction t => t.events

/-- Whether a connection was acquired in a step. -/
def acquired : Step ε β → Bool
  | statement _ => false
  | transaction t => t.acquired

theorem countP_isRelease_events (on : Channel) (step : Step ε β) :
    (step.events on).countP Event.isRelease = if step.acquired then 1 else 0 := by
  cases step with
  | statement s => rfl
  | transaction t => exact t.orderly.release_once

/-- A program gives back as many connections as it acquires. -/
theorem countP_isRelease_flatMap (on : Channel) (steps : List (Step ε β)) :
    (steps.flatMap (events on)).countP Event.isRelease = steps.countP acquired := by
  induction steps with
  | nil => rfl
  | cons step steps ih =>
    rw [List.flatMap_cons, List.countP_append, ih, countP_isRelease_events, List.countP_cons,
      Nat.add_comm]

end Step

end Program

namespace Client

variable {σ ε β α : Type} (c : Client σ) (lift : Error → ε)

/-- The steps of a program that starts in the world `w`. -/
def steps : Program ε β α → World σ → List (Program.Step ε β)
  | .done _, _ => []
  | .send stmt next, w => .statement stmt :: steps (next (c.send stmt w).1) (c.send stmt w).2
  | .transact action next, w =>
    let r := c.transactTalk lift action w
    .transaction (c.database.course action w.state) :: steps (next r.1) r.2

/-- A program asks the events of its steps, in order. -/
theorem events_perform (p : Program ε β α) (w : World σ) :
    (c.perform lift p w).2.events
      = w.events ++ (c.steps lift p w).flatMap (Program.Step.events c.channel) := by
  induction p generalizing w with
  | done x => exact (List.append_nil _).symm
  | send stmt next ih =>
    rw [perform, Session.bind_apply, ih, events_send, List.append_assoc]
    rfl
  | transact action next ih =>
    rw [perform, Session.bind_apply, ih, (c.transactTalk_eq_course lift action w).2,
      List.append_assoc]
    rfl

/-- **Transactions follow their courses.** Whatever the database answers and whatever the action
does, a transaction asks the events of its course and nothing else. In a program, the events are
those of its steps, one after the other; so there are as many releases as connections were acquired,
and within each transaction the events are orderly. -/
theorem transact_follows_course (c : Client σ) (lift : Error → ε) :
    (∀ (action : Talk (Outcome ε β)) (w : World σ),
      (c.transact lift (fun tx ↦ tx.run action) w).2.events
        = w.events ++ (c.database.course action w.state).events) ∧
    (∀ (p : Program ε β α) (w : World σ),
      let steps := c.steps lift p w
      let asked := steps.flatMap (Program.Step.events c.channel)
      (c.perform lift p w).2.events = w.events ++ asked ∧
        asked.countP Event.isRelease = steps.countP Program.Step.acquired) ∧
    ∀ t : Course ε β, t.Orderly := by
  refine ⟨fun action w ↦ (c.transactTalk_eq_course lift action w).2, fun p w ↦ ?_, Course.orderly⟩
  exact ⟨c.events_perform lift p w, Program.Step.countP_isRelease_flatMap _ _⟩

end Client

end BoundSql
