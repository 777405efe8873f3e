import BoundSql.Session.Transaction

/-!
# Sessions step by step

What a step of a session does to its world, and what callers do with many steps.

## Talks without traces

Running a talk touches three things: the database gets into another state, statements are added to
the events, and records to the log. Only the first of them decides what comes next, so
`Talk.exchange` follows the database alone, and `Client.run_eq_exchange` puts the traces back.

## Programs

A `Program` is a caller: it sends statements and runs transactions, one after the other, and each
step may depend on everything that came before it. The action of a transaction is a talk: it sees
the answers to its own statements and nothing else of the database.
-/

namespace BoundSql

namespace Session

variable {σ α β : Type}

@[simp] theorem pure_apply (x : α) (w : World σ) : (pure x : Session σ α) w = (x, w) := rfl

@[simp] theorem bind_apply (m : Session σ α) (f : α → Session σ β) (w : World σ) :
    (m >>= f) w = f (m w).1 (m w).2 := rfl

@[simp] theorem map_apply (f : α → β) (m : Session σ α) (w : World σ) :
    (f <$> m) w = (f (m w).1, (m w).2) := rfl

@[simp] theorem ask_apply (e : Event) (f : σ → α × σ) (w : World σ) :
    ask e f w = ((f w.state).1, ⟨(f w.state).2, w.events ++ [e], w.log⟩) := rfl

@[simp] theorem note_apply (r : LogRecord) (w : World σ) :
    note r w = ((), ⟨w.state, w.events, w.log ++ [r]⟩) := rfl

end Session

/-! ## Talks -/

/-- What comes of a talk: its result, the statements that were sent, and the state in which the
database is left. -/
structure Exchange (σ α : Type) where
  result : α
  sent : List Statement
  state : σ

/-- What comes of a talk with a database in state `s`. -/
def Talk.exchange {σ α : Type} (db : Database σ) (on : Channel) : Talk α → σ → Exchange σ α
  | .done x, s => ⟨x, [], s⟩
  | .send stmt next, s =>
    let r := db.query on stmt.request s
    let rest := exchange db on (next r.1.answer) r.2
    ⟨rest.result, stmt :: rest.sent, rest.state⟩

/-- The events of sending statements. -/
def queries (on : Channel) (sent : List Statement) : List Event :=
  sent.map fun stmt ↦ .query on stmt.request

namespace Client

variable {σ α : Type} (c : Client σ)

theorem events_send (stmt : Statement) (w : World σ) :
    (c.send stmt w).2.events = w.events ++ [.query c.channel stmt.request] := rfl

/-- A run of a talk adds its statements to the events and goes by the database alone. -/
theorem run_eq_exchange (t : Talk α) (w : World σ) :
    let x := t.exchange c.database c.channel w.state
    (c.run t w).1 = x.result ∧ (c.run t w).2.state = x.state ∧
      (c.run t w).2.events = w.events ++ queries c.channel x.sent := by
  induction t generalizing w with
  | done x => simp [run, Talk.exchange, queries]
  | send stmt next ih =>
    obtain ⟨hresult, hstate, hevents⟩ := ih (c.send stmt w).1 (c.send stmt w).2
    refine ⟨hresult, hstate, ?_⟩
    rw [run, Session.bind_apply, hevents, events_send, List.append_assoc]
    rfl

end Client

/-! ## Programs -/

/-- What a caller does with a client. Its transactions have values in `β` and errors in `ε`, and its
result is in `α`. -/
inductive Program (ε β α : Type) where
  /-- Nothing more: this is the result. -/
  | done (x : α)
  /-- A statement is sent outside of transactions. -/
  | send (s : Statement) (next : Except Error Answer → Program ε β α)
  /-- An action is run in a transaction. -/
  | transact (action : Talk (Outcome ε β)) (next : Outcome ε β → Program ε β α)

namespace Client

variable {σ ε β α : Type}

/-- Runs an action that is a talk in a transaction. -/
def transactTalk (c : Client σ) (lift : Error → ε) (action : Talk (Outcome ε β)) :
    Session σ (Outcome ε β) :=
  c.transact lift fun tx ↦ tx.run action

/-- Runs a program. -/
def perform (c : Client σ) (lift : Error → ε) : Program ε β α → Session σ α
  | .done x => return x
  | .send stmt next => do
    let a ← c.send stmt
    perform c lift (next a)
  | .transact action next => do
    let o ← c.transactTalk lift action
    perform c lift (next o)

end Client

end BoundSql
