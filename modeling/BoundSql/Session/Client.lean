import BoundSql.Session.World

/-!
# Clients

A client sends statements to a database and logs them by its settings: the statement before it is
sent, and afterwards that it was slow or that it failed. What it does with the answers is a `Talk`:
a command that is over, or that sends a statement and goes on with the answer. Commands are defined
as talks, so what a command sends can be read off its definition, and a client runs them.
-/

namespace BoundSql

/-! ## Talks -/

/-- What is done with a connection. -/
inductive Talk (α : Type) where
  /-- Nothing more: this is the result. -/
  | done (x : α)
  /-- A statement is sent, and the answer decides what follows. -/
  | send (s : Statement) (next : Except Error Answer → Talk α)

namespace Talk

variable {α β : Type}

/-- Sends one statement and makes a result of the answer. -/
def single (s : Statement) (f : Except Error Answer → α) : Talk α := .send s fun a ↦ .done (f a)

/-- Goes on with the result of a talk. -/
def bind : Talk α → (α → Talk β) → Talk β
  | .done x, f => f x
  | .send s next, f => .send s fun a ↦ bind (next a) f

/-- Changes the result of a talk. -/
def map (f : α → β) (t : Talk α) : Talk β := t.bind fun x ↦ .done (f x)

end Talk

/-! ## Clients -/

/-- A database with the settings and the channel of those who use it. -/
structure Client (σ : Type) where
  /-- The database. -/
  database : Database σ
  /-- The settings. -/
  settings : Settings := {}
  /-- Where statements are sent. -/
  channel : Channel := .pool

namespace Client

variable {σ α : Type}

/-- What is logged before a statement is sent. -/
def announcement (s : Settings) (stmt : Statement) : List LogRecord :=
  if s.logSql then
    [.statement (.ofSql stmt.sql) stmt.bindings.size (s.shownSql stmt.sql)
      (if s.logBindings then some stmt.bindings.toJson.compact else none)]
  else []

/-- What is logged when the answer to a statement is there. -/
def aftermath (s : Settings) (stmt : Statement) (t : Timed) : List LogRecord :=
  (match s.slowThreshold with
    | some threshold =>
      if threshold.nanoseconds < t.elapsed.nanoseconds then
        [.slow threshold (s.shownSql stmt.sql)]
      else []
    | none => []) ++
  (match t.answer with
    | .error e => [.statementFailed e]
    | .ok _ => [])

/-- Sends a statement. -/
def send (c : Client σ) (stmt : Statement) : Session σ (Except Error Answer) := do
  Session.notes (announcement c.settings stmt)
  let t ← Session.ask (.query c.channel stmt.request) (c.database.query c.channel stmt.request)
  Session.notes (aftermath c.settings stmt t)
  return t.answer

/-- Runs a talk. -/
def run (c : Client σ) : Talk α → Session σ α
  | .done x => return x
  | .send stmt next => do
    let a ← c.send stmt
    run c (next a)

end Client

end BoundSql
