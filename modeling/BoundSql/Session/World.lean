import BoundSql.Dialect
import BoundSql.Row.Answer
import BoundSql.Settings
import BoundSql.Template
import BoundSql.Text.Blank

/-!
# The world of a session

A session talks to a database and leaves two traces: the *events*, which are what the database was
asked in which order, and the *log*, which is what a reader of the log is told. Both only grow.

A `Database` is whatever can be asked. It has a state of any type, and each question gives an answer
and the next state, so one definition covers every behaviour that a database may show, including
one that changes from call to call. Events and log are kept apart from it, in the `World`, so no
database can hide what it was asked.
-/

namespace BoundSql

/-! ## Events -/

/-- A statement as a database gets it. -/
structure Request where
  /-- The text. -/
  sql : String
  /-- The values; a statement that binds none comes without bindings. -/
  bindings : Option Bindings

/-- What a database gets for a statement. -/
def Statement.request (s : Statement) : Request :=
  ⟨s.sql, if s.bindings.isEmpty then none else some s.bindings⟩

/-- Where a statement is sent. -/
inductive Channel where
  /-- To the pool, which picks a connection. -/
  | pool
  /-- To a connection that was acquired. -/
  | connection
deriving DecidableEq

/-- Something that a database was asked. -/
inductive Event where
  /-- To run a statement. -/
  | query (on : Channel) (r : Request)
  /-- To hand out a connection. -/
  | acquire
  /-- To begin a transaction on the connection. -/
  | begin
  /-- To make the transaction permanent. -/
  | commit
  /-- To undo the transaction. -/
  | rollback
  /-- To take the connection back. -/
  | release

/-! ## The log -/

/-- What a statement does, by its first word. -/
inductive StatementKind where
  | select
  | insert
  | update
  | delete
  | other
deriving DecidableEq

namespace StatementKind

/-- The keywords, which may be written in any case. -/
def keywords : List (String × StatementKind) :=
  [("SELECT", select), ("INSERT", insert), ("UPDATE", update), ("DELETE", delete)]

/-- The kind of a statement. The first word ends at a blank or an opening parenthesis. -/
def ofSql (sql : String) : StatementKind :=
  let word := (Text.trimStart sql.toList).takeWhile fun c ↦ Text.isInk c && c != '('
  match keywords.find? fun k ↦ Text.sameWord k.1.toList word with
  | some k => k.2
  | none => other

end StatementKind

/-- A record of the log. -/
inductive LogRecord where
  /-- A statement is about to be sent; its values are there if they are to be logged. -/
  | statement (kind : StatementKind) (bindingCount : Nat) (sql : String)
      (values : Option String)
  /-- A statement took longer than the threshold. -/
  | slow (threshold : Duration) (sql : String)
  /-- A statement failed. -/
  | statementFailed (e : Error)
  /-- A transaction has begun. -/
  | started
  /-- A transaction is permanent. -/
  | committed
  /-- A transaction is undone. -/
  | rolledBack
  /-- A transaction could not be undone. -/
  | rollbackFailed (e : Error)
  /-- A connection could not be given back. -/
  | releaseFailed (e : Error)

/-- How much a record of the log matters. -/
inductive Severity where
  /-- Of interest to a developer. -/
  | debug
  /-- Of interest to an operator. -/
  | warning
deriving DecidableEq

/-- What a record of the log is about. -/
inductive Topic where
  | statements
  | transactions
deriving DecidableEq

namespace LogRecord

/-- How much a record matters. -/
def severity : LogRecord → Severity
  | slow .. | rollbackFailed _ | releaseFailed _ => .warning
  | _ => .debug

/-- What a record is about. -/
def topic : LogRecord → Topic
  | statement .. | slow .. | statementFailed _ => .statements
  | _ => .transactions

/-- The text of a record; that of a statement is the statement itself. -/
def message? : LogRecord → Option String
  | statement .. => none
  | slow .. => some "slow query"
  | statementFailed _ => some "statement failed"
  | started => some "transaction started"
  | committed => some "transaction committed"
  | rolledBack => some "transaction rolled back"
  | rollbackFailed _ => some "rollback failed"
  | releaseFailed _ => some "release connection failed"

/-- The error that a record reports. -/
def error? : LogRecord → Option Error
  | statementFailed e | rollbackFailed e | releaseFailed e => some e
  | _ => none

end LogRecord

/-! ## Databases -/

/-- An answer to a statement, and how long it took. -/
structure Timed where
  /-- The answer. -/
  answer : Except Error Answer
  /-- The time it took. -/
  elapsed : Duration

/-- A database with states in `σ`. -/
structure Database (σ : Type) where
  /-- How it quotes names and writes values. -/
  dialect : Dialect
  /-- Whether it hands out connections. -/
  canAcquire : Bool
  /-- Runs a statement. -/
  query : Channel → Request → σ → Timed × σ
  /-- Hands out a connection. -/
  acquire : σ → Except Error Unit × σ
  /-- Begins a transaction on the connection. -/
  begin : σ → Except Error Unit × σ
  /-- Makes the transaction permanent. -/
  commit : σ → Except Error Unit × σ
  /-- Undoes the transaction. -/
  rollback : σ → Except Error Unit × σ
  /-- Takes the connection back. -/
  release : σ → Except Error Unit × σ

/-- The same database with room beside its state, where those who use it can keep notes. -/
def Database.withNotes {σ : Type} (db : Database σ) (τ : Type) : Database (σ × τ) :=
  let beside {α : Type} (f : σ → α × σ) (s : σ × τ) : α × (σ × τ) :=
    ((f s.1).1, ((f s.1).2, s.2))
  { dialect := db.dialect
    canAcquire := db.canAcquire
    query := fun on r ↦ beside (db.query on r)
    acquire := beside db.acquire
    begin := beside db.begin
    commit := beside db.commit
    rollback := beside db.rollback
    release := beside db.release }

/-- The state of a database with the traces of a session. -/
structure World (σ : Type) where
  /-- The state of the database. -/
  state : σ
  /-- What the database was asked. -/
  events : List Event := []
  /-- What was logged and not yet taken out of the log. -/
  log : List LogRecord := []

/-- Something that happens in a world and gives a result. -/
abbrev Session (σ : Type) := StateM (World σ)

namespace Session

variable {σ α : Type}

/-- Asks the database, and notes that it was asked. -/
def ask (e : Event) (f : σ → α × σ) : Session σ α := fun w ↦
  let r := f w.state
  (r.1, { w with state := r.2, events := w.events ++ [e] })

/-- Writes a record to the log. -/
def note (r : LogRecord) : Session σ Unit := fun w ↦ ((), { w with log := w.log ++ [r] })

/-- Writes records to the log. -/
def notes (rs : List LogRecord) : Session σ Unit := fun w ↦ ((), { w with log := w.log ++ rs })

/-- Takes everything out of the log. -/
def drainLog : Session σ (List LogRecord) := fun w ↦ (w.log, { w with log := [] })

end Session

end BoundSql
