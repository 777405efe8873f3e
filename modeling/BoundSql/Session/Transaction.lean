import BoundSql.Session.Client

/-!
# Transactions

A transaction runs an action on a connection of its own. Whatever happens, a connection that was
acquired is released exactly once, as the last thing; the transaction is committed only if the
action has a value, and undone if it fails or the commit does. The result is the value only if
every step up to the commit has succeeded, and otherwise the error of the first that has not:
failures to undo or to release are logged and change nothing else.

An action may also be interrupted: it fails without a result, or it never ends and is dropped. Then
nothing is left but to release the connection.
-/

namespace BoundSql

/-- How an action can end without a result. -/
inductive Interruption where
  /-- It broke down. -/
  | crashed
  /-- It did not end and was dropped. -/
  | dropped
deriving DecidableEq

/-- How an action ends; its own errors are of type `ε`. -/
inductive Outcome (ε α : Type) where
  /-- With a value. -/
  | value (x : α)
  /-- With an error. -/
  | error (e : ε)
  /-- Without a result. -/
  | interrupted (how : Interruption)

namespace Client

variable {σ ε α : Type}

/-- Undoes the transaction; a failure is logged. -/
def rollbackQuietly (c : Client σ) : Session σ Unit := do
  match ← Session.ask .rollback c.database.rollback with
  | .ok () => Session.note .rolledBack
  | .error e => Session.note (.rollbackFailed e)

/-- Gives the connection back; a failure is logged. -/
def releaseQuietly (c : Client σ) : Session σ Unit := do
  match ← Session.ask .release c.database.release with
  | .ok () => return ()
  | .error e => Session.note (.releaseFailed e)

/-- Ends a transaction after its action: a value is committed, an error is undone. -/
def conclude (c : Client σ) (lift : Error → ε) (o : Outcome ε α) : Session σ (Outcome ε α) := do
  match o with
  | .value x =>
    match ← Session.ask .commit c.database.commit with
    | .ok () =>
      Session.note .committed
      return .value x
    | .error e =>
      c.rollbackQuietly
      return .error (lift e)
  | .error e =>
    c.rollbackQuietly
    return .error e
  | .interrupted how => return .interrupted how

/-- Begins a transaction on the connection that was acquired, runs the action and ends it. -/
def runOnConnection (c : Client σ) (lift : Error → ε)
    (action : Client σ → Session σ (Outcome ε α)) : Session σ (Outcome ε α) := do
  match ← Session.ask .begin c.database.begin with
  | .ok () =>
    Session.note .started
    let o ← action { c with channel := .connection }
    c.conclude lift o
  | .error e =>
    c.rollbackQuietly
    return .error (lift e)

/-- Runs an action in a transaction. Errors of the database are made errors of the action by
`lift`. -/
def transact (c : Client σ) (lift : Error → ε)
    (action : Client σ → Session σ (Outcome ε α)) : Session σ (Outcome ε α) := do
  if c.database.canAcquire then
    match ← Session.ask .acquire c.database.acquire with
    | .ok () =>
      let o ← c.runOnConnection lift action
      c.releaseQuietly
      return o
    | .error e => return .error (lift e)
  else return .error (lift .noTransactions)

end Client

end BoundSql
