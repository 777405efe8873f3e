import BoundSql.Session.World

/-!
# Scripted databases

A database whose behaviour is written down beforehand: the answers to the statements, in order, and
which of the other steps fail. When the answers are used up, a statement is answered by a report
without any changes. It is what the commands of this library are tried out on.
-/

namespace BoundSql

/-- A step of a transaction that can fail. -/
inductive Step where
  | begin
  | commit
  | rollback
  | release
deriving DecidableEq

/-- The name of a step. -/
def Step.name : Step → String
  | begin => "begin"
  | commit => "commit"
  | rollback => "rollback"
  | release => "release"

/-- What a scripted database does, apart from its answers. -/
structure Script where
  /-- How it quotes names and writes values. -/
  dialect : Dialect := .mysql
  /-- Whether it hands out connections. -/
  canAcquire : Bool := true
  /-- Why it fails to hand one out, if it does. -/
  acquireError : Option Error := none
  /-- The steps that fail. -/
  failing : List Step := []

namespace Script

/-- The answers that are left. -/
abbrev Answers := List (Except Error Answer)

/-- The time that each statement takes. -/
def elapsed : Duration := ⟨2_000_000⟩

/-- The next answer. -/
def next : Answers → Timed × Answers
  | [] => (⟨.ok (.report {}), elapsed⟩, [])
  | a :: rest => (⟨a, elapsed⟩, rest)

/-- How a step ends. -/
def perform (s : Script) (step : Step) (answers : Answers) : Except Error Unit × Answers :=
  (if s.failing.contains step then .error (.database (step.name ++ " failed")) else .ok (), answers)

/-- The database that follows the script. -/
def database (s : Script) : Database Answers where
  dialect := s.dialect
  canAcquire := s.canAcquire
  query _ _ answers := next answers
  acquire answers :=
    (match s.acquireError with
      | some e => .error e
      | none => .ok (), answers)
  begin := s.perform .begin
  commit := s.perform .commit
  rollback := s.perform .rollback
  release := s.perform .release

end Script

end BoundSql
