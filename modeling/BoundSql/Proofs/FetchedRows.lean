import BoundSql.Proofs.CountQueries
import BoundSql.Session.Script
import Mathlib.Data.List.Basic

/-!
# Fetching all rows and fetching the first one

A query can be run for all of its rows or for the first one, with every row read as a value by the
caller's function. Both send the same statement, but they take different ways from the answer to the
result: one reads the rows in order up to the first error, the other looks at the first row only.

They agree on every answer. `FetchFails` lists the ways in which fetching all rows can fail, one for
each step between the answer and the values; in all of them but an error in a later row, fetching
the first row fails in the same way.
-/

namespace BoundSql

/-! ## Reading rows in order -/

section Reading

variable {ε α β : Type} {f : α → Except ε β}

theorem mapM_cons_ok {x : α} {y : β} (h : f x = .ok y) (xs : List α) :
    (x :: xs).mapM f = (xs.mapM f).map (y :: ·) := by
  rw [List.mapM_cons, h]
  cases xs.mapM f <;> rfl

theorem mapM_cons_error {x : α} {e : ε} (h : f x = .error e) (xs : List α) :
    (x :: xs).mapM f = .error e := by
  rw [List.mapM_cons, h]
  rfl

theorem map_cons_eq_ok_iff {r : Except ε (List β)} {y : β} {zs : List β} :
    r.map (y :: ·) = .ok zs ↔ ∃ ys, r = .ok ys ∧ zs = y :: ys := by
  cases r <;> simp [Except.map, eq_comm]

theorem map_eq_error_iff {γ : Type} {r : Except ε β} {g : β → γ} {e : ε} :
    r.map g = .error e ↔ r = .error e := by
  cases r <;> simp [Except.map]

/-- Reading in order succeeds with the value of each. -/
theorem mapM_eq_ok_iff {xs : List α} {ys : List β} :
    xs.mapM f = .ok ys ↔ xs.map f = ys.map .ok := by
  induction xs generalizing ys with
  | nil => cases ys <;> simp [pure, Except.pure]
  | cons x xs ih =>
    rcases h : f x with e | y
    · rw [mapM_cons_error h]
      cases ys <;> simp [h]
    · rw [mapM_cons_ok h, map_cons_eq_ok_iff]
      cases ys <;> simp [h, ih, eq_comm, and_comm]

/-- Reading in order fails with the first error. -/
theorem mapM_append_of_error {before : List α} (hbefore : ∀ b ∈ before, ∃ y, f b = .ok y) {x : α}
    {e : ε} (hx : f x = .error e) (after : List α) :
    (before ++ x :: after).mapM f = .error e := by
  induction before with
  | nil => exact mapM_cons_error hx after
  | cons b before ih =>
    obtain ⟨⟨y, hy⟩, hrest⟩ := List.forall_mem_cons.mp hbefore
    rw [List.cons_append, mapM_cons_ok hy, ih hrest]
    rfl

/-- An error of reading in order is the first one. -/
theorem exists_of_mapM_eq_error {xs : List α} {e : ε} (h : xs.mapM f = .error e) :
    ∃ before x after, xs = before ++ x :: after ∧ (∀ b ∈ before, ∃ y, f b = .ok y) ∧
      f x = .error e := by
  induction xs with
  | nil => cases h
  | cons x xs ih =>
    rcases hx : f x with e' | y
    · rw [mapM_cons_error hx] at h
      cases h
      exact ⟨[], x, xs, rfl, nofun, hx⟩
    · rw [mapM_cons_ok hx, map_eq_error_iff] at h
      obtain ⟨before, x', after, rfl, hbefore, herror⟩ := ih h
      exact ⟨x :: before, x', after, rfl, List.forall_mem_cons.mpr ⟨⟨y, hx⟩, hbefore⟩, herror⟩

end Reading

/-! ## From the answer to the values -/

variable {α : Type}

/-- The ways in which fetching all rows fails, by the answer to the statement. -/
inductive FetchFails (isCount : Bool) (decode : Row → Except Error α) :
    Except Error Answer → Error → Prop where
  /-- The statement fails. -/
  | sending (e : Error) : FetchFails isCount decode (.error e) e
  /-- The statement is answered by a report. -/
  | report (r : Report) : FetchFails isCount decode (.ok (.report r)) .reportForRows
  /-- A count was asked for, and the rows do not hold one. -/
  | noCount {rows : List Row} {e : Error} (hasked : isCount = true)
    (hcount : countOfRows rows = .error e) : FetchFails isCount decode (.ok (.rows rows)) e
  /-- A count was asked for, and it is no row. -/
  | count {rows : List Row} {n : Int64} (hasked : isCount = true)
    (hcount : countOfRows rows = .ok n) : FetchFails isCount decode (.ok (.rows rows)) .countForRows
  /-- A row cannot be read, and all rows before it can. -/
  | row {before after : List Row} {r : Row} {e : Error} (hasked : isCount = false)
    (hbefore : ∀ b ∈ before, ∃ x, decode b = .ok x) (hrow : decode r = .error e) :
    FetchFails isCount decode (.ok (.rows (before ++ r :: after))) e

namespace Output

variable {decode : Row → Except Error α}

/-- If all rows of a result can be read, then so can the first one. -/
theorem readFirst_of_readAll_eq_ok {result : Except Error Output} {xs : List α}
    (h : result.bind (readAll decode) = .ok xs) :
    result.bind (readFirst decode) = .ok xs.head? := by
  rcases result with e | (_ | ⟨r, rows⟩) | n
  · cases h
  · cases h
    rfl
  · -- the values are those of the rows in order, so the first one is that of the first row
    have hread : (r :: rows).map decode = xs.map .ok := mapM_eq_ok_iff.mp h
    cases xs with
    | nil => cases hread
    | cons x xs =>
      have hfirst : decode r = .ok x := (List.cons.inj hread).1
      calc (Except.ok (Output.rows (r :: rows))).bind (readFirst decode)
          = (decode r).map some := rfl
        _ = .ok (some x) := by rw [hfirst, Except.map]
  · cases h

/-- If the first row of a result cannot be read, then all rows cannot, for the same reason. -/
theorem readAll_of_readFirst_eq_error {result : Except Error Output} {e : Error}
    (h : result.bind (readFirst decode) = .error e) :
    result.bind (readAll decode) = .error e := by
  rcases result with e' | (_ | ⟨r, rows⟩) | n
  · cases h
    rfl
  · cases h
  · exact mapM_cons_error (map_eq_error_iff.mp h) rows
  · cases h
    rfl

/-- From a count no rows are read, whatever the number is. -/
theorem readAll_ofAnswer_count (rows : List Row) :
    (ofAnswer true (.rows rows)).bind (readAll decode)
      = (countOfRows rows).bind fun _ ↦ .error .countForRows := by
  rw [ofAnswer_rows_of_count]
  cases countOfRows rows <;> rfl

/-- The values that are read from an answer. -/
theorem readAll_ofAnswer_eq_ok_iff {isCount : Bool} {a : Except Error Answer} {xs : List α} :
    (a.bind (ofAnswer isCount)).bind (readAll decode) = .ok xs ↔
      ∃ rows, a = .ok (.rows rows) ∧ isCount = false ∧ rows.map decode = xs.map .ok := by
  constructor
  · intro h
    rcases a with e | rows | r
    · cases h
    · cases isCount with
      | false => exact ⟨rows, rfl, rfl, mapM_eq_ok_iff.mp h⟩
      | true =>
        have hcount := (readAll_ofAnswer_count rows).symm.trans h
        rcases hrows : countOfRows rows with e | n <;> rw [hrows] at hcount <;> cases hcount
    · cases h
  · rintro ⟨rows, rfl, rfl, hread⟩
    exact mapM_eq_ok_iff.mpr hread

/-- The errors that come up between an answer and its values. -/
theorem readAll_ofAnswer_eq_error_iff {isCount : Bool} {a : Except Error Answer} {e : Error} :
    (a.bind (ofAnswer isCount)).bind (readAll decode) = .error e ↔
      FetchFails isCount decode a e := by
  constructor
  · intro h
    rcases a with e' | rows | r
    · cases h
      exact .sending e
    · cases isCount with
      | false =>
        obtain ⟨before, r, after, rfl, hbefore, hrow⟩ := exists_of_mapM_eq_error h
        exact .row rfl hbefore hrow
      | true =>
        have hcount := (readAll_ofAnswer_count rows).symm.trans h
        rcases hrows : countOfRows rows with e' | n <;> rw [hrows] at hcount <;> cases hcount
        · exact .noCount rfl hrows
        · exact .count rfl hrows
    · cases h
      exact .report r
  · intro h
    cases h with
    | sending e => rfl
    | report r => rfl
    | @noCount rows e hasked hcount =>
      subst hasked
      exact (readAll_ofAnswer_count rows).trans (by rw [hcount]; rfl)
    | @count rows n hasked hcount =>
      subst hasked
      exact (readAll_ofAnswer_count rows).trans (by rw [hcount]; rfl)
    | row hasked hbefore hrow =>
      subst hasked
      exact mapM_append_of_error hbefore hrow _

end Output

/-! ## Queries -/

namespace Select

/-- **Fetching all rows and fetching the first one agree.** Take any query and any function that
reads rows, and run the query both ways on the same database in the same state. The same statement
is sent, and with the answer to it:

* if all rows are fetched, then fetching the first row gives the first of them, if there is one;
* if fetching the first row fails, then fetching all rows fails with the same error;
* all rows are fetched exactly if the answer has rows, no count was asked for and every row can be
  read, and then there is one value for each row, in order;
* fetching all rows fails exactly in the ways of `FetchFails`; if the rows are to blame, then the
  error is that of the first one that cannot be read. -/
theorem fetches_agree {σ α : Type} (q : Select) (d : Dialect) (decode : Row → Except Error α)
    (client : Client σ) (w : World σ) :
    let sent := client.send (q.statement d) w
    let all := client.run (q.fetchAll d decode) w
    let first := client.run (q.fetchFirst d decode) w
    (all.2 = sent.2 ∧ first.2 = sent.2) ∧
    (∀ xs, all.1 = .ok xs → first.1 = .ok xs.head?) ∧
    (∀ e, first.1 = .error e → all.1 = .error e) ∧
    (∀ xs, all.1 = .ok xs ↔
      ∃ rows, sent.1 = .ok (.rows rows) ∧ q.isCount = false ∧ rows.map decode = xs.map .ok) ∧
    ∀ e, all.1 = .error e ↔ FetchFails q.isCount decode sent.1 e := by
  intro sent all first
  have hall : all.1 = (sent.1.bind (Output.ofAnswer q.isCount)).bind (Output.readAll decode) := rfl
  have hfirst : first.1
      = (sent.1.bind (Output.ofAnswer q.isCount)).bind (Output.readFirst decode) := rfl
  rw [hall, hfirst]
  exact ⟨⟨rfl, rfl⟩, fun _ ↦ Output.readFirst_of_readAll_eq_ok,
    fun _ ↦ Output.readAll_of_readFirst_eq_error, fun _ ↦ Output.readAll_ofAnswer_eq_ok_iff,
    fun _ ↦ Output.readAll_ofAnswer_eq_error_iff⟩

/-- Names of users as texts. -/
def readName (r : Row) : Except Error String := r.read Reader.text "name"

/-- A row with a name is the first one in one answer and the second one in the other, after a row
that has none. -/
theorem names_of_users_fetched :
    let q : Select := { source := .table "user", projection := ["name"] }
    let client : Client Script.Answers := { database := ({} : Script).database }
    let ann : Row := ⟨[("name", .text "Ann")]⟩
    let named : World Script.Answers := ⟨[.ok (.rows [ann, ann])], [], []⟩
    let unnamed : World Script.Answers := ⟨[.ok (.rows [⟨[]⟩, ann])], [], []⟩
    let missing : Error := .decode "name" "column not found"
    ((client.run (q.fetchAll .mysql readName) named).1 = .ok ["Ann", "Ann"] ∧
      (client.run (q.fetchFirst .mysql readName) named).1 = .ok (some "Ann")) ∧
    (client.run (q.fetchFirst .mysql readName) unnamed).1 = .error missing ∧
      (client.run (q.fetchAll .mysql readName) unnamed).1 = .error missing := by
  intro q client ann named unnamed missing
  have hall : (client.run (q.fetchAll .mysql readName) named).1 = .ok ["Ann", "Ann"] := by rfl
  have hfirst : (client.run (q.fetchFirst .mysql readName) unnamed).1 = .error missing := by rfl
  obtain ⟨-, hagree, -⟩ := q.fetches_agree .mysql readName client named
  obtain ⟨-, -, hfails, -⟩ := q.fetches_agree .mysql readName client unnamed
  exact ⟨⟨hall, hagree _ hall⟩, hfirst, hfails _ hfirst⟩

end Select
end BoundSql
