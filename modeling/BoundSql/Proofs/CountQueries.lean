import BoundSql.Command.Run
import BoundSql.Proofs.ReadableProjections
import BoundSql.Proofs.ReferencedNames

/-!
# Counts are read where they were asked for

Whether a query asks for a count is decided twice: from the entries of its `SELECT` list when the
answer is read, and by the database from the text. The text is written with its own rules, so the
two could disagree, and then a number would be looked for in rows that have none, or rows would be
handed out where a number was asked for.

They agree, because a text that begins like that of a count is the text of a count: what is written
between `SELECT` and `FROM` can be read back token by token, and no entry but the one for a count is
written with its tokens. In the other direction, a count is written in one way, however the caller
spelled it, and this is the name of the column in which the answer is looked for.
-/

namespace BoundSql

open Text SelectToken

/-! ## Reading up to FROM -/

/-- What stands in front of the tables of a query ends the `SELECT` list. -/
theorem not_found_isPrefix_from (t : SelectToken) (rest : List Char) :
    ¬ t.found <+: lexemes .outside (" FROM ".toList ++ rest) := by
  have hwords : ∀ w ∈ SelectWord.all, ¬ w.text.toList <+: " FROM ".toList ∧
      ¬ " FROM ".toList <+: w.text.toList := by decide
  have hplain : Function.Injective Lexeme.plain := fun _ _ ↦ Lexeme.plain.inj
  rw [lexemes_of_notMem (by decide)]
  intro h
  cases t with
  | name s =>
    obtain ⟨after, hafter⟩ := h
    cases congrArg List.head? hafter
  | word w =>
    obtain ⟨hbegins, hbegun⟩ := hwords w w.mem_all
    rcases List.prefix_or_prefix_of_prefix h (List.prefix_append _ _) with h | h
    · exact hbegins ((List.prefix_map_iff_of_injective hplain).mp h)
    · exact hbegun ((List.prefix_map_iff_of_injective hplain).mp h)

/-- Two `SELECT` lists that are followed by `FROM` are told apart by their text. -/
theorem parse_eq_of_from {entries entries' : List String} (hne : entries ≠ [])
    (hne' : entries' ≠ []) {rest rest' : List Char}
    (h : (renderProjection .mysql entries).toList ++ (" FROM ".toList ++ rest)
      = (renderProjection .mysql entries').toList ++ (" FROM ".toList ++ rest')) :
    entries.map Selected.parse = entries'.map Selected.parse := by
  have hfrom (cs : List Char) : (" FROM ".toList ++ cs).head? ≠ some identifierMark :=
    show some ' ' ≠ some identifierMark by decide
  have hread := congrArg (lexemes .outside) h
  rw [← written_projectionTokens hne, ← written_projectionTokens hne',
    lexemes_written_append (isChain_projectionTokens _) (hfrom _),
    lexemes_written_append (isChain_projectionTokens _) (hfrom _)] at hread
  exact projectionTokens_inj hne hne' (found_flatMap_append_inj
    (fun t ↦ not_found_isPrefix_from t _) (fun t ↦ not_found_isPrefix_from t _) hread)

/-! ## Counts -/

/-- A count, however it is spelled. -/
theorem parse_eq_countStar_iff {entry : String} :
    Selected.parse entry = .countStar ↔ sameWord (trim entry.toList) countColumn.toList = true := by
  rw [Selected.parse, ← Selected.means_iff, Selected.means_countStar_iff]

theorem isCountProjection_iff {entries : List String} :
    isCountProjection entries = true ↔ entries.map Selected.parse = [.countStar] := by
  rcases entries with _ | ⟨entry, _ | ⟨entry', entries⟩⟩
  · simp [isCountProjection]
  · simp [isCountProjection, parse_eq_countStar_iff]
  · simp [isCountProjection]

theorem renderProjection_of_isCount {entries : List String} (h : isCountProjection entries = true)
    (d : Dialect) : renderProjection d entries = countColumn := by
  have hparse := isCountProjection_iff.mp h
  have hne : entries ≠ [] := by
    rintro rfl
    cases hparse
  have hrender : entries.map (fun e ↦ (Selected.parse e).render d) = [countColumn] :=
    List.map_map.symm.trans (congrArg (List.map (Selected.render d)) hparse)
  rw [renderProjection, if_neg (by simpa using hne), hrender, String.intercalate_singleton]

/-- The text of a query begins like that of a count only if it asks for one. -/
theorem isCountProjection_of_begins {entries : List String} {rest rest' : List Char}
    (h : countColumn.toList ++ (" FROM ".toList ++ rest)
      = (renderProjection .mysql entries).toList ++ (" FROM ".toList ++ rest')) :
    isCountProjection entries = true := by
  have hcount : isCountProjection [countColumn] = true := by decide
  have hne : entries ≠ [] := by
    rintro rfl
    have hfirst : some 'c' = some '*' := congrArg List.head? h
    cases hfirst
  rw [← renderProjection_of_isCount hcount .mysql] at h
  rw [isCountProjection_iff, ← parse_eq_of_from (List.cons_ne_nil _ _) hne h]
  exact isCountProjection_iff.mp hcount

/-! ## Queries -/

/-- The row with one of its columns only. -/
def Row.only (column : String) (r : Row) : Row := ⟨r.members.filter fun m ↦ m.1 = column⟩

theorem Row.get?_only (r : Row) (column : String) :
    (r.only column).get? column = r.get? column := by
  obtain ⟨members⟩ := r
  induction members with
  | nil => rfl
  | cons m ms ih =>
    have hms : Members.get? (ms.filter fun m ↦ m.1 = column) column = Members.get? ms column := ih
    rw [get?, get?, only, List.filter_cons]
    by_cases hm : m.1 = column
    · rw [if_pos (decide_eq_true hm), Members.get?_cons, Members.get?_cons, if_pos hm.symm,
        if_pos hm.symm]
    · rw [if_neg (by simpa using hm), hms, Members.get?_cons, if_neg (Ne.symm hm)]

/-- A count is looked for in one column. -/
theorem countOfRows_map_only (rows : List Row) :
    countOfRows (rows.map (Row.only countColumn)) = countOfRows rows := by
  cases rows with
  | nil => rfl
  | cons r rest => simp only [List.map_cons, countOfRows, Row.get?_only]

/-- What is counted is the value of the first row under the column of the count. -/
theorem countOfRows_eq_match (rows : List Row) :
    countOfRows rows
      = match rows.head?.map fun r ↦ r.get? "count(*)" with
        | some (some v) => countOfValue v
        | some none => .error (.unexpectedResult "count row has no `count(*)` column")
        | none => .error (.unexpectedResult "count query returned no rows") := by
  cases rows with
  | nil => rfl
  | cons r rest =>
    rcases hvalue : r.get? "count(*)" with _ | v
    · simp only [countOfRows, countColumn, hvalue, List.head?_cons, Option.map_some]
      rfl
    · simp only [countOfRows, countColumn, hvalue, List.head?_cons, Option.map_some]

theorem Output.ofAnswer_rows_of_count (rows : List Row) :
    ofAnswer true (.rows rows) = (countOfRows rows).map .count := by
  have hbind : ofAnswer true (.rows rows) = (countOfRows rows).bind fun n ↦ .ok (.count n) := rfl
  rw [hbind]
  cases countOfRows rows <;> rfl

namespace Select

/-- The text of a query begins with its `SELECT` list. -/
theorem list_isPrefix_sql (d : Dialect) (q : Select) :
    ("SELECT " ++ renderProjection d q.projection ++ " FROM ").toList
      <+: (q.statement d).sql.toList := by
  obtain ⟨rest, hsql⟩ := q.exists_sql_eq d
  rw [hsql]
  exact (toList_prefix_append _ _).trans (toList_prefix_append _ _)

/-- The ways to say that a query asks for a count: by its entries, by its `SELECT` list and by how
its text begins. -/
theorem isCount_tfae (q : Select) :
    List.TFAE [q.isCount = true,
      ∃ entry, q.projection = [entry] ∧ sameWord (trim entry.toList) "count(*)".toList = true,
      renderProjection .mysql q.projection = "count(*)",
      "SELECT count(*) FROM ".toList <+: (q.statement .mysql).sql.toList] := by
  obtain ⟨rest, hsql⟩ := q.exists_sql_eq .mysql
  tfae_have 1 → 2 := by
    intro h
    rcases hentries : q.projection with _ | ⟨entry, _ | ⟨entry', entries⟩⟩ <;>
      rw [isCount, hentries] at h
    · cases h
    · exact ⟨entry, rfl, h⟩
    · cases h
  tfae_have 2 → 3 := by
    rintro ⟨entry, hentry, hsame⟩
    have hcount : isCountProjection [entry] = true := hsame
    rw [hentry, renderProjection_of_isCount hcount, countColumn]
  tfae_have 3 → 4 := by
    intro h
    rw [hsql, h]
    simp
  tfae_have 4 → 1 := by
    rintro ⟨after, hafter⟩
    rw [hsql] at hafter
    have hfrom : countColumn.toList ++ (" FROM ".toList ++ after)
        = (renderProjection .mysql q.projection).toList
          ++ (" FROM ".toList ++ ((q.source.render .mysql).toList ++ rest.toList)) := by
      simpa [countColumn] using hafter
    exact isCountProjection_of_begins hfrom
  tfae_finish

/-- Of the rows of an answer a query makes a count if it asks for one, and otherwise it hands them
out. -/
theorem ofAnswer_isCount (q : Select) (a : Answer) :
    Output.ofAnswer q.isCount a = a.takeRows.bind fun rows ↦
      if renderProjection .mysql q.projection = "count(*)" then (countOfRows rows).map .count
      else .ok (.rows rows) := by
  have hcount := q.isCount_tfae.out 0 2
  cases a with
  | report r => rfl
  | rows rows =>
    have hbind (f : List Row → Except Error Output) :
        (Answer.rows rows).takeRows.bind f = f rows := rfl
    rw [hbind]
    by_cases h : q.isCount = true
    · rw [if_pos (hcount.mp h), h]
      exact Output.ofAnswer_rows_of_count rows
    · rw [if_neg (mt hcount.mpr h), Bool.eq_false_iff.mpr h]
      rfl

/-- A client sends the statement of a query, and makes a count of the rows in the answer if the
`SELECT` list of the statement is a count. -/
theorem run_eq_count_or_rows {σ : Type} (q : Select) (client : Client σ) (w : World σ) :
    client.run (q.run .mysql) w
      = ((client.send (q.statement .mysql) w).1.bind fun a ↦ a.takeRows.bind fun rows ↦
          if renderProjection .mysql q.projection = "count(*)" then (countOfRows rows).map .count
          else .ok (.rows rows),
        (client.send (q.statement .mysql) w).2) := by
  have hrun : client.run (q.run .mysql) w
      = ((client.send (q.statement .mysql) w).1.bind (Output.ofAnswer q.isCount),
        (client.send (q.statement .mysql) w).2) := rfl
  rw [hrun, funext q.ofAnswer_isCount]

/-- **Counts are read where they were asked for.** Take any query on any source.

* The text that is sent begins with the `SELECT` list. That is `count(*)` if and only if its only
  entry is, up to blanks around it and the case of ASCII letters, and if and only if the text begins
  like that of a count.
* A client sends the text and makes a count of the rows in the answer exactly if the `SELECT` list
  is `count(*)`. Otherwise the rows are the result as they are.
* A count is looked for in the column `count(*)` and nowhere else: the value of the first row there
  is what is counted, and without rows or without the column there is none. -/
theorem counts_read_where_asked (q : Select) :
    let list := renderProjection .mysql q.projection
    let stmt := q.statement .mysql
    ("SELECT " ++ list ++ " FROM ").toList <+: stmt.sql.toList ∧
    List.TFAE [q.isCount = true,
      ∃ entry, q.projection = [entry] ∧ sameWord (trim entry.toList) "count(*)".toList = true,
      list = "count(*)",
      "SELECT count(*) FROM ".toList <+: stmt.sql.toList] ∧
    (∀ {σ : Type} (client : Client σ) (w : World σ),
      let sent := client.send stmt w
      client.run (q.run .mysql) w
        = (sent.1.bind fun a ↦ a.takeRows.bind fun rows ↦
            if list = "count(*)" then (countOfRows rows).map .count else .ok (.rows rows),
          sent.2)) ∧
    (∀ rows, countOfRows (rows.map (Row.only "count(*)")) = countOfRows rows) ∧
    ∀ rows, countOfRows rows
      = match rows.head?.map fun r ↦ r.get? "count(*)" with
        | some (some v) => countOfValue v
        | some none => .error (.unexpectedResult "count row has no `count(*)` column")
        | none => .error (.unexpectedResult "count query returned no rows") :=
  ⟨q.list_isPrefix_sql .mysql, q.isCount_tfae, q.run_eq_count_or_rows, countOfRows_map_only,
    countOfRows_eq_match⟩

/-- A count in other letters is sent like any count, and a count with a name is none. -/
example :
    let count : Select := { source := .table "t", projection := [" Count(*)\n"] }
    let named : Select := { source := .table "t", projection := ["count(*) as n"] }
    (count.statement .mysql).sql = "SELECT count(*) FROM `t`" ∧ count.isCount = true ∧
      (named.statement .mysql).sql = "SELECT count(*) AS `n` FROM `t`" ∧ named.isCount = false := by
  decide +kernel

end Select

end BoundSql
