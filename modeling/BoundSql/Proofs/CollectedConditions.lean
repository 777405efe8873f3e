import BoundSql.Proofs.GuardedCommands

/-!
# What a command demands of its rows

The condition of a command is collected from calls, and this module says what it is in terms of the
whole history. Calls without a condition leave no trace, and what was collected before the last
`clear` is gone. The calls that remain are the *terms* of the condition. If some of them are
`filter`, then the last of these begins the condition anew, and what was given before it is gone as
well (`collected_fromLastFilter`).

So there is a first term that counts, and it is the condition at first; each later one is put to the
whole tree so far. Written down, this is a fold over the terms that knows nothing of slots and calls
(`collected`), and the condition of a command is its value (`condition_foldl`).
-/

namespace BoundSql

namespace Filter

/-! ## Terms -/

/-- A condition that was given, by one of the four calls that can bring one. -/
inductive Term where
  | filter (c : Condition)
  | and (c : Condition)
  | or (c : Condition)
  | not (c : Condition)

namespace Term

/-- The condition of a term that is the first. -/
def alone : Term → Condition
  | filter c | and c | or c => c
  | not c => .negated c

/-- A term with the tree of those before it. -/
def wrap (prior : Condition) : Term → Condition
  | filter c => c
  | and c => .all [prior, c]
  | or c => .any [prior, c]
  | not c => .all [prior, .negated c]

/-- Whether a term begins the condition anew. -/
def isFilter : Term → Bool
  | filter _ => true
  | _ => false

theorem wrap_of_isFilter {t : Term} (h : t.isFilter = true) (prior : Condition) :
    t.wrap prior = t.alone := by
  cases t with
  | filter c => rfl
  | _ => cases h

end Term

/-- The condition of terms: each is put to the whole tree of those before it. -/
def collected : List Term → Option Condition
  | [] => none
  | t :: ts => some (ts.foldl Term.wrap t.alone)

/-- The terms from the last `filter` on, or all of them if there is none. -/
def fromLastFilter : List Term → List Term
  | [] => []
  | t :: ts => if ts.any Term.isFilter then fromLastFilter ts else t :: ts

/-- Only the first of these terms can be a `filter`. -/
theorem tail_fromLastFilter (ts : List Term) :
    (fromLastFilter ts).tail.any Term.isFilter = false := by
  induction ts with
  | nil => rfl
  | cons t ts ih =>
    rw [fromLastFilter]
    split
    · exact ih
    · next hnone => exact eq_false_of_ne_true hnone

theorem collected_concat (ts : List Term) (t : Term) :
    collected (ts ++ [t]) = some ((collected ts).elim t.alone fun prior ↦ t.wrap prior) := by
  cases ts with
  | nil => rfl
  | cons u us => rw [List.cons_append, collected, List.foldl_concat, collected, Option.elim_some]

/-- What stands before a `filter` does not get into the tree. -/
theorem foldl_wrap_of_any {ts : List Term} (h : ts.any Term.isFilter = true)
    (prior prior' : Condition) : ts.foldl Term.wrap prior = ts.foldl Term.wrap prior' := by
  induction ts generalizing prior prior' with
  | nil => cases h
  | cons t ts ih =>
    rw [List.any_cons, Bool.or_eq_true] at h
    rw [List.foldl_cons, List.foldl_cons]
    rcases h with ht | hts
    · rw [Term.wrap_of_isFilter ht, Term.wrap_of_isFilter ht]
    · exact ih hts _ _

/-- What was given before the last `filter` does not count. -/
theorem collected_fromLastFilter (ts : List Term) :
    collected (fromLastFilter ts) = collected ts := by
  induction ts with
  | nil => rfl
  | cons t ts ih =>
    rw [fromLastFilter]
    split
    · next hsome =>
      rw [ih]
      cases ts with
      | nil => cases hsome
      | cons u us =>
        rw [List.any_cons, Bool.or_eq_true] at hsome
        rw [collected, collected, List.foldl_cons]
        rcases hsome with hu | hus
        · rw [Term.wrap_of_isFilter hu]
        · rw [foldl_wrap_of_any hus]
    · rfl

/-! ## Calls -/

/-- The term that a call gives, unless it comes without a condition. -/
def Edit.term? : Edit → Option Term
  | .filter c => c.map .filter
  | .and c => c.map .and
  | .or c => c.map .or
  | .not c => c.map .not
  | .clear => none

/-- Whether a call could have brought a condition and did not. -/
def Edit.isIdle (e : Edit) : Bool := !e.isClear && e.term?.isNone

/-- The terms that were given since the condition was dropped last. -/
def terms (edits : List Edit) : List Term :=
  (edits.rtakeWhile fun e ↦ !e.isClear).filterMap Edit.term?

theorem terms_concat (edits : List Edit) (e : Edit) :
    terms (edits ++ [e]) = if e.isClear then [] else terms edits ++ e.term?.toList := by
  rw [terms, List.rtakeWhile_concat]
  cases hclear : e.isClear with
  | true => rfl
  | false =>
    rw [Bool.not_false, if_pos rfl, List.filterMap_append, ← terms, if_neg Bool.false_ne_true]
    cases hterm : e.term? <;> simp [hterm]

/-- One step: a call drops the condition, changes nothing, or puts its term to what is there. -/
theorem condition_apply (f : Filter) (e : Edit) :
    (f.apply e).condition
      = if e.isClear then none
        else e.term?.elim f.condition fun t ↦
          some (f.condition.elim t.alone fun prior ↦ t.wrap prior) := by
  obtain ⟨prior⟩ := f
  cases e with
  | clear => rfl
  | filter c | and c | or c | not c => cases c <;> cases prior <;> rfl

/-- A run: the condition is collected from the terms. -/
theorem condition_foldl (edits : List Edit) :
    (edits.foldl apply {}).condition = collected (terms edits) := by
  induction edits using List.reverseRecOn with
  | nil => rfl
  | append_singleton edits e ih =>
    rw [List.foldl_concat, condition_apply, ih, terms_concat]
    split
    · rfl
    · cases e.term? with
      | none => rw [Option.elim_none, Option.toList_none, List.append_nil]
      | some t => rw [Option.elim_some, Option.toList_some, collected_concat]

/-- A condition is there if any term is. -/
theorem collected_eq_none_iff {ts : List Term} : collected ts = none ↔ ts = [] := by
  cases ts <;> simp [collected]

theorem apply_of_isIdle {e : Edit} (h : e.isIdle = true) (f : Filter) : f.apply e = f := by
  cases e with
  | clear => cases h
  | filter c | and c | or c | not c =>
    cases c with
    | none => rfl
    | some c => cases h

/-- Calls without a condition can be left out. -/
theorem foldl_filter_isIdle (f : Filter) (edits : List Edit) :
    (edits.filter fun e ↦ !e.isIdle).foldl apply f = edits.foldl apply f := by
  induction edits generalizing f with
  | nil => rfl
  | cons e es ih =>
    rw [List.filter_cons, List.foldl_cons]
    cases hidle : e.isIdle with
    | true => rw [apply_of_isIdle hidle, if_neg (by simp), ih]
    | false => rw [if_pos (by simp), List.foldl_cons, ih]

end Filter

/-! ## Commands -/

namespace Select

/-- The change of the condition on rows that a call is. -/
def Edit.filter? : Edit → Option Filter.Edit
  | .filter e => some e
  | _ => none

theorem filter_foldl (q : Select) (calls : List Edit) :
    (calls.foldl apply q).filter = (calls.filterMap Edit.filter?).foldl Filter.apply q.filter := by
  rw [List.foldl_filterMap]
  exact (List.foldl_hom Select.filter fun _ e ↦ by cases e <;> rfl).symm

end Select

/-- **What a command demands of its rows.** After any calls, the condition is the fold of the terms
that were given since it was dropped last, from the last `filter` among them on. Calls without a
condition can be left out, and there is no condition exactly if there is no term. The conditions of
all commands are collected in this way. -/
theorem condition_collected (edits : List Filter.Edit) :
    let f := edits.foldl Filter.apply {}
    let given := Filter.fromLastFilter (Filter.terms edits)
    f.condition = Filter.collected given ∧ given.tail.any Filter.Term.isFilter = false ∧
      (edits.filter fun e ↦ !e.isIdle).foldl Filter.apply {} = f ∧
      (f.condition = none ↔ Filter.terms edits = []) ∧
      (∀ (table : String) (calls : List Update.Edit),
        (calls.foldl Update.apply { table }).filter
          = (calls.filterMap Update.Edit.filter?).foldl Filter.apply {}) ∧
      (∀ (table : String) (calls : List Filter.Edit),
        (calls.foldl Delete.apply { table }).filter = calls.foldl Filter.apply {}) ∧
      ∀ (source : Source) (calls : List Select.Edit),
        (calls.foldl Select.apply { source }).filter
          = (calls.filterMap Select.Edit.filter?).foldl Filter.apply {} := by
  intro f given
  refine ⟨?_, Filter.tail_fromLastFilter _, Filter.foldl_filter_isIdle {} edits, ?_,
    fun table calls ↦ Update.filter_foldl calls { table },
    fun table calls ↦ Delete.filter_foldl calls { table },
    fun source calls ↦ Select.filter_foldl { source } calls⟩
  · rw [Filter.collected_fromLastFilter, Filter.condition_foldl]
  · rw [Filter.condition_foldl, Filter.collected_eq_none_iff]

end BoundSql
