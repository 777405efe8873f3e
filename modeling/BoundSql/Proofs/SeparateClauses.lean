import BoundSql.Proofs.ValueIndependence

/-!
# Clauses are set apart from each other

A query is built by a chain of calls, and the calls on its clauses may be mixed in any way. Each
call makes something new of one clause, which depends on that clause alone, and leaves the others as
they are (`Separate`). This is a fact about single calls. It follows that a chain does to a clause
what the calls on that clause do, in their order (`Separate.part_foldl`), so chains that mix the
same calls differently build the same query.

The values of `ON`, `WHERE` and `HAVING` share one numbering, but this is no way around: the names
are made when the query is complete, in the order of its text. The order of the calls does not get
to them.

Most clauses are overwritten by each call, and then the calls before the last one do not count
either.
-/

namespace BoundSql

/-! ## Calls about separate parts -/

section Separate

variable {S E K : Type} [DecidableEq K] {Part : K → Type}

/-- The calls of a chain about one part, in their order. -/
def callsAbout (about : E → K) (k : K) (calls : List E) : List E :=
  calls.filter fun e ↦ about e = k

/-- Two chains that mix the same calls: about each part they have the same ones in the same
order. -/
def SameCalls (about : E → K) (calls calls' : List E) : Prop :=
  ∀ k, callsAbout about k calls = callsAbout about k calls'

/-- Each call is about one part of a state. -/
structure Separate (apply : S → E → S) (part : S → (k : K) → Part k) (about : E → K) : Prop where
  /-- What a call makes of its part depends on that part alone. -/
  own : ∀ {s s' : S} (e : E), part s (about e) = part s' (about e) →
    part (apply s e) (about e) = part (apply s' e) (about e)
  /-- The other parts stay as they are. -/
  other : ∀ (s : S) (e : E) {k : K}, about e ≠ k → part (apply s e) k = part s k

variable {apply : S → E → S} {part : S → (k : K) → Part k} {about : E → K}

namespace Separate

/-- A chain does to a part what its calls about that part do. -/
theorem part_foldl (h : Separate apply part about) {s s' : S} {k : K} (hs : part s k = part s' k)
    (calls : List E) :
    part (calls.foldl apply s) k = part ((callsAbout about k calls).foldl apply s') k := by
  induction calls generalizing s s' with
  | nil => exact hs
  | cons e es ih =>
    rw [callsAbout, List.filter_cons, List.foldl_cons]
    by_cases hk : about e = k
    · subst hk
      rw [if_pos (by simp), List.foldl_cons]
      exact ih (h.own e hs)
    · rw [if_neg (by simpa using hk)]
      exact ih ((h.other s e hk).trans hs)

theorem part_foldl_congr (h : Separate apply part about) {s s' : S} {k : K}
    (hs : part s k = part s' k) {calls calls' : List E}
    (hcalls : callsAbout about k calls = callsAbout about k calls') :
    part (calls.foldl apply s) k = part (calls'.foldl apply s') k := by
  rw [h.part_foldl hs, hcalls, ← h.part_foldl rfl]

/-- Before a call that overwrites its part, the calls about that part do not count. -/
theorem part_foldl_of_overwritten (h : Separate apply part about) {e : E}
    (he : ∀ s s', part (apply s e) (about e) = part (apply s' e) (about e)) (s : S)
    (before after : List E) (k : K) :
    part ((before ++ e :: after).foldl apply s) k
      = part (((before.filter fun e' ↦ about e' ≠ about e) ++ e :: after).foldl apply s) k := by
  by_cases hk : about e = k
  · subst hk
    rw [List.foldl_append, List.foldl_append, List.foldl_cons, List.foldl_cons]
    exact h.part_foldl_congr (he _ _) rfl
  · -- of another part no call is left out
    have hkept : callsAbout about k (before.filter fun e' ↦ about e' ≠ about e)
        = callsAbout about k before := by
      rw [callsAbout, List.filter_filter]
      refine List.filter_congr fun e' _ ↦ ?_
      by_cases he' : about e' = k
      · simp [he', Ne.symm hk]
      · simp [he']
    refine h.part_foldl_congr rfl ?_
    rw [callsAbout, callsAbout, List.filter_append, List.filter_append]
    exact congrArg (· ++ _) hkept.symm

end Separate

end Separate

/-! ## Queries -/

namespace Select

/-- The clauses that calls on a query are about. -/
inductive Clause where
  | projection
  | filter
  | groupBy
  | having
  | orderBy
  | limit
deriving DecidableEq

/-- The clause that a call is about. -/
def Edit.clause : Edit → Clause
  | .project _ | .count => .projection
  | .filter _ => .filter
  | .groupBy _ => .groupBy
  | .having _ | .clearHaving => .having
  | .orderBy _ => .orderBy
  | .limit _ => .limit

/-- Whether each call on a clause overwrites what was there. -/
def Clause.isOverwritten : Clause → Bool
  | .filter | .having => false
  | _ => true

/-- What a clause can hold. -/
abbrev Clause.Content : Clause → Type
  | .projection => List String
  | .filter => Filter
  | .groupBy => List String
  | .having => Filter
  | .orderBy => List OrderTerm
  | .limit => Option Limit

/-- What a query has in a clause. -/
def content (q : Select) : (k : Clause) → k.Content
  | .projection => q.projection
  | .filter => q.filter
  | .groupBy => q.groupBy
  | .having => q.having
  | .orderBy => q.orderBy
  | .limit => q.limit

/-- A query is its source and its clauses. -/
theorem ext_content {q r : Select} (hsource : q.source = r.source)
    (hcontent : ∀ k, q.content k = r.content k) : q = r := by
  obtain ⟨source, projection, filter, groupBy, having, orderBy, limit⟩ := q
  obtain rfl := hsource
  obtain rfl : projection = r.projection := hcontent .projection
  obtain rfl : filter = r.filter := hcontent .filter
  obtain rfl : groupBy = r.groupBy := hcontent .groupBy
  obtain rfl : having = r.having := hcontent .having
  obtain rfl : orderBy = r.orderBy := hcontent .orderBy
  obtain rfl : limit = r.limit := hcontent .limit
  rfl

/-- A call on a query is about one clause. -/
theorem separate_apply : Separate apply content Edit.clause where
  own e h := by
    cases e with
    | filter e => exact congrArg (Filter.apply · e) h
    | having c => exact congrArg (Filter.replace · c) h
    | _ => rfl
  other q e k h := by
    cases e <;> cases k <;> simp_all [Edit.clause, apply, content]

theorem content_apply_of_isOverwritten {e : Edit} (h : e.clause.isOverwritten = true)
    (q r : Select) : (q.apply e).content e.clause = (r.apply e).content e.clause := by
  cases e with
  | filter e => cases h
  | having c => cases h
  | clearHaving => cases h
  | _ => rfl

theorem source_foldl (q : Select) (calls : List Edit) :
    (calls.foldl apply q).source = q.source := by
  induction calls generalizing q with
  | nil => rfl
  | cons e es ih =>
    rw [List.foldl_cons, ih]
    cases e <;> rfl

/-- Chains that mix the same calls build the same query. -/
theorem foldl_eq_of_sameCalls (q : Select) {calls calls' : List Edit}
    (h : SameCalls Edit.clause calls calls') : calls.foldl apply q = calls'.foldl apply q := by
  refine ext_content ?_ fun k ↦ separate_apply.part_foldl_congr rfl (h k)
  rw [source_foldl, source_foldl]

/-- Of the calls on a clause that is overwritten, those before another one do not count. -/
theorem foldl_eq_of_isOverwritten (q : Select) {e : Edit} (h : e.clause.isOverwritten = true)
    (before after : List Edit) :
    (before ++ e :: after).foldl apply q
      = ((before.filter fun e' ↦ e'.clause ≠ e.clause) ++ e :: after).foldl apply q := by
  refine ext_content ?_ (separate_apply.part_foldl_of_overwritten
    (content_apply_of_isOverwritten h) q before after)
  rw [source_foldl, source_foldl]

end Select

/-! ## Joins -/

namespace Tables

/-- The parts of a join that calls are about. -/
inductive Part where
  /-- The tables that are joined by one kind of join. -/
  | tables (kind : JoinKind)
  /-- What ties the tables. -/
  | on
deriving DecidableEq

/-- The part that a call is about. -/
def Edit.part : Edit → Part
  | .join _ => .tables .inner
  | .leftJoin _ => .tables .left
  | .on _ => .on

/-- What a part can hold. -/
abbrev Part.Content : Part → Type
  | .tables _ => TableSet
  | .on => Filter

/-- What a join has in a part. -/
def content (t : Tables) : (k : Part) → k.Content
  | .tables kind => t.declared kind
  | .on => t.on

/-- A join is its parts. -/
theorem ext_content {t u : Tables} (h : ∀ k, t.content k = u.content k) : t = u := by
  obtain ⟨inner, left, on⟩ := t
  obtain rfl : inner = u.inner := h (.tables .inner)
  obtain rfl : left = u.left := h (.tables .left)
  obtain rfl : on = u.on := h .on
  rfl

/-- A call on a join is about one part. -/
theorem separate_apply : Separate apply content Edit.part where
  own e h := by
    cases e with
    | join target => exact congrArg (TableSet.declare · (.parse target)) h
    | leftJoin target => exact congrArg (TableSet.declare · (.parse target)) h
    | on c => exact congrArg (Filter.apply · (.and c)) h
  other t e k h := by
    rcases k with (_ | _) | _ <;> cases e <;> simp_all [Edit.part, apply, content, declared]

/-- Chains that mix the same calls build the same join. -/
theorem foldl_eq_of_sameCalls (t : Tables) {calls calls' : List Edit}
    (h : SameCalls Edit.part calls calls') : calls.foldl apply t = calls'.foldl apply t :=
  ext_content fun k ↦ separate_apply.part_foldl_congr rfl (h k)

end Tables

/-! ## Statements -/

/-- **Clauses are set apart.** Two chains that mix the same calls give the same statement, text and
values: on a table, the calls on each clause, and on a join also the calls that join tables by each
kind and those that tie them. Of the calls on a clause that is overwritten, all but the last can be
left out. -/
theorem clauses_set_apart (d : Dialect) (table : String) :
    (∀ calls calls' : List Select.Edit, SameCalls Select.Edit.clause calls calls' →
      (Chain.select table calls).statement d = (Chain.select table calls').statement d) ∧
    (∀ (start : Tables.Start) (joins joins' : List Tables.Edit) (calls calls' : List Select.Edit),
      SameCalls Tables.Edit.part joins joins' → SameCalls Select.Edit.clause calls calls' →
      (Chain.join table start joins calls).statement d
        = (Chain.join table start joins' calls').statement d) ∧
    ∀ (source : Source) (before after : List Select.Edit) (e : Select.Edit),
      e.clause.isOverwritten = true →
      ((before ++ e :: after).foldl Select.apply { source }).statement d
        = (((before.filter fun e' ↦ e'.clause ≠ e.clause) ++ e :: after).foldl Select.apply
            { source }).statement d := by
  refine ⟨fun calls calls' h ↦ ?_, fun start joins joins' calls calls' hjoins h ↦ ?_,
    fun source before after e h ↦ ?_⟩
  · rw [Chain.statement, Chain.statement, Select.foldl_eq_of_sameCalls _ h]
  · rw [Chain.statement, Chain.statement, Tables.foldl_eq_of_sameCalls _ hjoins,
      Select.foldl_eq_of_sameCalls _ h]
  · rw [Select.foldl_eq_of_isOverwritten _ h]

theorem orders_of_users_set_apart :
    let compare (table : Option String) (name : String) (op : CompareOp) (n : Int64) : Condition :=
      Column.compare ⟨table, name⟩ op (.value (.ofInt64 n))
    let on : Tables.Edit :=
      .on (some (Column.compare ⟨some "u", "id"⟩ .equal (.column ⟨some "o", "user"⟩)))
    let young : Select.Edit := .filter (.filter (some (compare (some "u") "age" .less 18)))
    let old : Select.Edit := .filter (.or (some (compare (some "u") "age" .greater 70)))
    let many : Select.Edit := .having (some (compare none "n" .greaterOrEqual 3))
    let entries : Select.Edit := .project ["u.name", "count(o.id) as n"]
    let few : Select.Edit := .limit (.first 5)
    let joins : List Tables.Edit := [.join "order as o", on, .leftJoin "gift as g"]
    let joins' : List Tables.Edit := [on, .leftJoin "gift as g", .join "order as o"]
    let calls : List Select.Edit := [entries, young, old, .groupBy ["u.name"], many, few]
    let calls' : List Select.Edit := [many, young, few, .groupBy ["u.name"], old, entries]
    let statement := (Chain.join "user" (.alias "u") joins calls).statement .mysql
    (SameCalls Tables.Edit.part joins joins' ∧ SameCalls Select.Edit.clause calls calls' ∧
      statement = (Chain.join "user" (.alias "u") joins' calls').statement .mysql) ∧
    (SameCalls Select.Edit.clause [young, few] [few, young] ∧
      (Chain.select "user" [young, few]).statement .mysql
        = (Chain.select "user" [few, young]).statement .mysql) ∧
    (few.clause.isOverwritten = true ∧
      (([.limit (.window 2 7), young] ++ few :: [old]).foldl Select.apply
          { source := .table "user" }).statement .mysql
        = (([young] ++ few :: [old]).foldl Select.apply
            { source := .table "user" }).statement .mysql) ∧
    statement.sql = "SELECT `u`.`name`, count(`o`.`id`) AS `n` FROM `user` AS `u`"
      ++ " INNER JOIN `order` AS `o` LEFT JOIN `gift` AS `g` ON ( `u`.`id` = `o`.`user` )"
      ++ " WHERE ( ( `u`.`age` < :__age__0 ) OR ( `u`.`age` > :__age__1 ) )"
      ++ " GROUP BY `u`.`name` HAVING ( `n` >= :__n__0 ) LIMIT 5" := by
  intro compare on young old many entries few joins joins' calls calls' statement
  obtain ⟨htable, hjoin, hlast⟩ := clauses_set_apart .mysql "user"
  have hjoins : SameCalls Tables.Edit.part joins joins' := by
    rintro ((_ | _) | _) <;> rfl
  have hcalls : SameCalls Select.Edit.clause calls calls' := by
    rintro (_ | _ | _ | _ | _ | _) <;> rfl
  have hpair : SameCalls Select.Edit.clause [young, few] [few, young] := by
    rintro (_ | _ | _ | _ | _ | _) <;> rfl
  exact ⟨⟨hjoins, hcalls, hjoin _ _ _ _ _ hjoins hcalls⟩, ⟨hpair, htable _ _ hpair⟩,
    ⟨rfl, hlast (.table "user") [.limit (.window 2 7), young] [old] few rfl⟩, by decide +kernel⟩

end BoundSql
