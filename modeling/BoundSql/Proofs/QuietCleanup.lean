import BoundSql.Proofs.TransactionCourse
import BoundSql.Session.Script

/-!
# Cleaning up is not noticed

Undoing a transaction and releasing its connection can fail, and nobody but a reader of the log gets
to know. The statement compares two runs: the same session on two databases that differ at most in
whether these two steps fail.

## Two runs in step

Two worlds *look alike* if they agree in all but the log, and in the log up to the records about
cleaning up. Two computations *agree* if from worlds that look alike they give the same result and
worlds that look alike again. Agreement is kept by doing one thing after another
(`Session.Agree.bind`), so a session agrees with itself on the other database because its steps do,
and the steps that may differ only write records that do not count.
-/

namespace BoundSql

/-- Two databases that differ at most in whether undoing and releasing fail. The states that these
steps lead to are the same. -/
structure Database.DifferInCleanup {σ : Type} (db db' : Database σ) : Prop where
  dialect : db.dialect = db'.dialect
  canAcquire : db.canAcquire = db'.canAcquire
  query : db.query = db'.query
  acquire : db.acquire = db'.acquire
  begin : db.begin = db'.begin
  commit : db.commit = db'.commit
  rollback : ∀ s, (db.rollback s).2 = (db'.rollback s).2
  release : ∀ s, (db.release s).2 = (db'.release s).2

/-- Whether a record tells how cleaning up went. -/
def LogRecord.isCleanup : LogRecord → Bool
  | .rolledBack | .rollbackFailed _ | .releaseFailed _ => true
  | _ => false

/-- The records that do not tell how cleaning up went. -/
def withoutCleanup (log : List LogRecord) : List LogRecord := log.filter fun r ↦ !r.isCleanup

theorem withoutCleanup_append (log log' : List LogRecord) :
    withoutCleanup (log ++ log') = withoutCleanup log ++ withoutCleanup log' :=
  List.filter_append _ _

/-- Worlds that differ in records about cleaning up only. -/
structure World.LooksLike {σ : Type} (w w' : World σ) : Prop where
  state : w.state = w'.state
  events : w.events = w'.events
  log : withoutCleanup w.log = withoutCleanup w'.log

namespace World.LooksLike

variable {σ : Type} {w w' w'' : World σ}

theorem refl (w : World σ) : w.LooksLike w := ⟨rfl, rfl, rfl⟩

theorem symm (h : w.LooksLike w') : w'.LooksLike w := ⟨h.state.symm, h.events.symm, h.log.symm⟩

theorem trans (h : w.LooksLike w') (h' : w'.LooksLike w'') : w.LooksLike w'' :=
  ⟨h.state.trans h'.state, h.events.trans h'.events, h.log.trans h'.log⟩

end World.LooksLike

namespace Session

variable {σ α β : Type}

/-- Computations that cannot be told apart by their results or by the worlds they leave. -/
def Agree (m m' : Session σ α) : Prop :=
  ∀ w w' : World σ, w.LooksLike w' → (m w).1 = (m' w').1 ∧ (m w).2.LooksLike (m' w').2

theorem Agree.pure (x : α) : Agree (pure x : Session σ α) (Pure.pure x) := fun _ _ h ↦ ⟨rfl, h⟩

theorem Agree.bind {m m' : Session σ α} {f f' : α → Session σ β} (hm : Agree m m')
    (hf : ∀ x, Agree (f x) (f' x)) : Agree (m >>= f) (m' >>= f') := by
  intro w w' h
  obtain ⟨hresult, hworld⟩ := hm w w' h
  rw [bind_apply, bind_apply, hresult]
  exact hf _ _ _ hworld

theorem agree_ask (e : Event) (f : σ → α × σ) : Agree (ask e f) (ask e f) := by
  intro w w' h
  rw [ask_apply, ask_apply, h.state, h.events]
  exact ⟨rfl, rfl, rfl, h.log⟩

theorem agree_notes (rs : List LogRecord) : Agree (notes rs : Session σ Unit) (notes rs) := by
  intro w w' h
  refine ⟨rfl, h.state, h.events, ?_⟩
  change withoutCleanup (w.log ++ rs) = withoutCleanup (w'.log ++ rs)
  rw [withoutCleanup_append, withoutCleanup_append, h.log]

theorem agree_note (r : LogRecord) : Agree (note r : Session σ Unit) (note r) := agree_notes [r]

theorem looksLike_note {r : LogRecord} (hr : r.isCleanup = true) (w : World σ) :
    (note r w).2.LooksLike w := by
  refine ⟨rfl, rfl, ?_⟩
  change withoutCleanup (w.log ++ [r]) = withoutCleanup w.log
  rw [withoutCleanup_append]
  simp [withoutCleanup, hr]

/-- A step of cleaning up: the two databases get into the same state, and what is done with their
answers does not show. -/
theorem agree_cleanup {e : Event} {f f' : σ → α × σ} (hstate : ∀ s, (f s).2 = (f' s).2)
    {g g' : α → Session σ Unit} (hg : ∀ a w, (g a w).2.LooksLike w)
    (hg' : ∀ a w, (g' a w).2.LooksLike w) : Agree (ask e f >>= g) (ask e f' >>= g') := by
  intro w w' h
  have hasked : (ask e f w).2.LooksLike (ask e f' w').2 := by
    rw [ask_apply, ask_apply, h.state, h.events, hstate]
    exact ⟨rfl, rfl, h.log⟩
  exact ⟨rfl, ((hg _ _).trans hasked).trans (hg' _ _).symm⟩

end Session

/-! ## Sessions on two databases -/

open Session

namespace Client

variable {σ ε β α : Type} {db db' : Database σ} {settings : Settings} {on : Channel}

private theorem agree_send (h : db.DifferInCleanup db') (stmt : Statement) :
    Agree ((Client.mk db settings on).send stmt) ((Client.mk db' settings on).send stmt) := by
  unfold send
  refine (agree_notes _).bind fun _ ↦ ?_
  dsimp only
  rw [h.query]
  exact (agree_ask _ _).bind fun t ↦ (agree_notes _).bind fun _ ↦ .pure _

private theorem agree_run (h : db.DifferInCleanup db') (t : Talk α) :
    Agree ((Client.mk db settings on).run t) ((Client.mk db' settings on).run t) := by
  induction t with
  | done x => exact .pure x
  | send stmt next ih => exact (agree_send h stmt).bind ih

private theorem agree_rollbackQuietly (h : db.DifferInCleanup db') :
    Agree (Client.mk db settings on).rollbackQuietly
      (Client.mk db' settings on).rollbackQuietly := by
  refine agree_cleanup h.rollback ?_ ?_ <;>
  · rintro (e | ⟨⟩) w
    · exact looksLike_note rfl w
    · exact looksLike_note rfl w

private theorem agree_releaseQuietly (h : db.DifferInCleanup db') :
    Agree (Client.mk db settings on).releaseQuietly (Client.mk db' settings on).releaseQuietly := by
  refine agree_cleanup h.release ?_ ?_ <;>
  · rintro (e | ⟨⟩) w
    · exact looksLike_note rfl w
    · exact .refl w

private theorem agree_conclude (h : db.DifferInCleanup db') (lift : Error → ε) (o : Outcome ε β) :
    Agree ((Client.mk db settings on).conclude lift o)
      ((Client.mk db' settings on).conclude lift o) := by
  cases o with
  | value x =>
    unfold conclude
    dsimp only
    rw [h.commit]
    refine (agree_ask _ _).bind ?_
    rintro (e | ⟨⟩)
    · exact (agree_rollbackQuietly h).bind fun _ ↦ .pure _
    · exact (agree_note _).bind fun _ ↦ .pure _
  | error e => exact (agree_rollbackQuietly h).bind fun _ ↦ .pure _
  | interrupted how => exact .pure _

private theorem agree_transactTalk (h : db.DifferInCleanup db') (lift : Error → ε)
    (action : Talk (Outcome ε β)) :
    Agree ((Client.mk db settings on).transactTalk lift action)
      ((Client.mk db' settings on).transactTalk lift action) := by
  unfold transactTalk transact
  dsimp only
  rw [h.canAcquire, h.acquire]
  split
  · refine (agree_ask _ _).bind ?_
    rintro (e | ⟨⟩)
    · exact .pure _
    · refine Agree.bind ?_ fun o ↦ (agree_releaseQuietly h).bind fun _ ↦ .pure _
      unfold runOnConnection
      dsimp only
      rw [h.begin]
      refine (agree_ask _ _).bind ?_
      rintro (e | ⟨⟩)
      · exact (agree_rollbackQuietly h).bind fun _ ↦ .pure _
      · exact (agree_note _).bind fun _ ↦ (agree_run h action).bind (agree_conclude h lift)
  · exact .pure _

private theorem agree_perform (h : db.DifferInCleanup db') (lift : Error → ε)
    (p : Program ε β α) :
    Agree ((Client.mk db settings on).perform lift p)
      ((Client.mk db' settings on).perform lift p) := by
  induction p with
  | done x => exact .pure x
  | send stmt next ih => exact (agree_send h stmt).bind ih
  | transact action next ih => exact (agree_transactTalk h lift action).bind ih

/-- **A transaction reports the first failure.** The result is that of the action, unless a step up
to the commit failed; then it is the first failure, and an error of the action is passed on as it
is. So it is a value exactly if no step failed and the action gave this value. On a database that
differs in whether undoing and releasing fail, any program has the same result, whatever it makes of
the answers it gets, asks for the same events and leaves the same state; at most records about these
two steps differ. -/
theorem transact_reports_first_failure :
    (∀ {σ ε β : Type} (c : Client σ) (lift : Error → ε) (action : Talk (Outcome ε β))
        (w : World σ),
      let r := (c.transact lift (fun tx ↦ tx.run action) w).1
      let failures := c.database.failures lift action w.state
      let result := (c.database.acted action w.state).result
      r = (failures.findSome? id).elim result .error ∧
        ∀ v, r = .value v ↔ (∀ f ∈ failures, f = none) ∧ result = .value v) ∧
    ∀ {σ ε β α : Type} (c : Client σ) (db' : Database σ), c.database.DifferInCleanup db' →
      ∀ (lift : Error → ε) (p : Program ε β α) (w : World σ),
        let r := c.perform lift p w
        let r' := Client.perform { c with database := db' } lift p w
        r.1 = r'.1 ∧ r.2.events = r'.2.events ∧ r.2.state = r'.2.state ∧
          withoutCleanup r.2.log = withoutCleanup r'.2.log := by
  refine ⟨fun c lift action w ↦ ?_, fun c db' h lift p w ↦ ?_⟩
  · intro r failures result
    have hr : r = (failures.findSome? id).elim result .error :=
      (c.transactTalk_eq_course lift action w).1.trans
        (c.database.outcome_course lift action w.state)
    refine ⟨hr, fun v ↦ ?_⟩
    have hnone : failures.findSome? id = none ↔ ∀ f ∈ failures, f = none :=
      List.findSome?_eq_none_iff
    rw [hr, ← hnone]
    rcases failures.findSome? id with _ | e <;> simp
  · obtain ⟨hresult, hworld⟩ := agree_perform h lift p w w (.refl w)
    exact ⟨hresult, hworld.events, hworld.state, hworld.log⟩

/-- A database on which no commit succeeds. -/
def failingCommit : Script := { failing := [.commit] }

/-- The same one, except that it cannot undo or release anything. -/
def failingCleanup : Script := { failing := [.commit, .rollback, .release] }

/-- An action that sends one statement and gives the number one. -/
def oneStatement : Program Error Nat (Outcome Error Nat) :=
  .transact (.single ⟨"DO 1", .empty⟩ fun _ ↦ .value 1) .done

theorem failed_cleanup_is_not_noticed :
    let c : Client Script.Answers := { database := failingCommit.database }
    let c' : Client Script.Answers := { database := failingCleanup.database }
    let r := c.perform id oneStatement ⟨[], [], []⟩
    let r' := c'.perform id oneStatement ⟨[], [], []⟩
    c.database.DifferInCleanup c'.database ∧ r.1 = r'.1 ∧ r.2.events = r'.2.events ∧
      r.1 = .error (.database "commit failed") ∧
      r.2.log.filterMap LogRecord.message? = ["transaction started", "transaction rolled back"] ∧
      r'.2.log.filterMap LogRecord.message?
        = ["transaction started", "rollback failed", "release connection failed"] := by
  intro c c' r r'
  have h : c.database.DifferInCleanup c'.database :=
    ⟨rfl, rfl, rfl, rfl, rfl, rfl, fun _ ↦ rfl, fun _ ↦ rfl⟩
  have hsame := transact_reports_first_failure.2 c c'.database h id oneStatement ⟨[], [], []⟩
  exact ⟨h, hsame.1, hsame.2.1, rfl, rfl, rfl⟩

end Client
end BoundSql
