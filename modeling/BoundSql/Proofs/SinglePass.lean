import BoundSql.Proofs.SpelledNames

/-!
# Placeholders are filled in one pass

A text is shown with the values in it by a loop, and this module says what the loop computes without
one. A text is a list of pieces, and there is only one way to take it apart (`Reads.unique`): a
placeholder is a colon with a whole word behind it, and every other character is a piece of its own,
colons without a word included. What is shown is each piece in turn, so what is put in place of a
placeholder is not looked at again.

The pieces on both sides of a cut are those of the whole text unless the cut goes through a word.
That is also the only danger: in front of a word something can always be put that is shown otherwise
alone (`endsName_of_fillText_append`).
-/

namespace BoundSql

/-! ## Pieces -/

/-- A piece of a text. -/
inductive Piece where
  /-- A character that belongs to no placeholder. -/
  | char (c : Char)
  /-- A colon with a word behind it. -/
  | placeholder (name : String)

namespace Piece

/-- The text of a piece. -/
def text : Piece → String
  | char c => String.singleton c
  | placeholder name => BoundSql.placeholder name

/-- What is shown of a piece: a placeholder becomes what is known for exactly its name, and is kept
if nothing is. -/
def shown (value? : String → Option String) : Piece → String
  | char c => String.singleton c
  | placeholder name => (value? name).getD (BoundSql.placeholder name)

end Piece

/-! ## Words in front of a text -/

theorem not_endsName_append {name : String} (hne : name ≠ "") (hname : WordName name)
    (cs : List Char) : ¬ EndsName (name.toList ++ cs) := by
  obtain ⟨c, name', hcons⟩ :=
    List.exists_cons_of_ne_nil fun h ↦ hne (String.toList_eq_nil_iff.mp h)
  intro hends
  have hword := hname c (hcons ▸ List.mem_cons_self)
  rw [hcons] at hends
  exact Bool.false_ne_true ((hends c rfl).symm.trans hword)

/-- Where a word ends can be seen. -/
theorem word_append_inj {name name' : String} {cs cs' : List Char} (hname : WordName name)
    (hname' : WordName name') (hcs : EndsName cs) (hcs' : EndsName cs')
    (h : name.toList ++ cs = name'.toList ++ cs') : name = name' ∧ cs = cs' := by
  have hword := congrArg (List.takeWhile Text.isWord) h
  rw [Text.takeWhile_append_of_head? (List.all_eq_true.mpr hname) hcs,
    Text.takeWhile_append_of_head? (List.all_eq_true.mpr hname') hcs'] at hword
  rw [hword] at h
  exact ⟨String.toList_inj.mp hword, List.append_cancel_left h⟩

/-! ## Taking a text apart -/

/-- The pieces of a text. A placeholder has the whole word, and there is none at a colon only if no
word stands behind it. -/
inductive Reads : List Piece → List Char → Prop
  | nil : Reads [] []
  | char {c : Char} {ps : List Piece} {cs : List Char} (hcolon : c = ':' → EndsName cs)
    (hps : Reads ps cs) : Reads (.char c :: ps) (c :: cs)
  | placeholder {name : String} {ps : List Piece} {cs : List Char} (hne : name ≠ "")
    (hname : WordName name) (hends : EndsName cs) (hps : Reads ps cs) :
    Reads (.placeholder name :: ps) (':' :: (name.toList ++ cs))

namespace Reads

variable {ps qs : List Piece} {cs : List Char}

/-- Nothing is lost and nothing changes places. -/
theorem flatMap_text (h : Reads ps cs) : ps.flatMap (fun p ↦ p.text.toList) = cs := by
  induction h with
  | nil => rfl
  | char _ _ ih => rw [List.flatMap_cons, ih, Piece.text, String.toList_singleton]; rfl
  | placeholder _ _ _ _ ih =>
    rw [List.flatMap_cons, ih, Piece.text, BoundSql.placeholder, String.toList_append]
    rfl

theorem fillPlaceholders_eq {value? : String → Option String} (h : Reads ps cs) :
    fillPlaceholders value? cs = ps.flatMap fun p ↦ (p.shown value?).toList := by
  induction h with
  | nil => rw [fillPlaceholders]; rfl
  | @char c ps cs hcolon _ ih =>
    rw [List.flatMap_cons, ← ih, Piece.shown, String.toList_singleton]
    by_cases hc : c = ':'
    · rw [hc]
      exact fillPlaceholders_placeholder (List.forall_mem_nil _) (hcolon hc)
    · rw [fillPlaceholders, if_neg hc]
      rfl
  | @placeholder name ps cs hne hname hends _ ih =>
    have hempty : name.toList ≠ [] := fun h ↦ hne (String.toList_eq_nil_iff.mp h)
    rw [fillPlaceholders_placeholder hname hends, ih, List.flatMap_cons, Piece.shown]
    congr 1
    rw [shownPlaceholder, if_neg (by rwa [List.isEmpty_iff]), String.ofList_toList]
    cases value? name with
    | some s => rfl
    | none => rw [Option.getD_none, BoundSql.placeholder, String.toList_append]; rfl

/-- Every text can be taken apart. -/
theorem exists_reads (cs : List Char) : ∃ ps, Reads ps cs := by
  induction cs using reading_induct with
  | nil => exact ⟨[], .nil⟩
  | char c cs hc ih =>
    obtain ⟨ps, hps⟩ := ih
    exact ⟨_, .char (fun h ↦ absurd h hc) hps⟩
  | placeholder name rest hname hrest ih =>
    obtain ⟨ps, hps⟩ := ih
    by_cases hempty : name = []
    · rw [hempty]
      exact ⟨_, .char (fun _ ↦ hrest) hps⟩
    · have hword : WordName (String.ofList name) := by rwa [WordName, String.toList_ofList]
      have hne : String.ofList name ≠ "" := by simpa using hempty
      have hreads := Reads.placeholder hne hword hrest hps
      rw [String.toList_ofList] at hreads
      exact ⟨_, hreads⟩

/-- A text is taken apart in one way. -/
theorem unique (hps : Reads ps cs) (hqs : Reads qs cs) : qs = ps := by
  induction hps generalizing qs with
  | nil =>
    cases hqs
    rfl
  | @char c ps cs hcolon _ ih =>
    generalize htext : c :: cs = ds at hqs
    cases hqs with
    | nil => cases htext
    | char _ hqs =>
      obtain ⟨rfl, rfl⟩ := List.cons.inj htext
      rw [ih hqs]
    | placeholder hne hname _ _ =>
      obtain ⟨rfl, rfl⟩ := List.cons.inj htext
      exact absurd (hcolon rfl) (not_endsName_append hne hname _)
  | @placeholder name ps cs hne hname hends _ ih =>
    generalize htext : ':' :: (name.toList ++ cs) = ds at hqs
    cases hqs with
    | nil => cases htext
    | char hcolon _ =>
      obtain ⟨rfl, rfl⟩ := List.cons.inj htext
      exact absurd (hcolon rfl) (not_endsName_append hne hname cs)
    | placeholder _ hname' hends' hqs =>
      obtain ⟨rfl, rfl⟩ := word_append_inj hname hname' hends hends' (List.cons.inj htext).2
      rw [ih hqs]

end Reads

theorem Reads.join_text {ps : List Piece} {s : String} (h : Reads ps s.toList) :
    String.join (ps.map Piece.text) = s := by
  rw [← String.toList_inj, String.toList_join, List.flatMap_map]
  exact h.flatMap_text

theorem Reads.fillText_eq {ps : List Piece} {s : String} (h : Reads ps s.toList) (d : Dialect)
    (b : Bindings) :
    fillText d b s
      = String.join (ps.map (Piece.shown fun name ↦ (b.get? name).map d.literal)) := by
  rw [fillText, ← String.toList_inj, String.toList_ofList, String.toList_join, List.flatMap_map]
  exact h.fillPlaceholders_eq

/-! ## Cuts -/

/-- A placeholder that nothing is bound for is kept, so its colon is. -/
theorem head?_fillText_of_unbound (d : Dialect) {b : Bindings} {cs : List Char} {s : String}
    (hs : s.toList = ':' :: cs)
    (hunbound : b.get? (String.ofList (cs.takeWhile Text.isWord)) = none) :
    (fillText d b s).toList.head? = some ':' := by
  rw [fillText, String.toList_ofList, hs, fillPlaceholders, if_pos rfl]
  rcases shownPlaceholder_cases (fun name ↦ (b.get? name).map d.literal)
    (cs.takeWhile Text.isWord) with ⟨-, hshown⟩ | ⟨t, -, hknown, -⟩
  · rw [hshown]
    rfl
  · rw [hunbound] at hknown
    cases hknown

theorem endsName_iff_takeWhile_eq_nil {cs : List Char} :
    EndsName cs ↔ cs.takeWhile Text.isWord = [] := by
  cases cs with
  | nil => exact iff_of_true (fun c hc ↦ nomatch hc) rfl
  | cons c cs => cases hc : Text.isWord c <;> simp [EndsName, hc]

/-- A bound placeholder is read if it stands alone, and not if a word goes on behind it. -/
theorem endsName_of_fillText_append {t : String}
    (h : ∀ d calls s, let b := Bindings.empty.bindAll calls
      fillText d b (s ++ t) = fillText d b s ++ fillText d b t) : EndsName t.toList := by
  let b := Bindings.empty.bindAll [("a", .null)]
  have hentries : b.entries = [("__a__0", .null)] := Bindings.sound_empty.entries_bind "a" .null
  have halone : fillText .mysql b ":__a__0" = "NULL" := by decide +kernel
  have hcut : fillText .mysql b (":__a__0" ++ t) = "NULL" ++ fillText .mysql b t :=
    halone ▸ h .mysql [("a", .null)] ":__a__0"
  rw [endsName_iff_takeWhile_eq_nil]
  by_contra hrest
  -- with the word behind it the name is longer than the only one that is bound
  have hunbound : b.get? (String.ofList (("__a__0".toList ++ t.toList).takeWhile Text.isWord))
      = none := by
    rw [Bindings.get?, hentries, Members.get?_cons, if_neg]
    · rfl
    · have hword : "__a__0".toList.all Text.isWord = true := by decide +kernel
      rw [← String.toList_inj, String.toList_ofList,
        List.takeWhile_append_of_pos (List.all_eq_true.mp hword)]
      exact fun hname ↦ hrest (List.append_right_eq_self.mp hname)
  have htext : (":__a__0" ++ t).toList = ':' :: ("__a__0".toList ++ t.toList) :=
    String.toList_append
  have hwhole := head?_fillText_of_unbound .mysql htext hunbound
  have hnull (cs : List Char) : ("NULL".toList ++ cs).head? = some 'N' := rfl
  rw [hcut, String.toList_append, hnull] at hwhole
  exact absurd hwhole (by decide)

/-- **Placeholders are filled in one pass.** A text can be cut in front of `t`, whatever stands
before it, whatever is bound and in every dialect, if and only if `t` does not begin with a word.
And there is one way to take a text apart into placeholders, each with the whole word behind its
colon, and other characters. What is shown of the text is what is shown of these pieces, in their
order: every character as it is, and every placeholder as the literal that is bound under exactly
its name, or as it is if there is none. -/
theorem text_filled_in_one_pass :
    (∀ t : String, EndsName t.toList ↔ ∀ d calls s, let b := Bindings.empty.bindAll calls
      fillText d b (s ++ t) = fillText d b s ++ fillText d b t) ∧
    ∀ s : String, ∃ ps, Reads ps s.toList ∧ (∀ qs, Reads qs s.toList → qs = ps) ∧
      String.join (ps.map Piece.text) = s ∧
      ∀ d b, fillText d b s
        = String.join (ps.map (Piece.shown fun name ↦ (b.get? name).map d.literal)) := by
  refine ⟨fun t ↦ ⟨fun ht d calls s ↦ fillText_append_of_endsName s ht,
    endsName_of_fillText_append⟩, fun s ↦ ?_⟩
  obtain ⟨ps, hps⟩ := Reads.exists_reads s.toList
  exact ⟨ps, hps, fun qs ↦ hps.unique, hps.join_text, hps.fillText_eq⟩

end BoundSql
