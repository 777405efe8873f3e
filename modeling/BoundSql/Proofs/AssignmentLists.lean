import BoundSql.Proofs.QuotedLiterals

/-!
# Records as lists of assignments

A record is written after `SET` as a list of assignments. A reader of SQL cuts such a list at the
commas that it sees: those outside of quotes and outside of parentheses. `listItems` makes these
cuts, and this module says what they are for the literal of a record.

## Texts that are not cut

A text is `Solid` if no cut falls into it, wherever it stands, and `Enclosed` if none does between
parentheses. Quoted texts, names and numerals are solid, and the items of an array are, since those
that are arrays themselves stand between parentheses. Both notions are kept by putting texts one
after the other, so they follow the pieces of a literal.

## Arrays

An array as the value of a key has no parentheses of its own. It is a list inside of the list of
assignments, and its commas are seen: only its first item stands after the key, and the others look
like assignments. Without items nothing stands after the key.
-/

namespace BoundSql

/-! ## Cutting a list -/

/-- How many parentheses are open after a character, if `n` were before it. Inside of quotes a
parenthesis is an ordinary character. -/
def Place.nest (p : Place) (n : Nat) (c : Char) : Nat :=
  if p = .outside then (if c = '(' then n + 1 else if c = ')' then n - 1 else n) else n

/-- The items of a list, which is cut at each comma with a blank after it that stands outside of
quotes and parentheses. -/
def listItems : Place → Nat → List Char → List (List Char)
  | _, _, [] => [[]]
  | .outside, 0, ',' :: ' ' :: cs => [] :: listItems .outside 0 cs
  | p, n, c :: cs => (listItems (p.next c) (p.nest n c) cs).modifyHead (c :: ·)

/-- Puts a text in front of the first item. -/
def extendFirst (cs : List Char) (items : List (List Char)) : List (List Char) :=
  items.modifyHead (cs ++ ·)

@[simp] theorem extendFirst_nil (items : List (List Char)) : extendFirst [] items = items := by
  cases items <;> rfl

@[simp] theorem extendFirst_cons (cs item : List Char) (items : List (List Char)) :
    extendFirst cs (item :: items) = (cs ++ item) :: items := rfl

@[simp] theorem extendFirst_extendFirst (cs ds : List Char) (items : List (List Char)) :
    extendFirst cs (extendFirst ds items) = extendFirst (cs ++ ds) items := by
  cases items <;> simp [extendFirst]

theorem listItems_separator (cs : List Char) :
    listItems .outside 0 (", ".toList ++ cs) = [] :: listItems .outside 0 cs := rfl

/-! ## Texts that are not cut -/

/-- A text that leads from one spot of a list to another one and is not cut on the way. -/
def Uncut (p : Place) (n : Nat) (cs : List Char) (p' : Place) (n' : Nat) : Prop :=
  ∀ rest, listItems p n (cs ++ rest) = extendFirst cs (listItems p' n' rest)

namespace Uncut

variable {p p' p'' : Place} {n n' n'' : Nat} {c : Char} {cs ds : List Char}

theorem nil : Uncut p n [] p n := fun _ ↦ (extendFirst_nil _).symm

theorem append (hcs : Uncut p n cs p' n') (hds : Uncut p' n' ds p'' n'') :
    Uncut p n (cs ++ ds) p'' n'' := by
  intro rest
  rw [List.append_assoc, hcs, hds, extendFirst_extendFirst]

/-- Nothing but a comma outside of quotes and parentheses is cut. -/
theorem char (h : p = .outside → n = 0 → c ≠ ',') : Uncut p n [c] (p.next c) (p.nest n c) := by
  intro rest
  rw [List.singleton_append, listItems]
  · rfl
  · exact fun _ hp hn hc ↦ absurd hc (h hp hn)

/-- Inside of quotes the number of parentheses does not change. -/
theorem char_of_ne (hp : p ≠ .outside) : Uncut p n [c] (p.next c) n := by
  have hchar : Uncut p n [c] (p.next c) (p.nest n c) := char fun h ↦ absurd h hp
  rwa [Place.nest, if_neg hp] at hchar

end Uncut

/-- A text into which no cut falls between parentheses. -/
def Enclosed (cs : List Char) : Prop := ∀ n, Uncut .outside (n + 1) cs .outside (n + 1)

/-- A text into which no cut falls. -/
def Solid (cs : List Char) : Prop := ∀ n, Uncut .outside n cs .outside n

theorem Solid.enclosed {cs : List Char} (h : Solid cs) : Enclosed cs := fun n ↦ h (n + 1)

theorem Solid.append {cs ds : List Char} (hcs : Solid cs) (hds : Solid ds) : Solid (cs ++ ds) :=
  fun n ↦ (hcs n).append (hds n)

/-- A text of characters that a reader of a list does not heed. -/
def Unmarked (cs : List Char) : Prop :=
  ∀ c ∈ cs, c ≠ textMark ∧ c ≠ identifierMark ∧ c ∉ [',', '(', ')']

instance (cs : List Char) : Decidable (Unmarked cs) :=
  List.decidableBAll (fun c ↦ c ≠ textMark ∧ c ≠ identifierMark ∧ c ∉ [',', '(', ')']) cs

theorem Unmarked.solid {cs : List Char} (h : Unmarked cs) : Solid cs := by
  intro n
  induction cs with
  | nil => exact .nil
  | cons c cs ih =>
    obtain ⟨htext, hname, hlist⟩ := h c List.mem_cons_self
    simp only [List.mem_cons, List.not_mem_nil, or_false, not_or] at hlist
    have hnext : Place.outside.next c = .outside := by simp [Place.next, htext, hname]
    have hnest : Place.outside.nest n c = n := by simp [Place.nest, hlist]
    have hchar : Uncut .outside n [c] .outside n := by
      simpa only [hnext, hnest] using Uncut.char (p := .outside) (n := n) fun _ _ ↦ hlist.1
    exact hchar.append (ih fun c' hc' ↦ h c' (List.mem_cons_of_mem _ hc'))

/-- The commas of a list are not seen between parentheses. -/
theorem Enclosed.parens {s : String} (h : Enclosed s.toList) : Solid ("(" ++ s ++ ")").toList := by
  intro n
  have hopen : Uncut .outside n "(".toList .outside (n + 1) := Uncut.char fun _ _ ↦ by decide
  have hclose : Uncut .outside (n + 1) ")".toList .outside n := Uncut.char fun _ _ ↦ by decide
  rw [String.toList_append, String.toList_append]
  exact (hopen.append (h n)).append hclose

theorem enclosed_separator : Enclosed ", ".toList := by
  intro n
  have hcomma : Uncut .outside (n + 1) [','] .outside (n + 1) :=
    Uncut.char fun _ h ↦ absurd h (Nat.succ_ne_zero n)
  have hblank : Solid [' '] := Unmarked.solid (by decide)
  exact hcomma.append (hblank (n + 1))

theorem Enclosed.intercalate {ss : List String} (h : ∀ s ∈ ss, Enclosed s.toList) :
    Enclosed (", ".intercalate ss).toList := by
  intro n
  induction ss with
  | nil => exact .nil
  | cons s ss ih =>
    have hs : Enclosed s.toList := h s List.mem_cons_self
    have hss := ih fun t ht ↦ h t (List.mem_cons_of_mem _ ht)
    cases ss with
    | nil => simpa only [String.intercalate_singleton] using hs n
    | cons t ts =>
      rw [String.intercalate_cons_cons, String.toList_append, String.toList_append]
      exact ((hs n).append (enclosed_separator n)).append hss

/-- A list of solid texts is cut into these texts. -/
theorem listItems_intercalate {ss : List String} (hne : ss ≠ []) (h : ∀ s ∈ ss, Solid s.toList) :
    listItems .outside 0 (", ".intercalate ss).toList = ss.map String.toList := by
  induction ss with
  | nil => exact absurd rfl hne
  | cons s ss ih =>
    have hs := h s List.mem_cons_self 0
    cases ss with
    | nil =>
      have hwhole := hs []
      rw [List.append_nil] at hwhole
      rw [String.intercalate_singleton, hwhole, listItems, extendFirst_cons, List.append_nil]
      rfl
    | cons t ts =>
      have hts := ih (List.cons_ne_nil t ts) fun u hu ↦ h u (List.mem_cons_of_mem _ hu)
      rw [String.intercalate_cons_cons, String.toList_append, String.toList_append,
        List.append_assoc, hs, listItems_separator, hts, extendFirst_cons, List.append_nil]
      rfl

/-! ## Quoted parts -/

/-- A text between marks is not cut if each of its pieces leads back into the marks. -/
private theorem solid_between {mark : Char} {p : Place} {pieces : List (List Char)}
    (hopen : ∀ n, Uncut .outside n [mark] p n) (hclose : ∀ n, Uncut p n [mark] .outside n)
    (h : ∀ cs ∈ pieces, ∀ n, Uncut p n cs p n) : Solid (mark :: pieces.flatten ++ [mark]) := by
  intro n
  have hinside : Uncut p n pieces.flatten p n := by
    induction pieces with
    | nil => exact .nil
    | cons cs pieces ih =>
      exact (h cs List.mem_cons_self n).append (ih fun ds hds ↦ h ds (List.mem_cons_of_mem _ hds))
  exact ((hopen n).append hinside).append (hclose n)

theorem solid_quoteText (s : String) : Solid (quoteText s).toList := by
  rw [quoteText, String.toList_ofList, List.flatMap_def]
  refine solid_between (p := .text) (fun n ↦ Uncut.char fun _ _ ↦ by decide)
    (fun n ↦ Uncut.char_of_ne (by decide)) fun cs hcs n ↦ ?_
  obtain ⟨c, -, rfl⟩ := List.mem_map.mp hcs
  rw [escapedChar]
  rcases hletter : escapeLetter? c with _ | letter
  · have hplain : c ≠ textMark ∧ c ≠ '\\' := by
      constructor <;> rintro rfl <;> exact absurd hletter (by decide)
    have hnext : Place.text.next c = .text := by simp [Place.next, hplain]
    simpa only [hnext] using Uncut.char_of_ne (p := .text) (n := n) (c := c) (by decide)
  · have hescape : Uncut .text n ['\\'] .escape n := Uncut.char_of_ne (by decide)
    have hback : Uncut .escape n [letter] .text n := Uncut.char_of_ne (by decide)
    exact hescape.append hback

theorem solid_quoteIdentifier (name : String) : Solid (quoteIdentifier name).toList := by
  rw [quoteIdentifier, wrapDoubling, String.toList_ofList, List.flatMap_def]
  refine solid_between (p := .name) (fun n ↦ Uncut.char fun _ _ ↦ by decide)
    (fun n ↦ Uncut.char_of_ne (by decide)) fun cs hcs n ↦ ?_
  obtain ⟨c, -, rfl⟩ := List.mem_map.mp hcs
  by_cases hmark : c = identifierMark
  · have hleave : Uncut .name n [identifierMark] .outside n := Uncut.char_of_ne (by decide)
    have hback : Uncut .outside n [identifierMark] .name n := Uncut.char fun _ _ ↦ by decide
    rw [if_pos hmark, hmark]
    exact hleave.append hback
  · have hnext : Place.name.next c = .name := by simp [Place.next, hmark]
    rw [if_neg hmark]
    simpa only [hnext] using Uncut.char_of_ne (p := .name) (n := n) (c := c) (by decide)

theorem solid_number (n : Number) : Solid n.text.toList := by
  refine Unmarked.solid fun c hc ↦ ?_
  have hnumeral := n.numeralChars_text c hc
  refine ⟨?_, ?_, fun hlist ↦ ?_⟩
  · rintro rfl
    exact absurd hnumeral (by decide)
  · rintro rfl
    exact absurd hnumeral (by decide)
  · have hall : [',', '(', ')'].all (fun c ↦ !isNumeralChar c) := by decide
    have hc := List.all_eq_true.mp hall c hlist
    rw [hnumeral] at hc
    cases hc

/-! ## Literals -/

/-- An item of an array as it is written in the array. -/
def itemLiteral (v : Json) : String :=
  if v.isArray then "(" ++ nestedLiteral v ++ ")" else nestedLiteral v

theorem nestedLiteral_array (vs : List Json) :
    nestedLiteral (.array vs) = ", ".intercalate (vs.map itemLiteral) := by
  rw [nestedLiteral, itemLiterals_eq_map]
  rfl

/-- A literal is cut between the items of an array only. -/
theorem enclosed_nestedLiteral (v : Json) :
    Enclosed (nestedLiteral v).toList ∧ (v.isArray = false → Solid (nestedLiteral v).toList) := by
  have hsolid {cs : List Char} {b : Bool} (h : Solid cs) : Enclosed cs ∧ (b = false → Solid cs) :=
    ⟨h.enclosed, fun _ ↦ h⟩
  induction v with
  | null => exact hsolid (Unmarked.solid (by decide))
  | bool b =>
    cases b with
    | true => exact hsolid (Unmarked.solid (by decide))
    | false => exact hsolid (Unmarked.solid (by decide))
  | number n => exact hsolid (solid_number n)
  | text s => exact hsolid (solid_quoteText s)
  | array vs ih =>
    refine ⟨?_, Bool.noConfusion⟩
    rw [nestedLiteral_array]
    refine .intercalate fun s hs ↦ ?_
    obtain ⟨v, hv, rfl⟩ := List.mem_map.mp hs
    rw [itemLiteral]
    split
    · exact (ih v hv).1.parens.enclosed
    · exact (ih v hv).1
  | object members => exact hsolid (solid_quoteText _)

theorem solid_itemLiteral (v : Json) : Solid (itemLiteral v).toList := by
  obtain ⟨henclosed, hsolid⟩ := enclosed_nestedLiteral v
  rw [itemLiteral]
  split
  · exact henclosed.parens
  · next harray => exact hsolid (Bool.eq_false_iff.mpr harray)

theorem Number.toList_text_ne_nil (n : Number) : n.text.toList ≠ [] := by
  cases n with
  | integer n =>
    rw [Number.text, Int.toString_eq_repr]
    cases n.val with
    | ofNat m =>
      rw [Int.repr, Nat.toList_repr]
      exact Nat.toDigits_ne_nil
    | negSucc m =>
      rw [Int.repr, String.toList_append]
      exact List.cons_ne_nil _ _
  | double x =>
    rw [Number.text, Decimal.Layout.text, String.toList_ofList]
    refine List.append_ne_nil_of_right_ne_nil _ ?_
    split
    · exact List.cons_ne_nil _ _
    · dsimp only
      split
      · rw [Decimal.positional]
        split
        · exact List.cons_ne_nil _ _
        · split
          · exact List.append_ne_nil_of_right_ne_nil _ (List.cons_ne_nil _ _)
          · exact List.append_ne_nil_of_right_ne_nil _ (List.cons_ne_nil _ _)
      · exact List.append_ne_nil_of_right_ne_nil _ (List.cons_ne_nil _ _)

private theorem nestedLiteral_ne_empty {v : Json} (h : v.isArray = false) :
    nestedLiteral v ≠ "" := by
  cases v with
  | null => decide
  | bool b => cases b <;> decide
  | number n => exact fun hn ↦ n.toList_text_ne_nil (String.toList_eq_nil_iff.mpr hn)
  | array vs => cases h
  | text | object =>
    intro hempty
    rw [nestedLiteral, quoteText, ← String.toList_inj, String.toList_ofList] at hempty
    cases hempty

theorem itemLiteral_ne_empty (v : Json) : itemLiteral v ≠ "" := by
  rw [itemLiteral]
  split
  · intro hempty
    rw [← String.toList_inj, String.toList_append, String.toList_append] at hempty
    cases hempty
  · next harray => exact nestedLiteral_ne_empty (Bool.eq_false_iff.mpr harray)

/-- Every value but the array without items shows something. -/
theorem nestedLiteral_eq_empty_iff (v : Json) : nestedLiteral v = "" ↔ v = .array [] := by
  constructor
  · intro hempty
    rcases harray : v.isArray with _ | _
    · exact absurd hempty (nestedLiteral_ne_empty harray)
    · cases v with
      | array vs =>
        rw [nestedLiteral_array] at hempty
        rcases vs with _ | ⟨v, _ | ⟨w, ws⟩⟩
        · rfl
        · exact absurd (String.intercalate_singleton.symm.trans hempty) (itemLiteral_ne_empty v)
        · rw [List.map_cons, List.map_cons, String.intercalate_cons_cons,
            ← String.toList_inj] at hempty
          simp at hempty
      | _ => cases harray
  · rintro rfl
    rfl

/-- What a reader of a list takes a value for: the items of an array, the first of which is empty if
there are none, and any other value for itself. -/
def Json.pieces : Json → List String
  | .array [] => [""]
  | .array (v :: vs) => (v :: vs).map itemLiteral
  | v => [nestedLiteral v]

namespace Json

theorem pieces_ne_nil (v : Json) : v.pieces ≠ [] := by
  rcases v with _ | _ | _ | _ | (_ | _) | _ <;> exact List.cons_ne_nil _ _

theorem intercalate_pieces (v : Json) : ", ".intercalate v.pieces = nestedLiteral v := by
  rcases v with _ | _ | _ | _ | (_ | _) | _
  case array.cons v vs => rw [pieces, nestedLiteral_array]
  all_goals exact String.intercalate_singleton

theorem solid_of_mem_pieces {v : Json} {s : String} (h : s ∈ v.pieces) : Solid s.toList := by
  have hitem {vs : List Json} (hs : s ∈ vs.map itemLiteral) : Solid s.toList := by
    obtain ⟨v, -, rfl⟩ := List.mem_map.mp hs
    exact solid_itemLiteral v
  have hwhole := (enclosed_nestedLiteral v).2
  rcases v with _ | _ | _ | _ | (_ | _) | _
  case array.cons v vs => exact hitem h
  case array.nil => exact List.mem_singleton.mp h ▸ Unmarked.solid (by decide)
  all_goals exact List.mem_singleton.mp h ▸ hwhole rfl

/-- A value that a reader of a list takes for one item: no array, or an array with one item. -/
def IsSingle (v : Json) : Prop := ∀ vs, v = .array vs → vs.length = 1

theorem isSingle_iff (v : Json) : v.IsSingle ↔ v.pieces.length = 1 ∧ nestedLiteral v ≠ "" := by
  rw [Ne, nestedLiteral_eq_empty_iff]
  rcases v with _ | _ | _ | _ | (_ | _) | _ <;> simp [IsSingle, pieces]

theorem IsSingle.pieces_eq {v : Json} (h : v.IsSingle) : v.pieces = [nestedLiteral v] := by
  obtain ⟨s, hs⟩ := List.length_eq_one_iff.mp (v.isSingle_iff.mp h).1
  rw [← v.intercalate_pieces, hs, String.intercalate_singleton]

end Json

/-! ## Records -/

/-- What a reader of a list takes an assignment for: only the first piece of the value stands after
the key. -/
def assignmentPieces (m : String × Json) : List String :=
  m.2.pieces.modifyHead ((quoteIdentifier m.1 ++ " = ") ++ ·)

theorem assignmentPieces_ne_nil (m : String × Json) : assignmentPieces m ≠ [] := by
  obtain ⟨s, ss, hs⟩ := List.exists_cons_of_ne_nil m.2.pieces_ne_nil
  rw [assignmentPieces, hs]
  exact List.cons_ne_nil _ _

theorem intercalate_assignmentPieces (m : String × Json) :
    ", ".intercalate (assignmentPieces m) = assignment m := by
  obtain ⟨s, ss, hs⟩ := List.exists_cons_of_ne_nil m.2.pieces_ne_nil
  rw [assignment, ← m.2.intercalate_pieces, assignmentPieces, hs, List.modifyHead_cons,
    String.intercalate_cons_append]

theorem solid_of_mem_assignmentPieces {m : String × Json} {s : String}
    (h : s ∈ assignmentPieces m) : Solid s.toList := by
  have hequals : Solid " = ".toList := Unmarked.solid (by decide)
  obtain ⟨t, ts, ht⟩ := List.exists_cons_of_ne_nil m.2.pieces_ne_nil
  have hpieces {u : String} (hu : u ∈ t :: ts) : Solid u.toList :=
    Json.solid_of_mem_pieces (ht ▸ hu)
  rw [assignmentPieces, ht, List.modifyHead_cons] at h
  rcases List.mem_cons.mp h with rfl | hs
  · rw [String.toList_append, String.toList_append]
    exact ((solid_quoteIdentifier m.1).append hequals).append (hpieces List.mem_cons_self)
  · exact hpieces (List.mem_cons_of_mem _ hs)

private theorem intercalate_flatMap {α : Type} {separator : String} {f : α → List String}
    (hf : ∀ a, f a ≠ []) (as : List α) :
    separator.intercalate (as.flatMap f)
      = separator.intercalate (as.map fun a ↦ separator.intercalate (f a)) := by
  induction as with
  | nil => rfl
  | cons a as ih =>
    cases as with
    | nil => simp
    | cons b bs =>
      have hrest : (b :: bs).flatMap f ≠ [] := by
        rw [List.flatMap_cons]
        exact List.append_ne_nil_of_left_ne_nil (hf b) _
      rw [List.flatMap_cons, String.intercalate_append_of_ne_nil (hf a) hrest, ih]
      exact String.intercalate_cons_cons.symm

/-- If no element is dropped and there are as many results as elements, each element has one. -/
private theorem length_eq_one_of_length_flatMap {α β : Type} {f : α → List β} (hf : ∀ a, f a ≠ [])
    {as : List α} (h : (as.flatMap f).length = as.length) : ∀ a ∈ as, (f a).length = 1 := by
  have hle (bs : List α) : bs.length ≤ (bs.flatMap f).length := by
    induction bs with
    | nil => exact Nat.le_refl 0
    | cons b bs ih =>
      have hb := List.length_pos_of_ne_nil (hf b)
      rw [List.flatMap_cons, List.length_append, List.length_cons]
      omega
  induction as with
  | nil => exact fun a ha ↦ nomatch ha
  | cons a as ih =>
    have ha := List.length_pos_of_ne_nil (hf a)
    have hrest := hle as
    rw [List.flatMap_cons, List.length_append, List.length_cons] at h
    refine List.forall_mem_cons.mpr ⟨by omega, ih (by omega)⟩

/-- A record is cut into the pieces of its assignments. -/
theorem listItems_record {ms : Members} (h : ms ≠ []) :
    listItems .outside 0 (literal (.object ms)).toList
      = (ms.flatMap assignmentPieces).map String.toList := by
  obtain ⟨m, ms, rfl⟩ := List.exists_cons_of_ne_nil h
  have hliteral : literal (.object (m :: ms))
      = ", ".intercalate ((m :: ms).flatMap assignmentPieces) := by
    rw [literal, intercalate_flatMap assignmentPieces_ne_nil]
    exact congrArg _ (List.map_congr_left fun m _ ↦ (intercalate_assignmentPieces m).symm)
  rw [hliteral, listItems_intercalate]
  · rw [List.flatMap_cons]
    exact List.append_ne_nil_of_left_ne_nil (assignmentPieces_ne_nil m) _
  · intro s hs
    obtain ⟨m', -, hm'⟩ := List.mem_flatMap.mp hs
    exact solid_of_mem_assignmentPieces hm'

/-- **Which records are lists of assignments.** A reader of the literal of a record that is not
empty finds the pieces of its members, in order. It finds one item for each key, made of the quoted
key, an equality sign and a literal that shows something, if and only if no value is an array, apart
from those with exactly one item. -/
theorem record_read_as_assignments_iff (m : String × Json) (ms : Members) :
    let record := m :: ms
    let items := listItems .outside 0 (literal (.object record)).toList
    items = (record.flatMap assignmentPieces).map String.toList ∧
      ((items = record.map (fun m ↦ (quoteIdentifier m.1 ++ " = " ++ nestedLiteral m.2).toList) ∧
          ∀ m ∈ record, nestedLiteral m.2 ≠ "") ↔
        ∀ m ∈ record, ∀ vs, m.2 = .array vs → vs.length = 1) := by
  intro record items
  have hitems : items = (record.flatMap assignmentPieces).map String.toList :=
    listItems_record (List.cons_ne_nil m ms)
  refine ⟨hitems, fun ⟨hassignments, hshown⟩ m hm ↦ ?_, fun hsingle ↦ ⟨?_, fun m hm ↦ ?_⟩⟩
  · have hlength : (record.flatMap assignmentPieces).length = record.length := by
      rw [← List.length_map String.toList, ← hitems, hassignments, List.length_map]
    have hone := length_eq_one_of_length_flatMap assignmentPieces_ne_nil hlength m hm
    rw [assignmentPieces, List.length_modifyHead] at hone
    exact m.2.isSingle_iff.mpr ⟨hone, hshown m hm⟩
  · have hpieces : record.flatMap assignmentPieces = record.map assignment := by
      rw [List.map_eq_flatMap]
      refine List.flatMap_congr fun m hm ↦ ?_
      rw [assignmentPieces, Json.IsSingle.pieces_eq (hsingle m hm)]
      rfl
    rw [hitems, hpieces, List.map_map]
    rfl
  · exact (m.2.isSingle_iff.mp (hsingle m hm)).2

/-- The items of an array look like assignments, and without items nothing is assigned. -/
theorem split_by_arrays :
    let two : Members := [("a", .array [.ofInt64 1, .ofInt64 2]), ("b", .ofInt64 3)]
    let none : Members := [("a", .array [])]
    literal (.object two) = "`a` = 1, 2, `b` = 3" ∧
      listItems .outside 0 (literal (.object two)).toList
        = ["`a` = 1".toList, ['2'], "`b` = 3".toList] ∧
      listItems .outside 0 (literal (.object none)).toList = ["`a` = ".toList] := by
  intro two none
  decide +kernel

end BoundSql
