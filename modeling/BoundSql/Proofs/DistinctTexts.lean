import BoundSql.Json.Parse
import BoundSql.Proofs.AssignmentLists
import BoundSql.Proofs.DistinctNumerals

/-!
# Values have texts of their own

The compact text of a value says where it ends: a string ends at its mark, an array and an object at
their brackets, a word has a fixed length, and a numeral ends before the first character that cannot
stand in numerals. So what follows a value in a text can be told from it, and of two texts that
begin with a value and are equal, the values are equal and so is what follows them
(`Json.cuts_chars`). In particular the text of a value determines it.
-/

namespace BoundSql

namespace Json

/-! ## Strings -/

theorem hexDigit?_digitChar : ∀ n < 16, hexDigit? n.digitChar = some n := by decide

theorem readHex4?_hex4 {n : Nat} (h : n < 0x10000) (cs : List Char) :
    readHex4? (hex4 n ++ cs) = some (n, cs) := by
  have hdigit (m : Nat) : hexDigit? (m % 16).digitChar = some (m % 16) :=
    hexDigit?_digitChar _ (Nat.mod_lt m (by decide))
  have hvalue : ((n / 4096 % 16 * 16 + n / 256 % 16) * 16 + n / 16 % 16) * 16 + n % 16 = n := by
    omega
  simp only [hex4, List.map_cons, List.map_nil, List.cons_append, List.nil_append, readHex4?,
    hdigit, Option.bind_eq_bind, Option.bind_some, Option.pure_def, hvalue]

/-- A character is read back from how it is written. -/
theorem readString?_escapeChar (fuel : Nat) (read : List Char) (c : Char) (cs : List Char) :
    readString? (fuel + 1) read (escapeChar c ++ cs) = readString? fuel (c :: read) cs := by
  rw [escapeChar]
  -- the seven characters that are escaped by a letter or by themselves
  iterate 7
    split
    · next h =>
      subst h
      rfl
  split
  · next hcontrol =>
    have hread : readEscape? ('u' :: (hex4 c.toNat ++ cs)) = some (c, cs) := by
      have hsurrogate : ¬(0xD800 ≤ c.toNat ∧ c.toNat < 0xDC00) := by omega
      have hsurrogate' : ¬(0xDC00 ≤ c.toNat ∧ c.toNat < 0xE000) := by omega
      simp only [readEscape?, readHex4?_hex4 (show c.toNat < 0x10000 by omega),
        Option.bind_eq_bind, Option.bind_some, if_neg hsurrogate, if_neg hsurrogate',
        Option.pure_def, Char.ofNat_toNat]
    rw [List.cons_append, List.cons_append, readString?, if_neg (by decide), if_pos rfl, hread]
  · next hmark hslash _ _ _ _ _ hcontrol =>
    rw [List.cons_append, List.nil_append, readString?, if_neg hmark, if_neg hslash,
      if_neg hcontrol]

/-- A string is read back up to its mark. -/
theorem readString?_flatMap {fuel : Nat} {s : List Char} (hfuel : s.length < fuel)
    (read rest : List Char) :
    readString? fuel read (s.flatMap escapeChar ++ '\x22' :: rest)
      = some (String.ofList (read.reverse ++ s), rest) := by
  obtain ⟨fuel, rfl⟩ := Nat.exists_eq_add_one_of_ne_zero (Nat.ne_zero_of_lt hfuel)
  induction s generalizing fuel read with
  | nil => rw [List.flatMap_nil, List.nil_append, readString?, if_pos rfl, List.append_nil]
  | cons c s ih =>
    rw [List.length_cons, Nat.add_lt_add_iff_right] at hfuel
    obtain ⟨fuel, rfl⟩ := Nat.exists_eq_add_one_of_ne_zero (Nat.ne_zero_of_lt hfuel)
    rw [List.flatMap_cons, List.append_assoc, readString?_escapeChar, ih _ _ hfuel,
      List.reverse_cons, List.append_assoc, List.singleton_append]

theorem toList_stringText (s : String) :
    (stringText s).toList = '\x22' :: (s.toList.flatMap escapeChar ++ ['\x22']) := by
  simp [stringText]

/-- A string ends where its mark says. -/
theorem stringText_cut {s t : String} {rest rest' : List Char}
    (h : (stringText s).toList ++ rest = (stringText t).toList ++ rest') :
    s = t ∧ rest = rest' := by
  rw [toList_stringText, toList_stringText, List.cons_append, List.cons_append,
    List.append_assoc, List.append_assoc, List.singleton_append, List.singleton_append] at h
  have hs : s.toList.length < s.toList.length + t.toList.length + 1 := by omega
  have ht : t.toList.length < s.toList.length + t.toList.length + 1 := by omega
  have hread := readString?_flatMap hs [] rest
  rw [(List.cons.inj h).2, readString?_flatMap ht] at hread
  simp only [List.reverse_nil, List.nil_append, String.ofList_toList, Option.some.injEq,
    Prod.mk.injEq] at hread
  exact ⟨hread.1.symm, hread.2.symm⟩

/-! ## Cuts -/

/-- What may follow a value: it does not begin with a character that can stand in a numeral. -/
def EndsValue (rest : List Char) : Prop := ∀ c ∈ rest.head?, isNumeralChar c = false

/-- Of a text that begins with `text x` it can be told that it does and what follows. -/
def Cuts {α : Type} (text : α → List Char) (x : α) : Prop :=
  ∀ (y : α) (rest rest' : List Char), EndsValue rest → EndsValue rest' →
    text x ++ rest = text y ++ rest' → x = y ∧ rest = rest'

/-- A numeral ends before the first character that cannot stand in one. -/
theorem cuts_number (n : Number) : Cuts (fun n : Number ↦ n.text.toList) n := by
  intro m rest rest' hrest hrest' h
  have hn := List.all_eq_true.mpr n.numeralChars_text
  have hm := List.all_eq_true.mpr m.numeralChars_text
  have htake := congrArg (List.takeWhile isNumeralChar) h
  have hdrop := congrArg (List.dropWhile isNumeralChar) h
  rw [Text.takeWhile_append_of_head? hn hrest, Text.takeWhile_append_of_head? hm hrest'] at htake
  rw [Text.dropWhile_append_of_head? hn hrest, Text.dropWhile_append_of_head? hm hrest'] at hdrop
  exact ⟨Number.text_injective (String.toList_inj.mp htake), hdrop⟩

/-! ### Lists -/

section

variable {α : Type} {text : α → List Char} {close : Char}

theorem intercalate_cons (cs : List Char) (css : List (List Char)) :
    [','].intercalate (cs :: css) = cs ++ css.flatMap (',' :: ·) := by
  induction css generalizing cs with
  | nil => simp
  | cons ds css ih =>
    rw [List.intercalate_cons_cons, ih, List.flatMap_cons, List.append_assoc,
      List.singleton_append, List.cons_append]

/-- Behind an item of a list stands a comma or what closes the list. -/
theorem endsValue_tail (hclose : isNumeralChar close = false) (css : List (List Char))
    (rest : List Char) : EndsValue (css.flatMap (',' :: ·) ++ close :: rest) := by
  cases css with
  | nil => simpa [EndsValue] using hclose
  | cons cs css =>
    simp only [EndsValue, List.flatMap_cons, List.cons_append, List.head?_cons, Option.mem_def,
      Option.some.injEq]
    rintro _ rfl
    rfl

theorem tail_cut (hcomma : close ≠ ',') (hclose : isNumeralChar close = false) {xs ys : List α}
    (hxs : ∀ x ∈ xs, Cuts text x) {rest rest' : List Char}
    (h : (xs.map text).flatMap (',' :: ·) ++ close :: rest
      = (ys.map text).flatMap (',' :: ·) ++ close :: rest') : xs = ys ∧ rest = rest' := by
  induction xs generalizing ys with
  | nil =>
    cases ys with
    | nil => exact ⟨rfl, (List.cons.inj h).2⟩
    | cons y ys => exact absurd (List.cons.inj h).1 hcomma
  | cons x xs ih =>
    rw [List.forall_mem_cons] at hxs
    cases ys with
    | nil => exact absurd (List.cons.inj h).1.symm hcomma
    | cons y ys =>
      simp only [List.map_cons, List.flatMap_cons, List.cons_append, List.cons.injEq, true_and,
        List.append_assoc] at h
      obtain ⟨rfl, htail⟩ :=
        hxs.1 y _ _ (endsValue_tail hclose _ _) (endsValue_tail hclose _ _) h
      obtain ⟨rfl, hrest⟩ := ih hxs.2 htail
      exact ⟨rfl, hrest⟩

/-- A list with commas between the items can be told from its text, up to the character that closes
it, if no item begins with that. -/
theorem list_cut (hcomma : close ≠ ',') (hclose : isNumeralChar close = false)
    (hstart : ∀ (x : α) (rest : List Char), (text x ++ rest).head? ≠ some close) {xs ys : List α}
    (hxs : ∀ x ∈ xs, Cuts text x) {rest rest' : List Char}
    (h : [','].intercalate (xs.map text) ++ close :: rest
      = [','].intercalate (ys.map text) ++ close :: rest') : xs = ys ∧ rest = rest' := by
  cases xs with
  | nil =>
    cases ys with
    | nil => exact ⟨rfl, (List.cons.inj h).2⟩
    | cons y ys =>
      rw [List.map_cons, intercalate_cons, List.append_assoc] at h
      exact absurd (congrArg List.head? h).symm (hstart y _)
  | cons x xs =>
    rw [List.forall_mem_cons] at hxs
    cases ys with
    | nil =>
      rw [List.map_cons, intercalate_cons, List.append_assoc] at h
      exact absurd (congrArg List.head? h) (hstart x _)
    | cons y ys =>
      rw [List.map_cons, List.map_cons, intercalate_cons, intercalate_cons, List.append_assoc,
        List.append_assoc] at h
      obtain ⟨rfl, htail⟩ :=
        hxs.1 y _ _ (endsValue_tail hclose _ _) (endsValue_tail hclose _ _) h
      obtain ⟨rfl, hrest⟩ := tail_cut hcomma hclose hxs.2 htail
      exact ⟨rfl, hrest⟩

end

/-! ### Values -/

/-- The compact text of a value, as characters. -/
def chars (v : Json) : List Char := (compact v).toList

/-- The text of a member, as characters. -/
def memberChars (m : String × Json) : List Char := (stringText m.1).toList ++ ':' :: chars m.2

theorem chars_array (items : List Json) :
    chars (.array items) = '[' :: ([','].intercalate (items.map chars) ++ [']']) := by
  have hitems (vs : List Json) : (compactItems vs).map String.toList = vs.map chars := by
    induction vs with
    | nil => rfl
    | cons v vs ih => rw [compactItems, List.map_cons, ih, List.map_cons, chars]
  simp [chars, compact, String.toList_intercalate, hitems]

theorem chars_object (members : Members) :
    chars (.object members)
      = '\x7b' :: ([','].intercalate (members.map memberChars) ++ ['\x7d']) := by
  have hmembers (ms : Members) : (compactMembers ms).map String.toList = ms.map memberChars := by
    induction ms with
    | nil => rfl
    | cons m ms ih =>
      rw [compactMembers, List.map_cons, ih, List.map_cons, memberChars]
      simp [chars]
  simp [chars, compact, String.toList_intercalate, hmembers]

/-- The first character of values of a kind. Numerals are counted as beginning with a zero, and the
two words of a truth value as beginning like the first. -/
def kind : Json → Char
  | .null => 'n'
  | .bool _ => 't'
  | .number _ => '0'
  | .text _ => '\x22'
  | .array _ => '['
  | .object _ => '\x7b'

/-- The kind of the values that begin with a character. -/
def kindOf (c : Char) : Char := if isNumeralChar c then '0' else if c = 'f' then 't' else c

theorem exists_chars_eq_cons (v : Json) : ∃ c cs, chars v = c :: cs ∧ kindOf c = v.kind := by
  cases v with
  | null => exact ⟨'n', _, rfl, rfl⟩
  | bool b => cases b with
    | false => exact ⟨'f', _, rfl, rfl⟩
    | true => exact ⟨'t', _, rfl, rfl⟩
  | number n =>
    obtain ⟨c, cs, hcs⟩ := List.exists_cons_of_ne_nil n.toList_text_ne_nil
    have hnumeral : isNumeralChar c = true := n.numeralChars_text c (by simp [hcs])
    exact ⟨c, cs, hcs, if_pos hnumeral⟩
  | text s => exact ⟨'\x22', _, toList_stringText s, rfl⟩
  | array items => exact ⟨'[', _, chars_array items, rfl⟩
  | object members => exact ⟨'\x7b', _, chars_object members, rfl⟩

/-- No value begins with the bracket that closes an array. -/
theorem head?_chars_ne (v : Json) (rest : List Char) : (chars v ++ rest).head? ≠ some ']' := by
  obtain ⟨c, cs, hcs, hc⟩ := v.exists_chars_eq_cons
  rw [hcs, List.cons_append, List.head?_cons, Ne, Option.some.injEq]
  rintro rfl
  cases v <;> exact absurd hc (by simp [kind, kindOf, isNumeralChar])

theorem kind_eq_of_chars {v w : Json} {rest rest' : List Char}
    (h : chars v ++ rest = chars w ++ rest') : v.kind = w.kind := by
  obtain ⟨c, cs, hcs, hc⟩ := v.exists_chars_eq_cons
  obtain ⟨d, ds, hds, hd⟩ := w.exists_chars_eq_cons
  rw [hcs, hds] at h
  rw [← hc, ← hd, (List.cons.inj h).1]

theorem head?_memberChars_ne (m : String × Json) (rest : List Char) :
    (memberChars m ++ rest).head? ≠ some '\x7d' := by
  rw [memberChars, toList_stringText]
  simp

theorem cuts_member {m : String × Json} (h : Cuts chars m.2) : Cuts memberChars m := by
  intro k rest rest' hrest hrest' heq
  rw [memberChars, memberChars, List.append_assoc, List.append_assoc] at heq
  obtain ⟨hkey, hvalue⟩ := stringText_cut heq
  obtain ⟨hvalue, hrest⟩ := h _ _ _ hrest hrest' (List.cons.inj hvalue).2
  exact ⟨Prod.ext hkey hvalue, hrest⟩

/-- Where a value ends can be told from its text. -/
theorem cuts_chars (v : Json) : Cuts chars v := by
  induction v with
  | null =>
    intro w rest rest' hrest hrest' h
    have hkind := kind_eq_of_chars h
    cases w with
    | null => exact ⟨rfl, List.append_cancel_left h⟩
    | _ => cases hkind
  | bool b =>
    intro w rest rest' hrest hrest' h
    have hkind := kind_eq_of_chars h
    cases w with
    | bool b' =>
      cases b <;> cases b'
      · exact ⟨rfl, List.append_cancel_left h⟩
      · cases (List.cons.inj h).1
      · cases (List.cons.inj h).1
      · exact ⟨rfl, List.append_cancel_left h⟩
    | _ => cases hkind
  | number n =>
    intro w rest rest' hrest hrest' h
    have hkind := kind_eq_of_chars h
    cases w with
    | number m =>
      obtain ⟨rfl, hrest⟩ := cuts_number n m rest rest' hrest hrest' h
      exact ⟨rfl, hrest⟩
    | _ => cases hkind
  | text s =>
    intro w rest rest' hrest hrest' h
    have hkind := kind_eq_of_chars h
    cases w with
    | text t =>
      obtain ⟨rfl, hrest⟩ := stringText_cut h
      exact ⟨rfl, hrest⟩
    | _ => cases hkind
  | array items ih =>
    intro w rest rest' hrest hrest' h
    have hkind := kind_eq_of_chars h
    cases w with
    | array items' =>
      rw [chars_array, chars_array, List.cons_append, List.cons_append, List.append_assoc,
        List.append_assoc] at h
      obtain ⟨rfl, hrest⟩ := list_cut (by decide) rfl head?_chars_ne ih (List.cons.inj h).2
      exact ⟨rfl, hrest⟩
    | _ => cases hkind
  | object members ih =>
    intro w rest rest' hrest hrest' h
    have hkind := kind_eq_of_chars h
    cases w with
    | object members' =>
      rw [chars_object, chars_object, List.cons_append, List.cons_append, List.append_assoc,
        List.append_assoc] at h
      obtain ⟨rfl, hrest⟩ := list_cut (by decide) rfl head?_memberChars_ne
        (fun m hm ↦ cuts_member (ih m hm)) (List.cons.inj h).2
      exact ⟨rfl, hrest⟩
    | _ => cases hkind

/-- The compact text of a value determines it. -/
theorem compact_injective : Function.Injective compact := by
  intro v w h
  have hnil : EndsValue [] := fun c hc ↦ nomatch hc
  exact (cuts_chars v w [] [] hnil hnil (congrArg (String.toList · ++ []) h)).1

end Json

end BoundSql
