import BoundSql.Bindings
import BoundSql.Decimal.Text
import Mathlib.Data.List.Nodup

/-!
# Names are given once

The number in a placeholder name is a count of earlier names, and the count is not the number of
earlier values of the same column: with `a` and `a_` both in use it jumps. That a name is free when
it is given therefore needs an argument about the whole history of the bindings.

## The invariant

Write `#field` for how many names begin with the stem of `field`. In bindings that were made by
binding values one after the other,

  a name `__field__n` that is there has `n < #field`,

because the name was number `#field` when it was given and counts itself from then on. The next
name for `field` is `__field__#field`, so it cannot be there. What makes this work for every field,
be it empty or `a__0`, is that a name can be read back: a number has no underscore, so the last
underscore ends the part that belongs to the field.

## Reading the trace

`given` lists the names that a sequence of values gets. Once names are known to be free, binding
only appends, and `entries_bindAll` says what: the names paired with the values, in order.
-/

namespace BoundSql

/-! ## Names and numbers -/

/-- The name with number `n` for values of `field`. -/
def numberedName (field : String) (n : Nat) : String := Bindings.stem field ++ "__" ++ Nat.repr n

private theorem underscore_notMem_toDigits (n : Nat) : '_' ∉ Nat.toDigits 10 n := by
  intro h
  have hdigit : Char.isDigit '_' = true := Nat.isDigit_of_mem_toDigits (by decide) (by decide) h
  exact absurd hdigit (by decide)

/-- Two lists cut at their last `c` agree in both halves. -/
private theorem append_cons_inj {α : Type} {c : α} {xs ys ds es : List α} (hd : c ∉ ds)
    (he : c ∉ es) (h : xs ++ c :: ds = ys ++ c :: es) : xs = ys ∧ ds = es := by
  rcases List.append_eq_append_iff.mp h with ⟨zs, hys, htail⟩ | ⟨zs, hxs, htail⟩
  · cases zs with
    | nil => exact ⟨by simpa using hys.symm, by simpa using htail⟩
    | cons z zs =>
      -- the other list was cut later, so its `c` stands among the `ds`
      rw [List.cons_append, List.cons.injEq] at htail
      exact absurd (htail.2 ▸ List.mem_append_right _ List.mem_cons_self) hd
  · cases zs with
    | nil => exact ⟨by simpa using hxs, by simpa using htail.symm⟩
    | cons z zs =>
      rw [List.cons_append, List.cons.injEq] at htail
      exact absurd (htail.2 ▸ List.mem_append_right _ List.mem_cons_self) he

theorem toList_numberedName (field : String) (n : Nat) :
    (numberedName field n).toList
      = ('_' :: '_' :: field.toList ++ ['_']) ++ '_' :: Nat.toDigits 10 n := by
  simp [numberedName, Bindings.stem, Nat.toList_repr]

/-- The number of a name ends at its last underscore, so the field and the number can be read
back. -/
theorem numberedName_inj {f g : String} {m n : Nat} (h : numberedName f m = numberedName g n) :
    f = g ∧ m = n := by
  have hlist := congrArg String.toList h
  rw [toList_numberedName, toList_numberedName] at hlist
  obtain ⟨hstem, hdigits⟩ :=
    append_cons_inj (underscore_notMem_toDigits m) (underscore_notMem_toDigits n) hlist
  have hfield : f.toList = g.toList := by simpa using hstem
  have hvalue : m = n := by
    rw [← Nat.ofDigitChars_ten_toDigits (n := m), hdigits, Nat.ofDigitChars_ten_toDigits]
  exact ⟨String.toList_inj.mp hfield, hvalue⟩

theorem stem_isPrefixOf_numberedName (field : String) (n : Nat) :
    (Bindings.stem field).toList.isPrefixOf (numberedName field n).toList = true := by
  rw [List.isPrefixOf_iff_prefix, numberedName, String.append_assoc, String.toList_append]
  exact List.prefix_append _ _

/-! ## Members by key -/

namespace Members

theorem get?_eq_none_iff {ms : Members} {key : String} : get? ms key = none ↔ key ∉ keys ms := by
  rw [get?, List.lookup_eq_none_iff, keys, List.mem_map]
  constructor
  · rintro h ⟨m, hm, rfl⟩
    exact absurd (h m hm) (by simp)
  · intro h m hm
    rw [bne_iff_ne]
    rintro rfl
    exact h ⟨m, hm, rfl⟩

/-- With distinct keys every member is found under its key. -/
theorem get?_of_mem {ms : Members} (hnodup : (keys ms).Nodup) {key : String} {value : Json}
    (h : (key, value) ∈ ms) : get? ms key = some value := by
  induction ms with
  | nil => cases h
  | cons m ms ih =>
    rw [keys, List.map_cons, List.nodup_cons] at hnodup
    rw [get?_cons]
    rcases List.mem_cons.mp h with rfl | htail
    · rw [if_pos rfl]
    · have hne : key ≠ m.1 := by
        rintro rfl
        exact hnodup.1 (List.mem_map.mpr ⟨_, htail, rfl⟩)
      rw [if_neg hne]
      exact ih hnodup.2 htail

end Members

namespace Bindings

/-- The names in the order in which they were given. -/
def names (b : Bindings) : List String := Members.keys b.entries

/-- The names that values get when they are bound one after the other. -/
def given (b : Bindings) : List (String × Json) → List String
  | [] => []
  | e :: es => (b.bind e.1 e.2).1 :: given (b.bind e.1 e.2).2 es

@[simp] theorem length_given (b : Bindings) (calls : List (String × Json)) :
    (b.given calls).length = calls.length := by
  induction calls generalizing b with
  | nil => rfl
  | cons e es ih => rw [given, List.length_cons, ih, List.length_cons]

theorem bindAll_append (b : Bindings) (calls more : List (String × Json)) :
    b.bindAll (calls ++ more) = (b.bindAll calls).bindAll more := List.foldl_append

theorem nextName_eq (b : Bindings) (field : String) :
    b.nextName field = numberedName field (b.used field) := rfl

/-! ## The invariant -/

/-- What holds of bindings that were made by binding values one after the other. -/
structure Sound (b : Bindings) : Prop where
  /-- No name is there twice. -/
  nodup : b.names.Nodup
  /-- The number of a name is below the count for its field. -/
  lt_used : ∀ {field : String} {n : Nat}, numberedName field n ∈ b.names → n < b.used field

theorem sound_empty : Sound empty := ⟨List.nodup_nil, fun h ↦ absurd h List.not_mem_nil⟩

variable {b : Bindings}

/-- The next name is free. -/
theorem Sound.nextName_notMem (h : b.Sound) (field : String) : b.nextName field ∉ b.names :=
  fun hmem ↦ absurd (h.lt_used hmem) (Nat.lt_irrefl _)

/-- Binding appends. -/
theorem Sound.entries_bind (h : b.Sound) (field : String) (value : Json) :
    (b.bind field value).2.entries = b.entries ++ [(b.nextName field, value)] :=
  Members.insert_of_get?_eq_none (Members.get?_eq_none_iff.mpr (h.nextName_notMem field)) value

theorem Sound.names_bind (h : b.Sound) (field : String) (value : Json) :
    (b.bind field value).2.names = b.names ++ [b.nextName field] := by
  rw [names, h.entries_bind, Members.keys, List.map_append]
  rfl

private theorem Sound.used_bind (h : b.Sound) (field g : String) (value : Json) :
    (b.bind field value).2.used g
      = b.used g + if (stem g).toList.isPrefixOf (b.nextName field).toList then 1 else 0 := by
  rw [used, h.entries_bind, List.countP_append, List.countP_singleton, ← used]

/-- A name counts itself from the moment it is given. -/
theorem Sound.used_bind_self (h : b.Sound) (field : String) (value : Json) :
    (b.bind field value).2.used field = b.used field + 1 := by
  rw [h.used_bind, nextName_eq, stem_isPrefixOf_numberedName, if_pos rfl]

/-- One step: the invariant is kept by binding a value. -/
theorem Sound.bind (h : b.Sound) (field : String) (value : Json) :
    (b.bind field value).2.Sound := by
  refine ⟨?_, ?_⟩
  · rw [h.names_bind, List.nodup_append]
    refine ⟨h.nodup, List.nodup_singleton _, ?_⟩
    intro x hx y hy
    rw [List.mem_singleton.mp hy]
    rintro rfl
    exact h.nextName_notMem field hx
  · intro g n hmem
    rw [h.names_bind, List.mem_append, List.mem_singleton] at hmem
    rcases hmem with hold | hnew
    · rw [h.used_bind]
      exact Nat.lt_add_right _ (h.lt_used hold)
    · -- the new name is one of `g` only if `g` is the field, and then it counts itself
      obtain ⟨rfl, rfl⟩ := numberedName_inj hnew
      rw [h.used_bind_self]
      exact Nat.lt_succ_self _

/-- A run: the invariant is kept by binding any number of values. -/
theorem Sound.bindAll (h : b.Sound) (calls : List (String × Json)) : (b.bindAll calls).Sound := by
  induction calls generalizing b with
  | nil => exact h
  | cons e es ih => exact ih (h.bind e.1 e.2)

theorem sound_bindAll_empty (calls : List (String × Json)) : (empty.bindAll calls).Sound :=
  sound_empty.bindAll calls

/-- A run appends the given names with their values, in order. -/
theorem Sound.entries_bindAll (h : b.Sound) (calls : List (String × Json)) :
    (b.bindAll calls).entries = b.entries ++ (b.given calls).zip (calls.map Prod.snd) := by
  induction calls generalizing b with
  | nil => exact (List.append_nil _).symm
  | cons e es ih =>
    -- the later entries are appended to what the first step appended
    have hstep : b.bindAll (e :: es) = (b.bind e.1 e.2).2.bindAll es := rfl
    rw [hstep, ih (h.bind e.1 e.2), h.entries_bind, List.append_assoc]
    rfl

theorem Sound.names_bindAll (h : b.Sound) (calls : List (String × Json)) :
    (b.bindAll calls).names = b.names ++ b.given calls := by
  rw [names, h.entries_bindAll, Members.keys, List.map_append, List.map_fst_zip (by simp)]
  rfl

/-- The given names are new and distinct. -/
theorem Sound.nodup_names_append_given (h : b.Sound) (calls : List (String × Json)) :
    (b.names ++ b.given calls).Nodup := by
  rw [← h.names_bindAll]
  exact (h.bindAll calls).nodup

theorem Sound.entries_prefix_bindAll (h : b.Sound) (calls : List (String × Json)) :
    b.entries <+: (b.bindAll calls).entries := by
  rw [h.entries_bindAll]
  exact List.prefix_append _ _

theorem Sound.size_bindAll (h : b.Sound) (calls : List (String × Json)) :
    (b.bindAll calls).size = b.size + calls.length := by
  rw [size, h.entries_bindAll, List.length_append, List.length_zip, length_given, List.length_map,
    Nat.min_self, size]

/-- A value that is there is found under its name, now and after any further values. -/
theorem Sound.get?_bindAll_of_mem (h : b.Sound) {name : String} {value : Json}
    (hmem : (name, value) ∈ b.entries) (more : List (String × Json)) :
    (b.bindAll more).get? name = some value :=
  Members.get?_of_mem (h.bindAll more).nodup ((h.entries_prefix_bindAll more).subset hmem)

/-! ## Every value is kept -/

/-- **No binding overwrites another.** Pick any call out of a sequence that starts with nothing
bound: its name is not there yet, it adds one entry at the end and leaves the others alone, and
after all later calls the entry still has its place and its name still finds the value. -/
theorem bindAll_keeps_every_value (before : List (String × Json)) (field : String) (value : Json)
    (after : List (String × Json)) :
    let b := empty.bindAll before
    let name := (b.bind field value).1
    let final := empty.bindAll (before ++ (field, value) :: after)
    name ∉ b.names ∧
      b.size = before.length ∧
      (b.bind field value).2.entries = b.entries ++ [(name, value)] ∧
      (b.bind field value).2.entries <+: final.entries ∧
      final.size = before.length + 1 + after.length ∧
      final.entries[before.length]? = some (name, value) ∧
      final.get? name = some value := by
  intro b name final
  have hb : b.Sound := sound_bindAll_empty before
  have hstep : (b.bind field value).2.Sound := hb.bind field value
  have hfinal : final = (b.bind field value).2.bindAll after := bindAll_append _ _ _
  have hsize : b.size = before.length := by
    rw [sound_empty.size_bindAll]
    exact Nat.zero_add _
  have hentries : (b.bind field value).2.entries = b.entries ++ [(name, value)] :=
    hb.entries_bind field value
  have hprefix : (b.bind field value).2.entries <+: final.entries := by
    rw [hfinal]
    exact hstep.entries_prefix_bindAll after
  refine ⟨hb.nextName_notMem field, hsize, hentries, hprefix, ?_, ?_, ?_⟩
  · rw [sound_empty.size_bindAll, List.length_append, List.length_cons]
    have hzero : empty.size = 0 := rfl
    omega
  · obtain ⟨tail, htail⟩ := hprefix
    rw [← htail, hentries, ← hsize, size, List.append_assoc]
    simp
  · rw [hfinal]
    exact hstep.get?_bindAll_of_mem (hentries ▸ List.mem_append_right _ List.mem_cons_self) after

end Bindings

end BoundSql
