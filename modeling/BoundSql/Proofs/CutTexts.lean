import BoundSql.Settings
import Mathlib.Data.List.Infix

/-!
# Texts are cut between characters

A limit on the length of a text counts bytes, so the byte at the limit may lie within a character.
`Text.cutBytes` takes characters from the left while they fit. There are two other ways to describe
the same cut.

* By what it is: no initial part of the text that keeps to the limit is longer (`IsCut`). There is
  only one such part (`isCut_iff`).
* By the place where it ends: from the byte at the limit one goes back until a character begins
  (`boundaryUpTo`). Such a place is a `String.Pos`, so it is known to lie between two characters,
  and nothing but whole characters stands in front of it.

The way back is short. If something was cut off, the next character did not fit; it has at most four
bytes, so at most three of those within the limit are lost (`min_le_size_cutBytes`).
-/

namespace BoundSql

namespace Text

/-! ## Bytes of characters -/

/-- The number of bytes of a text. -/
def size (cs : List Char) : Nat := (String.ofList cs).utf8ByteSize

@[simp] theorem size_nil : size [] = 0 := rfl

@[simp] theorem size_cons (c : Char) (cs : List Char) : size (c :: cs) = c.utf8Size + size cs := by
  rw [size, String.ofList_cons, String.utf8ByteSize_append, String.utf8ByteSize_singleton, size]

theorem size_append (cs ds : List Char) : size (cs ++ ds) = size cs + size ds := by
  rw [size, String.ofList_append, String.utf8ByteSize_append, size, size]

theorem size_toList (s : String) : size s.toList = s.utf8ByteSize := by
  rw [size, String.ofList_toList]

/-- Only the empty text has no bytes. -/
theorem eq_nil_of_size_eq_zero {cs : List Char} (h : size cs = 0) : cs = [] := by
  cases cs with
  | nil => rfl
  | cons c cs =>
    have hpos := c.utf8Size_pos
    rw [size_cons] at h
    omega

/-- Initial parts of the same length are the same. -/
theorem eq_of_isPrefix_of_size {cs ds es : List Char} (hds : ds <+: cs) (hes : es <+: cs)
    (h : size ds = size es) : ds = es := by
  rcases List.prefix_or_prefix_of_prefix hds hes with ⟨rest, rfl⟩ | ⟨rest, rfl⟩ <;>
    rw [size_append] at h
  · have hrest : rest = [] := eq_nil_of_size_eq_zero (by omega)
    rw [hrest, List.append_nil]
  · have hrest : rest = [] := eq_nil_of_size_eq_zero (by omega)
    rw [hrest, List.append_nil]

/-! ## Characters that fit -/

theorem size_fitting_le (room : Nat) (cs : List Char) : size (fitting room cs) ≤ room := by
  induction cs generalizing room with
  | nil => exact Nat.zero_le room
  | cons c cs ih =>
    rw [fitting]
    split
    · next hfits =>
      have hrest := ih (room - c.utf8Size)
      rw [size_cons]
      omega
    · exact Nat.zero_le room

/-- No initial part that fits is longer. -/
theorem isPrefix_fitting {room : Nat} {cs ds : List Char} (hds : ds <+: cs) (h : size ds ≤ room) :
    ds <+: fitting room cs := by
  induction cs generalizing room ds with
  | nil => rwa [fitting]
  | cons c cs ih =>
    cases ds with
    | nil => exact List.nil_prefix
    | cons d ds =>
      obtain ⟨rfl, hrest⟩ := List.cons_prefix_cons.mp hds
      rw [size_cons] at h
      rw [fitting, if_pos (by omega)]
      exact List.cons_prefix_cons.mpr ⟨rfl, ih hrest (by omega)⟩

/-- If not everything fits, then less room is left than a character may need. -/
theorem fitting_eq_self_or_lt (room : Nat) (cs : List Char) :
    fitting room cs = cs ∨ room < size (fitting room cs) + 4 := by
  induction cs generalizing room with
  | nil => exact .inl rfl
  | cons c cs ih =>
    rw [fitting]
    split
    · next hfits =>
      rcases ih (room - c.utf8Size) with hall | hlost
      · exact .inl (by rw [hall])
      · rw [size_cons]
        exact .inr (by omega)
    · next hlacks =>
      -- the character that ends the cut is the only one that can leave room
      have hfour := c.utf8Size_le_four
      exact .inr (by omega)

/-! ## The longest initial part -/

/-- `t` is the longest initial part of `s` that has at most `max` bytes. -/
structure IsCut (max : Nat) (s t : String) : Prop where
  /-- It is an initial part. -/
  isPrefix : t.toList <+: s.toList
  /-- It keeps to the limit. -/
  fits : t.utf8ByteSize ≤ max
  /-- No other one that does is longer. -/
  longest : ∀ u : String, u.toList <+: s.toList → u.utf8ByteSize ≤ max →
    u.utf8ByteSize ≤ t.utf8ByteSize

variable {max : Nat} {s t : String}

theorem isCut_cutBytes (max : Nat) (s : String) : IsCut max s (cutBytes max s) where
  isPrefix := by
    rw [cutBytes, String.toList_ofList]
    exact fitting_isPrefix max s.toList
  fits := size_fitting_le max s.toList
  longest u hu hfits := by
    rw [← size_toList] at hfits
    obtain ⟨rest, hrest⟩ := isPrefix_fitting hu hfits
    rw [← size_toList, ← size_toList, cutBytes, String.toList_ofList, ← hrest, size_append]
    exact Nat.le_add_right _ _

/-- There is one longest initial part, and it is the cut. -/
theorem isCut_iff : IsCut max s t ↔ t = cutBytes max s := by
  constructor
  · intro h
    have hcut := isCut_cutBytes max s
    refine String.toList_inj.mp (eq_of_isPrefix_of_size h.isPrefix hcut.isPrefix ?_)
    rw [size_toList, size_toList]
    exact Nat.le_antisymm (hcut.longest t h.isPrefix h.fits)
      (h.longest (cutBytes max s) hcut.isPrefix hcut.fits)
  · rintro rfl
    exact isCut_cutBytes max s

/-- At most three bytes within the limit are lost. -/
theorem min_le_size_cutBytes (max : Nat) (s : String) :
    min s.utf8ByteSize max ≤ (cutBytes max s).utf8ByteSize + 3 := by
  have hsize : (cutBytes max s).utf8ByteSize = size (fitting max s.toList) := rfl
  rw [hsize]
  rcases fitting_eq_self_or_lt max s.toList with hall | hlost
  · rw [hall, size_toList]
    omega
  · omega

/-! ## Places between characters -/

/-- The last place between two characters within the first `n` bytes: from the byte at `n` back
until a character begins. -/
def boundaryUpTo (s : String) : Nat → s.Pos
  | 0 => s.startPos
  | n + 1 => if h : String.Pos.Raw.IsValid s ⟨n + 1⟩ then ⟨⟨n + 1⟩, h⟩ else boundaryUpTo s n

theorem offset_boundaryUpTo_le (s : String) (n : Nat) :
    (boundaryUpTo s n).offset.byteIdx ≤ n := by
  induction n with
  | zero => exact Nat.le_refl 0
  | succ n ih =>
    rw [boundaryUpTo]
    split
    · exact Nat.le_refl (n + 1)
    · exact Nat.le_succ_of_le ih

/-- No place between two characters was passed over. -/
theorem le_offset_boundaryUpTo (p : s.Pos) {n : Nat} (h : p.offset.byteIdx ≤ n) :
    p.offset.byteIdx ≤ (boundaryUpTo s n).offset.byteIdx := by
  induction n with
  | zero => exact Nat.le_trans h (Nat.zero_le _)
  | succ n ih =>
    rw [boundaryUpTo]
    split
    · exact h
    · next hwithin =>
      -- the place cannot be the one that was passed over, so it is one of those before
      have hne : p.offset.byteIdx ≠ n + 1 := by
        intro heq
        rw [← heq] at hwithin
        exact hwithin p.isValid
      exact ih (by omega)

/-- An initial part ends at a place between two characters. -/
theorem exists_pos_of_isPrefix (h : t.toList <+: s.toList) :
    ∃ p : s.Pos, p.offset.byteIdx = t.utf8ByteSize := by
  obtain ⟨rest, hrest⟩ := h
  have hs : s = t ++ String.ofList rest := by
    rw [← String.toList_inj, String.toList_append, String.toList_ofList, hrest]
  exact ⟨⟨t.rawEndPos, String.Pos.Raw.isValid_iff_exists_append.mpr ⟨t, _, hs, rfl⟩⟩, rfl⟩

theorem utf8ByteSize_sliceTo (p : s.Pos) :
    (s.sliceTo p).copy.utf8ByteSize = p.offset.byteIdx :=
  (congrArg String.Pos.Raw.byteIdx p.splits.offset_eq_rawEndPos).symm

/-- What stands before the last place within the limit is the cut. -/
theorem sliceTo_boundaryUpTo (max : Nat) (s : String) :
    (s.sliceTo (boundaryUpTo s max)).copy = cutBytes max s := by
  refine isCut_iff.mp ⟨?_, ?_, fun u hu hfits ↦ ?_⟩
  · have hs := congrArg String.toList (boundaryUpTo s max).splits.eq_append
    rw [String.toList_append] at hs
    exact ⟨_, hs.symm⟩
  · rw [utf8ByteSize_sliceTo]
    exact offset_boundaryUpTo_le s max
  · obtain ⟨p, hp⟩ := exists_pos_of_isPrefix hu
    rw [utf8ByteSize_sliceTo, ← hp]
    exact le_offset_boundaryUpTo p (by rwa [hp])

end Text

open Text

/-! ## Texts in the log -/

/-- A text is shown as it is unless it is longer than a limit, and then its cut is shown with dots
behind it. -/
theorem Settings.shownSql_eq_iff (settings : Settings) (s shown : String) :
    settings.shownSql s = shown ↔
      settings.maxSqlLength = none ∧ shown = s ∨
      ∃ limit, settings.maxSqlLength = some limit ∧
        (s.utf8ByteSize ≤ limit ∧ shown = s ∨
          limit < s.utf8ByteSize ∧ ∃ t, IsCut limit s t ∧ shown = t ++ "...") := by
  rw [shownSql]
  rcases settings.maxSqlLength with _ | max
  · simp [eq_comm]
  · by_cases hlong : max < s.utf8ByteSize
    · simp [hlong, Nat.not_le.mpr hlong, isCut_iff, eq_comm]
    · simp [hlong, Nat.not_lt.mp hlong, eq_comm]

/-- **Texts are cut between characters.** Take any limit and any text.

* The cut is the longest initial part of the text that keeps to the limit, and the only one.
* At most three bytes fewer remain than the text has within the limit.
* The cut ends at the last place between two characters within the limit, which is found by going
  back from the limit byte by byte. Its bytes are those of the text up to there.
* With any settings the text is shown as it is if there is no limit or it keeps to the limit, and
  otherwise the cut is shown with three dots behind it. -/
theorem texts_cut_between_characters (max : Nat) (s : String) :
    (∀ t, IsCut max s t ↔ t = cutBytes max s) ∧
    min s.utf8ByteSize max ≤ (cutBytes max s).utf8ByteSize + 3 ∧
    cutBytes max s = (s.sliceTo (boundaryUpTo s max)).copy ∧
    (cutBytes max s).utf8ByteSize = (boundaryUpTo s max).offset.byteIdx ∧
    (cutBytes max s).toByteArray
      = s.toByteArray.extract 0 (boundaryUpTo s max).offset.byteIdx ∧
    ∀ (settings : Settings) (shown : String), settings.shownSql s = shown ↔
      settings.maxSqlLength = none ∧ shown = s ∨
      ∃ limit, settings.maxSqlLength = some limit ∧
        (s.utf8ByteSize ≤ limit ∧ shown = s ∨
          limit < s.utf8ByteSize ∧ ∃ t, IsCut limit s t ∧ shown = t ++ "...") := by
  have hslice : (s.sliceTo (boundaryUpTo s max)).copy = cutBytes max s :=
    sliceTo_boundaryUpTo max s
  refine ⟨fun _ ↦ isCut_iff, min_le_size_cutBytes max s, hslice.symm, ?_, ?_, ?_⟩
  · rw [← hslice, utf8ByteSize_sliceTo]
  · rw [← hslice, (boundaryUpTo s max).splits.toByteArray_left_eq]
  · exact fun settings shown ↦ settings.shownSql_eq_iff s shown

/-- The limit is within the only character of two bytes. -/
example : cutBytes 9 "SELECT 'é'" = "SELECT '" := by decide +kernel

end BoundSql
