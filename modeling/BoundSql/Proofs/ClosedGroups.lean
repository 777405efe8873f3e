import BoundSql.Dialect
import BoundSql.Proofs.ConditionTree
import BoundSql.Proofs.FreshNames
import Mathlib.Data.List.Infix

/-!
# Conditions as closed groups

A condition can be put anywhere in a statement if its text is a *closed group*: it opens a
parenthesis with its first character and closes it with its last one, and not before. Parentheses
inside quoted identifiers do not count, so a table or column cannot close the group through its
quoted name.

The name of a column is written a second time, in the placeholder of a value that is compared with
it, and there it is not quoted. So a text is closed only as far as names are harmless, and this
module says which are.

## The notion that composes

A text is *balanced* if reading it comes back to the depth at the start and never goes below it.
Balanced texts can be put one after the other and between parentheses, and `( … )` is a closed
group if and only if what stands inside is balanced. A placeholder is balanced if and only if the
name of its column is, since nothing else in it is a parenthesis or a mark. After `IN` it stands
between parentheses of its own, so there the name may go one below: `Comparison.room`.

One unbalanced name can make up for another one, as in `a(` and `b)`, and then the text as a whole
is closed although its parts are not. This is why the exact condition speaks about all nodes of a
tree.
-/

namespace BoundSql

/-! ## Reading parentheses -/

/-- How far a reader of SQL has come: how many parentheses are open, and whether it stands inside a
quoted identifier. -/
structure Reading where
  /-- Parentheses opened and not closed; below zero if more were closed than opened. -/
  depth : Int
  /-- Whether the next character belongs to a quoted identifier, unless it is the mark. -/
  quoted : Bool
deriving DecidableEq

namespace Reading

/-- Before the first character. -/
def start : Reading := ⟨0, false⟩

/-- Reads one character. The mark of identifiers begins or ends one; a doubled mark ends one and
begins it again, with nothing read in between, so what follows is still inside. -/
def next (r : Reading) (c : Char) : Reading :=
  if c = identifierMark then ⟨r.depth, !r.quoted⟩
  else if r.quoted then r
  else if c = '(' then ⟨r.depth + 1, r.quoted⟩
  else if c = ')' then ⟨r.depth - 1, r.quoted⟩
  else r

/-- Reads a text. -/
def read (r : Reading) (cs : List Char) : Reading := cs.foldl next r

@[simp] theorem read_nil (r : Reading) : r.read [] = r := rfl

@[simp] theorem read_cons (r : Reading) (c : Char) (cs : List Char) :
    r.read (c :: cs) = (r.next c).read cs := rfl

theorem read_append (r : Reading) (cs ds : List Char) : r.read (cs ++ ds) = (r.read cs).read ds :=
  List.foldl_append

/-- The same place in a text that begins `n` parentheses deeper. -/
def raise (n : Int) (r : Reading) : Reading := ⟨r.depth + n, r.quoted⟩

private theorem next_raise (n : Int) (r : Reading) (c : Char) :
    (r.raise n).next c = (r.next c).raise n := by
  obtain ⟨depth, quoted⟩ := r
  by_cases hmark : c = identifierMark
  · simp [next, raise, hmark]
  · cases quoted with
    | true => simp [next, raise, hmark]
    | false =>
      by_cases hopen : c = '('
      · simp [next, raise, hopen, identifierMark]
        omega
      · by_cases hclose : c = ')'
        · simp [next, raise, hclose, identifierMark]
          omega
        · simp [next, raise, hmark, hopen, hclose]

theorem read_raise (n : Int) (r : Reading) (cs : List Char) :
    (r.raise n).read cs = (r.read cs).raise n := by
  induction cs generalizing r with
  | nil => rfl
  | cons c cs ih => rw [read_cons, next_raise, ih, read_cons]

end Reading

/-- A text between two parentheses that belong together: something is open from the first character
on, nothing is open after the last one and not earlier, and no identifier is cut off. -/
structure ClosedGroup (cs : List Char) : Prop where
  /-- There is a first character. -/
  ne_nil : cs ≠ []
  /-- Up to the last character a parenthesis is open. -/
  inside : ∀ p, p <+: cs → p ≠ [] → p ≠ cs → 1 ≤ (Reading.start.read p).depth
  /-- After it none is, and no identifier either. -/
  closed : Reading.start.read cs = Reading.start

/-! ## Balanced texts -/

/-- A text that is read with the depth back where it was, the identifier that is open before (`q`)
or after (`q'`) apart. On the way the depth may go `room` below. -/
structure Passes (room : Int) (q : Bool) (cs : List Char) (q' : Bool) : Prop where
  /-- The depth stays above the floor. -/
  floor : ∀ p, p <+: cs → -room ≤ (Reading.read ⟨0, q⟩ p).depth
  /-- The depth comes back. -/
  ends : Reading.read ⟨0, q⟩ cs = ⟨0, q'⟩

/-- A text of whole identifiers and, up to `room` parentheses that it closes and opens again, of
parentheses that belong together. -/
abbrev Balanced (room : Int) (cs : List Char) : Prop := Passes room false cs false

private theorem prefix_append_cases {p s t : List Char} (h : p <+: s ++ t) :
    p <+: s ∨ ∃ u, u <+: t ∧ p = s ++ u := by
  obtain ⟨v, hv⟩ := h
  rcases List.append_eq_append_iff.mp hv with ⟨w, hs, -⟩ | ⟨w, hp, ht⟩
  · exact .inl ⟨w, hs.symm⟩
  · exact .inr ⟨w, ⟨v, ht.symm⟩, hp⟩

section Passes

variable {room : Int} {q q' q'' : Bool} {s t cs : List Char}

theorem Passes.mono {room' : Int} (h : Passes room q cs q') (hroom : room ≤ room') :
    Passes room' q cs q' :=
  ⟨fun p hp ↦ Int.le_trans (Int.neg_le_neg hroom) (h.floor p hp), h.ends⟩

/-- After a text that passes, reading goes on as at its end. -/
theorem Passes.append_iff (hs : Passes room q s q') :
    Passes room q (s ++ t) q'' ↔ Passes room q' t q'' := by
  constructor
  · intro h
    refine ⟨fun u hu ↦ ?_, ?_⟩
    · have hfloor := h.floor (s ++ u) ((List.prefix_append_right_inj s).mpr hu)
      rwa [Reading.read_append, hs.ends] at hfloor
    · have hends := h.ends
      rwa [Reading.read_append, hs.ends] at hends
  · intro h
    refine ⟨fun p hp ↦ ?_, ?_⟩
    · rcases prefix_append_cases hp with hp | ⟨u, hu, rfl⟩
      · exact hs.floor p hp
      · rw [Reading.read_append, hs.ends]
        exact h.floor u hu
    · rw [Reading.read_append, hs.ends, h.ends]

theorem Passes.append (hs : Passes room q s q') (ht : Passes room q' t q'') :
    Passes room q (s ++ t) q'' := hs.append_iff.mpr ht

theorem Balanced.append_iff (hs : Balanced room s) : Balanced room (s ++ t) ↔ Balanced room t :=
  Passes.append_iff hs

/-- Whether a character changes what a reader knows. -/
def isGroupingMark (c : Char) : Bool := c == identifierMark || c == '(' || c == ')'

/-- A text in which nothing opens or closes anything. -/
def NoMarks (cs : List Char) : Prop := ∀ c ∈ cs, isGroupingMark c = false

instance (cs : List Char) : Decidable (NoMarks cs) :=
  decidable_of_iff (cs.all fun c ↦ !isGroupingMark c) (by simp [NoMarks])

private theorem next_of_not_mark {c : Char} (h : isGroupingMark c = false) (r : Reading) :
    r.next c = r := by
  simp only [isGroupingMark, Bool.or_eq_false_iff, beq_eq_false_iff_ne] at h
  simp [Reading.next, h.1.1, h.1.2, h.2]

/-- A text without marks changes nothing. -/
theorem read_of_no_marks (h : NoMarks cs) (r : Reading) :
    r.read cs = r := by
  induction cs with
  | nil => rfl
  | cons c cs ih =>
    rw [Reading.read_cons, next_of_not_mark (h c List.mem_cons_self),
      ih fun c' hc' ↦ h c' (List.mem_cons_of_mem _ hc')]

theorem passes_of_no_marks (hroom : 0 ≤ room) (h : NoMarks cs) :
    Passes room q cs q := by
  refine ⟨fun p hp ↦ ?_, read_of_no_marks h _⟩
  rw [read_of_no_marks fun c hc ↦ h c (hp.subset hc)]
  exact Int.neg_nonpos_of_nonneg hroom

/-- A text without marks can be left out at the end. -/
theorem passes_append_no_marks_iff (ht : NoMarks t) :
    Passes room q (s ++ t) q' ↔ Passes room q s q' := by
  have hends : Reading.read ⟨0, q⟩ (s ++ t) = Reading.read ⟨0, q⟩ s := by
    rw [Reading.read_append, read_of_no_marks ht]
  constructor
  · intro h
    exact ⟨fun p hp ↦ h.floor p (hp.trans (List.prefix_append s t)), hends ▸ h.ends⟩
  · intro h
    refine ⟨fun p hp ↦ ?_, hends.trans h.ends⟩
    rcases prefix_append_cases hp with hp | ⟨u, hu, rfl⟩
    · exact h.floor p hp
    · rw [Reading.read_append, read_of_no_marks fun c hc ↦ ht c (hu.subset hc)]
      exact h.floor s List.prefix_rfl

theorem balanced_append_no_marks_iff (ht : NoMarks t) :
    Balanced room (s ++ t) ↔ Balanced room s := passes_append_no_marks_iff ht

/-! ### Parentheses -/

private theorem read_open (p : List Char) :
    Reading.start.read ('(' :: p) = (Reading.start.read p).raise 1 := by
  rw [Reading.read_cons, ← Reading.read_raise]
  rfl

private theorem depth_read_open (p : List Char) :
    (Reading.start.read ('(' :: p)).depth = (Reading.start.read p).depth + 1 := by
  rw [read_open, Reading.raise]

private theorem read_parens_iff :
    Reading.start.read ('(' :: cs ++ [')']) = Reading.start
      ↔ Reading.start.read cs = Reading.start := by
  rw [Reading.read_append, read_open]
  obtain ⟨depth, quoted⟩ := Reading.start.read cs
  cases quoted with
  | true => simp [Reading.raise, Reading.next, Reading.start, identifierMark]
  | false => simp [Reading.raise, Reading.next, Reading.start, identifierMark]

private theorem prefix_parens {p : List Char} (h : p <+: '(' :: cs ++ [')']) :
    p = [] ∨ p = '(' :: cs ++ [')'] ∨ ∃ u, u <+: cs ∧ p = '(' :: u := by
  rcases List.prefix_concat_iff.mp h with rfl | h
  · exact .inr (.inl rfl)
  · rcases List.prefix_cons_iff.mp h with rfl | ⟨u, rfl, hu⟩
    · exact .inl rfl
    · exact .inr (.inr ⟨u, hu, rfl⟩)

theorem balanced_parens_iff (hroom : 0 ≤ room) :
    Balanced room ('(' :: cs ++ [')']) ↔ Balanced (room + 1) cs := by
  constructor
  · intro h
    refine ⟨fun u hu ↦ ?_, read_parens_iff.mp h.ends⟩
    have hfloor : -room ≤ (Reading.start.read ('(' :: u)).depth :=
      h.floor _ ((List.cons_prefix_cons.mpr ⟨rfl, hu⟩).trans (List.prefix_append _ _))
    rw [depth_read_open] at hfloor
    change -(room + 1) ≤ (Reading.start.read u).depth
    omega
  · intro h
    refine ⟨fun p hp ↦ ?_, read_parens_iff.mpr h.ends⟩
    change -room ≤ (Reading.start.read p).depth
    rcases prefix_parens hp with rfl | rfl | ⟨u, hu, rfl⟩
    · exact Int.neg_nonpos_of_nonneg hroom
    · rw [read_parens_iff.mpr h.ends]
      exact Int.neg_nonpos_of_nonneg hroom
    · have hfloor : -(room + 1) ≤ (Reading.start.read u).depth := h.floor u hu
      rw [depth_read_open]
      omega

/-- A text between parentheses is a closed group if and only if it is balanced. -/
theorem closedGroup_parens_iff : ClosedGroup ('(' :: cs ++ [')']) ↔ Balanced 0 cs := by
  constructor
  · intro h
    refine ⟨fun u hu ↦ ?_, read_parens_iff.mp h.closed⟩
    have hproper : '(' :: u ≠ '(' :: cs ++ [')'] := by
      intro heq
      have hlength := congrArg List.length heq
      have hle := hu.length_le
      simp at hlength
      omega
    have hinside : 1 ≤ (Reading.start.read ('(' :: u)).depth :=
      h.inside _ ((List.cons_prefix_cons.mpr ⟨rfl, hu⟩).trans (List.prefix_append _ _))
        (List.cons_ne_nil _ _) hproper
    rw [depth_read_open] at hinside
    change -0 ≤ (Reading.start.read u).depth
    omega
  · intro h
    refine ⟨List.cons_ne_nil _ _, fun p hp hne hproper ↦ ?_, read_parens_iff.mpr h.ends⟩
    rcases prefix_parens hp with rfl | rfl | ⟨u, hu, rfl⟩
    · exact absurd rfl hne
    · exact absurd rfl hproper
    · have hfloor : -0 ≤ (Reading.start.read u).depth := h.floor u hu
      rw [depth_read_open]
      omega

/-! ### Quoted identifiers -/

private theorem passes_mark : Passes 0 q [identifierMark] (!q) := by
  have hnext : Reading.read ⟨0, q⟩ [identifierMark] = ⟨0, !q⟩ := by simp [Reading.next]
  refine ⟨fun p hp ↦ ?_, hnext⟩
  rcases List.prefix_cons_iff.mp hp with rfl | ⟨u, rfl, hu⟩
  · exact Int.le_refl _
  · rw [List.prefix_nil.mp hu, hnext]
    exact Int.le_refl _

private theorem passes_quoted_char {c : Char} (h : c ≠ identifierMark) :
    Passes 0 true [c] true := by
  have hnext : Reading.read ⟨0, true⟩ [c] = ⟨0, true⟩ := by simp [Reading.next, h]
  refine ⟨fun p hp ↦ ?_, hnext⟩
  rcases List.prefix_cons_iff.mp hp with rfl | ⟨u, rfl, hu⟩
  · exact Int.le_refl _
  · rw [List.prefix_nil.mp hu, hnext]
    exact Int.le_refl _

private theorem passes_quoted_name (name : List Char) :
    Passes 0 true (name.flatMap fun c ↦ if c = identifierMark then [c, c] else [c]) true := by
  induction name with
  | nil => exact passes_of_no_marks (Int.le_refl _) fun c hc ↦ absurd hc List.not_mem_nil
  | cons c name ih =>
    rw [List.flatMap_cons]
    by_cases hmark : c = identifierMark
    · -- the two marks leave the identifier and enter it again
      rw [if_pos hmark, hmark]
      exact (passes_mark.append passes_mark).append ih
    · rw [if_neg hmark]
      exact (passes_quoted_char hmark).append ih

/-- Whatever a name holds, as a quoted identifier it is balanced. -/
theorem balanced_quoteIdentifier (name : String) : Balanced 0 (quoteIdentifier name).toList := by
  have hopen : Passes 0 false [identifierMark] true := passes_mark
  have hclose : Passes 0 true [identifierMark] false := passes_mark
  rw [quoteIdentifier, wrapDoubling, String.toList_ofList]
  exact (hopen.append (passes_quoted_name _)).append hclose

instance : Decidable (Passes room q cs q') :=
  decidable_of_iff
    ((∀ p ∈ cs.inits, -room ≤ (Reading.read ⟨0, q⟩ p).depth) ∧
      Reading.read ⟨0, q⟩ cs = ⟨0, q'⟩)
    ⟨fun h ↦ ⟨fun p hp ↦ h.1 p ((List.mem_inits p cs).mpr hp), h.2⟩,
      fun h ↦ ⟨fun p hp ↦ h.floor p ((List.mem_inits p cs).mp hp), h.ends⟩⟩

/-! ### Columns and placeholders -/

theorem balanced_renderPath (path : String) :
    Balanced 0 (renderPath .mysql path).toList := by
  have hname : ∀ name, Balanced 0 (renderName .mysql name).toList := by
    intro name
    rw [renderName]
    split
    · exact passes_of_no_marks (Int.le_refl _) (by decide)
    · exact balanced_quoteIdentifier name
  rw [renderPath]
  split
  · rw [String.toList_append, String.toList_append]
    exact ((balanced_quoteIdentifier _).append
      (passes_of_no_marks (Int.le_refl _) (by decide))).append (hname _)
  · exact hname path

private theorem not_mark_of_isDigit {c : Char} (h : c.isDigit = true) :
    isGroupingMark c = false := by
  simp only [isGroupingMark, Bool.or_eq_false_iff, beq_eq_false_iff_ne]
  refine ⟨⟨?_, ?_⟩, ?_⟩ <;> rintro rfl <;> exact absurd h (by decide)

/-- A placeholder is as balanced as the name of the column in it. -/
theorem balanced_placeholder_iff (hroom : 0 ≤ room) (field : String) (n : Nat) :
    Balanced room (placeholder (numberedName field n)).toList ↔ Balanced room field.toList := by
  have hlist : (placeholder (numberedName field n)).toList
      = [':', '_', '_'] ++ (field.toList ++ ('_' :: '_' :: Nat.toDigits 10 n)) := by
    rw [placeholder, String.toList_append, toList_numberedName]
    simp
  have hopen : Balanced room [':', '_', '_'] := passes_of_no_marks hroom (by decide)
  have hnumber : NoMarks ('_' :: '_' :: Nat.toDigits 10 n) := by
    intro c hc
    rcases List.mem_cons.mp hc with rfl | hc
    · rfl
    · rcases List.mem_cons.mp hc with rfl | hc
      · rfl
      · exact not_mark_of_isDigit (Nat.isDigit_of_mem_toDigits (by decide) (by decide) hc)
  rw [hlist, hopen.append_iff, balanced_append_no_marks_iff hnumber]

end Passes

/-! ## Templates -/

namespace Template

/-- A template whose text is balanced, whatever was bound before. -/
def AlwaysBalanced (t : Template) : Prop := ∀ b, Balanced 0 (t.bind b).1.toList

variable {t u : Template}

theorem alwaysBalanced_text {s : String} (h : Balanced 0 s.toList) : AlwaysBalanced [.text s] := by
  intro b
  rw [bind, bind, String.append_empty]
  exact h

theorem AlwaysBalanced.append (ht : AlwaysBalanced t) (hu : AlwaysBalanced u) :
    AlwaysBalanced (t ++ u) := by
  intro b
  rw [bind_append, String.toList_append]
  exact (ht b).append (hu _)

theorem alwaysBalanced_joined {separator : String} (hs : Balanced 0 separator.toList)
    {ts : List Template} (h : ∀ t ∈ ts, AlwaysBalanced t) :
    AlwaysBalanced (joined separator ts) := by
  induction ts with
  | nil => exact fun _ ↦ passes_of_no_marks (Int.le_refl _) fun c hc ↦ absurd hc List.not_mem_nil
  | cons t ts ih =>
    have hrest := ih fun u hu ↦ h u (List.mem_cons_of_mem _ hu)
    cases ts with
    | nil => exact h t List.mem_cons_self
    | cons u us =>
      rw [joined_cons_cons, ← List.singleton_append]
      exact (h t List.mem_cons_self).append ((alwaysBalanced_text hs).append hrest)

theorem closedGroup_bind_grouped_iff (t : Template) (b : Bindings) :
    ClosedGroup ((grouped t).bind b).1.toList ↔ Balanced 0 (t.bind b).1.toList := by
  have hlist : ((grouped t).bind b).1.toList
      = '(' :: ([' '] ++ ((t.bind b).1.toList ++ [' '])) ++ [')'] := by
    rw [grouped, List.cons_append, bind, bind_append]
    simp [bind]
  have hblank : Balanced 0 [' '] := passes_of_no_marks (Int.le_refl _) (by decide)
  rw [hlist, closedGroup_parens_iff, hblank.append_iff, balanced_append_no_marks_iff (by decide)]

end Template

theorem ClosedGroup.balanced {cs : List Char} (h : ClosedGroup cs) : Balanced 0 cs := by
  refine ⟨fun p hp ↦ ?_, h.closed⟩
  change -0 ≤ (Reading.start.read p).depth
  by_cases hnil : p = []
  · rw [hnil]
    exact Int.le_refl _
  · by_cases hall : p = cs
    · rw [hall, h.closed]
      exact Int.le_refl _
    · have hinside := h.inside p hp hnil hall
      omega

/-! ## Comparisons -/

namespace Comparison

/-- How many parentheses stand around the right-hand side, those of the comparison apart. -/
def room (t : Comparison) : Int := if t.op = .oneOf then 1 else 0

/-- The name of the column does no harm in a placeholder, if there is one: it does not end the
comparison that it stands in. -/
def NameFits (t : Comparison) : Prop :=
  t.binding?.isSome → Balanced t.room t.column.name.toList

instance (t : Comparison) : Decidable t.NameFits :=
  inferInstanceAs (Decidable (t.binding?.isSome → Balanced t.room t.column.name.toList))

private theorem balanced_start (t : Comparison) {s : String}
    (hs : NoMarks s.toList) :
    Balanced 0 (t.column.render .mysql ++ s).toList := by
  rw [String.toList_append, Column.render]
  exact (balanced_renderPath _).append (passes_of_no_marks (Int.le_refl _) hs)

private theorem symbol_no_marks (op : CompareOp) :
    NoMarks (" " ++ op.symbol ++ " ").toList := by
  cases op <;> decide

/-- The text of a comparison, as far as parentheses matter: what stands before `rhs` is balanced,
and after `IN` the rest is in parentheses. -/
private theorem balanced_around_iff (t : Comparison) (rhs : Template) (b : Bindings) :
    Balanced 0 ((around (t.column.render .mysql) t.op rhs).bind b).1.toList
      ↔ Balanced t.room (rhs.bind b).1.toList := by
  by_cases hop : t.op = .oneOf
  · have hlist : ((around (t.column.render .mysql) t.op rhs).bind b).1.toList
        = (t.column.render .mysql ++ " IN ").toList
          ++ ('(' :: (rhs.bind b).1.toList ++ [')']) := by
      rw [hop, around_oneOf, List.cons_append, Template.bind, Template.bind_append]
      simp [Template.bind]
    rw [hlist, (t.balanced_start (by decide)).append_iff, balanced_parens_iff (Int.le_refl _),
      room, if_pos hop]
    rfl
  · have hlist : ((around (t.column.render .mysql) t.op rhs).bind b).1.toList
        = (t.column.render .mysql ++ (" " ++ t.op.symbol ++ " ")).toList
          ++ (rhs.bind b).1.toList := by
      rw [around_of_ne_oneOf hop, Template.bind, String.toList_append, String.append_assoc,
        String.append_assoc, String.append_assoc]
    rw [hlist, (t.balanced_start (symbol_no_marks t.op)).append_iff, room, if_neg hop]

theorem balanced_bind_iff (t : Comparison) (b : Bindings) :
    Balanced 0 ((t.template .mysql).bind b).1.toList ↔ t.NameFits := by
  have hroom : 0 ≤ t.room := by
    rw [room]
    split <;> decide
  cases he : t.binding? with
  | some e =>
    have htext : ((Template.bind [.hole t.column.name e.2] b).1)
        = placeholder (numberedName t.column.name (b.used t.column.name)) := by
      simp only [Template.bind, String.append_empty]
      rfl
    rw [(template_of_binding?_eq_some he).2, t.balanced_around_iff, htext,
      balanced_placeholder_iff hroom, NameFits, he]
    exact ⟨fun h _ ↦ h, fun h ↦ h rfl⟩
  | none =>
    have hfits : t.NameFits := fun h ↦ by simp [he] at h
    refine iff_of_true ?_ hfits
    rcases template_of_binding?_eq_none (d := .mysql) he with h | h | ⟨other, -, h⟩
    · rw [h]
      exact Template.alwaysBalanced_text (t.balanced_start (by decide)) b
    · rw [h]
      exact Template.alwaysBalanced_text (t.balanced_start (by decide)) b
    · rw [h, t.balanced_around_iff]
      exact (Template.alwaysBalanced_text (balanced_renderPath other.path) b).mono hroom

end Comparison

/-! ## Nodes -/

namespace Condition

mutual

/-- A condition and all conditions inside it. -/
def nodes : Condition → List Condition
  | .all parts => .all parts :: nodesOf parts
  | .any parts => .any parts :: nodesOf parts
  | .negated part => .negated part :: nodes part
  | .compare test => [.compare test]

/-- Several conditions and all conditions inside them. -/
def nodesOf : List Condition → List Condition
  | [] => []
  | p :: ps => nodes p ++ nodesOf ps

end

private theorem mem_nodesOf {parts : List Condition} {s : Condition} :
    s ∈ nodesOf parts ↔ ∃ p ∈ parts, s ∈ p.nodes := by
  induction parts with
  | nil => simp [nodesOf]
  | cons p ps ih => simp [nodesOf, ih]

theorem self_mem_nodes (c : Condition) : c ∈ c.nodes := by
  cases c <;> exact List.mem_cons_self

/-- Every leaf is a node. -/
theorem compare_mem_nodes {c : Condition} {t : Comparison} (h : t ∈ c.leaves) :
    compare t ∈ c.nodes := by
  induction c with
  | all parts ih =>
    obtain ⟨p, hp, ht⟩ := mem_leaves_all.mp h
    exact List.mem_cons_of_mem _ (mem_nodesOf.mpr ⟨p, hp, ih p hp ht⟩)
  | any parts ih =>
    obtain ⟨p, hp, ht⟩ := mem_leaves_any.mp h
    exact List.mem_cons_of_mem _ (mem_nodesOf.mpr ⟨p, hp, ih p hp ht⟩)
  | negated part ih => exact List.mem_cons_of_mem _ (ih h)
  | compare test =>
    rw [leaves, List.mem_singleton] at h
    rw [h, nodes]
    exact List.mem_cons_self

/-- The leaves of a node are leaves of the tree. -/
theorem leaves_subset_of_mem_nodes {c s : Condition} (h : s ∈ c.nodes) : s.leaves ⊆ c.leaves := by
  induction c with
  | all parts ih =>
    rcases List.mem_cons.mp h with rfl | h
    · exact fun t ht ↦ ht
    · obtain ⟨p, hp, hs⟩ := mem_nodesOf.mp h
      exact fun t ht ↦ mem_leaves_all.mpr ⟨p, hp, ih p hp hs ht⟩
  | any parts ih =>
    rcases List.mem_cons.mp h with rfl | h
    · exact fun t ht ↦ ht
    · obtain ⟨p, hp, hs⟩ := mem_nodesOf.mp h
      exact fun t ht ↦ mem_leaves_any.mpr ⟨p, hp, ih p hp hs ht⟩
  | negated part ih =>
    rcases List.mem_cons.mp h with rfl | h
    · exact fun t ht ↦ ht
    · exact ih h
  | compare test =>
    rw [nodes, List.mem_singleton] at h
    rw [h]
    exact fun t ht ↦ ht

private theorem closedGroup_ofParts {separator empty : String}
    (hs : Balanced 0 separator.toList) (he : Balanced 0 empty.toList) {ts : List Template}
    (h : ∀ t ∈ ts, t.AlwaysBalanced) (b : Bindings) :
    ClosedGroup ((Template.ofParts separator empty ts).bind b).1.toList := by
  rw [Template.ofParts, Template.closedGroup_bind_grouped_iff]
  split
  · exact Template.alwaysBalanced_text he b
  · exact Template.alwaysBalanced_joined hs h b

/-- With names that fit at all leaves, the text of a condition is a closed group. -/
theorem closedGroup_compile {c : Condition} (h : ∀ t ∈ c.leaves, t.NameFits) (b : Bindings) :
    ClosedGroup (c.compile .mysql b).1.toList := by
  rw [compile]
  induction c generalizing b with
  | all parts ih =>
    rw [template_all]
    refine closedGroup_ofParts (by decide) (by decide) (fun t ht b' ↦ ?_) b
    obtain ⟨p, hp, rfl⟩ := List.mem_map.mp ht
    exact (ih p hp (fun t ht ↦ h t (mem_leaves_all.mpr ⟨p, hp, ht⟩)) b').balanced
  | any parts ih =>
    rw [template_any]
    refine closedGroup_ofParts (by decide) (by decide) (fun t ht b' ↦ ?_) b
    obtain ⟨p, hp, rfl⟩ := List.mem_map.mp ht
    exact (ih p hp (fun t ht ↦ h t (mem_leaves_any.mpr ⟨p, hp, ht⟩)) b').balanced
  | negated part ih =>
    have hword : Template.AlwaysBalanced [.text "NOT "] :=
      Template.alwaysBalanced_text (by decide)
    rw [template, Template.closedGroup_bind_grouped_iff]
    exact hword.append (fun b' ↦ (ih h b').balanced) b
  | compare test =>
    rw [template, Template.closedGroup_bind_grouped_iff, test.balanced_bind_iff]
    exact h test List.mem_cons_self

theorem closedGroup_compile_compare_iff (t : Comparison) (b : Bindings) :
    ClosedGroup ((compare t).compile .mysql b).1.toList ↔ t.NameFits := by
  rw [compile, template, Template.closedGroup_bind_grouped_iff, t.balanced_bind_iff]

/-- **When conditions are closed groups.** Every node of a condition is a closed group if and only
if, at every leaf that binds a value, the name of the column fits: read by itself it is balanced,
where one parenthesis may be closed and opened again after `IN`. The condition is one of its nodes,
so with such names it can be put anywhere. Tables, other columns and values are no danger. -/
theorem closedGroup_nodes_iff (c : Condition) (b : Bindings) :
    c ∈ c.nodes ∧
      ((∀ s ∈ c.nodes, ClosedGroup (s.compile .mysql b).1.toList) ↔
        ∀ t ∈ c.leaves, t.NameFits) := by
  refine ⟨c.self_mem_nodes, ?_, ?_⟩
  · intro h t ht
    -- a leaf is a node of its own, and there no other name can make up for its name
    exact (closedGroup_compile_compare_iff t b).mp (h _ (compare_mem_nodes ht))
  · intro h s hs
    exact closedGroup_compile (fun t ht ↦ h t (leaves_subset_of_mem_nodes hs ht)) b

/-- Names may hold parentheses that belong together, and after `IN` two that do not. -/
theorem closedGroup_nodes_of_fitting_names :
    let c := negated (.all [Column.compare ⟨none, "f(x)"⟩ .equal (.value (.ofInt64 1)),
      Column.inList ⟨some "t", "a)(b"⟩ [.null]])
    (∀ t ∈ c.leaves, t.NameFits) ∧
      ∀ s ∈ c.nodes, ClosedGroup (s.compile .mysql .empty).1.toList := by
  intro c
  have hfits : ∀ t ∈ c.leaves, t.NameFits := by decide
  exact ⟨hfits, (closedGroup_nodes_iff c .empty).2.mpr hfits⟩

/-- The text of a condition is not always a closed group: a column named `a)` closes it in its
placeholder. -/
theorem not_closedGroup_of_closing_name :
    ¬ ClosedGroup ((Column.compare ⟨none, "a)"⟩ .equal (.value (.ofInt64 1))).compile .mysql
      .empty).1.toList := by
  intro h
  have hfits := (closedGroup_compile_compare_iff _ .empty).mp h
  exact absurd hfits (by decide)

end Condition

end BoundSql
