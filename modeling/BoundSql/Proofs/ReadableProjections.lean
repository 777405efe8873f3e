import BoundSql.Proofs.EntryGrammar
import BoundSql.Proofs.QuotedNames
import BoundSql.Query.Clauses
import Mathlib.Data.List.Chain
import Mathlib.Data.List.Forall2

/-!
# SELECT lists can be read back

The text of a `SELECT` list is made of tokens: the names that callers gave, each quoted, and a few
words around them. Three facts give the entries back from the text, whatever characters the names
hold.

* A reader who knows quoted names finds the tokens, because a name is always followed by a word or
  by nothing, and no word begins with the mark of names (`lexemes_written`).
* No word begins another one and a name is no word, so the tokens are known from what is found
  (`found_flatMap_inj`).
* The comma is a token of its own, which stands between entries and nowhere else, and the tokens of
  an entry say what it is (`Selected.tokens_inj`).
-/

namespace BoundSql

/-! ## Tokens -/

/-- The words of a `SELECT` list. -/
inductive SelectWord where
  | star
  | dot
  | comma
  | asKeyword
  | distinct
  /-- The name of an aggregate with its opening parenthesis. -/
  | call (f : Aggregate)
  | close
deriving DecidableEq

namespace SelectWord

/-- The word in the text. -/
def text : SelectWord → String
  | star => "*"
  | dot => "."
  | comma => ", "
  | asKeyword => " AS "
  | distinct => "DISTINCT "
  | call f => f.name ++ "("
  | close => ")"

def all : List SelectWord :=
  [star, dot, comma, asKeyword, distinct, call .avg, call .sum, call .count, call .max, call .min,
    close]

theorem mem_all (w : SelectWord) : w ∈ all := by
  cases w with
  | call f => cases f <;> decide
  | _ => decide

/-- The mark of names is in no word. -/
theorem mark_notMem_text (w : SelectWord) : identifierMark ∉ w.text.toList := by
  have hall : ∀ w ∈ all, identifierMark ∉ w.text.toList := by decide
  exact hall w w.mem_all

theorem text_ne_nil (w : SelectWord) : w.text.toList ≠ [] := by
  have hall : ∀ w ∈ all, w.text.toList ≠ [] := by decide
  exact hall w w.mem_all

/-- No word begins another one. -/
theorem eq_of_text_isPrefix {v w : SelectWord} (h : v.text.toList <+: w.text.toList) : v = w := by
  have hall : ∀ v ∈ all, ∀ w ∈ all, v.text.toList <+: w.text.toList → v = w := by decide
  exact hall v v.mem_all w w.mem_all h

end SelectWord

/-- A piece of a `SELECT` list: a word, or a name that a caller gave. -/
inductive SelectToken where
  | word (w : SelectWord)
  | name (s : String)
deriving DecidableEq

namespace SelectToken

/-- A token in the text. -/
def text : SelectToken → List Char
  | word w => w.text.toList
  | name s => (quoteIdentifier s).toList

/-- What a reader of quoted names finds of a token. -/
def found : SelectToken → List Lexeme
  | word w => w.text.toList.map .plain
  | name s => [.name s]

/-- The name, if the token is one. -/
def name? : SelectToken → Option String
  | word _ => none
  | name s => some s

@[simp] theorem text_word (w : SelectWord) : (word w).text = w.text.toList := rfl

@[simp] theorem text_name (s : String) : (name s).text = (quoteIdentifier s).toList := rfl

@[simp] theorem name?_word (w : SelectWord) : (word w).name? = none := rfl

@[simp] theorem name?_name (s : String) : (name s).name? = some s := rfl

/-- Tokens in the text. -/
def written (ts : List SelectToken) : List Char := ts.flatMap text

/-- Two tokens that can stand next to each other: one of them is a word. -/
def Meet (t u : SelectToken) : Prop := t.name? = none ∨ u.name? = none

@[simp] theorem meet_word_left (w : SelectWord) (u : SelectToken) : Meet (word w) u := .inl rfl

@[simp] theorem meet_word_right (t : SelectToken) (w : SelectWord) : Meet t (word w) := .inr rfl

/-- What can follow a name does not go on like one. -/
theorem head?_written_append_ne {s : String} {ts : List SelectToken}
    (h : ∀ u ∈ ts.head?, Meet (name s) u) {rest : List Char}
    (hrest : rest.head? ≠ some identifierMark) :
    (written ts ++ rest).head? ≠ some identifierMark := by
  cases ts with
  | nil => exact hrest
  | cons u us =>
    cases u with
    | name s' => exact absurd (h _ rfl) (by rintro (h | h) <;> cases h)
    | word w =>
      intro hhead
      refine w.mark_notMem_text (List.mem_of_mem_head? ?_)
      rwa [written, List.flatMap_cons, text, List.append_assoc,
        List.head?_append_of_ne_nil _ w.text_ne_nil] at hhead

/-- A reader of quoted names finds the tokens in front of a text, unless that begins with a mark. -/
theorem lexemes_written_append {ts : List SelectToken} (h : ts.IsChain Meet) {rest : List Char}
    (hrest : rest.head? ≠ some identifierMark) :
    lexemes .outside (written ts ++ rest) = ts.flatMap found ++ lexemes .outside rest := by
  induction ts with
  | nil => rfl
  | cons t ts ih =>
    rw [List.flatMap_cons, List.append_assoc, ← ih h.tail, written, List.flatMap_cons,
      List.append_assoc]
    cases t with
    | word w => exact lexemes_of_notMem w.mark_notMem_text _
    | name s => exact lexemes_quoteIdentifier s (head?_written_append_ne h.rel_head? hrest)

/-- A reader of quoted names finds the tokens of a text. -/
theorem lexemes_written {ts : List SelectToken} (h : ts.IsChain Meet) :
    lexemes .outside (written ts) = ts.flatMap found := by
  have hnone : ([] : List Char).head? ≠ some identifierMark := nofun
  simpa [lexemes] using lexemes_written_append h hnone

theorem found_ne_nil (t : SelectToken) : t.found ≠ [] := by
  cases t with
  | word w => exact fun h ↦ w.text_ne_nil (List.map_eq_nil_iff.mp h)
  | name s => exact List.cons_ne_nil _ _

/-- What is found of a token does not begin what is found of another one. -/
theorem eq_of_found_isPrefix {t u : SelectToken} (h : t.found <+: u.found) : t = u := by
  have hplain : Function.Injective Lexeme.plain := fun _ _ ↦ Lexeme.plain.inj
  rcases t with v | s <;> rcases u with w | s'
  · exact congrArg word (SelectWord.eq_of_text_isPrefix
      ((List.prefix_map_iff_of_injective hplain).mp h))
  · obtain ⟨l, hl⟩ := List.exists_mem_of_ne_nil _ (found_ne_nil (word v))
    obtain ⟨c, -, rfl⟩ := List.mem_map.mp hl
    cases List.mem_singleton.mp (h.subset hl)
  · obtain ⟨c, -, hc⟩ := List.mem_map.mp (h.subset (List.mem_singleton_self (Lexeme.name s)))
    cases hc
  · cases List.mem_singleton.mp (h.subset (List.mem_singleton_self (Lexeme.name s)))
    rfl

/-- Tokens are known from what is found of them and of a text after them, if no token begins that
text. -/
theorem found_flatMap_append_inj {ts us : List SelectToken} {rest rest' : List Lexeme}
    (hrest : ∀ t : SelectToken, ¬ t.found <+: rest)
    (hrest' : ∀ t : SelectToken, ¬ t.found <+: rest')
    (h : ts.flatMap found ++ rest = us.flatMap found ++ rest') : ts = us := by
  induction ts generalizing us with
  | nil =>
    cases us with
    | nil => rfl
    | cons u us =>
      rw [List.flatMap_cons, List.append_assoc] at h
      exact absurd ⟨_, h.symm⟩ (hrest u)
  | cons t ts ih =>
    cases us with
    | nil =>
      rw [List.flatMap_cons, List.append_assoc] at h
      exact absurd ⟨_, h⟩ (hrest' t)
    | cons u us =>
      rw [List.flatMap_cons, List.flatMap_cons, List.append_assoc, List.append_assoc] at h
      obtain rfl : t = u := by
        rcases List.prefix_or_prefix_of_prefix (List.prefix_append t.found _)
          (h ▸ List.prefix_append u.found _) with hpre | hpre
        · exact eq_of_found_isPrefix hpre
        · exact (eq_of_found_isPrefix hpre).symm
      rw [ih (List.append_cancel_left h)]

/-- Tokens are known from what is found of them. -/
theorem found_flatMap_inj {ts us : List SelectToken} (h : ts.flatMap found = us.flatMap found) :
    ts = us := by
  have hnil (t : SelectToken) : ¬ t.found <+: [] := fun h ↦ t.found_ne_nil (List.prefix_nil.mp h)
  refine found_flatMap_append_inj hnil hnil ?_
  rw [h]

end SelectToken

open SelectToken

/-! ## Columns -/

theorem eq_of_splitDot? {cs before after : List Char} (h : splitDot? cs = some (before, after)) :
    cs = before ++ '.' :: after := by
  rw [splitDot?] at h
  split at h
  · cases h
  · next c rest hrest =>
    obtain ⟨rfl, rfl⟩ := Prod.mk.inj (Option.some.inj h)
    have hdot := List.head?_dropWhile_not (· != '.') cs
    rw [hrest] at hdot
    obtain rfl : c = '.' := by simpa using hdot
    rw [← hrest, List.takeWhile_append_dropWhile]

namespace Column

/-- A column has the path that it is read from. -/
theorem path_ofPath (p : String) : (ofPath p).path = p := by
  rw [ofPath]
  split
  · next table name h =>
    rw [path, ← String.toList_inj, eq_of_splitDot? h]
    simp
  · rfl

/-- The names of a column that are quoted. -/
def quotedNames (c : Column) : List String :=
  c.table.toList ++ if c.name = "*" then [] else [c.name]

/-- The token of a name that may be the star. -/
def nameToken (s : String) : SelectToken := if s = "*" then .word .star else .name s

/-- The tokens of a column. -/
def tokens (c : Column) : List SelectToken :=
  c.table.elim [] (fun t ↦ [.name t, .word .dot]) ++ [nameToken c.name]

theorem text_nameToken (s : String) : (nameToken s).text = (renderName .mysql s).toList := by
  rw [nameToken, renderName]
  split <;> rfl

/-- A column in the text. -/
theorem written_tokens (p : String) : written (ofPath p).tokens = (renderPath .mysql p).toList := by
  rw [renderPath, ofPath, written]
  split
  · simp [tokens, text_nameToken, SelectWord.text, Dialect.mysql]
  · simp [tokens, text_nameToken]

theorem filterMap_name?_tokens (c : Column) : c.tokens.filterMap name? = c.quotedNames := by
  obtain ⟨_ | t, s⟩ := c <;> by_cases hs : s = "*" <;>
    simp [tokens, quotedNames, nameToken, List.filterMap_cons, hs]

theorem nameToken_inj {s s' : String} (h : nameToken s = nameToken s') : s = s' := by
  by_cases hs : s = "*" <;> by_cases hs' : s' = "*" <;> simp_all [nameToken]

/-- No word but the star begins a column. -/
theorem head?_tokens_append_ne (c : Column) (rest : List SelectToken) {w : SelectWord}
    (hw : w ≠ .star) : (c.tokens ++ rest).head? ≠ some (.word w) := by
  obtain ⟨_ | t, s⟩ := c
  · by_cases hs : s = "*" <;> simp [tokens, nameToken, hs, hw.symm]
  · simp [tokens]

/-- A column is told from what follows it, if that does not begin with a dot. -/
theorem tokens_append_inj {c e : Column} {rest rest' : List SelectToken}
    (hrest : rest.head? ≠ some (.word .dot)) (hrest' : rest'.head? ≠ some (.word .dot))
    (h : c.tokens ++ rest = e.tokens ++ rest') : c = e ∧ rest = rest' := by
  obtain ⟨_ | t, s⟩ := c <;> obtain ⟨_ | t', s'⟩ := e <;>
    simp only [tokens, Option.elim_none, Option.elim_some, List.nil_append, List.cons_append,
      List.cons.injEq] at h
  · obtain ⟨hs, rfl⟩ := h
    exact ⟨by rw [nameToken_inj hs], rfl⟩
  · exact absurd (congrArg List.head? h.2) hrest
  · exact absurd (congrArg List.head? h.2).symm hrest'
  · obtain ⟨ht, -, hs, rfl⟩ := h
    cases ht
    exact ⟨by rw [nameToken_inj hs], rfl⟩

end Column

/-! ## Entries -/

namespace Selected

/-- The function that an entry calls, and whether it asks for distinct values. -/
def call? : Selected → Option (Aggregate × Bool)
  | countStar => some (.count, false)
  | aggregate f distinct _ _ => some (f, distinct)
  | _ => none

/-- The path that an entry is about. -/
def path : Selected → String
  | star => "*"
  | countStar => "*"
  | field path => path
  | aliased path _ => path
  | aggregate _ _ path _ => path

/-- The tokens in front of the path. -/
def opening (call? : Option (Aggregate × Bool)) : List SelectToken :=
  call?.elim [] fun (f, distinct) ↦ .word (.call f) :: if distinct then [.word .distinct] else []

/-- The tokens after the path. -/
def closing (call? : Option (Aggregate × Bool)) (name? : Option String) : List SelectToken :=
  call?.elim [] (fun _ ↦ [.word .close]) ++ name?.elim [] fun n ↦ [.word .asKeyword, .name n]

/-- The tokens of an entry. -/
def tokens (e : Selected) : List SelectToken :=
  opening e.call? ++ ((Column.ofPath e.path).tokens ++ closing e.call? e.name?)

/-- The names of an entry that are quoted. -/
def quotedNames (e : Selected) : List String :=
  (Column.ofPath e.path).quotedNames ++ e.name?.toList

/-- An entry in the text. -/
theorem written_tokens (e : Selected) : written e.tokens = (e.render .mysql).toList := by
  have hpath (p : String) :
      (Column.ofPath p).tokens.flatMap text = (renderPath .mysql p).toList :=
    Column.written_tokens p
  rw [tokens, written]
  cases e with
  | star => decide
  | countStar => decide
  | field p => simp [hpath, call?, path, Selected.name?, opening, closing, render]
  | aliased p n =>
    simp [hpath, call?, path, Selected.name?, opening, closing, render, SelectWord.text,
      Dialect.mysql]
  | aggregate f distinct p n =>
    cases distinct <;>
      simp [hpath, call?, path, Selected.name?, opening, closing, render, SelectWord.text,
        Dialect.mysql]

/-- The names among the tokens of an entry. -/
theorem filterMap_name?_tokens (e : Selected) :
    e.tokens.filterMap SelectToken.name? = e.quotedNames := by
  rw [tokens, quotedNames, List.filterMap_append, List.filterMap_append,
    Column.filterMap_name?_tokens]
  rcases e.call? with _ | ⟨f, _ | _⟩ <;> rcases e.name? with _ | n <;>
    simp [opening, closing, List.filterMap_cons]

/-- In an entry no two names stand next to each other. -/
theorem isChain_tokens (e : Selected) : e.tokens.IsChain Meet := by
  rw [tokens, Column.tokens]
  rcases e.call? with _ | ⟨f, _ | _⟩ <;> rcases e.name? with _ | n <;>
    rcases (Column.ofPath e.path).table with _ | t <;> simp [opening, closing]

/-- An entry has no comma. -/
theorem comma_notMem_tokens (e : Selected) : .word .comma ∉ e.tokens := by
  have hname (s : String) : .word .comma ≠ Column.nameToken s := by
    by_cases hs : s = "*" <;> simp [Column.nameToken, hs]
  rw [tokens, Column.tokens]
  rcases e.call? with _ | ⟨f, _ | _⟩ <;> rcases e.name? with _ | n <;>
    rcases (Column.ofPath e.path).table with _ | t <;> simp [opening, closing, hname]

/-- What stands in front of a path is told from the path. -/
theorem opening_append_inj {call call' : Option (Aggregate × Bool)} {c c' : Column}
    {rest rest' : List SelectToken}
    (h : opening call ++ (c.tokens ++ rest) = opening call' ++ (c'.tokens ++ rest')) :
    call = call' ∧ c.tokens ++ rest = c'.tokens ++ rest' := by
  have hcolumn (w : SelectWord) (hw : w ≠ .star) : ∀ ts, c.tokens ++ rest ≠ .word w :: ts :=
    fun ts hts ↦ c.head?_tokens_append_ne rest hw (congrArg List.head? hts)
  have hcolumn' (w : SelectWord) (hw : w ≠ .star) : ∀ ts, .word w :: ts ≠ c'.tokens ++ rest' :=
    fun ts hts ↦ c'.head?_tokens_append_ne rest' hw (congrArg List.head? hts).symm
  rcases call with _ | ⟨f, distinct⟩ <;> rcases call' with _ | ⟨f', distinct'⟩
  · exact ⟨rfl, h⟩
  · exact absurd h (hcolumn (.call f') nofun _)
  · exact absurd h (hcolumn' (.call f) nofun _)
  · obtain ⟨hf, harguments⟩ := List.cons.inj h
    cases hf
    cases distinct <;> cases distinct'
    · exact ⟨rfl, harguments⟩
    · exact absurd harguments (hcolumn .distinct nofun _)
    · exact absurd harguments (hcolumn' .distinct nofun _)
    · exact ⟨rfl, (List.cons.inj harguments).2⟩

/-- An entry is known from its parts, as no column alone is the star. -/
theorem ext_parts {e e' : Selected} (he : e ≠ .field "*") (he' : e' ≠ .field "*")
    (hcall : e.call? = e'.call?) (hpath : e.path = e'.path) (hname : e.name? = e'.name?) :
    e = e' := by
  cases e <;> cases e' <;> simp_all [call?, path, Selected.name?]

/-- The tokens of an entry say what it is. -/
theorem tokens_inj {e e' : Selected} (he : e ≠ .field "*") (he' : e' ≠ .field "*")
    (h : e.tokens = e'.tokens) : e = e' := by
  have hdot (call : Option (Aggregate × Bool)) (n : Option String) :
      (closing call n).head? ≠ some (.word .dot) := by
    rcases call with _ | c <;> rcases n with _ | n <;> simp [closing]
  obtain ⟨hcall, hrest⟩ := opening_append_inj h
  obtain ⟨hcolumn, hclosing⟩ := Column.tokens_append_inj (hdot _ _) (hdot _ _) hrest
  refine ext_parts he he' hcall ?_ ?_
  · rw [← Column.path_ofPath e.path, hcolumn, Column.path_ofPath]
  · rw [hcall] at hclosing
    have hname := List.append_cancel_left hclosing
    cases hn : e.name? <;> cases hn' : e'.name? <;> simp_all

/-- The star is read as all columns and never as a column. -/
theorem parse_ne_field_star (s : String) : parse s ≠ .field "*" := by
  intro h
  rw [parse, ← means_iff, means_field_iff] at h
  obtain ⟨hp, -, hstar⟩ := h
  exact hp (.inl hstar.symm)

end Selected

/-! ## Lists -/

/-- The tokens of a `SELECT` list. -/
def projectionTokens (es : List Selected) : List SelectToken :=
  [.word .comma].intercalate (es.map Selected.tokens)

theorem isChain_projectionTokens (es : List Selected) : (projectionTokens es).IsChain Meet := by
  induction es with
  | nil => exact .nil
  | cons e es ih =>
    cases es with
    | nil => simpa [projectionTokens] using e.isChain_tokens
    | cons e' es =>
      rw [projectionTokens, List.map_cons, List.map_cons, List.intercalate_cons_cons,
        List.append_assoc, List.singleton_append]
      refine e.isChain_tokens.append (List.isChain_cons.mpr ⟨fun _ _ ↦ ?_, ih⟩) fun _ _ _ hu ↦ ?_
      · exact meet_word_left _ _
      · cases hu
        exact meet_word_right _ _

theorem written_intercalate (tss : List (List SelectToken)) :
    written ([.word .comma].intercalate tss) = ", ".toList.intercalate (tss.map written) := by
  induction tss with
  | nil => rfl
  | cons ts tss ih =>
    cases tss with
    | nil => simp
    | cons us tss =>
      rw [List.map_cons, List.map_cons, List.intercalate_cons_cons, List.intercalate_cons_cons,
        ← List.map_cons, ← ih, written, List.flatMap_append, List.flatMap_append]
      rfl

/-- A `SELECT` list is the text of its tokens. -/
theorem written_projectionTokens {entries : List String} (hne : entries ≠ []) :
    written (projectionTokens (entries.map Selected.parse))
      = (renderProjection .mysql entries).toList := by
  rw [renderProjection, if_neg (by simpa using hne), projectionTokens, written_intercalate,
    String.toList_intercalate, List.map_map, List.map_map, List.map_map]
  congr 1
  exact List.map_congr_left fun e _ ↦ (Selected.parse e).written_tokens

/-- The entries of a list are known from its tokens. -/
theorem projectionTokens_inj {entries entries' : List String} (hne : entries ≠ [])
    (hne' : entries' ≠ [])
    (h : projectionTokens (entries.map Selected.parse)
      = projectionTokens (entries'.map Selected.parse)) :
    entries.map Selected.parse = entries'.map Selected.parse := by
  have hcomma (es : List Selected) : ∀ ts ∈ es.map Selected.tokens, .word .comma ∉ ts := by
    rintro ts hts
    obtain ⟨e, -, rfl⟩ := List.mem_map.mp hts
    exact e.comma_notMem_tokens
  -- the list is cut at its commas
  have hcut := congrArg (List.splitOn (.word .comma)) h
  rw [projectionTokens, projectionTokens, List.splitOn_intercalate _ (hcomma _) (by simpa),
    List.splitOn_intercalate _ (hcomma _) (by simpa)] at hcut
  rw [← List.forall₂_eq_eq_eq] at hcut ⊢
  simp only [List.forall₂_map_left_iff, List.forall₂_map_right_iff] at hcut ⊢
  exact hcut.imp fun e e' ↦
    Selected.tokens_inj (Selected.parse_ne_field_star e) (Selected.parse_ne_field_star e')

/-- What a reader of quoted names finds in a `SELECT` list. -/
theorem lexemes_renderProjection {entries : List String} (hne : entries ≠ []) :
    lexemes .outside (renderProjection .mysql entries).toList
      = (projectionTokens (entries.map Selected.parse)).flatMap found := by
  rw [← written_projectionTokens hne, lexemes_written (isChain_projectionTokens _)]

/-- A `SELECT` list is read back: two lists have one text exactly if their entries mean the same one
by one. Outside of quoted parts the text has only the words of its entries, with a comma between
entries and nowhere else, and the quoted parts of each entry stand for its names in order. -/
theorem renderProjection_read_back (first first' : String) (later later' : List String) :
    (renderProjection .mysql (first :: later) = renderProjection .mysql (first' :: later') ↔
      (first :: later).map Selected.parse = (first' :: later').map Selected.parse) ∧
    lexemes .outside (renderProjection .mysql (first :: later)).toList
      = (projectionTokens ((first :: later).map Selected.parse)).flatMap found ∧
    ∀ e : Selected, .word .comma ∉ e.tokens ∧
      e.tokens.filterMap SelectToken.name? = e.quotedNames := by
  have hread (e : String) (es : List String) := lexemes_renderProjection (List.cons_ne_nil e es)
  refine ⟨⟨fun h ↦ ?_, fun h ↦ ?_⟩, hread first later, fun e ↦ ?_⟩
  · refine projectionTokens_inj (List.cons_ne_nil _ _) (List.cons_ne_nil _ _)
      (found_flatMap_inj ?_)
    rw [← hread, ← hread, h]
  · rw [← String.toList_inj, ← written_projectionTokens (List.cons_ne_nil _ _), h,
      written_projectionTokens (List.cons_ne_nil _ _)]
  · exact ⟨e.comma_notMem_tokens, e.filterMap_name?_tokens⟩

/-- Marks and commas in a name stay in it. -/
example : lexemes .outside (renderProjection .mysql ["a`, `b c", "max(x) as `,`"]).toList
    = .name "a`, `b c" :: ", max(".toList.map .plain ++ .name "x" :: ") AS ".toList.map .plain
      ++ [.name "`,`"] := by
  decide +kernel

end BoundSql
