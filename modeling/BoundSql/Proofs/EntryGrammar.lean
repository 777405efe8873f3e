import BoundSql.Proofs.EntryForms

/-!
# The grammar of SELECT entries

Every text is an entry of a `SELECT` list, and `Selected.Means` says by one rule for each kind of
entry what it is. There are five kinds. The rules for a star, a count and an aggregate exclude each
other, since the first two are single words; an alias is read only where none of them applies, and
what is left is a column. Forms are unique, so the rules give each text one meaning, and this is how
it is read (`Selected.means_iff`).
-/

namespace BoundSql

open Text

/-- An entry with a name is more than one word. -/
theorem not_all_isInk_of_splitAlias? {cs target name : List Char}
    (h : splitAlias? cs = some (target, name)) : ¬ cs.all isInk = true := by
  obtain ⟨-, -, n, rfl, -⟩ := Naming.exists_naming h
  exact not_all_isInk _ _ n.before

namespace Selected

/-! ## Rules -/

/-- The forms that are tried before that of an alias. -/
def Preferred (cs : List Char) : Prop :=
  cs = ['*'] ∨ sameWord cs countColumn.toList = true ∨ ∃ form : AggregateForm, form.text = cs

/-- What a text without blanks around it means. -/
inductive Means (cs : List Char) (e : Selected) : Prop where
  | star (h : cs = ['*']) (he : e = .star)
  | countStar (h : sameWord cs countColumn.toList = true) (he : e = .countStar)
  | aggregate (form : AggregateForm) (h : form.text = cs) (he : e = form.entry)
  | aliased (form : AliasForm) (h : form.text = cs) (hp : ¬ Preferred cs) (he : e = form.entry)
  | field (ha : ¬ ∃ form : AliasForm, form.text = cs) (hp : ¬ Preferred cs)
    (he : e = .field (String.ofList cs))

/-! ## Reading by the rules -/

section Named

variable {cs target name : List Char} (h : splitAlias? cs = some (target, name))

include h

theorem ne_star_of_splitAlias? : cs ≠ ['*'] := by
  rintro rfl
  exact not_all_isInk_of_splitAlias? h (by decide)

theorem not_sameWord_of_splitAlias? : ¬ sameWord cs countColumn.toList = true := by
  intro hcount
  refine not_all_isInk_of_splitAlias? h (all_isInk_of_map (f := Char.toLower) (by decide) ?_)
  rw [sameWord_iff.mp hcount]
  decide

/-- An entry whose target is no call is none of the forms that are tried first. -/
theorem not_preferred (hcall : Aggregate.readCall? target = none) : ¬ Preferred cs := by
  rintro (hstar | hcount | ⟨form, rfl⟩)
  · exact ne_star_of_splitAlias? h hstar
  · exact not_sameWord_of_splitAlias? h hcount
  · rw [← form.call_text_eq h, form.call.readCall?_text] at hcall
    cases hcall

/-- An entry with a name is an aggregate or an alias, or it is a column after all. -/
theorem means_of_splitAlias? : Means cs (ofTrimmed cs) := by
  obtain ⟨hne, -, n, htext, hname⟩ := Naming.exists_naming h
  rw [ofTrimmed, if_neg (ne_star_of_splitAlias? h), if_neg (not_sameWord_of_splitAlias? h), h]
  rcases hcall : Aggregate.readCall? target with _ | ⟨f, distinct, path⟩
  · have hpreferred := not_preferred h hcall
    by_cases hink : target.all isInk = true
    · refine .aliased ⟨⟨target, hne, hink⟩, n⟩ htext hpreferred ?_
      simp only [hcall, hink, AliasForm.entry, hname, if_true]
    · refine .field ?_ hpreferred (by simp only [hcall, if_neg hink])
      rintro ⟨form, rfl⟩
      exact hink (form.path_text_eq h ▸ form.path.all)
  · obtain ⟨c, rfl, rfl, rfl, rfl⟩ := Call.exists_call hcall
    refine .aggregate ⟨c, n⟩ htext ?_
    simp only [hcall, AggregateForm.entry, hname]

end Named

/-- An entry without a name is a star, a count or a column. -/
theorem means_of_splitAlias?_eq_none {cs : List Char} (h : splitAlias? cs = none) :
    Means cs (ofTrimmed cs) := by
  have hform (form : AggregateForm) : form.text ≠ cs := by
    rintro rfl
    rw [form.splitAlias?_text] at h
    cases h
  have halias (form : AliasForm) : form.text ≠ cs := by
    rintro rfl
    rw [form.splitAlias?_text] at h
    cases h
  by_cases hstar : cs = ['*']
  · exact .star hstar (by rw [ofTrimmed, if_pos hstar])
  by_cases hcount : sameWord cs countColumn.toList = true
  · exact .countStar hcount (by rw [ofTrimmed, if_neg hstar, if_pos hcount])
  · refine .field (not_exists.mpr halias) ?_ (by rw [ofTrimmed, if_neg hstar, if_neg hcount, h])
    rintro (h | h | ⟨form, h⟩)
    · exact hstar h
    · exact hcount h
    · exact hform form h

/-- An entry is read by one of the rules. -/
theorem means_ofTrimmed (cs : List Char) : Means cs (ofTrimmed cs) := by
  rcases h : splitAlias? cs with _ | ⟨target, name⟩
  · exact means_of_splitAlias?_eq_none h
  · exact means_of_splitAlias? h

/-! ## The rules leave nothing open -/

theorem ofTrimmed_aggregateForm (form : AggregateForm) : ofTrimmed form.text = form.entry := by
  have h := form.splitAlias?_text
  rw [ofTrimmed, if_neg (ne_star_of_splitAlias? h), if_neg (not_sameWord_of_splitAlias? h), h]
  simp only [form.call.readCall?_text, AggregateForm.entry]

/-- What has none of the preferred forms is an alias or a column. -/
theorem Means.of_not_preferred {cs : List Char} {e : Selected} (h : Means cs e)
    (hp : ¬ Preferred cs) :
    (∃ form : AliasForm, form.text = cs ∧ e = form.entry) ∨
      (¬ ∃ form : AliasForm, form.text = cs) ∧ e = .field (String.ofList cs) := by
  cases h with
  | star hstar => exact absurd (.inl hstar) hp
  | countStar hcount => exact absurd (.inr (.inl hcount)) hp
  | aggregate form hform => exact absurd (.inr (.inr ⟨form, hform⟩)) hp
  | aliased form hform _ he => exact .inl ⟨form, hform, he⟩
  | field ha _ he => exact .inr ⟨ha, he⟩

/-- The rules give every text one meaning. -/
theorem means_iff {cs : List Char} {e : Selected} : Means cs e ↔ ofTrimmed cs = e := by
  constructor
  · intro h
    cases h with
    | star hstar he => rw [he, ofTrimmed, if_pos hstar]
    | countStar hcount he =>
      have hstar : cs ≠ ['*'] := by
        rintro rfl
        exact absurd hcount (by decide)
      rw [he, ofTrimmed, if_neg hstar, if_pos hcount]
    | aggregate form hform he => rw [he, ← hform, ofTrimmed_aggregateForm]
    | aliased form hform hp he =>
      rcases (means_ofTrimmed cs).of_not_preferred hp with ⟨form', hform', he'⟩ | ⟨ha, -⟩
      · rw [he, he', AliasForm.text_injective (hform'.trans hform.symm)]
      · exact absurd ⟨form, hform⟩ ha
    | field ha hp he =>
      rcases (means_ofTrimmed cs).of_not_preferred hp with ⟨form, hform, -⟩ | ⟨-, he'⟩
      · exact absurd ⟨form, hform⟩ ha
      · rw [he, he']
  · rintro rfl
    exact means_ofTrimmed cs

section Kinds

variable {cs : List Char}

theorem means_star_iff : Means cs .star ↔ cs = ['*'] := by
  refine ⟨fun h ↦ ?_, fun h ↦ .star h rfl⟩
  cases h with
  | star h => exact h
  | countStar _ he | aggregate _ _ he | aliased _ _ _ he | field _ _ he => cases he

theorem means_countStar_iff :
    Means cs .countStar ↔ sameWord cs countColumn.toList = true := by
  refine ⟨fun h ↦ ?_, fun h ↦ .countStar h rfl⟩
  cases h with
  | countStar h => exact h
  | star _ he | aggregate _ _ he | aliased _ _ _ he | field _ _ he => cases he

theorem means_aggregate_iff {f : Aggregate} {distinct : Bool} {path name : String} :
    Means cs (.aggregate f distinct path name) ↔
      ∃ form : AggregateForm, form.entry = .aggregate f distinct path name ∧ form.text = cs := by
  refine ⟨fun h ↦ ?_, fun ⟨form, he, h⟩ ↦ .aggregate form h he.symm⟩
  cases h with
  | aggregate form h he => exact ⟨form, he.symm, h⟩
  | star _ he | countStar _ he | aliased _ _ _ he | field _ _ he => cases he

theorem means_aliased_iff {path name : String} :
    Means cs (.aliased path name) ↔
      ¬ Preferred cs ∧ ∃ form : AliasForm, form.entry = .aliased path name ∧ form.text = cs := by
  refine ⟨fun h ↦ ?_, fun ⟨hp, form, he, h⟩ ↦ .aliased form h hp he.symm⟩
  cases h with
  | aliased form h hp he => exact ⟨hp, form, he.symm, h⟩
  | star _ he | countStar _ he | aggregate _ _ he | field _ _ he => cases he

theorem means_field_iff {path : String} :
    Means cs (.field path) ↔
      ¬ Preferred cs ∧ (¬ ∃ form : AliasForm, form.text = cs) ∧ path.toList = cs := by
  constructor
  · intro h
    cases h with
    | field ha hp he => exact ⟨hp, ha, by rw [field.inj he, String.toList_ofList]⟩
    | star _ he | countStar _ he | aggregate _ _ he | aliased _ _ _ he => cases he
  · rintro ⟨hp, ha, rfl⟩
    exact .field ha hp (by rw [String.ofList_toList])

end Kinds

end Selected

/-- Since no text has two forms, having one is the same as having exactly one. -/
theorem exists_only_iff {F : Type} {text : F → List Char} (hinj : Function.Injective text)
    {cs : List Char} {P : F → Prop} :
    (∃ form, P form ∧ ∀ other, text other = cs ↔ other = form) ↔
      ∃ form, P form ∧ text form = cs := by
  refine exists_congr fun form ↦ and_congr_right fun _ ↦ ⟨fun h ↦ (h form).mpr rfl, ?_⟩
  rintro rfl other
  exact hinj.eq_iff

/-- An entry is read by the grammar. With `cs` for its text without the blanks around it:

* `cs` is the star;
* `cs` is `count(*)`, up to the case of ASCII letters;
* there is exactly one way to write `cs` as `function([distinct] path) as name`, where the function
  is spelled up to the case of ASCII letters, the keywords are spelled up to simple case folding,
  the keyword `distinct` is there or not, and the path and the name are words;
* none of these, and there is exactly one way to write `cs` as `path as name`, where the path and
  the name are words;
* in every other case `cs` is a path itself. -/
theorem entry_read_by_grammar (s : String) :
    (Selected.parse s = .star ↔ trim s.toList = ['*']) ∧
      (Selected.parse s = .countStar ↔
        sameWord (trim s.toList) "count(*)".toList = true) ∧
      (∀ f distinct path name, Selected.parse s = .aggregate f distinct path name ↔
        ∃ form : AggregateForm, form.entry = .aggregate f distinct path name ∧
          ∀ other : AggregateForm, other.text = trim s.toList ↔ other = form) ∧
      (∀ path name, Selected.parse s = .aliased path name ↔
        ¬ Selected.Preferred (trim s.toList) ∧
          ∃ form : AliasForm, form.entry = .aliased path name ∧
            ∀ other : AliasForm, other.text = trim s.toList ↔ other = form) ∧
      ∀ path, Selected.parse s = .field path ↔
        ¬ Selected.Preferred (trim s.toList) ∧ (¬ ∃ form : AliasForm, form.text = trim s.toList) ∧
          path.toList = trim s.toList := by
  have hmeans (e : Selected) : Selected.parse s = e ↔ Selected.Means (trim s.toList) e :=
    Selected.means_iff.symm
  refine ⟨?_, ?_, fun f distinct path name ↦ ?_, fun path name ↦ ?_, fun path ↦ ?_⟩
  · rw [hmeans, Selected.means_star_iff]
  · rw [hmeans, Selected.means_countStar_iff, countColumn]
  · rw [hmeans, Selected.means_aggregate_iff, exists_only_iff AggregateForm.text_injective]
  · rw [hmeans, Selected.means_aliased_iff, exists_only_iff AliasForm.text_injective]
  · rw [hmeans, Selected.means_field_iff]

/-- A call of no function: the long `ſ` makes it another name, and the target of an alias. -/
example : Selected.parse "ſum(x) aſ y" = .aliased "ſum(x)" "y" := by decide +kernel

end BoundSql
