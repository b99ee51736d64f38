import SeriesSql.Proofs.Sql.Composition
import SeriesSql.Proofs.Sql.Reading

/-!
# Filling placeholders

`Fragment.inlined` goes through a text once and writes a value at every placeholder.  On its way it
carries whether a literal is open and the values that are left, so a fragment inside a larger one is
filled as it is alone only if it starts outside literals and with its own values.

There are three groups.

* The fill of glued texts.  `fillPlaceholders_append` says with which state and which values the
  second text starts.
* What is left.  Every value takes away one placeholder and brings in none, whatever is in it:
  `countPlaceholders_fillPlaceholders`.
* Fragments.  Inlining goes along with all ways to put fragments together:
  `inlined_composition`.
-/

namespace SeriesSql.Sql

/-! ## Glued texts -/

/-- A text that is not closed leaves the fill in the other state, and its placeholders have used up
their values. -/
theorem fillPlaceholders_append (inside : Bool) (params : List Value) (cs ds : List Char) :
    fillPlaceholders inside params (cs ++ ds) =
      fillPlaceholders inside params cs ++
        fillPlaceholders (if IsClosed cs then inside else !inside)
          (params.drop (countPlaceholders inside cs)) ds := by
  induction cs generalizing inside params with
  | nil => simp [fillPlaceholders, countPlaceholders, IsClosed]
  | cons c cs ih =>
    by_cases hquote : c = '\''
    · subst hquote
      by_cases hcs : IsClosed cs
      · simp [fillPlaceholders, countPlaceholders, ih, hcs, isClosed_quote_cons]
      · simp [fillPlaceholders, countPlaceholders, ih, hcs, isClosed_quote_cons]
    · have hsame : IsClosed (c :: cs) ↔ IsClosed cs := isClosed_cons_of_ne hquote
      by_cases hmark : c = '?' && !inside
      · cases params with
        | nil => simp [fillPlaceholders, countPlaceholders, hquote, hmark, hsame, ih]
        | cons v params => simp [fillPlaceholders, countPlaceholders, hquote, hmark, hsame, ih]
      · simp [fillPlaceholders, countPlaceholders, hquote, hmark, hsame, ih]

/-- Values beyond the placeholders are not written. -/
theorem fillPlaceholders_more {inside : Bool} {params : List Value} {cs : List Char}
    (h : countPlaceholders inside cs ≤ params.length) (more : List Value) :
    fillPlaceholders inside (params ++ more) cs = fillPlaceholders inside params cs := by
  induction cs generalizing inside params with
  | nil => rfl
  | cons c cs ih =>
    by_cases hquote : c = '\''
    · simp only [countPlaceholders, hquote, if_true] at h
      simp [fillPlaceholders, hquote, ih h]
    · by_cases hmark : c = '?' && !inside
      · simp only [countPlaceholders, hquote, hmark, if_true, if_false] at h
        cases params with
        | nil => simp at h
        | cons v params =>
          have hrest : countPlaceholders inside cs ≤ params.length := by simpa using h
          simp [fillPlaceholders, hquote, hmark, ih hrest]
      · simp only [countPlaceholders, hquote, hmark, if_false, Bool.false_eq_true] at h
        simp [fillPlaceholders, hquote, hmark, ih h]

/-! ## What is left -/

/-- A value is written without a placeholder, also if it is a text with quotes and question
marks. -/
theorem Value.countPlaceholders_literal (v : Value) (rest : List Char) :
    countPlaceholders false (v.literal ++ rest) = countPlaceholders false rest := by
  cases v with
  | text s =>
    simp [Value.literal, quoteChars, countPlaceholders, countPlaceholders_doubleQuotes]
  | integer n => exact countPlaceholders_calm (calm_toString_int n.toInt) false rest
  | real x => exact countPlaceholders_calm (calm_render x) false rest

/-- Every value takes away one placeholder. -/
theorem countPlaceholders_fillPlaceholders (inside : Bool) (params : List Value) (cs : List Char) :
    countPlaceholders inside (fillPlaceholders inside params cs) =
      countPlaceholders inside cs - params.length := by
  induction cs generalizing inside params with
  | nil => simp [fillPlaceholders, countPlaceholders]
  | cons c cs ih =>
    by_cases hquote : c = '\''
    · simp [fillPlaceholders, countPlaceholders, hquote, ih]
    · by_cases hmark : c = '?' && !inside
      · have houtside : inside = false := by simp at hmark; exact hmark.2
        subst houtside
        cases params with
        | nil => simp [fillPlaceholders, countPlaceholders, hquote, ih]
        | cons v params =>
          simp only [fillPlaceholders, countPlaceholders, hquote, hmark, if_true, if_false,
            Value.countPlaceholders_literal, ih, List.length_cons]
          omega
      · simp [fillPlaceholders, countPlaceholders, hquote, hmark, ih]

/-! ## Fragments -/

namespace Fragment

theorem toList_inlined (f : Fragment) :
    f.inlined.toList = fillPlaceholders false f.params f.text.toList := by
  rw [inlined, String.toList_ofList]

/-- A stable fragment takes its own values and leaves no literal open, so what follows is filled as
it is alone. -/
theorem Stable.inlined_append {f : Fragment} (hf : f.Stable) (g : Fragment) :
    (f ++ g).inlined = f.inlined ++ g.inlined := by
  have hclosed : IsClosed f.text.toList := hf.closed
  have hcount : countPlaceholders false f.text.toList = f.params.length :=
    isBalanced_iff.mp hf.balanced
  have htext : (f ++ g).text.toList = f.text.toList ++ g.text.toList := String.toList_append
  have hparams : (f ++ g).params = f.params ++ g.params := rfl
  apply String.toList_inj.mp
  calc (f ++ g).inlined.toList
      = fillPlaceholders false (f.params ++ g.params) (f.text.toList ++ g.text.toList) := by
        rw [toList_inlined, htext, hparams]
    _ = fillPlaceholders false (f.params ++ g.params) f.text.toList ++
          fillPlaceholders false g.params g.text.toList := by
        rw [fillPlaceholders_append, if_pos hclosed, hcount, List.drop_left]
    _ = f.inlined.toList ++ g.inlined.toList := by
        rw [fillPlaceholders_more (Nat.le_of_eq hcount), toList_inlined, toList_inlined]
    _ = (f.inlined ++ g.inlined).toList := String.toList_append.symm

/-- Parentheses are filled as they are, even after a literal that is left open. -/
theorem inlined_parenthesize (f : Fragment) :
    f.parenthesize.inlined = "(" ++ f.inlined ++ ")" := by
  apply String.toList_inj.mp
  simp [toList_inlined, parenthesize, fillPlaceholders, fillPlaceholders_append]

/-- A text without quotes and question marks is inlined as it is. -/
theorem inlined_separator {separator : String} (hquote : '\'' ∉ separator.toList)
    (hmark : '?' ∉ separator.toList) :
    Stable ⟨separator, []⟩ ∧ inlined ⟨separator, []⟩ = separator := by
  have hcalm : ∀ c ∈ separator.toList, IsCalm c := by
    intro c hc
    constructor
    · intro heq
      exact hquote (heq ▸ hc)
    · intro heq
      exact hmark (heq ▸ hc)
  have hcount := countPlaceholders_calm hcalm false []
  have hfill := fillPlaceholders_calm hcalm false [] []
  rw [List.append_nil] at hcount hfill
  refine ⟨⟨isBalanced_iff.mpr hcount, ?_⟩, ?_⟩
  · show IsClosed separator.toList
    rw [IsClosed, List.count_eq_zero_of_not_mem hquote]
    exact Even.zero
  · apply String.toList_inj.mp
    rw [toList_inlined, hfill, fillPlaceholders, List.append_nil]

/-- Stable fragments that are joined are inlined one by one. -/
theorem inlined_combine {fragments : List Fragment} {separator : String}
    (hsome : fragments ≠ []) (hfragments : ∀ f ∈ fragments, f.Stable)
    (hquote : '\'' ∉ separator.toList) (hmark : '?' ∉ separator.toList) :
    ∃ f, combine fragments separator = .ok f ∧
      f.inlined = String.intercalate separator (fragments.map inlined) := by
  obtain ⟨hneutral, hinlined⟩ := inlined_separator hquote hmark
  induction fragments with
  | nil => exact absurd rfl hsome
  | cons first rest ih =>
    obtain ⟨hfirst, hrest⟩ := List.forall_mem_cons.mp hfragments
    cases rest with
    | nil => exact ⟨first, by simp [combine], by simp⟩
    | cons second rest =>
      obtain ⟨glued, hglued, htext⟩ := ih (by simp) hrest
      refine ⟨first ++ ((⟨separator, []⟩ : Fragment) ++ glued), ?_, ?_⟩
      · rw [combine_cons_cons, hglued]
        rfl
      · simp only [hfirst.inlined_append, hneutral.inlined_append, hinlined, htext, List.map_cons,
          String.intercalate_cons_cons, String.append_assoc]

/-- Inlining goes along with appending, putting in parentheses and joining, and leaves no
placeholder of a balanced fragment. -/
theorem inlined_composition :
    (∀ f g : Fragment, f.Stable → (f ++ g).inlined = f.inlined ++ g.inlined) ∧
    (∀ f : Fragment, f.parenthesize.inlined = "(" ++ f.inlined ++ ")") ∧
    (∀ fragments separator, fragments ≠ [] → (∀ f ∈ fragments, Stable f) →
      '\'' ∉ separator.toList → '?' ∉ separator.toList →
      ∃ f, combine fragments separator = .ok f ∧
        f.inlined = String.intercalate separator (fragments.map inlined)) ∧
    ∀ f : Fragment, f.isBalanced = true → countPlaceholders false f.inlined.toList = 0 := by
  refine ⟨fun f g hf => hf.inlined_append g, inlined_parenthesize, ?_, ?_⟩
  · intro fragments separator hsome hfragments hquote hmark
    exact inlined_combine hsome hfragments hquote hmark
  · intro f hf
    rw [toList_inlined, countPlaceholders_fillPlaceholders, isBalanced_iff.mp hf, Nat.sub_self]

/-- A value with quotes and a question mark, a literal with one of its own, and a fragment that is
balanced but leaves a literal open. -/
theorem inlined_composition_hostile :
    ∃ name note tail : Fragment,
      name = ⟨"name = ?", [.text "it's '?'"]⟩ ∧ note = ⟨"note = 'why?'", []⟩ ∧
      tail = ⟨"? AND 'rest", [.integer 7]⟩ ∧
      name.Stable ∧ note.Stable ∧ tail.isBalanced = true ∧
      (name ++ note).inlined = name.inlined ++ note.inlined ∧
      (∃ f, combine [name, note, name] " AND " = .ok f ∧
        f.inlined = String.intercalate " AND " [name.inlined, note.inlined, name.inlined]) ∧
      countPlaceholders false tail.inlined.toList = 0 := by
  obtain ⟨happend, -, hcombine, hleft⟩ := inlined_composition
  have hname : Stable ⟨"name = ?", [.text "it's '?'"]⟩ := ⟨rfl, by decide⟩
  have hnote : Stable ⟨"note = 'why?'", []⟩ := ⟨rfl, by decide⟩
  refine ⟨_, _, _, rfl, rfl, rfl, hname, hnote, rfl, happend _ _ hname, ?_, hleft _ rfl⟩
  apply hcombine _ _ (by simp)
  · simp [hname, hnote]
  · decide
  · decide

end Fragment

end SeriesSql.Sql
