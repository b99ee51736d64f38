import Mathlib.Algebra.Group.Nat.Even
import Mathlib.Data.List.Count
import SeriesSql.Sql.Fragment

/-!
# Composition of fragments

`Fragment.ofText` counts the placeholders of a text on its own.  The other ways to build a fragment
glue texts together and do not count again, so a literal that one text leaves open swallows the
placeholders of the next, and a separator can bring in placeholders that have no value.

There are four groups.

* The scan of glued texts, which goes on in the state in which the first text left it.
* `Fragment.Built`, the fragments that the operations yield from texts and separators of some kind.
  With any texts and separators there are fragments out of balance:
  `openLiteral_append_unbalanced`.
* Texts whose literals are closed and separators that are neutral, from which only `Stable`
  fragments are built.
* The texts and separators that do no harm, which are just these: `forall_built_isBalanced_iff`.
-/

namespace SeriesSql.Sql

/-! ## Glued texts -/

/-- Quotes come in pairs, so the text ends outside any literal. -/
def IsClosed (cs : List Char) : Prop := Even (cs.count '\'')

instance (cs : List Char) : Decidable (IsClosed cs) := inferInstanceAs (Decidable (Even _))

theorem isClosed_append {cs ds : List Char} (hcs : IsClosed cs) (hds : IsClosed ds) :
    IsClosed (cs ++ ds) := by
  rw [IsClosed, List.count_append]
  exact Even.add hcs hds

theorem isClosed_quote_cons {cs : List Char} : IsClosed ('\'' :: cs) ↔ ¬IsClosed cs := by
  rw [IsClosed, IsClosed, List.count_cons_self, Nat.even_add_one]

theorem isClosed_cons_of_ne {c : Char} {cs : List Char} (h : c ≠ '\'') :
    IsClosed (c :: cs) ↔ IsClosed cs := by
  rw [IsClosed, IsClosed, List.count_cons_of_ne h]

/-- The scan of a glued text.  A text that is not closed leaves the scan in the other state. -/
theorem countPlaceholders_append (inside : Bool) (cs ds : List Char) :
    countPlaceholders inside (cs ++ ds) =
      countPlaceholders inside cs +
        countPlaceholders (if IsClosed cs then inside else !inside) ds := by
  induction cs generalizing inside with
  | nil => simp [countPlaceholders, IsClosed]
  | cons c cs ih =>
    by_cases hquote : c = '\''
    · subst hquote
      by_cases hcs : IsClosed cs
      · simp [countPlaceholders, ih, hcs, isClosed_quote_cons]
      · simp [countPlaceholders, ih, hcs, isClosed_quote_cons]
    · have hsame : IsClosed (c :: cs) ↔ IsClosed cs := isClosed_cons_of_ne hquote
      by_cases hmark : c = '?' && !inside
      · simp only [List.cons_append, countPlaceholders, hquote, if_false, hmark, if_true, ih, hsame]
        omega
      · simp only [List.cons_append, countPlaceholders, hquote, if_false, hmark, ih, hsame]
        simp

/-- A closed text does not change how the rest is scanned. -/
theorem countPlaceholders_closed {cs : List Char} (h : IsClosed cs) (inside : Bool)
    (ds : List Char) :
    countPlaceholders inside (cs ++ ds) =
      countPlaceholders inside cs + countPlaceholders inside ds := by
  rw [countPlaceholders_append, if_pos h]

/-! ## Building fragments -/

namespace Fragment

theorem ofText_eq_ok_iff {text : String} {params : List Value} {f : Fragment} :
    Fragment.ofText text params = .ok f ↔
      ¬text.toList.all Text.isBlank = true ∧ f = ⟨text, params⟩ ∧ f.isBalanced = true := by
  unfold Fragment.ofText
  split
  · rename_i hblank
    simp [hblank]
  · rename_i hblank
    dsimp only
    split
    · rename_i hbalanced
      constructor
      · intro hf
        cases hf
        exact ⟨hblank, rfl, hbalanced⟩
      · rintro ⟨-, rfl, -⟩
        rfl
    · rename_i hbalanced
      constructor
      · intro hf
        cases hf
      · rintro ⟨-, rfl, hf⟩
        exact absurd hf hbalanced

theorem isBalanced_iff {f : Fragment} :
    f.isBalanced = true ↔ countPlaceholders false f.text.toList = f.params.length := by
  rw [isBalanced, beq_iff_eq, placeholders]

/-- The fragments that the operations yield, step after step, from texts and separators of the given
kinds. -/
inductive Built (texts separators : String → Prop) : Fragment → Prop
  | ofText {text : String} {params : List Value} {f : Fragment} (htext : texts text)
      (hf : Fragment.ofText text params = .ok f) : Built texts separators f
  | append {f g : Fragment} (hf : Built texts separators f) (hg : Built texts separators g) :
      Built texts separators (f ++ g)
  | parenthesize {f : Fragment} (hf : Built texts separators f) :
      Built texts separators f.parenthesize
  | combine {fragments : List Fragment} {separator : String} {f : Fragment}
      (hfragments : ∀ g ∈ fragments, Built texts separators g) (hseparator : separators separator)
      (hf : Fragment.combine fragments separator = .ok f) : Built texts separators f

/-- A literal that is left open takes in the placeholder after it. -/
theorem openLiteral_append_unbalanced :
    Built (fun _ => True) (fun _ => True) (⟨"'", []⟩ ++ ⟨"?", [.integer 7]⟩) ∧
      isBalanced (⟨"'", []⟩ ++ ⟨"?", [.integer 7]⟩) = false := by
  have hopen : Fragment.ofText "'" [] = .ok ⟨"'", []⟩ := rfl
  have hvalue : Fragment.ofText "?" [.integer 7] = .ok ⟨"?", [.integer 7]⟩ := rfl
  exact ⟨.append (.ofText trivial hopen) (.ofText trivial hvalue), rfl⟩

/-! ## Closed texts and neutral separators -/

def ClosedText (text : String) : Prop := IsClosed text.toList

instance (text : String) : Decidable (ClosedText text) := inferInstanceAs (Decidable (IsClosed _))

/-- Closed and without placeholders. -/
def NeutralText (text : String) : Prop :=
  ClosedText text ∧ countPlaceholders false text.toList = 0

instance (text : String) : Decidable (NeutralText text) := inferInstanceAs (Decidable (_ ∧ _))

/-- Balanced fragments stay so when one is appended to the other, unless the first leaves a literal
open and this changes what is counted in the second. -/
theorem isBalanced_append_iff {f g : Fragment} (hf : f.isBalanced = true)
    (hg : g.isBalanced = true) :
    (f ++ g).isBalanced = true ↔
      ClosedText f.text ∨
        countPlaceholders true g.text.toList = countPlaceholders false g.text.toList := by
  rw [isBalanced_iff] at hf hg ⊢
  have hparams : (f ++ g).params.length = f.params.length + g.params.length := List.length_append
  have htext : (f ++ g).text.toList = f.text.toList ++ g.text.toList := String.toList_append
  rw [hparams, htext, countPlaceholders_append, hf, ← hg, ClosedText]
  by_cases hclosed : IsClosed f.text.toList
  · simp [hclosed]
  · simp [hclosed]

theorem isBalanced_parenthesize (f : Fragment) : f.parenthesize.isBalanced = f.isBalanced := by
  have hopen : IsClosed ['('] := by decide
  have hclose : ∀ inside, countPlaceholders inside [')'] = 0 := by decide
  have htext : f.parenthesize.text.toList = ['('] ++ (f.text.toList ++ [')']) := by
    simp [parenthesize]
  rw [Bool.eq_iff_iff, isBalanced_iff, isBalanced_iff, htext, countPlaceholders_closed hopen,
    countPlaceholders_append, hclose]
  simp [countPlaceholders, parenthesize]

/-- Balanced and closed, which is what the operations preserve. -/
structure Stable (f : Fragment) : Prop where
  balanced : f.isBalanced = true
  closed : ClosedText f.text

theorem Stable.append {f g : Fragment} (hf : f.Stable) (hg : g.Stable) : (f ++ g).Stable := by
  refine ⟨(isBalanced_append_iff hf.balanced hg.balanced).mpr (.inl hf.closed), ?_⟩
  have htext : (f ++ g).text.toList = f.text.toList ++ g.text.toList := String.toList_append
  rw [ClosedText, htext]
  exact isClosed_append hf.closed hg.closed

theorem Stable.parenthesize {f : Fragment} (hf : f.Stable) : f.parenthesize.Stable := by
  refine ⟨by rw [isBalanced_parenthesize, hf.balanced], ?_⟩
  have htext : f.parenthesize.text.toList = ['('] ++ (f.text.toList ++ [')']) := by
    simp [Fragment.parenthesize]
  rw [ClosedText, htext]
  exact isClosed_append (by decide) (isClosed_append hf.closed (by decide))

/-- Glueing a list is appending its members one by one, with the separator as a fragment without
values between them. -/
theorem combine_cons_cons (f g : Fragment) (rest : List Fragment) (separator : String) :
    combine (f :: g :: rest) separator =
      (combine (g :: rest) separator).map fun glued =>
        f ++ ((⟨separator, []⟩ : Fragment) ++ glued) := by
  simp only [combine, List.isEmpty_cons, Bool.false_eq_true, if_false, Except.map, Except.ok.injEq]
  change _ = Fragment.mk _ _
  simp [String.intercalate_cons_cons, String.append_assoc]
  constructor <;> rfl

theorem Stable.combine {fragments : List Fragment} {separator : String} {f : Fragment}
    (hfragments : ∀ g ∈ fragments, g.Stable) (hseparator : NeutralText separator)
    (hf : Fragment.combine fragments separator = .ok f) : f.Stable := by
  have hneutral : Stable ⟨separator, []⟩ := by
    refine ⟨?_, hseparator.1⟩
    rw [isBalanced_iff]
    exact hseparator.2
  induction fragments generalizing f with
  | nil => cases hf
  | cons first rest ih =>
    obtain ⟨hfirst, hrest⟩ := List.forall_mem_cons.mp hfragments
    cases rest with
    | nil =>
      have hsingle : Fragment.combine [first] separator = .ok first := by
        simp [Fragment.combine]
      rw [hsingle] at hf
      cases hf
      exact hfirst
    | cons second rest =>
      rw [combine_cons_cons] at hf
      cases hglued : Fragment.combine (second :: rest) separator with
      | error cause =>
        rw [hglued] at hf
        cases hf
      | ok glued =>
        rw [hglued] at hf
        cases hf
        exact hfirst.append (hneutral.append (ih hrest hglued))

/-- What is built from closed texts with neutral separators is stable, step after step. -/
theorem Built.stable {f : Fragment} (h : Built ClosedText NeutralText f) : f.Stable := by
  induction h with
  | ofText htext hf =>
    obtain ⟨-, rfl, hbalanced⟩ := ofText_eq_ok_iff.mp hf
    exact ⟨hbalanced, htext⟩
  | append _ _ ihf ihg => exact ihf.append ihg
  | parenthesize _ ih => exact ih.parenthesize
  | combine _ hseparator hf ih => exact Stable.combine ih hseparator hf

/-! ## Texts and separators that do no harm -/

theorem Built.mono {texts texts' separators separators' : String → Prop} {f : Fragment}
    (htexts : ∀ text, texts text → texts' text)
    (hseparators : ∀ separator, separators separator → separators' separator)
    (h : Built texts separators f) : Built texts' separators' f := by
  induction h with
  | ofText htext hf => exact .ofText (htexts _ htext) hf
  | append _ _ ihf ihg => exact ihf.append ihg
  | parenthesize _ ih => exact ih.parenthesize
  | combine _ hseparator hf ih => exact .combine ih (hseparators _ hseparator) hf

theorem closedText_of_blank {text : String} (h : text.toList.all Text.isBlank = true) :
    ClosedText text := by
  have hnone : '\'' ∉ text.toList := by
    intro hin
    exact absurd (List.all_eq_true.mp h _ hin) (by decide)
  rw [ClosedText, IsClosed, List.count_eq_zero_of_not_mem hnone]
  exact Even.zero

section Harm

variable {texts separators : String → Prop} (hmark : texts "?")
  (hbalanced : ∀ f, Built texts separators f → f.isBalanced = true)

include hmark

theorem built_mark : Built texts separators ⟨"?", [.integer 0]⟩ := by
  have hf : Fragment.ofText "?" [.integer 0] = .ok ⟨"?", [.integer 0]⟩ := rfl
  exact .ofText hmark hf

include hbalanced

/-- A fragment that is not closed is out of balance once a placeholder follows it. -/
theorem closedText_of_built {f : Fragment} (h : Built texts separators f) : ClosedText f.text := by
  have happend := hbalanced _ (h.append (built_mark hmark))
  rw [isBalanced_append_iff (hbalanced f h) rfl] at happend
  exact happend.resolve_right (by decide)

theorem closedText_of_text {text : String} (htext : texts text) : ClosedText text := by
  by_cases hblank : text.toList.all Text.isBlank = true
  · exact closedText_of_blank hblank
  · let params := List.replicate (countPlaceholders false text.toList) (Value.integer 0)
    have hf : Fragment.ofText text params = .ok ⟨text, params⟩ := by
      refine ofText_eq_ok_iff.mpr ⟨hblank, rfl, ?_⟩
      rw [isBalanced_iff, List.length_replicate]
    exact closedText_of_built hmark hbalanced (.ofText htext hf)

/-- A separator between two placeholders has to leave their number as it is. -/
theorem neutralText_of_separator {separator : String} (hseparator : separators separator) :
    NeutralText separator := by
  let mark : Fragment := ⟨"?", [.integer 0]⟩
  have hmarks : ∀ g ∈ [mark, mark], Built texts separators g := by
    intro g hg
    have hg : g = mark := by simpa using hg
    rw [hg]
    exact built_mark hmark
  have hglued : Built texts separators (mark ++ ((⟨separator, []⟩ : Fragment) ++ mark)) := by
    refine .combine hmarks hseparator ?_
    rw [combine_cons_cons]
    rfl
  have htext : (mark ++ ((⟨separator, []⟩ : Fragment) ++ mark)).text.toList =
      ['?'] ++ (separator.toList ++ ['?']) := by
    change ("?" ++ (separator ++ "?")).toList = _
    simp
  have hclosed : ClosedText separator := by
    have hclosed := closedText_of_built hmark hbalanced hglued
    rw [ClosedText, htext, IsClosed, List.count_append, List.count_append] at hclosed
    simpa [ClosedText, IsClosed] using hclosed
  have hcount := isBalanced_iff.mp (hbalanced _ hglued)
  rw [htext, countPlaceholders_closed (by decide), countPlaceholders_closed hclosed] at hcount
  have htwo : (mark ++ ((⟨separator, []⟩ : Fragment) ++ mark)).params.length = 2 := rfl
  have hone : countPlaceholders false ['?'] = 1 := rfl
  exact ⟨hclosed, by omega⟩

end Harm

/-- If a placeholder can be had, all that is built is balanced exactly if all texts are closed and
all separators neutral. -/
theorem forall_built_isBalanced_iff {texts separators : String → Prop} (hmark : texts "?") :
    (∀ f, Built texts separators f → f.isBalanced = true) ↔
      (∀ text, texts text → ClosedText text) ∧
        ∀ separator, separators separator → NeutralText separator := by
  constructor
  · intro hbalanced
    exact ⟨fun _ => closedText_of_text hmark hbalanced,
      fun _ => neutralText_of_separator hmark hbalanced⟩
  · rintro ⟨htexts, hseparators⟩ f hf
    exact (hf.mono htexts hseparators).stable.balanced

/-- Placeholders and a literal with a question mark in it, joined as filters are. -/
theorem forall_built_isBalanced_iff_filters :
    "?" ∈ ["?", "note = 'why?'"] ∧
      ∀ f, Built (· ∈ ["?", "note = 'why?'"]) (· = " AND ") f → f.isBalanced = true := by
  refine ⟨by decide, (forall_built_isBalanced_iff (by decide)).mpr ⟨by decide, ?_⟩⟩
  rintro _ rfl
  decide

end Fragment

end SeriesSql.Sql
