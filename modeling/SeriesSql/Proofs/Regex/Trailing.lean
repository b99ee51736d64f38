import Mathlib.Data.List.TakeWhile
import SeriesSql.Regex.Token

/-!
# Reading a pattern before its closing

A pattern that is put between anchors has `)$` after it.  Every reader of the pattern's language
looks some characters ahead, so this can only be the same pattern if no reader takes a character of
the closing for one of its own.

`Trailed rest rest'` relates what is left of a text that is read alone to what is left of it when
the closing stands after it.  The closing stays at the end, with one exception: a comment that is
still open at the end swallows it.  A reader `Carries` the closing if it reads the same of both
texts and leaves texts that are again related.

There are three groups: what flags ignore, escapes and classes.  Readers with fuel are compared
under two amounts of it, since the longer text is read with more.  Where a reader looks ahead, its
default case has the hypotheses that the text does not start with some characters, and
`Trailed.not_cons` hands them on to the text with the closing.
-/

namespace SeriesSql.Regex

/-- What closes a pattern between anchors. -/
def closing : List Char := [')', '$']

/-- What is left of a text, alone and with the closing after it. -/
inductive Trailed : List Char → List Char → Prop
  | kept (rest : List Char) : Trailed rest (rest ++ closing)
  /-- An open comment has taken the closing. -/
  | swallowed : Trailed [] []

namespace Trailed

variable {c : Char} {rest cs cs' : List Char}

theorem eq_cons (h : Trailed cs cs') (hcs : cs = c :: rest) : cs' = c :: (rest ++ closing) := by
  subst hcs
  cases h
  rfl

/-- A character that does not close comes from the text itself. -/
theorem cons_eq (h : Trailed cs cs') {rest' : List Char} (hc : c ≠ ')') (hcs : cs' = c :: rest') :
    ∃ rest, cs = c :: rest ∧ rest' = rest ++ closing := by
  cases h with
  | kept =>
    cases cs with
    | nil =>
      cases hcs
      exact absurd rfl hc
    | cons d rest =>
      cases hcs
      exact ⟨rest, rfl, rfl⟩
  | swallowed => cases hcs

theorem not_cons (h : Trailed cs cs') (hc : c ≠ ')') (hcs : ∀ rest, cs = c :: rest → False) :
    ∀ rest, cs' = c :: rest → False := by
  intro rest' hrest'
  obtain ⟨rest, hrest, -⟩ := h.cons_eq hc hrest'
  exact hcs rest hrest

theorem not_cons_cons {d : Char} (h : Trailed cs cs') (hc : c ≠ ')') (hd : d ≠ ')')
    (hcs : ∀ rest, cs = c :: d :: rest → False) : ∀ rest, cs' = c :: d :: rest → False := by
  intro rest' hrest'
  obtain ⟨rest, rfl, hrest⟩ := h.cons_eq hc hrest'
  obtain ⟨rest, rfl, -⟩ := (Trailed.kept rest).cons_eq hd hrest.symm
  exact hcs rest rfl

theorem not_nil (h : Trailed cs cs') (hcs : cs = [] → False) : cs' = [] → False := by
  obtain ⟨c, rest, hrest⟩ := List.exists_cons_of_ne_nil hcs
  rw [h.eq_cons hrest]
  exact List.cons_ne_nil _ _

theorem dropWhile {p : Char → Bool} (hp : p ')' = false) (h : Trailed cs cs') :
    Trailed (cs.dropWhile p) (cs'.dropWhile p) := by
  cases h with
  | kept =>
    rw [List.dropWhile_append]
    split
    · rename_i hempty
      rw [List.isEmpty_iff.mp hempty, closing, List.dropWhile_cons_of_neg (by simp [hp])]
      exact .kept []
    · exact .kept _
  | swallowed => exact .swallowed

end Trailed

/-- What `read` reads of a text alone, `read'` reads of it before the closing. -/
def Carries {α : Type} (read read' : List Char → Option (α × List Char)) : Prop :=
  ∀ ⦃cs cs' : List Char⦄, Trailed cs cs' → ∀ ⦃a : α⦄ ⦃rest : List Char⦄, read cs = some (a, rest) →
    ∃ rest', read' cs' = some (a, rest') ∧ Trailed rest rest'

theorem Carries.map {α β : Type} {read read' : List Char → Option (α × List Char)}
    (h : Carries read read') (g : α → β) :
    Carries (fun cs => (read cs).map fun x => (g x.1, x.2))
      (fun cs => (read' cs).map fun x => (g x.1, x.2)) := by
  intro cs cs' hcs b rest hread
  obtain ⟨⟨a, _⟩, ha, hb⟩ := Option.map_eq_some_iff.mp hread
  cases hb
  obtain ⟨rest', ha', hrest⟩ := h hcs ha
  exact ⟨rest', by simp only [ha', Option.map_some], hrest⟩

/-! ## What flags ignore -/

theorem dropBlank_trailed (comment : Bool) {cs cs' : List Char} (h : Trailed cs cs') :
    Trailed (dropBlank comment cs) (dropBlank comment cs') := by
  cases h with
  | swallowed =>
    rw [dropBlank]
    exact .swallowed
  | kept =>
    fun_induction dropBlank comment cs with
    | case1 comment =>
      cases comment with
      | true => exact .swallowed
      | false => exact .kept []
    | case2 c cs ih => simpa [dropBlank] using ih
    | case3 c cs hblank ih => simpa [dropBlank, hblank] using ih
    | case4 c cs hblank hmark ih => simpa [dropBlank, hblank, hmark] using ih
    | case5 c cs hblank hmark =>
      simp only [List.cons_append, dropBlank, hblank, hmark]
      exact .kept (c :: cs)

theorem length_dropBlank_le (comment : Bool) (cs : List Char) :
    (dropBlank comment cs).length ≤ cs.length := by
  fun_induction dropBlank comment cs with
  | case1 => exact Nat.le_refl _
  | case2 c cs ih => exact Nat.le_succ_of_le ih
  | case3 c cs _ ih => exact Nat.le_succ_of_le ih
  | case4 c cs _ _ ih => exact Nat.le_succ_of_le ih
  | case5 => exact Nat.le_refl _

namespace Flags

variable (f : Flags)

theorem skip_trailed {cs cs' : List Char} (h : Trailed cs cs') :
    Trailed (f.skip cs) (f.skip cs') := by
  unfold Flags.skip
  split
  · exact dropBlank_trailed false h
  · exact h

theorem length_skip_le (cs : List Char) : (f.skip cs).length ≤ cs.length := by
  unfold Flags.skip
  split
  · exact length_dropBlank_le false cs
  · exact Nat.le_refl _

end Flags

variable (f : Flags)

/-! ## Escapes -/

theorem fixedHex_carries (count value : Nat) :
    Carries (fixedHex f count value) (fixedHex f count value) := by
  intro cs cs' hcs code rest h
  induction count generalizing value cs cs' with
  | zero =>
    cases h
    exact ⟨cs', rfl, hcs⟩
  | succ count ih =>
    cases cs with
    | nil => cases h
    | cons c cs =>
      rw [hcs.eq_cons rfl]
      rw [fixedHex, Option.bind_eq_bind, Option.bind_eq_some_iff] at h
      obtain ⟨digit, hdigit, h⟩ := h
      obtain ⟨rest', h', hrest⟩ := ih _ (f.skip_trailed (.kept cs)) h
      refine ⟨rest', ?_, hrest⟩
      rw [fixedHex, hdigit]
      exact h'

theorem bracedHex_carries {fuel fuel' : Nat} (hfuel : fuel ≤ fuel') (digits value : Nat) :
    Carries (bracedHex f fuel digits value) (bracedHex f fuel' digits value) := by
  intro cs cs' hcs code rest h
  induction fuel generalizing fuel' digits value cs cs' with
  | zero => cases h
  | succ fuel ih =>
    obtain ⟨fuel', rfl⟩ := Nat.exists_eq_add_one_of_ne_zero (Nat.ne_zero_of_lt hfuel)
    have hskip := f.skip_trailed hcs
    rw [bracedHex] at h ⊢
    split at h
    · cases h
    · rename_i rest hrest
      rw [hskip.eq_cons hrest]
      split at h
      · cases h
      · rename_i hdigits
        cases h
        exact ⟨_, if_neg hdigits, f.skip_trailed (.kept rest)⟩
    · rename_i c rest hbrace hrest
      rw [hskip.eq_cons hrest]
      rw [Option.bind_eq_bind, Option.bind_eq_some_iff] at h
      obtain ⟨digit, hdigit, h⟩ := h
      obtain ⟨rest', h', hrest⟩ := ih (Nat.le_of_succ_le_succ hfuel) _ _ (.kept rest) h
      exact ⟨rest', by simpa [hdigit] using h', hrest⟩

theorem hexEscape_carries (count : Nat) : Carries (hexEscape f count) (hexEscape f count) := by
  intro cs cs' hcs escape rest h
  have hskip := f.skip_trailed hcs
  rw [hexEscape] at h ⊢
  split at h
  · rename_i cs hcs
    simp only [Option.bind_eq_bind, Option.bind_eq_some_iff] at h
    obtain ⟨⟨code, rest⟩, hcode, c, hc, h⟩ := h
    cases h
    have hfuel : cs.length + 1 ≤ (cs ++ closing).length + 1 := by simp
    obtain ⟨rest', hcode', hrest⟩ := bracedHex_carries f hfuel 0 0 (.kept cs) hcode
    exact ⟨rest', by simp_all [hskip.eq_cons hcs], hrest⟩
  · rename_i hbrace
    simp only [Option.bind_eq_bind, Option.bind_eq_some_iff] at h
    obtain ⟨⟨code, rest⟩, hcode, c, hc, h⟩ := h
    cases h
    obtain ⟨rest', hcode', hrest⟩ := fixedHex_carries f count 0 hskip hcode
    have hbrace' := hskip.not_cons (by decide) hbrace
    exact ⟨rest', by simp [hcode', hc], hrest⟩

theorem lookName_carries {fuel fuel' : Nat} (hfuel : fuel ≤ fuel') :
    Carries (lookName f fuel) (lookName f fuel') := by
  intro cs cs' hcs name rest h
  induction fuel generalizing fuel' cs cs' name with
  | zero => cases h
  | succ fuel ih =>
    obtain ⟨fuel', rfl⟩ := Nat.exists_eq_add_one_of_ne_zero (Nat.ne_zero_of_lt hfuel)
    unfold lookName at h ⊢
    split at h
    · cases h
    · cases h
      rw [hcs.eq_cons rfl]
      exact ⟨_, rfl, .kept _⟩
    · rename_i c cs hbrace
      rw [hcs.eq_cons rfl]
      split at h
      · rename_i hletter
        simp only [Option.bind_eq_bind, Option.bind_eq_some_iff] at h
        obtain ⟨⟨name, rest⟩, hname, h⟩ := h
        cases h
        obtain ⟨rest', hname', hrest⟩ :=
          ih (Nat.le_of_succ_le_succ hfuel) (f.skip_trailed (.kept cs)) hname
        exact ⟨rest', by simp [hletter, hname'], hrest⟩
      · cases h

theorem wordEdge_carries : Carries (wordEdge f) (wordEdge f) := by
  intro cs cs' hcs escape rest h
  unfold wordEdge at h ⊢
  split at h
  · rename_i cs
    rw [hcs.eq_cons rfl]
    have hskip := f.skip_trailed (.kept cs)
    split at h
    · cases h
    · rename_i c named hnamed
      simp only [hskip.eq_cons hnamed]
      split at h
      · rename_i hletter
        simp only [Option.bind_eq_bind, Option.bind_eq_some_iff] at h
        obtain ⟨⟨name, rest⟩, hname, h⟩ := h
        have hfuel : named.length + 2 ≤ (named ++ closing).length + 2 := by simp
        obtain ⟨rest', hname', hrest⟩ := lookName_carries f hfuel (.kept (c :: named)) hname
        rw [List.cons_append] at hname'
        simp only [if_pos hletter, hname', Option.bind_eq_bind, Option.bind_some]
        generalize String.ofList name = word at h ⊢
        split at h <;> cases h <;> exact ⟨rest', rfl, hrest⟩
      · rename_i hletter
        cases h
        exact ⟨_, if_neg hletter, .kept _⟩
  · rename_i hbrace
    cases h
    have hbrace' := hcs.not_cons (by decide) hbrace
    exact ⟨cs', by simp, hcs⟩

theorem readEscape_carries : Carries (readEscape f) (readEscape f) := by
  intro cs cs' hcs escape rest h
  cases cs with
  | nil => cases h
  | cons c cs =>
    rw [hcs.eq_cons rfl]
    unfold readEscape at h ⊢
    dsimp only at h ⊢
    split at h
    -- the codes of characters
    case h_1 | h_2 | h_3 => exact hexEscape_carries f _ (.kept cs) h
    -- `\b`, which may have a name after it
    case h_18 => exact wordEdge_carries f (.kept cs) h
    -- characters that stand for themselves
    case h_22 =>
      split at h
      · rename_i hescapable
        cases h
        exact ⟨_, by simp [hescapable], .kept _⟩
      · cases h
    all_goals
      cases h
      exact ⟨_, rfl, .kept _⟩

/-! ## Classes -/

/-- A text that is cut at a character which is not in the closing is cut at the same place before
the closing, or at no place of either. -/
theorem cut_append {c : Char} (hc : c ∉ closing) (cs : List Char) :
    cs.dropWhile (· != c) = [] ∧ (cs ++ closing).dropWhile (· != c) = [] ∨
      ∃ rest, cs.dropWhile (· != c) = c :: rest ∧
        (cs ++ closing).dropWhile (· != c) = c :: (rest ++ closing) ∧
        (cs ++ closing).takeWhile (· != c) = cs.takeWhile (· != c) := by
  induction cs with
  | nil =>
    refine .inl ⟨rfl, ?_⟩
    rw [List.nil_append, List.dropWhile_eq_nil_iff]
    intro d hd
    simpa using ne_of_mem_of_not_mem hd hc
  | cons d cs ih =>
    by_cases hd : d = c
    · subst hd
      exact .inr ⟨cs, by simp, by simp, by simp⟩
    · simpa [hd] using ih

/-- Whether a named class is negated, and its name with what follows. -/
def asciiSign : List Char → Bool × List Char
  | '^' :: cs => (true, cs)
  | cs => (false, cs)

/-- The class with the name up to `:]`. -/
def asciiNamed (negated : Bool) (cs : List Char) : Option (CharSet × List Char) :=
  match cs.dropWhile (· != ':') with
  | ':' :: ']' :: rest =>
    (AsciiClass.ofName? (String.ofList (cs.takeWhile (· != ':')))).map fun k =>
      (if negated then .compl (f.foldSet (.ascii k)) else f.foldSet (.ascii k), rest)
  | _ => none

theorem asciiClass?_colon (cs : List Char) :
    asciiClass? f (':' :: cs) = asciiNamed f (asciiSign cs).1 (asciiSign cs).2 := rfl

theorem asciiSign_append (cs : List Char) :
    asciiSign (cs ++ closing) = ((asciiSign cs).1, (asciiSign cs).2 ++ closing) := by
  cases cs with
  | nil => rfl
  | cons c cs =>
    by_cases hc : c = '^'
    · subst hc
      rfl
    · simp [asciiSign, hc]

theorem asciiNamed_append (negated : Bool) (cs : List Char) :
    asciiNamed f negated (cs ++ closing) =
      (asciiNamed f negated cs).map fun x => (x.1, x.2 ++ closing) := by
  have hcolon : ':' ∉ closing := by decide
  unfold asciiNamed
  rcases cut_append hcolon cs with ⟨hcut, hcut'⟩ | ⟨rest, hcut, hcut', hname⟩
  · simp only [hcut, hcut', Option.map_none]
  · simp only [hcut, hcut', hname]
    cases rest with
    | nil => rfl
    | cons c rest =>
      by_cases hc : c = ']'
      · subst hc
        simp [Function.comp_def]
      · simp [hc]

/-- Since a class that is not a named one is read as a nested class, it also matters that nothing
else becomes a named class before the closing. -/
theorem asciiClass?_append (cs : List Char) :
    asciiClass? f (cs ++ closing) = (asciiClass? f cs).map fun x => (x.1, x.2 ++ closing) := by
  cases cs with
  | nil => rfl
  | cons c cs =>
    by_cases hc : c = ':'
    · subst hc
      rw [List.cons_append, asciiClass?_colon, asciiClass?_colon, asciiSign_append,
        asciiNamed_append]
    · simp [asciiClass?, hc]

theorem classItem_carries : Carries (classItem f) (classItem f) := by
  intro cs cs' hcs escape rest h
  unfold classItem at h
  split at h
  · cases h
  · rename_i cs
    rw [hcs.eq_cons rfl]
    exact readEscape_carries f (.kept cs) h
  · rename_i c cs hslash
    cases h
    rw [hcs.eq_cons rfl]
    exact ⟨_, by simp [classItem], .kept _⟩

theorem classRange_carries : Carries (classRange f) (classRange f) := by
  intro cs cs' hcs s rest h
  simp only [classRange, Option.bind_eq_bind, Option.bind_eq_some_iff] at h
  obtain ⟨⟨first, more⟩, hfirst, h⟩ := h
  obtain ⟨more', hfirst', hmore⟩ := classItem_carries f hcs hfirst
  have hskip := f.skip_trailed hmore
  simp only [classRange, hfirst', Option.bind_eq_bind, Option.bind_some]
  dsimp only at h
  split at h
  · cases h
  · rename_i after hafter
    have hskip' := f.skip_trailed (.kept after)
    simp only [hskip.eq_cons hafter]
    split at h
    · cases h
    -- A hyphen before a closing bracket or another hyphen: the first item stands alone.
    iterate 2
      · rename_i _ hafter'
        rw [hafter, Option.map_eq_some_iff] at h
        obtain ⟨s, hs, h⟩ := h
        cases h
        exact ⟨_, by simp [hskip'.eq_cons hafter', hs], .kept _⟩
    · rename_i hnil hbracket hhyphen
      have hnil' := hskip'.not_nil hnil
      have hbracket' := hskip'.not_cons (by decide) hbracket
      have hhyphen' := hskip'.not_cons (by decide) hhyphen
      simp only [Option.bind_eq_some_iff, Option.ite_none_right_eq_some] at h
      obtain ⟨⟨last, stop⟩, hlast, lo, hlo, hi, hhi, hle, h⟩ := h
      cases h
      obtain ⟨stop', hlast', hstop⟩ := classItem_carries f hskip' hlast
      exact ⟨stop', by simp [hlast', hlo, hhi, hle], hstop⟩
  · rename_i hnil hhyphen
    have hnil' := hskip.not_nil hnil
    have hhyphen' := hskip.not_cons (by decide) hhyphen
    rw [Option.map_eq_some_iff] at h
    obtain ⟨s, hs, h⟩ := h
    cases h
    exact ⟨_, by simp [hs], hskip⟩

theorem leadingHyphens_of_not (fuel : Nat) (acc : CharSet) {cs : List Char}
    (hcs : ∀ rest, cs = '-' :: rest → False) : leadingHyphens f fuel acc cs = (acc, cs) := by
  cases fuel with
  | zero => rfl
  | succ fuel => simp [leadingHyphens]

theorem leadingHyphens_trailed (acc : CharSet) {cs cs' : List Char} (hcs : Trailed cs cs')
    {fuel fuel' : Nat} (hfuel : cs.length ≤ fuel) (hfuel' : cs'.length ≤ fuel') :
    ∃ rest', leadingHyphens f fuel' acc cs' = ((leadingHyphens f fuel acc cs).1, rest') ∧
      Trailed (leadingHyphens f fuel acc cs).2 rest' := by
  induction fuel generalizing fuel' acc cs cs' with
  | zero =>
    obtain rfl := List.length_eq_zero_iff.mp (Nat.le_zero.mp hfuel)
    have hnot := hcs.not_cons (c := '-') (by decide) (by simp)
    exact ⟨cs', leadingHyphens_of_not f fuel' acc hnot, hcs⟩
  | succ fuel ih =>
    by_cases hhyphen : ∃ rest, cs = '-' :: rest
    · obtain ⟨rest, rfl⟩ := hhyphen
      obtain rfl := hcs.eq_cons rfl
      rw [List.length_cons] at hfuel hfuel'
      obtain ⟨fuel', rfl⟩ := Nat.exists_eq_add_one_of_ne_zero (Nat.ne_zero_of_lt hfuel')
      have hlength := f.length_skip_le rest
      have hlength' := f.length_skip_le (rest ++ closing)
      exact ih _ (f.skip_trailed (.kept rest)) (by omega) (by omega)
    · have hnot : ∀ rest, cs = '-' :: rest → False := fun rest h => hhyphen ⟨rest, h⟩
      rw [leadingHyphens_of_not f _ acc hnot]
      exact ⟨cs', leadingHyphens_of_not f fuel' acc (hcs.not_cons (by decide) hnot), hcs⟩

/-- Whether a class is negated, and its parts. -/
def classSign (cs : List Char) : Bool × List Char :=
  match f.skip cs with
  | '^' :: rest => (true, f.skip rest)
  | cs => (false, cs)

/-- The first parts of a class after its leading hyphens. -/
def classStart (negated : Bool) : CharSet → List Char → Bool × CharSet × List Char
  | .none, ']' :: rest => (negated, .single ']', rest)
  | acc, rest => (negated, acc, rest)

theorem classHead_eq (cs : List Char) :
    classHead f cs =
      classStart (classSign f cs).1
        (leadingHyphens f (classSign f cs).2.length .none (classSign f cs).2).1
        (leadingHyphens f (classSign f cs).2.length .none (classSign f cs).2).2 := rfl

theorem classSign_trailed {cs cs' : List Char} (hcs : Trailed cs cs') :
    ∃ rest', classSign f cs' = ((classSign f cs).1, rest') ∧ Trailed (classSign f cs).2 rest' := by
  have hskip := f.skip_trailed hcs
  by_cases hcaret : ∃ rest, f.skip cs = '^' :: rest
  · obtain ⟨rest, hrest⟩ := hcaret
    simp only [classSign, hrest, hskip.eq_cons hrest]
    exact ⟨_, rfl, f.skip_trailed (.kept rest)⟩
  · have hnot : ∀ rest, f.skip cs = '^' :: rest → False := fun rest h => hcaret ⟨rest, h⟩
    have hnot' := hskip.not_cons (by decide) hnot
    have hplain : classSign f cs = (false, f.skip cs) := by simp [classSign]
    rw [hplain]
    exact ⟨_, by simp [classSign], hskip⟩

theorem classStart_of_not {negated : Bool} {acc : CharSet} {cs : List Char}
    (h : ∀ rest, acc = .none → cs = ']' :: rest → False) :
    classStart negated acc cs = (negated, acc, cs) := by
  simp [classStart]

theorem classStart_trailed (negated : Bool) (acc : CharSet) {cs cs' : List Char}
    (hcs : Trailed cs cs') :
    ∃ rest', classStart negated acc cs' =
        ((classStart negated acc cs).1, (classStart negated acc cs).2.1, rest') ∧
      Trailed (classStart negated acc cs).2.2 rest' := by
  by_cases hbracket : acc = .none ∧ ∃ rest, cs = ']' :: rest
  · obtain ⟨rfl, rest, rfl⟩ := hbracket
    rw [hcs.eq_cons rfl]
    exact ⟨_, rfl, .kept rest⟩
  · have hnot : ∀ rest, acc = .none → cs = ']' :: rest → False :=
      fun rest hacc h => hbracket ⟨hacc, rest, h⟩
    rw [classStart_of_not hnot]
    refine ⟨cs', classStart_of_not ?_, hcs⟩
    intro rest hacc
    exact hcs.not_cons (by decide) (fun rest => hnot rest hacc) rest

theorem classHead_trailed {cs cs' : List Char} (hcs : Trailed cs cs') :
    ∃ rest', classHead f cs' = ((classHead f cs).1, (classHead f cs).2.1, rest') ∧
      Trailed (classHead f cs).2.2 rest' := by
  obtain ⟨inner, hinner, htrailed⟩ := classSign_trailed f hcs
  obtain ⟨rest, hrest, htrailed⟩ :=
    leadingHyphens_trailed f .none htrailed (Nat.le_refl _) (Nat.le_refl _)
  rw [classHead_eq, classHead_eq, hinner, hrest]
  exact classStart_trailed _ _ htrailed

/-- Classes nest, so a class and its parts are taken together. -/
theorem class_carries {fuel fuel' : Nat} (hfuel : fuel ≤ fuel') :
    Carries (readClass f fuel) (readClass f fuel') ∧
      ∀ pending acc, Carries (classParts f fuel pending acc) (classParts f fuel' pending acc) := by
  induction fuel generalizing fuel' with
  | zero =>
    constructor
    · intro cs cs' hcs s rest h
      cases h
    · intro pending acc cs cs' hcs s rest h
      cases h
  | succ fuel ih =>
    obtain ⟨fuel', rfl⟩ := Nat.exists_eq_add_one_of_ne_zero (Nat.ne_zero_of_lt hfuel)
    obtain ⟨ihClass, ihParts⟩ := ih (Nat.le_of_succ_le_succ hfuel)
    constructor
    · intro cs cs' hcs s rest h
      rw [readClass, Option.bind_eq_bind, Option.bind_eq_some_iff] at h
      obtain ⟨⟨parts, after⟩, hparts, h⟩ := h
      cases h
      obtain ⟨start', hstart', hstart⟩ := classHead_trailed f hcs
      obtain ⟨rest', hparts', hrest⟩ := ihParts _ _ hstart hparts
      exact ⟨rest', by simp [readClass, hstart', hparts'], hrest⟩
    · intro pending acc cs cs' hcs s rest h
      have hskip := f.skip_trailed hcs
      unfold classParts at h ⊢
      split at h
      · cases h
      · rename_i rest hrest
        cases h
        rw [hskip.eq_cons hrest]
        exact ⟨_, rfl, .kept _⟩
      · rename_i inner hinner
        simp only [hskip.eq_cons hinner, asciiClass?_append]
        split at h
        · rename_i named after hnamed
          simp only [hnamed, Option.map_some]
          exact ihParts _ _ (.kept after) h
        · rename_i hnamed
          simp only [hnamed, Option.map_none]
          simp only [Option.bind_eq_bind, Option.bind_eq_some_iff] at h
          obtain ⟨⟨nested, after⟩, hnested, h⟩ := h
          obtain ⟨after', hnested', hafter⟩ := ihClass (.kept inner) hnested
          obtain ⟨rest', h', hrest⟩ := ihParts _ _ hafter h
          exact ⟨rest', by simp [hnested', h'], hrest⟩
      -- the three operators between parts
      iterate 3
        · rename_i after hafter
          rw [hskip.eq_cons hafter]
          exact ihParts _ _ (.kept after) h
      · rename_i hnil hclose hopen hinter hdiff hsymm
        have hnil' := hskip.not_nil hnil
        have hclose' := hskip.not_cons (by decide) hclose
        have hopen' := hskip.not_cons (by decide) hopen
        have hinter' := hskip.not_cons_cons (by decide) (by decide) hinter
        have hdiff' := hskip.not_cons_cons (by decide) (by decide) hdiff
        have hsymm' := hskip.not_cons_cons (by decide) (by decide) hsymm
        simp only [Option.bind_eq_bind, Option.bind_eq_some_iff] at h
        obtain ⟨⟨range, after⟩, hrange, h⟩ := h
        obtain ⟨after', hrange', hafter⟩ := classRange_carries f hskip hrange
        obtain ⟨rest', h', hrest⟩ := ihParts _ _ hafter h
        exact ⟨rest', by simp [hrange', h'], hrest⟩

end SeriesSql.Regex
