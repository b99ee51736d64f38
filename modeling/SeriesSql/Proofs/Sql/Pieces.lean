import Mathlib.Algebra.Group.Nat.Even
import Mathlib.Data.List.Count
import SeriesSql.Proofs.Sql.Code

/-!
# The pieces of code

Code is a tree, but its text is scanned from left to right.  `Code.pieces` is the list of what
stands in the text: calm characters, which are neither quotes nor question marks, whole literals and
bound values.  A scan of the text is then an induction over this list, with one case for each kind
of piece.

There are five groups.

* Calm characters: words, signs and numbers have no others.
* The pieces, from which the text, the values and the text with its values inlined are put together.
* The two scans of a fragment, over the text of pieces: `countPlaceholders_written` finds one
  placeholder for each value, and `fillPlaceholders_written` puts the values in their places.
* Quotes, of which a literal has an even number.
* Native code, which has no fragments from outside: `even_quotes` and `isBalanced_fragment` say that
  its literals are closed and its placeholders have their values.
-/

namespace SeriesSql.Sql

/-! ## Calm characters -/

/-- Neither a quote nor a question mark, so that a scan passes it in any state. -/
def IsCalm (c : Char) : Prop := c ≠ '\'' ∧ c ≠ '?'

theorem isCalm_of_isPlain {c : Char} (h : isPlain c = true) : IsCalm c := by
  constructor
  · rintro rfl
    revert h
    decide
  · rintro rfl
    revert h
    decide

theorem isCalm_of_isDigit {c : Char} (h : c.isDigit = true) : IsCalm c := by
  constructor
  · rintro rfl
    revert h
    decide
  · rintro rfl
    revert h
    decide

theorem Word.calm (w : Word) : ∀ c ∈ w.text.toList, IsCalm c := by
  intro c hc
  exact isCalm_of_isPlain (List.all_eq_true.mp w.plain c hc)

theorem Sign.calm (s : Sign) : ∀ c ∈ s.text.toList, IsCalm c := by
  cases s <;> simp [Sign.text, Sign.symbol, IsCalm]

theorem calm_toString_nat (n : Nat) : ∀ c ∈ (toString n).toList, IsCalm c := by
  intro c hc
  have hdigit : c ∈ Nat.toDigits 10 n := by simpa [toString, Nat.repr] using hc
  exact isCalm_of_isDigit (Nat.isDigit_of_mem_toDigits (by decide) (by decide) hdigit)

/-! ## Pieces -/

inductive Piece where
  | plain (cs : List Char)
  | literal (s : String)
  | value (v : Value)

namespace Piece

/-- The text of a piece, with `render` for values. -/
def written (render : Value → List Char) : Piece → List Char
  | plain cs => cs
  | literal s => quoteChars s
  | value v => render v

def values : Piece → List Value
  | value v => [v]
  | _ => []

/-- The plain characters of a piece are calm. -/
def Calm : Piece → Prop
  | plain cs => ∀ c ∈ cs, IsCalm c
  | _ => True

end Piece

namespace Code

def pieces : Code → List Piece
  | word w => [.plain w.text.toList]
  | sign s => [.plain s.text.toList]
  | number n => [.plain (toString n).toList]
  | quoted s => [.literal s]
  | bound v => [.value v]
  | parens inner => .plain ['('] :: (inner.pieces ++ [.plain [')']])
  | seq first second => first.pieces ++ second.pieces
  | given f => [.plain f.text.toList]

/-- Code without fragments from outside. -/
def Native : Code → Prop
  | given _ => False
  | parens inner => inner.Native
  | seq first second => first.Native ∧ second.Native
  | _ => True

theorem text_eq_written (code : Code) :
    code.text.toList = code.pieces.flatMap (Piece.written fun _ => ['?']) := by
  induction code with
  | word w | sign s | number n | given f => simp [text, pieces, Piece.written]
  | quoted s => simp [text, pieces, Piece.written]
  | bound v => simp [text, pieces, Piece.written]
  | parens inner ih => simp [text, pieces, Piece.written, ih]
  | seq first second ih₁ ih₂ => simp [text, pieces, ih₁, ih₂]

theorem params_eq_values {code : Code} (h : code.Native) :
    code.params = code.pieces.flatMap Piece.values := by
  induction code with
  | word w | sign s | number n | quoted s | bound v => rfl
  | parens inner ih => simp [params, pieces, Piece.values, ih h]
  | seq first second ih₁ ih₂ => simp [params, pieces, ih₁ h.1, ih₂ h.2]
  | given f => exact h.elim

theorem calm_pieces {code : Code} (h : code.Native) : ∀ p ∈ code.pieces, p.Calm := by
  induction code with
  | word w => simpa [pieces, Piece.Calm] using w.calm
  | sign s => simpa [pieces, Piece.Calm] using s.calm
  | number n => simpa [pieces, Piece.Calm] using calm_toString_nat n
  | quoted s | bound v => simp [pieces, Piece.Calm]
  | parens inner ih =>
    intro p hp
    simp only [pieces, List.mem_cons, List.mem_append, List.not_mem_nil, or_false] at hp
    rcases hp with rfl | hp | rfl
    · simp [Piece.Calm, IsCalm]
    · exact ih h p hp
    · simp [Piece.Calm, IsCalm]
  | seq first second ih₁ ih₂ =>
    intro p hp
    rcases List.mem_append.mp hp with hp | hp
    · exact ih₁ h.1 p hp
    · exact ih₂ h.2 p hp
  | given f => exact h.elim

end Code

/-! ## Scans -/

theorem countPlaceholders_calm {cs : List Char} (h : ∀ c ∈ cs, IsCalm c) (inside : Bool)
    (rest : List Char) :
    countPlaceholders inside (cs ++ rest) = countPlaceholders inside rest := by
  induction cs with
  | nil => rfl
  | cons c cs ih =>
    obtain ⟨⟨hquote, hmark⟩, hcs⟩ := List.forall_mem_cons.mp h
    simp [countPlaceholders, hquote, hmark, ih hcs]

/-- A doubled quote closes a literal and opens it again. -/
theorem countPlaceholders_doubleQuotes (cs rest : List Char) :
    countPlaceholders true (doubleQuotes cs ++ rest) = countPlaceholders true rest := by
  induction cs with
  | nil => rfl
  | cons c cs ih =>
    simp only [doubleQuotes, List.flatMap_cons, List.append_assoc] at ih ⊢
    by_cases hquote : c = '\''
    · simp [hquote, countPlaceholders, ih]
    · simp [hquote, countPlaceholders, ih]

theorem countPlaceholders_written {pieces : List Piece} (h : ∀ p ∈ pieces, p.Calm) :
    countPlaceholders false (pieces.flatMap (Piece.written fun _ => ['?'])) =
      (pieces.flatMap Piece.values).length := by
  induction pieces with
  | nil => rfl
  | cons p pieces ih =>
    obtain ⟨hp, hpieces⟩ := List.forall_mem_cons.mp h
    have ih := ih hpieces
    rw [List.flatMap_cons]
    cases p with
    | plain cs => simp [Piece.written, countPlaceholders_calm hp, Piece.values, ih]
    | literal s =>
      simp [Piece.written, quoteChars, countPlaceholders, countPlaceholders_doubleQuotes,
        Piece.values, ih]
    | value v => simp [Piece.written, countPlaceholders, Piece.values, ih]

theorem fillPlaceholders_calm {cs : List Char} (h : ∀ c ∈ cs, IsCalm c) (inside : Bool)
    (values : List Value) (rest : List Char) :
    fillPlaceholders inside values (cs ++ rest) = cs ++ fillPlaceholders inside values rest := by
  induction cs with
  | nil => rfl
  | cons c cs ih =>
    obtain ⟨⟨hquote, hmark⟩, hcs⟩ := List.forall_mem_cons.mp h
    simp [fillPlaceholders, hquote, hmark, ih hcs]

theorem fillPlaceholders_doubleQuotes (values : List Value) (cs rest : List Char) :
    fillPlaceholders true values (doubleQuotes cs ++ rest) =
      doubleQuotes cs ++ fillPlaceholders true values rest := by
  induction cs with
  | nil => rfl
  | cons c cs ih =>
    simp only [doubleQuotes, List.flatMap_cons, List.append_assoc] at ih ⊢
    by_cases hquote : c = '\''
    · simp [hquote, fillPlaceholders, ih]
    · simp [hquote, fillPlaceholders, ih]

/-- Every value takes the place of its own placeholder. -/
theorem fillPlaceholders_written {pieces : List Piece} (h : ∀ p ∈ pieces, p.Calm) :
    fillPlaceholders false (pieces.flatMap Piece.values)
        (pieces.flatMap (Piece.written fun _ => ['?'])) =
      pieces.flatMap (Piece.written Value.literal) := by
  induction pieces with
  | nil => rfl
  | cons p pieces ih =>
    obtain ⟨hp, hpieces⟩ := List.forall_mem_cons.mp h
    have ih := ih hpieces
    rw [List.flatMap_cons, List.flatMap_cons]
    cases p with
    | plain cs => simp [Piece.written, fillPlaceholders_calm hp, Piece.values, ih]
    | literal s =>
      simp [Piece.written, quoteChars, fillPlaceholders, fillPlaceholders_doubleQuotes,
        Piece.values, ih]
    | value v => simp [Piece.written, fillPlaceholders, Piece.values, ih]

/-! ## Quotes -/

theorem count_doubleQuotes (cs : List Char) :
    (doubleQuotes cs).count '\'' = 2 * cs.count '\'' := by
  induction cs with
  | nil => rfl
  | cons c cs ih =>
    simp only [doubleQuotes, List.flatMap_cons, List.count_append] at ih ⊢
    by_cases hquote : c = '\''
    · simp [hquote, ih]
      omega
    · simp [hquote, ih]

theorem even_quotes_written {pieces : List Piece} (h : ∀ p ∈ pieces, p.Calm) :
    Even ((pieces.flatMap (Piece.written fun _ => ['?'])).count '\'') := by
  induction pieces with
  | nil => simp
  | cons p pieces ih =>
    obtain ⟨hp, hpieces⟩ := List.forall_mem_cons.mp h
    rw [List.flatMap_cons, List.count_append]
    refine Even.add ?_ (ih hpieces)
    cases p with
    | plain cs =>
      have hnone : '\'' ∉ cs := fun hin => (hp '\'' hin).1 rfl
      simp [Piece.written, List.count_eq_zero_of_not_mem hnone]
    | literal s =>
      refine ⟨s.toList.count '\'' + 1, ?_⟩
      simp [Piece.written, quoteChars, count_doubleQuotes]
      omega
    | value v => simp [Piece.written]

/-! ## Native code -/

namespace Code

/-- Every literal of native code is closed. -/
theorem even_quotes {code : Code} (h : code.Native) : Even (code.text.toList.count '\'') := by
  rw [text_eq_written]
  exact even_quotes_written (calm_pieces h)

/-- Native code has one placeholder for each of its values. -/
theorem isBalanced_fragment {code : Code} (h : code.Native) : code.fragment.isBalanced = true := by
  rw [Fragment.isBalanced, beq_iff_eq]
  calc code.fragment.placeholders
      = countPlaceholders false (code.pieces.flatMap (Piece.written fun _ => ['?'])) := by
        rw [Fragment.placeholders, ← text_eq_written, fragment]
    _ = (code.pieces.flatMap Piece.values).length := countPlaceholders_written (calm_pieces h)
    _ = code.fragment.params.length := by rw [← params_eq_values h, fragment]

/-- The inlined text of native code is the text of its pieces with their literals. -/
theorem inlined_fragment {code : Code} (h : code.Native) :
    code.fragment.inlined.toList = code.pieces.flatMap (Piece.written Value.literal) := by
  calc code.fragment.inlined.toList
      = fillPlaceholders false code.params code.text.toList := by
        rw [Fragment.inlined, String.toList_ofList, fragment]
    _ = code.pieces.flatMap (Piece.written Value.literal) := by
        rw [text_eq_written, params_eq_values h, fillPlaceholders_written (calm_pieces h)]

end Code

end SeriesSql.Sql
