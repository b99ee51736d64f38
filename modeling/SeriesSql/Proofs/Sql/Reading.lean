import SeriesSql.Proofs.Decimal.Characters
import SeriesSql.Proofs.Sql.Spacing

/-!
# Reading literals back

`readCode` reads SQL text by the rule for string literals: a literal starts at a quote, a doubled
quote inside it stands for one, and it ends at the first quote that is not doubled.  This is not the
rule of `fillPlaceholders`, which switches at every quote, and the two agree only where no literals
touch.

There are four groups.

* The reader, and what it does at plain characters and at a literal that no quote follows.
* Numbers, whose literals have calm characters only.
* Pieces that are kept apart: no quote follows a literal or a value.
* Whole texts.  `Apart.readCode_text` reads the pieces of code with a question mark for each value,
  and `Apart.readCode_inlined` reads the same pieces with the values in place.
-/

namespace SeriesSql.Sql

/-! ## The reader -/

/-- A character outside literals, or the contents of a literal. -/
inductive Lexeme where
  | char (c : Char)
  | literal (s : String)
deriving Repr, DecidableEq

mutual

/-- Reads text from outside literals on; there is no result if a literal stays open. -/
def readCode : List Char → Option (List Lexeme)
  | [] => some []
  | c :: cs => if c = '\'' then readLiteral [] cs else (readCode cs).map (.char c :: ·)

/-- Reads text from inside a literal on, after the given contents. -/
def readLiteral (contents : List Char) : List Char → Option (List Lexeme)
  | [] => none
  | '\'' :: '\'' :: cs => readLiteral (contents ++ ['\'']) cs
  | c :: cs =>
    if c = '\'' then (readCode cs).map (.literal (String.ofList contents) :: ·)
    else readLiteral (contents ++ [c]) cs

end

theorem readCode_plain {cs : List Char} (h : ∀ c ∈ cs, IsCalm c) (rest : List Char) :
    readCode (cs ++ rest) = (readCode rest).map (cs.map Lexeme.char ++ ·) := by
  induction cs with
  | nil => simp
  | cons c cs ih =>
    obtain ⟨⟨hquote, -⟩, hcs⟩ := List.forall_mem_cons.mp h
    simp [readCode, hquote, ih hcs, Function.comp_def]

theorem readLiteral_doubleQuotes (contents cs rest : List Char) :
    readLiteral contents (doubleQuotes cs ++ rest) = readLiteral (contents ++ cs) rest := by
  induction cs generalizing contents with
  | nil => simp [doubleQuotes]
  | cons c cs ih =>
    simp only [doubleQuotes, List.flatMap_cons, List.append_assoc] at ih ⊢
    by_cases hquote : c = '\''
    · simp [hquote, readLiteral, ih]
    · simp [hquote, readLiteral, ih]

/-- A quote ends a literal unless another one follows. -/
theorem readLiteral_quote (contents : List Char) {rest : List Char}
    (h : rest.head? ≠ some '\'') :
    readLiteral contents ('\'' :: rest) =
      (readCode rest).map (.literal (String.ofList contents) :: ·) := by
  cases rest with
  | nil => simp [readLiteral]
  | cons c rest =>
    have hquote : c ≠ '\'' := by simpa using h
    simp [readLiteral, hquote]

theorem readCode_quoteChars (s : String) {rest : List Char} (h : rest.head? ≠ some '\'') :
    readCode (quoteChars s ++ rest) = (readCode rest).map (.literal s :: ·) := by
  calc readCode (quoteChars s ++ rest)
      = readLiteral [] (doubleQuotes s.toList ++ '\'' :: rest) := by simp [quoteChars, readCode]
    _ = readLiteral s.toList ('\'' :: rest) := by rw [readLiteral_doubleQuotes, List.nil_append]
    _ = (readCode rest).map (.literal s :: ·) := by
      rw [readLiteral_quote _ h, String.ofList_toList]

/-! ## Numbers -/

theorem isCalm_of_isNumeric {c : Char} (h : Decimal.IsNumeric c) : IsCalm c := by
  constructor
  · rintro rfl
    revert h
    decide
  · rintro rfl
    revert h
    decide

theorem calm_toString_int (n : Int) : ∀ c ∈ (toString n).toList, IsCalm c :=
  fun c hc => isCalm_of_isNumeric (Decimal.numeric_toString_int n c hc)

theorem calm_render (x : Float) : ∀ c ∈ (Decimal.Layout.literal.render x).toList, IsCalm c :=
  fun c hc => isCalm_of_isNumeric (Decimal.numeric_render x c hc)

/-! ## Pieces that are kept apart -/

namespace Piece

/-- No literals or values touch, where `before` tells whether one stands right before the pieces. -/
def Spaced (before : Bool) : List Piece → Prop
  | [] => True
  | plain cs :: rest => Spaced (before && cs.isEmpty) rest
  | literal _ :: rest | value _ :: rest => before = false ∧ Spaced true rest

/-- No quote can follow a literal or a value. -/
theorem Spaced.head?_ne {pieces : List Piece} (h : Spaced true pieces)
    (hcalm : ∀ p ∈ pieces, p.Calm) (render : Value → List Char) :
    (pieces.flatMap (written render)).head? ≠ some '\'' := by
  induction pieces with
  | nil => simp
  | cons p rest ih =>
    obtain ⟨hp, hrest⟩ := List.forall_mem_cons.mp hcalm
    cases p with
    | literal s => cases h.1
    | value v => cases h.1
    | plain cs =>
      cases cs with
      | nil => simpa [written] using ih h hrest
      | cons c cs => simpa [written] using (hp c List.mem_cons_self).1

end Piece

namespace Code

/-- Code that keeps its parts apart has pieces that are kept apart, whatever follows. -/
theorem Apart.spaced {code : Code} {before : Bool} {rest : List Piece} (h : code.Apart before)
    (hrest : Piece.Spaced (code.touches before) rest) :
    Piece.Spaced before (code.pieces ++ rest) := by
  induction code generalizing before rest with
  | word w => exact hrest
  | sign s => simpa [pieces, Piece.Spaced, Sign.text] using hrest
  | number n =>
    have hdigits : (toString n).toList.isEmpty = false := by
      simp [toString, Nat.repr]
    change Piece.Spaced (before && (toString n).toList.isEmpty) rest
    rw [hdigits, Bool.and_false]
    exact hrest
  | quoted s | bound v => exact ⟨h, hrest⟩
  | parens inner ih =>
    have hclose : Piece.Spaced (inner.touches false) (.plain [')'] :: rest) := by
      simpa [Piece.Spaced] using hrest
    simpa [pieces, Piece.Spaced] using ih h hclose
  | seq first second ih₁ ih₂ =>
    have hboth := ih₁ h.1 (ih₂ h.2 hrest)
    rwa [← List.append_assoc] at hboth
  | given f => exact h.elim

end Code

/-! ## Whole texts -/

/-- What is read of a piece, with `render` for values. -/
def Piece.lexemes (render : Value → List Lexeme) : Piece → List Lexeme
  | plain cs => cs.map .char
  | literal s => [.literal s]
  | value v => render v

/-- What is read of a value that is written out. -/
def Value.lexemes : Value → List Lexeme
  | text s => [.literal s]
  | v => v.literal.map .char

/-- A text is read back as it was bound, whatever is in it. -/
theorem Value.readCode_literal (v : Value) {rest : List Char} (h : rest.head? ≠ some '\'') :
    readCode (v.literal ++ rest) = (readCode rest).map (v.lexemes ++ ·) := by
  cases v with
  | text s => exact readCode_quoteChars s h
  | integer n => exact readCode_plain (calm_toString_int n.toInt) rest
  | real x => exact readCode_plain (calm_render x) rest

section Written

variable {write : Value → List Char} {render : Value → List Lexeme}
  (hvalue : ∀ v rest, List.head? rest ≠ some '\'' →
    readCode (write v ++ rest) = (readCode rest).map (render v ++ ·))

include hvalue

/-- The reader finds the pieces, if it finds each value before a text that starts with no quote. -/
theorem readCode_written {pieces : List Piece} {before : Bool} (h : Piece.Spaced before pieces)
    (hcalm : ∀ p ∈ pieces, p.Calm) :
    readCode (pieces.flatMap (Piece.written write)) =
      some (pieces.flatMap (Piece.lexemes render)) := by
  induction pieces generalizing before with
  | nil => simp [readCode]
  | cons p rest ih =>
    obtain ⟨hp, hrest⟩ := List.forall_mem_cons.mp hcalm
    rw [List.flatMap_cons, List.flatMap_cons]
    cases p with
    | plain cs => simp [Piece.written, Piece.lexemes, readCode_plain hp, ih h hrest]
    | literal s =>
      have hhead := Piece.Spaced.head?_ne h.2 hrest write
      simp [Piece.written, Piece.lexemes, readCode_quoteChars s hhead, ih h.2 hrest]
    | value v =>
      have hhead := Piece.Spaced.head?_ne h.2 hrest write
      simp [Piece.written, Piece.lexemes, hvalue v _ hhead, ih h.2 hrest]

end Written

namespace Code

variable {code : Code}

theorem Apart.spaced_pieces (h : code.Apart false) : Piece.Spaced false code.pieces := by
  have hspaced : Piece.Spaced false (code.pieces ++ []) := h.spaced trivial
  rwa [List.append_nil] at hspaced

theorem Apart.readCode_text (h : code.Apart false) :
    readCode code.text.toList =
      some (code.pieces.flatMap (Piece.lexemes fun _ => [.char '?'])) := by
  rw [text_eq_written]
  refine readCode_written ?_ h.spaced_pieces (calm_pieces h.native)
  intro v rest _
  simp [readCode]

theorem Apart.readCode_inlined (h : code.Apart false) :
    readCode code.fragment.inlined.toList =
      some (code.pieces.flatMap (Piece.lexemes Value.lexemes)) := by
  rw [inlined_fragment h.native]
  refine readCode_written ?_ h.spaced_pieces (calm_pieces h.native)
  intro v rest hhead
  exact v.readCode_literal hhead

end Code

end SeriesSql.Sql
