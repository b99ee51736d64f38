import SeriesSql.Proofs.Compile.Spacing
import SeriesSql.Proofs.Sql.Reading

/-!
# Inlined statements

A statement whose values are written out is read back as it was meant.  No literal stays open, no
placeholder is left, and the literals are those of the statement together with the texts that were
bound, each at the place of its placeholder.  So no text can end its own literal, whatever quotes,
question marks and comment signs it has in it.
-/

namespace SeriesSql

open Sql Compile

namespace Sql

/-- The contents of the literals, in order. -/
def literals : List Lexeme → List String
  | [] => []
  | .literal s :: rest => s :: literals rest
  | .char _ :: rest => literals rest

/-- The contents of the literals in order, together with the texts among `values` at the places of
their placeholders. -/
def literalsWith : List Value → List Lexeme → List String
  | _, [] => []
  | values, .literal s :: rest => s :: literalsWith values rest
  | .text s :: values, .char '?' :: rest => s :: literalsWith values rest
  | _ :: values, .char '?' :: rest => literalsWith values rest
  | values, .char _ :: rest => literalsWith values rest

theorem literals_append (first second : List Lexeme) :
    literals (first ++ second) = literals first ++ literals second := by
  induction first with
  | nil => rfl
  | cons lexeme first ih => cases lexeme <;> simp [literals, ih]

theorem literals_chars (cs : List Char) : literals (cs.map .char) = [] := by
  induction cs with
  | nil => rfl
  | cons c cs ih => simpa [literals] using ih

theorem literalsWith_chars {cs : List Char} (h : ∀ c ∈ cs, IsCalm c) (values : List Value)
    (rest : List Lexeme) :
    literalsWith values (cs.map .char ++ rest) = literalsWith values rest := by
  induction cs with
  | nil => rfl
  | cons c cs ih =>
    obtain ⟨⟨-, hmark⟩, hcs⟩ := List.forall_mem_cons.mp h
    rw [List.map_cons, List.cons_append, literalsWith, ih hcs]
    · exact fun _ _ _ => hmark
    · exact fun _ _ _ => hmark

/-- The literals of pieces with their values in place are those of the pieces with placeholders and
the texts among the values. -/
theorem literals_pieces {pieces : List Piece} (h : ∀ p ∈ pieces, p.Calm) :
    literals (pieces.flatMap (Piece.lexemes Value.lexemes)) =
      literalsWith (pieces.flatMap Piece.values)
        (pieces.flatMap (Piece.lexemes fun _ => [.char '?'])) := by
  induction pieces with
  | nil => rfl
  | cons p pieces ih =>
    obtain ⟨hp, hpieces⟩ := List.forall_mem_cons.mp h
    have ih := ih hpieces
    simp only [List.flatMap_cons, literals_append]
    cases p with
    | plain cs =>
      simp [Piece.lexemes, Piece.values, literals_chars, literalsWith_chars hp, ih]
    | literal s => simp [Piece.lexemes, Piece.values, literals, literalsWith, ih]
    | value v =>
      cases v with
      | text s =>
        simp [Piece.lexemes, Piece.values, Value.lexemes, literals, literalsWith, ih]
      | integer n =>
        simp [Piece.lexemes, Piece.values, Value.lexemes, literals_chars, literalsWith, ih]
      | real x =>
        simp [Piece.lexemes, Piece.values, Value.lexemes, literals_chars, literalsWith, ih]

theorem placeholder_not_mem_lexemes (v : Value) : Lexeme.char '?' ∉ v.lexemes := by
  cases v with
  | text s => simp [Value.lexemes]
  | integer n =>
    simp only [Value.lexemes, Value.literal, List.mem_map, Lexeme.char.injEq, exists_eq_right]
    exact fun hin => (calm_toString_int n.toInt _ hin).2 rfl
  | real x =>
    simp only [Value.lexemes, Value.literal, List.mem_map, Lexeme.char.injEq, exists_eq_right]
    exact fun hin => (calm_render x _ hin).2 rfl

/-- Values that are written out leave no placeholder. -/
theorem placeholder_not_mem_pieces {pieces : List Piece} (h : ∀ p ∈ pieces, p.Calm) :
    Lexeme.char '?' ∉ pieces.flatMap (Piece.lexemes Value.lexemes) := by
  rw [List.mem_flatMap]
  rintro ⟨p, hp, hin⟩
  cases p with
  | plain cs =>
    have hmark : '?' ∈ cs := by simpa [Piece.lexemes] using hin
    exact (h _ hp '?' hmark).2 rfl
  | literal s => simp [Piece.lexemes] at hin
  | value v => exact placeholder_not_mem_lexemes v hin

end Sql

/-- An inlined statement is read back without open literals and placeholders, and its literals are
those of the statement and the texts bound to it, each in its place. -/
theorem Expr.readCode_inlined_statement {o : Options} {e : Expr} {f : Fragment}
    (h : e.statement o = .ok f) :
    ∃ written inlined, readCode f.text.toList = some written ∧
      readCode f.inlined.toList = some inlined ∧ Lexeme.char '?' ∉ inlined ∧
      literals inlined = literalsWith f.params written := by
  obtain ⟨c, hc, rfl⟩ := statement_eq_ok_iff.mp h
  have hapart := apart_rowsCode hc
  have hcalm := Code.calm_pieces hapart.native
  refine ⟨_, _, hapart.readCode_text, hapart.readCode_inlined, placeholder_not_mem_pieces hcalm, ?_⟩
  calc literals ((rowsCode c).pieces.flatMap (Piece.lexemes Value.lexemes))
      = literalsWith ((rowsCode c).pieces.flatMap Piece.values)
          ((rowsCode c).pieces.flatMap (Piece.lexemes fun _ => [.char '?'])) :=
        literals_pieces hcalm
    _ = literalsWith (rowsCode c).fragment.params
          ((rowsCode c).pieces.flatMap (Piece.lexemes fun _ => [.char '?'])) := by
        rw [Code.fragment, ← Code.params_eq_values hapart.native]

/-- A value with a quote, a placeholder, a comment sign and a line break is one literal. -/
theorem Expr.readCode_inlined_statement_hostile :
    ∃ f,
      Expr.statement ⟨true, .edit, .fullMatch, 100⟩
        (.call "label_set"
          [.selector ⟨⟨"up", by decide⟩,
            [⟨⟨"env", by decide⟩, .equal, "it's' OR 1 = 1 -- ?\n", by decide⟩], none⟩,
            .text "job", .text "'?'"]) = .ok f ∧
      ∃ written inlined, readCode f.text.toList = some written ∧
        readCode f.inlined.toList = some inlined ∧ Lexeme.char '?' ∉ inlined ∧
        literals inlined = literalsWith f.params written :=
  Exists.imp (fun _ hf => ⟨hf, Expr.readCode_inlined_statement hf⟩) ⟨_, rfl⟩

end SeriesSql
