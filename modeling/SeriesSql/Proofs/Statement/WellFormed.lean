import SeriesSql.Proofs.Compile.Spacing
import SeriesSql.Proofs.Statement.Bindings

/-!
# Compiled fragments are well formed

A fragment is put into larger ones as it is, so it has to be closed in itself: its text ends outside
any literal, and its placeholders are as many as its values.  `compile_statement_wellFormed` says so
of every fragment that compilation yields, whatever the expression and the options are.

Compiled code comes from this library alone, hence its literals are closed and its values have their
placeholders.  It is not empty because it has a value: every expression that compiles holds a metric
name or a number.
-/

namespace SeriesSql

open Sql Compile

/-- A fragment that can be embedded. -/
structure Sql.Fragment.WellFormed (f : Fragment) : Prop where
  nonempty : f.text ≠ ""
  /-- Quotes come in pairs, so the text ends outside any literal. -/
  closed : Even (f.text.toList.count '\'')
  balanced : f.isBalanced = true

namespace Expr

theorem params_ne_nil_of_compiles {o : Options} {e : Expr} {c : Compiled} (h : Compiles o e c) :
    c.code.params ≠ [] := by
  have hselector : ∀ s : Selector, s.bindings o.patternMode ≠ [] := by
    intro s
    simp [Selector.bindings]
  induction h with
  | selector s =>
    rw [params_selector, params_sampleTables]
    exact hselector s
  | rollup | quantile =>
    rw [params_rollup, params_sampleTables]
    exact List.append_ne_nil_of_left_ne_nil (hselector _) _
  | label hname hinput htexts hedit hrelabels ih =>
    rw [params_relabeling, List.append_assoc]
    exact List.append_ne_nil_of_left_ne_nil ih _
  | latest =>
    rw [params_latestGroups, params_sampleTables]
    exact List.append_ne_nil_of_left_ne_nil (hselector _) _
  | timed hkind hsplits hoperand htimed ih =>
    rw [params_timedGroups]
    exact List.append_ne_nil_of_left_ne_nil ih _
  | binary hop hleft hright hjoin ihLeft ihRight =>
    rw [params_binary hjoin]
    exact List.append_ne_nil_of_left_ne_nil ihLeft _
  | paren hinner ih => exact ih
  | number x => simp [scalarCode]

end Expr

/-- Native code with a value is well formed. -/
theorem Sql.Code.wellFormed_fragment {code : Code} (hnative : code.Native)
    (hparams : code.params ≠ []) : code.fragment.WellFormed := by
  have hbalanced := Code.isBalanced_fragment hnative
  refine ⟨?_, Code.even_quotes hnative, hbalanced⟩
  intro hempty
  -- An empty text has no placeholder for the value.
  have hcount : code.fragment.placeholders = 0 := by
    rw [Fragment.placeholders, hempty]
    rfl
  rw [Fragment.isBalanced, beq_iff_eq, hcount] at hbalanced
  exact hparams (List.eq_nil_of_length_eq_zero hbalanced.symm)

namespace Expr

/-- Compilation yields well-formed fragments, before and after a scalar is made a row. -/
theorem compile_statement_wellFormed (o : Options) (e : Expr) :
    (∀ c, e.compile o = .ok c → c.code.fragment.WellFormed) ∧
      ∀ f, e.statement o = .ok f → f.WellFormed := by
  constructor
  · intro c hc
    have hcompiles := compile_eq_ok_iff.mp hc
    exact Code.wellFormed_fragment (apart_of_compiles hcompiles).native
      (params_ne_nil_of_compiles hcompiles)
  · intro f hf
    obtain ⟨c, hcompiles, rfl⟩ := statement_eq_ok_iff.mp hf
    refine Code.wellFormed_fragment (apart_rowsCode hcompiles).native ?_
    rw [params_rowsCode]
    exact params_ne_nil_of_compiles hcompiles

/-- A number times a vector that is relabeled in two stages and matched against a quote. -/
def quotedDeletion : Expr :=
  .binary "*" .filter (.number 2)
    (.call "label_del"
      [.selector ⟨⟨"up", by decide⟩, [⟨⟨"env", by decide⟩, .notEqual, "it's ?", by decide⟩], none⟩,
        .text "job", .text "dc"])

theorem compile_statement_wellFormed_quotedDeletion :
    (∃ c, quotedDeletion.compile ⟨true, .edit, .fullMatch, 100⟩ = .ok c ∧
        c.code.fragment.WellFormed) ∧
      ∃ f, quotedDeletion.statement ⟨true, .edit, .fullMatch, 100⟩ = .ok f ∧ f.WellFormed :=
  ⟨⟨_, rfl, (compile_statement_wellFormed _ quotedDeletion).1 _ rfl⟩,
    ⟨_, rfl, (compile_statement_wellFormed _ quotedDeletion).2 _ rfl⟩⟩

end Expr

end SeriesSql
