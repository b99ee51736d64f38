import SeriesSql.Proofs.Compile.JoinText
import SeriesSql.Proofs.Compile.Spacing
import SeriesSql.Proofs.Sql.Embedding
import SeriesSql.Proofs.Statement.Bindings
import SeriesSql.Proofs.Statement.Faults

/-!
# Quantiles and operators reach the statement

If an expression compiles, each operation in it compiles on its own and its code stands in the code
of the expression.  So what is written for a quantile or an operator, however deep, is known from
its own node: the quantile is bound as the literal that stands in the query, and the operator is
written by its own rule.  The quantile and the sign that stand in for missing ones are therefore
never used.  `compile_faults_and_literals` puts this beside the values that can be invalid.

There are four groups.

* Operands, whose code is part of the code of a construct.
* Operations inside an expression, by induction over its derivation.
* Quantiles.
* The theorem, with what `OperationText` says about operators.
-/

namespace SeriesSql

open Sql Compile

/-! ## Operands of the constructs -/

namespace Compile

theorem occurs_timedGroups (kind : Aggregate) (operand : Code) (p : Partition) :
    operand.Occurs (timedGroups kind operand p) :=
  .left (.right (.parens .here))

theorem occurs_relabeling (r : Relabeling) (input : Code) : input.Occurs (r.code input) :=
  .left (.right (.parens .here))

theorem occurs_twoTables_left (first left second right : Code) :
    left.Occurs (twoTables first left second right) :=
  .left (.left (.left (.left (.right (.parens .here)))))

theorem occurs_twoTables_right (first left second right : Code) :
    right.Occurs (twoTables first left second right) :=
  .right (.parens .here)

/-- The tables of the operands are part of a join. -/
theorem exists_twoTables_occurs {op : BinaryOperator} {mode : ComparisonMode} {l r c : Compiled}
    (h : Compile.binary op mode l r = .ok c) :
    ∃ first second, (twoTables first l.code second r.code).Occurs c.code := by
  obtain ⟨s, rfl, -, -, rfl⟩ | ⟨sign, -, rfl⟩ := binary_cases h
  · exact ⟨_, _, .left (.left (.left .here))⟩
  · unfold joinValues
    split
    · exact ⟨_, _, .left (.left (.left .here))⟩
    · exact ⟨_, _, .left (.left (.left (.left (.left (.left (.left (.left .here)))))))⟩
    · exact ⟨_, _, .left (.left (.left (.left (.left (.left (.left (.left .here)))))))⟩
    · exact ⟨_, _, .left (.left (.left (.left (.left (.left .here)))))⟩

end Compile

/-! ## Operations inside an expression -/

namespace Expr

def isOperation : Expr → Bool
  | call _ _ | aggregate _ _ _ | binary _ _ _ _ => true
  | selector _ | paren _ | number _ | text _ => false

/-- Parentheses around something without operations hold none. -/
theorem isOperation_of_mem_nodes {e node : Expr} (h : e.stripParens.isOperation = false)
    (hnode : node ∈ e.nodes) : node.isOperation = false := by
  induction e using Expr.stripParens.induct with
  | case1 inner ih =>
    rw [nodes] at hnode
    rcases List.mem_cons.mp hnode with rfl | hnode
    · rfl
    · exact ih h hnode
  | case2 e hother =>
    rw [stripParens] at h
    · cases e with
      | selector s | number x | text s =>
        rw [nodes, List.mem_singleton] at hnode
        rw [hnode]
        rfl
      | paren inner => exact absurd rfl (hother inner)
      | call | aggregate | binary => cases h
    · exact hother

theorem isOperation_of_mem_nodesList {args : List Expr}
    (hargs : ∀ arg ∈ args, arg.stripParens.isOperation = false) {node : Expr}
    (hnode : node ∈ nodesList args) : node.isOperation = false := by
  rw [nodesList_eq] at hnode
  obtain ⟨arg, harg, hnode⟩ := List.mem_flatMap.mp hnode
  exact isOperation_of_mem_nodes (hargs arg harg) hnode

/-- Every operation in an expression that compiles does so on its own, and its code is part of the
whole. -/
theorem exists_compiles_of_mem_nodes {o : Options} {e node : Expr} {c : Compiled}
    (h : Compiles o e c) (hnode : node ∈ e.nodes) (hop : node.isOperation = true) :
    ∃ d, Compiles o node d ∧ d.code.Occurs c.code := by
  induction h with
  | selector s =>
    rw [nodes, List.mem_singleton] at hnode
    subst hnode
    cases hop
  | rollup hname hquantile htarget =>
    rw [nodes] at hnode
    rcases List.mem_cons.mp hnode with rfl | hnode
    · exact ⟨_, .rollup hname hquantile htarget, .here⟩
    · rw [isOperation_of_mem_nodesList (by simp [htarget, isOperation]) hnode] at hop
      cases hop
  | quantile hname hnumber hquantile htarget =>
    rw [nodes] at hnode
    rcases List.mem_cons.mp hnode with rfl | hnode
    · exact ⟨_, .quantile hname hnumber hquantile htarget, .here⟩
    · rw [isOperation_of_mem_nodesList (by simp [hnumber, htarget, isOperation]) hnode] at hop
      cases hop
  | @label function f input args code texts edit relabeling hname hinput htexts hedit hrelabels
      ih =>
    rw [nodes, nodesList] at hnode
    rcases List.mem_cons.mp hnode with rfl | hnode
    · exact ⟨_, .label hname hinput htexts hedit hrelabels, .here⟩
    · rcases List.mem_append.mp hnode with hnode | hnode
      · obtain ⟨d, hd, hoccurs⟩ := ih hnode
        exact ⟨d, hd, hoccurs.trans (occurs_relabeling relabeling code)⟩
      · have htext : ∀ arg ∈ args, arg.stripParens.isOperation = false := by
          intro arg harg
          obtain ⟨text, -, htext⟩ := exists_text_of_mem htexts harg
          rw [htext]
          rfl
        rw [isOperation_of_mem_nodesList htext hnode] at hop
        cases hop
  | latest hkind hsplits hoperand hwindow =>
    rw [nodes] at hnode
    rcases List.mem_cons.mp hnode with rfl | hnode
    · exact ⟨_, .latest hkind hsplits hoperand hwindow, .here⟩
    · rw [isOperation_of_mem_nodes (by rw [hoperand]; rfl) hnode] at hop
      cases hop
  | timed hkind hsplits hoperand htimed ih =>
    rw [nodes] at hnode
    rcases List.mem_cons.mp hnode with rfl | hnode
    · exact ⟨_, .timed hkind hsplits hoperand htimed, .here⟩
    · obtain ⟨d, hd, hoccurs⟩ := ih hnode
      exact ⟨d, hd, hoccurs.trans (occurs_timedGroups _ _ _)⟩
  | binary hop' hleft hright hjoin ihLeft ihRight =>
    obtain ⟨first, second, htables⟩ := exists_twoTables_occurs hjoin
    rw [nodes] at hnode
    rcases List.mem_cons.mp hnode with rfl | hnode
    · exact ⟨_, .binary hop' hleft hright hjoin, .here⟩
    · rcases List.mem_append.mp hnode with hnode | hnode
      · obtain ⟨d, hd, hoccurs⟩ := ihLeft hnode
        exact ⟨d, hd, (hoccurs.trans (occurs_twoTables_left _ _ _ _)).trans htables⟩
      · obtain ⟨d, hd, hoccurs⟩ := ihRight hnode
        exact ⟨d, hd, (hoccurs.trans (occurs_twoTables_right _ _ _ _)).trans htables⟩
  | paren hinner ih =>
    rw [nodes] at hnode
    rcases List.mem_cons.mp hnode with rfl | hnode
    · cases hop
    · exact ih hnode
  | number x =>
    rw [nodes, List.mem_singleton] at hnode
    subst hnode
    cases hop

/-! ## Quantiles -/

theorem occurs_quantile (mode : PatternMode) {call : RollupCall} {x : Float}
    (h : call.quantile? = some x) :
    (w "CASE WHEN pct_rank >= " ++ .bound (.real x)).Occurs (Compile.rollup mode call) := by
  rw [Compile.rollup, (RollupCall.of_quantile?_eq_some h).1, h]
  exact .right (.left (.right (.parens (.left (.left (.right (.parens (.left .here))))))))

/-- The call of `quantile_over_time` that is compiled has the quantile of its literal, and binds
it. -/
theorem quantile_of_compiles {o : Options} {args : List Expr} {d : Compiled}
    (h : Compiles o (.call "quantile_over_time" args) d) :
    ∃ q target x call, args = [q, target] ∧ q.stripParens = .number x ∧
      target.stripParens = .selector call.selector ∧ call.quantile? = some x ∧
      d.code = Compile.rollup o.patternMode call ∧
      (w "CASE WHEN pct_rank >= " ++ .bound (.real x)).Occurs d.code := by
  generalize hfunction : "quantile_over_time" = function at h
  cases h with
  | rollup hname hquantile htarget =>
    subst hfunction
    exact absurd (Option.some.inj hname).symm (RollupCall.rollup_ne_of_quantile?_eq_none hquantile)
  | quantile hname hnumber hquantile htarget =>
    exact ⟨_, _, _, _, rfl, hnumber, htarget, hquantile, rfl, occurs_quantile _ hquantile⟩
  | label hname =>
    subst hfunction
    cases hname

theorem params_rollup_of_quantile (mode : PatternMode) {call : RollupCall} {x : Float}
    (h : call.quantile? = some x) :
    (Compile.rollup mode call).params = call.selector.bindings mode ++ [.real x] := by
  rw [params_rollup, params_sampleTables, h]
  rfl

/-! ## Faults, quantiles and operators -/

/-- Only an operator with a sign is written between values. -/
theorem binary_of_compiles {o : Options} {operator : String} {mode : ComparisonMode}
    {left right : Expr} {d : Compiled} (h : Compiles o (.binary operator mode left right) d) :
    ∃ op l r, BinaryOperator.ofSymbol? operator = some op ∧ left.compile o = .ok l ∧
      right.compile o = .ok r ∧
      ((∃ s, op = .set s ∧ d.code = setOperation s l.code r.code) ∨
        ∃ sign, op.sqlSign? = some sign ∧ d.code = joinValues op mode l r) ∧
      OperationText mode l r operator d.code.text := by
  cases h with
  | binary hop hleft hright hjoin =>
    refine ⟨_, _, _, hop, compile_eq_ok_iff.mpr hleft, compile_eq_ok_iff.mpr hright, ?_,
      operationText_of_binary hop hjoin⟩
    obtain ⟨s, rfl, -, -, rfl⟩ | ⟨sign, hsign, rfl⟩ := binary_cases hjoin
    · exact .inl ⟨s, rfl, rfl⟩
    · exact .inr ⟨sign, hsign, rfl⟩

theorem exists_compile_of_mem_nodes {o : Options} {e node : Expr} {c : Compiled}
    (h : e.compile o = .ok c) (hnode : node ∈ e.nodes) (hop : node.isOperation = true) :
    ∃ d, Compiles o node d ∧ node.compile o = .ok d ∧ c.code.fragment.Holds d.code.fragment := by
  have hcompiles := compile_eq_ok_iff.mp h
  obtain ⟨d, hd, hoccurs⟩ := exists_compiles_of_mem_nodes hcompiles hnode hop
  exact ⟨d, hd, compile_eq_ok_iff.mpr hd, hoccurs.holds (apart_of_compiles hcompiles).native⟩

/-- Compilation finds only those values invalid that the expression holds, and never a name, window,
rollup or fragment.  Every quantile in an expression that compiles is bound as the literal in the
query, and every operator is written by its own rule: with its own sign, or with the rows that a set
operator keeps. -/
theorem compile_faults_and_literals (o : Options) (e : Expr) :
    (∀ cause, e.compile o = .error (.invalid cause) → cause.Within e) ∧
    ∀ c, e.compile o = .ok c →
      (∀ args, .call "quantile_over_time" args ∈ e.nodes →
        ∃ q target x call d, args = [q, target] ∧ q.stripParens = .number x ∧
          target.stripParens = .selector call.selector ∧ call.quantile? = some x ∧
          (Expr.call "quantile_over_time" args).compile o = .ok d ∧
          d.code = Compile.rollup o.patternMode call ∧
          c.code.fragment.Holds d.code.fragment ∧
          d.code.params = call.selector.bindings o.patternMode ++ [.real x] ∧
          d.code.fragment.Holds ⟨"CASE WHEN pct_rank >= ?", [.real x]⟩) ∧
      ∀ operator mode left right, .binary operator mode left right ∈ e.nodes →
        ∃ op l r d, BinaryOperator.ofSymbol? operator = some op ∧
          left.compile o = .ok l ∧ right.compile o = .ok r ∧
          (Expr.binary operator mode left right).compile o = .ok d ∧
          c.code.fragment.Holds d.code.fragment ∧
          ((∃ s, op = .set s ∧ d.code = setOperation s l.code r.code) ∨
            ∃ sign, op.sqlSign? = some sign ∧ d.code = joinValues op mode l r) ∧
          OperationText mode l r operator d.code.text := by
  refine ⟨fun cause => failsOnly_compile o e cause, fun c hc => ⟨?_, ?_⟩⟩
  · intro args hnode
    obtain ⟨d, hd, hcompile, hholds⟩ := exists_compile_of_mem_nodes hc hnode rfl
    obtain ⟨q, target, x, call, hargs, hnumber, htarget, hquantile, hcode, hoccurs⟩ :=
      quantile_of_compiles hd
    have hparams := params_rollup_of_quantile o.patternMode hquantile
    exact ⟨q, target, x, call, d, hargs, hnumber, htarget, hquantile, hcompile, hcode, hholds,
      hcode ▸ hparams, hoccurs.holds (apart_of_compiles hd).native⟩
  · intro operator mode left right hnode
    obtain ⟨d, hd, hcompile, hholds⟩ := exists_compile_of_mem_nodes hc hnode rfl
    obtain ⟨op, l, r, hop, hl, hr, hcode, htext⟩ := binary_of_compiles hd
    exact ⟨op, l, r, d, hop, hl, hr, hcompile, hholds, hcode, htext⟩

/-- The samples of the last two minutes. -/
def latencies : Expr :=
  .selector ⟨⟨"latency", by decide⟩, [], some ⟨120000, none, by decide, by decide⟩⟩

/-- A quantile inside an aggregation, which is compared with a number. -/
def summedQuantile (q : Float) : Expr :=
  .binary "!=" .filter
    (.aggregate "sum" .all (.call "quantile_over_time" [.paren (.number q), latencies])) (.number 2)

/-- The sums of which there is no sample. -/
def withoutSamples (q : Float) : Expr :=
  .binary "unless" .filter (.paren (summedQuantile q)) latencies

/-- A fault in the quantile, and the texts of a set operator, a comparison and a quantile, each
inside the one before. -/
theorem compile_faults_and_literals_withoutSamples :
    ((withoutSamples 3).compile ⟨true, .edit, .fullMatch, 100⟩ = .error (.invalid (.quantile 3)) ∧
      (Invalid.quantile 3).Within (withoutSamples 3)) ∧
    ∃ c d f : Compiled, (withoutSamples 1).compile ⟨true, .edit, .fullMatch, 100⟩ = .ok c ∧
      (∃ l r : Compiled, c.code.text =
        "WITH left_data AS (" ++ l.code.text ++ "), right_data AS (" ++ r.code.text ++ ")" ++
          " SELECT timestamp, value, labels FROM left_data WHERE NOT EXISTS" ++
          " (SELECT 1 FROM right_data WHERE right_data.labels = left_data.labels)" ++
          " ORDER BY timestamp, labels") ∧
      c.code.fragment.Holds d.code.fragment ∧
      (∃ l r : Compiled, OperationText .filter l r "!=" d.code.text) ∧
      c.code.fragment.Holds f.code.fragment ∧
      f.code.fragment.Holds ⟨"CASE WHEN pct_rank >= ?", [.real 1]⟩ := by
  have hfault : (withoutSamples 3).compile ⟨true, .edit, .fullMatch, 100⟩ =
      .error (.invalid (.quantile 3)) := rfl
  obtain ⟨c, hc⟩ : ∃ c, (withoutSamples 1).compile ⟨true, .edit, .fullMatch, 100⟩ = .ok c :=
    ⟨_, rfl⟩
  obtain ⟨hquantiles, hoperators⟩ := (compile_faults_and_literals _ _).2 c hc
  obtain ⟨q, target, x, call, f, hargs, hnumber, -, -, -, -, hquantile, -, hbound⟩ :=
    hquantiles [.paren (.number 1), latencies] (by simp [withoutSamples, summedQuantile, nodes])
  cases hargs
  cases hnumber
  have hinner : summedQuantile 1 ∈ (withoutSamples 1).nodes := by
    simp [withoutSamples, summedQuantile, nodes]
  obtain ⟨-, l, r, d, -, -, -, -, hcomparison, -, hsign⟩ := hoperators "!=" .filter _ _ hinner
  obtain ⟨-, left, right, whole, -, -, -, hwhole, -, -, hrows⟩ :=
    hoperators "unless" .filter _ _ List.mem_cons_self
  cases hwhole.symm.trans hc
  refine ⟨⟨hfault, (compile_faults_and_literals _ _).1 _ hfault⟩, c, d, f, hc, ⟨left, right, ?_⟩,
    hcomparison, ⟨l, r, hsign⟩, hquantile, hbound⟩
  generalize c.code.text = text, hoperator : "unless" = operator at hrows ⊢
  cases hrows with
  | arithmetic hsign | filter hsign =>
    subst hoperator
    simp [arithmeticSigns, comparisonSigns] at hsign
  | quotient => exact absurd hoperator (by decide)
  | truth hsign hmode => cases hmode
  | @set operator rows hrows hleft hright =>
    subst hoperator
    have hrows : rows = " WHERE NOT EXISTS " ++
        "(SELECT 1 FROM right_data WHERE right_data.labels = left_data.labels)" := by
      simpa [setRows] using hrows
    simp [hrows, joinForm, hleft, hright, JoinForm.ofShapes, JoinForm.tables, String.append_assoc]

end Expr

end SeriesSql
