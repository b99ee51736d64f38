import SeriesSql.Proofs.Compile.Derivation
import SeriesSql.Proofs.Sql.Code

/-!
# Compiled code stands on one line

Words, signs and numbers have no line feed, and a bound value is a question mark in the text.  So
the text of code can have a line feed only inside a literal or in a fragment from outside.
`Code.OneLine` says that neither is the case.  The literals of compiled code are those of the label
string, `,` and `=`, and the empty one.

The lemmas follow the constructs, as in `Proofs.Compile.Spacing`.
-/

namespace SeriesSql

open Sql Compile Labels

namespace Sql.Code

/-- No literal and no fragment from outside has a line feed. -/
def OneLine : Code → Prop
  | quoted s => '\n' ∉ s.toList
  | given f => '\n' ∉ f.text.toList
  | parens inner => inner.OneLine
  | seq first second => first.OneLine ∧ second.OneLine
  | word _ | sign _ | number _ | bound _ => True

@[simp] theorem oneLine_append (first second : Code) :
    (first ++ second).OneLine ↔ first.OneLine ∧ second.OneLine := Iff.rfl

@[simp] theorem oneLine_parens (inner : Code) : (parens inner).OneLine ↔ inner.OneLine := Iff.rfl

@[simp] theorem oneLine_w (text : String) (plain : Plain text) : (w text plain).OneLine := trivial

@[simp] theorem oneLine_sign (s : Sign) : (sign s).OneLine := trivial

@[simp] theorem oneLine_number (n : Nat) : (number n).OneLine := trivial

@[simp] theorem oneLine_bound (v : Value) : (bound v).OneLine := trivial

@[simp] theorem oneLine_quoted (s : String) : (quoted s).OneLine ↔ '\n' ∉ s.toList := Iff.rfl

theorem lineFeed_not_mem_doubleQuotes {cs : List Char} (h : '\n' ∉ cs) :
    '\n' ∉ doubleQuotes cs := by
  simp only [doubleQuotes, List.mem_flatMap, not_exists, not_and]
  intro c hc hin
  split at hin
  · simp at hin
  · have hc' : '\n' = c := by simpa using hin
    exact h (hc' ▸ hc)

theorem OneLine.lineFeed_not_mem {code : Code} (h : code.OneLine) : '\n' ∉ code.text.toList := by
  induction code with
  | word w =>
    intro hin
    exact absurd (List.all_eq_true.mp w.plain _ hin) (by decide)
  | sign s => cases s <;> decide
  | number n =>
    intro hin
    have hdigit : '\n' ∈ Nat.toDigits 10 n := by simpa [text, toString, Nat.repr] using hin
    exact absurd (Nat.isDigit_of_mem_toDigits (by decide) (by decide) hdigit) (by decide)
  | quoted s => simpa [text, quoteChars] using lineFeed_not_mem_doubleQuotes h
  | bound v => simp [text]
  | parens inner ih => simpa [text] using ih h
  | seq first second ih₁ ih₂ => simpa [text] using ⟨ih₁ h.1, ih₂ h.2⟩
  | given f => exact h

end Sql.Code

/-! ## Terms -/

namespace Labels.Term

theorem oneLine_extract (key : LabelName) : (extract key).code.OneLine := by
  simp [extract, keyPosition, valueStart, padded, labels, code, Column.code]

theorem oneLine_hasKey (key : LabelName) : (hasKey key).code.OneLine := by
  simp [hasKey, keyPosition, padded, labels, code, Column.code]

theorem oneLine_setValue (key : LabelName) (value : Term) :
    (setValue key value).code.OneLine ↔ value.code.OneLine := by
  simp [setValue, keyPosition, pairStop, padded, labels, code, Column.code]

theorem oneLine_removeKey (key : LabelName) : (removeKey key).code.OneLine := by
  simp [removeKey, keyPosition, pairStop, padded, labels, code, Column.code]

theorem oneLine_concatAll {separator : Term → Term → Term}
    (hseparator : ∀ a b : Term, a.code.OneLine → b.code.OneLine → (separator a b).code.OneLine)
    {terms : List Term} (hterms : ∀ t ∈ terms, t.code.OneLine) :
    (concatAll separator terms).code.OneLine := by
  cases terms with
  | nil => simp [concatAll, code]
  | cons first rest =>
    obtain ⟨hfirst, hrest⟩ := List.forall_mem_cons.mp hterms
    rw [concatAll]
    clear hterms
    induction rest generalizing first with
    | nil => exact hfirst
    | cons next rest ih =>
      obtain ⟨hnext, hrest⟩ := List.forall_mem_cons.mp hrest
      exact ih _ (hseparator _ _ hfirst hnext) hrest

theorem oneLine_keepKeys (keys : List LabelName) : (keepKeys keys).code.OneLine := by
  simp only [keepKeys, code, Code.oneLine_append, Code.oneLine_parens]
  refine ⟨by simp, ⟨oneLine_concatAll ?_ ?_, by simp⟩, by simp⟩
  · intro a b ha hb
    simp [code, ha, hb]
  · simp [code, oneLine_extract]

theorem oneLine_groupKey {value : LabelName → Term} (hvalue : ∀ key, (value key).code.OneLine)
    (keys : List LabelName) : (groupKey value keys).code.OneLine := by
  refine oneLine_concatAll ?_ ?_
  · intro a b ha hb
    simp [code, ha, hb]
  · simp [code, hvalue]

end Labels.Term

namespace Compile

/-! ## Samples and rollups -/

theorem oneLine_sampleTables (mode : PatternMode) (s : Selector) :
    (sampleTables mode s).OneLine := by
  have hfilters : (matcherFilters mode s.matchers).OneLine := by
    induction s.matchers with
    | nil => simp [matcherFilters]
    | cons m rest ih =>
      simp only [matcherFilters, MembershipFilter.code]
      split <;> split <;> simp [ih]
  have hsamples : (labeledSamples mode s).OneLine := by
    unfold labeledSamples labelString
    split <;> simp [hfilters]
  unfold sampleTables
  split
  · unfold windowBounds
    split <;> simp [hsamples, latestTimestamp]
  · simp [hsamples, latestBound, latestTimestamp]

theorem oneLine_selector (mode : PatternMode) (s : Selector) : (selector mode s).OneLine := by
  unfold selector
  split <;> simp [oneLine_sampleTables]

theorem oneLine_rollupRows (r : Rollup) (quantile? : Option Float) :
    (rollupRows r quantile?).OneLine := by
  cases r with
  | rate => simp [rollupRows, rate, laggedSamples, bySeries, elapsedSeconds]
  | increase => simp [rollupRows, increase, laggedSamples, bySeries, windowStop]
  | quantileOverTime => simp [rollupRows, quantile, windowStop]
  | _ => simp [rollupRows, overTime, windowStop]

theorem oneLine_rollup (mode : PatternMode) (call : RollupCall) : (rollup mode call).OneLine := by
  simp [rollup, oneLine_sampleTables, oneLine_rollupRows]

/-! ## Groups and joins -/

theorem oneLine_aggregateValue (kind : Aggregate) : (aggregateValue kind).OneLine := by
  cases kind <;> simp [aggregateValue]

theorem oneLine_groupByTables (keys : List LabelName) :
    (Term.groupByTables keys).code.OneLine :=
  Term.oneLine_groupKey (by simp [Term.code]) keys

theorem oneLine_groupByString (keys : List LabelName) :
    (Term.groupByString keys).code.OneLine :=
  Term.oneLine_groupKey Term.oneLine_extract keys

theorem oneLine_latestGroups (kind : Aggregate) {tables : Code} (htables : tables.OneLine)
    (p : Partition) : (latestGroups kind tables p).OneLine := by
  cases p <;>
    simp [latestGroups, latestTimestamp, groupedSamples, htables, oneLine_aggregateValue,
      oneLine_groupByTables]

theorem oneLine_timedGroups (kind : Aggregate) {operand : Code} (hoperand : operand.OneLine)
    (p : Partition) : (timedGroups kind operand p).OneLine := by
  cases p <;>
    simp [timedGroups, groupedSamples, hoperand, oneLine_aggregateValue, oneLine_groupByString]

theorem oneLine_valueAndFilter {left right kept : Code} (hleft : left.OneLine)
    (hright : right.OneLine) (hkept : kept.OneLine) (op : BinaryOperator) (mode : ComparisonMode) :
    (valueAndFilter op mode left right kept).1.OneLine ∧
      (filterClause (valueAndFilter op mode left right kept).2).OneLine := by
  have hexpression : (valueExpression op left right).OneLine := by
    unfold valueExpression
    split <;> simp [hleft, hright]
  unfold valueAndFilter
  split <;> simp [filterClause, hexpression, hkept]

theorem oneLine_joinValues (op : BinaryOperator) (mode : ComparisonMode) {left right : Compiled}
    (hleft : left.code.OneLine) (hright : right.code.OneLine) :
    (joinValues op mode left right).OneLine := by
  have hvalue : ∀ left right kept : Code, left.OneLine → right.OneLine → kept.OneLine →
      (valueAndFilter op mode left right kept).1.OneLine := fun _ _ _ hl hr hk =>
    (oneLine_valueAndFilter hl hr hk op mode).1
  have hfilter : ∀ left right kept : Code, left.OneLine → right.OneLine → kept.OneLine →
      (filterClause (valueAndFilter op mode left right kept).2).OneLine := fun _ _ _ hl hr hk =>
    (oneLine_valueAndFilter hl hr hk op mode).2
  unfold joinValues
  split <;>
    simp [scalarScalar, vectorScalar, vectorVector, vectorTables, twoTables, hleft,
      hright, hvalue, hfilter]

theorem oneLine_setOperation (op : SetOperator) {left right : Code} (hleft : left.OneLine)
    (hright : right.OneLine) : (setOperation op left right).OneLine := by
  cases op <;>
    simp [setOperation, vectorTables, twoTables, sameLabels, hleft, hright]

/-! ## Label functions -/

/-- The terms of a stage have no line feed in their literals. -/
def Stage.OneLine : Stage → Prop
  | relabel labels => labels.code.OneLine
  | derive _ value => value.code.OneLine

theorem oneLine_stageName (n : Nat) : (stageName n).OneLine := by
  cases n <;> simp [stageName]

theorem oneLine_stageTables {stages : List Stage} (h : ∀ stage ∈ stages, stage.OneLine) (n : Nat) :
    (stageTables n stages).1.OneLine := by
  induction stages generalizing n with
  | nil => exact Code.oneLine_w _ _
  | cons stage rest ih =>
    obtain ⟨hstage, hrest⟩ := List.forall_mem_cons.mp h
    have hcolumns : stage.columns.OneLine := by
      cases stage with
      | relabel labels => simpa [Stage.columns, Stage.OneLine] using hstage
      | derive column value =>
        cases column <;> simpa [Stage.columns, Column.code, Stage.OneLine] using hstage
    simp [stageTables, hcolumns, oneLine_stageName, ih hrest]

theorem oneLine_noneOf (keys : List LabelName) : (noneOf keys).code.OneLine := by
  simp only [noneOf, Term.code, Code.oneLine_append, Code.oneLine_w, Code.oneLine_parens, true_and]
  refine Term.oneLine_concatAll ?_ ?_
  · intro a b ha hb
    simp [Term.code, ha, hb]
  · simp [Term.oneLine_hasKey]

theorem oneLine_copyStages (source target : LabelName) :
    ∀ stage ∈ copyStages source target, stage.OneLine := by
  simp [copyStages, Stage.OneLine, Term.oneLine_extract, Term.oneLine_setValue, Term.code,
    Term.labels, Column.code]

/-- The stages and the filter of a label function. -/
theorem oneLine_relabels {mode : LabelMode} {edit : LabelEdit} {r : Relabeling}
    (h : edit.Relabels mode r) :
    (∀ stage ∈ r.stages, stage.OneLine) ∧ ∀ filter ∈ r.filter, filter.code.OneLine := by
  cases h with
  | set => simp [Stage.OneLine, Term.oneLine_setValue, Term.code]
  | del => simp [Stage.OneLine, Term.oneLine_removeKey]
  | reject => simp [oneLine_noneOf]
  | keep => simp [Stage.OneLine, Term.oneLine_keepKeys]
  | keepAll | stay => simp
  | @copy source target => simpa using oneLine_copyStages source target
  | @move source target =>
    refine ⟨?_, by simp⟩
    rw [List.forall_mem_append, List.forall_mem_singleton]
    exact ⟨oneLine_copyStages source target, Term.oneLine_removeKey source⟩
  | replace =>
    simp [replaceStages, Stage.OneLine, Term.oneLine_extract, Term.oneLine_setValue, Term.code,
      Term.labels, Column.code]

theorem oneLine_relabeling {r : Relabeling} (hstages : ∀ stage ∈ r.stages, stage.OneLine)
    (hfilter : ∀ filter ∈ r.filter, filter.code.OneLine) {input : Code} (hinput : input.OneLine) :
    (r.code input).OneLine := by
  have htables := oneLine_stageTables hstages 0
  unfold Relabeling.code Relabeling.rest
  cases hcase : r.filter with
  | none => simp [hinput, htables, oneLine_stageName]
  | some filter =>
    have hfilter := hfilter filter hcase
    simp [hinput, htables, oneLine_stageName, hfilter]

end Compile

/-! ## Expressions -/

namespace Expr

theorem oneLine_of_compiles {o : Options} {e : Expr} {c : Compiled} (h : Compiles o e c) :
    c.code.OneLine := by
  induction h with
  | selector s => exact oneLine_selector o.patternMode s
  | rollup | quantile => exact oneLine_rollup _ _
  | label hname hinput htexts hedit hrelabels ih =>
    obtain ⟨hstages, hfilter⟩ := oneLine_relabels hrelabels
    exact oneLine_relabeling hstages hfilter ih
  | latest => exact oneLine_latestGroups _ (oneLine_sampleTables _ _) _
  | timed hkind hsplits hoperand htimed ih => exact oneLine_timedGroups _ ih _
  | binary hop hleft hright hjoin ihLeft ihRight =>
    rcases binary_cases hjoin with ⟨s, -, -, -, rfl⟩ | ⟨sign, -, rfl⟩
    · exact oneLine_setOperation s ihLeft ihRight
    · exact oneLine_joinValues _ _ ihLeft ihRight
  | paren hinner ih => exact ih
  | number x => simp [scalarCode]

/-- The text of a statement has no line feed. -/
theorem lineFeed_not_mem_statement {o : Options} {e : Expr} {f : Fragment}
    (h : e.statement o = .ok f) : '\n' ∉ f.text.toList := by
  obtain ⟨c, hc, rfl⟩ := statement_eq_ok_iff.mp h
  have hcode := oneLine_of_compiles hc
  have hrows : (rowsCode c).OneLine := by
    unfold rowsCode
    split
    · exact hcode
    · simp [scalarRow, latestTimestamp, hcode]
  exact hrows.lineFeed_not_mem

end Expr

end SeriesSql
