import SeriesSql.Proofs.Compile.Derivation
import SeriesSql.Proofs.Sql.Spacing

/-!
# Compiled code keeps its literals and values apart

A word, a sign or a parenthesis stands between any two literals or values of compiled code, so that
no two of them can be read as one.  Code that is followed by more code is `Sealed`: it also ends in
neither.

The lemmas follow the constructs: terms over the label string, samples and rollups, groups and
joins, label functions, and last expressions, by induction over a derivation.  A word counts as a
separator if it is not empty, and its first character is enough to see that.
-/

namespace SeriesSql

open Sql Compile Labels

/-! ## Terms -/

namespace Labels.Term

theorem apart (t : Term) : t.code.Apart false := by
  induction t with
  | null | int n | text s | bound s => simp [code]
  | column c => cases c <;> simp [code, Column.code]
  | lookup key => simp [code]
  | concat a b iha ihb | plus a b iha ihb | minus a b iha ihb | equal a b iha ihb
  | greater a b iha ihb | regexp a b iha ihb | or a b iha ihb | instr a b iha ihb
  | suffix a b iha ihb | coalesce a b iha ihb =>
    simp [code, iha, ihb]
  | slice a b c iha ihb ihc | replace a b c iha ihb ihc | cond a b c iha ihb ihc =>
    simp [code, iha, ihb, ihc]
  | group a ih | length a ih | isNull a ih | not a ih => simp [code, ih]
  | trimCommas a ih => simp [code, ih]

end Labels.Term

namespace Compile

/-! ## Samples and rollups -/

theorem apart_windowBounds (window : Window) : (windowBounds window).Apart false := by
  unfold windowBounds
  split <;>
    simp [latestTimestamp]

theorem sealed_matcherFilters (mode : PatternMode) (matchers : List Matcher) :
    (matcherFilters mode matchers).Sealed := by
  induction matchers with
  | nil => simp [matcherFilters, Code.Sealed]
  | cons m rest ih =>
    obtain ⟨hrest, hend⟩ := ih
    simp only [matcherFilters, MembershipFilter.code, Code.Sealed]
    split <;> split <;>
      simp [hrest, hend]

theorem sealed_labeledSamples (mode : PatternMode) (s : Selector) :
    (labeledSamples mode s).Sealed := by
  obtain ⟨hfilters, -⟩ := sealed_matcherFilters mode s.matchers
  refine ⟨?_, rfl⟩
  unfold labeledSamples labelString
  split <;>
    simp [hfilters]

theorem sealed_sampleTables (mode : PatternMode) (s : Selector) :
    (sampleTables mode s).Sealed := by
  obtain ⟨hsamples, hend⟩ := sealed_labeledSamples mode s
  unfold sampleTables Code.Sealed
  split
  · rename_i window _
    have hwindow : (windowBounds window).touches false = false := rfl
    simp [hwindow, apart_windowBounds, hsamples, hend]
  · simp [latestBound, latestTimestamp, hsamples, hend]

theorem apart_selector (mode : PatternMode) (s : Selector) : (selector mode s).Apart false := by
  obtain ⟨htables, hend⟩ := sealed_sampleTables mode s
  unfold selector
  split <;> simp [htables, hend]

theorem apart_rollupRows (r : Rollup) (quantile? : Option Float) :
    (rollupRows r quantile?).Apart false := by
  cases r with
  | rate => simp [rollupRows, rate, laggedSamples, bySeries, elapsedSeconds]
  | increase => simp [rollupRows, increase, laggedSamples, bySeries, windowStop]
  | quantileOverTime => simp [rollupRows, quantile, windowStop]
  | _ => simp [rollupRows, overTime, windowStop]

theorem apart_rollup (mode : PatternMode) (call : RollupCall) : (rollup mode call).Apart false := by
  obtain ⟨htables, hend⟩ := sealed_sampleTables mode call.selector
  simp [rollup, htables, hend, apart_rollupRows]

/-! ## Groups and joins -/

theorem sealed_aggregateValue (kind : Aggregate) : (aggregateValue kind).Sealed := by
  cases kind <;> simp [aggregateValue, Code.Sealed]

theorem sealed_groupedSamples (key : Term) {source : Code} (hsource : source.Sealed) :
    (groupedSamples key source).Sealed := by
  obtain ⟨hsource, -⟩ := hsource
  simp [groupedSamples, Code.Sealed, key.apart, hsource]

theorem apart_latestGroups (kind : Aggregate) {tables : Code} (htables : tables.Sealed)
    (p : Partition) : (latestGroups kind tables p).Apart false := by
  obtain ⟨htables, htablesEnd⟩ := htables
  obtain ⟨hvalue, hvalueEnd⟩ := sealed_aggregateValue kind
  cases p with
  | all | labelString =>
    simp [latestGroups, latestTimestamp, htables, htablesEnd, hvalue, hvalueEnd]
  | canonical labels =>
    have hsource : (w "labeled_samples").Sealed := Code.sealed_w _ _
    obtain ⟨hgroups, hgroupsEnd⟩ := sealed_groupedSamples (.groupByTables labels) hsource
    simp [latestGroups, latestTimestamp, htables, htablesEnd, hvalue, hgroups, hgroupsEnd]

theorem apart_timedGroups (kind : Aggregate) {operand : Code} (hoperand : operand.Apart false)
    (p : Partition) : (timedGroups kind operand p).Apart false := by
  obtain ⟨hvalue, hvalueEnd⟩ := sealed_aggregateValue kind
  cases p with
  | all | labelString => simp [timedGroups, hoperand, hvalue, hvalueEnd]
  | canonical labels =>
    have hsource : (w "aggregation_input").Sealed := Code.sealed_w _ _
    obtain ⟨hgroups, hgroupsEnd⟩ := sealed_groupedSamples (.groupByString labels) hsource
    simp [timedGroups, hoperand, hvalue, hgroups, hgroupsEnd]

/-- An operator on values writes words between its operands. -/
theorem sealed_valueAndFilter {left right kept : Code} (hleft : left.Sealed) (hright : right.Sealed)
    (hkept : kept.Sealed) (op : BinaryOperator) (mode : ComparisonMode) :
    (valueAndFilter op mode left right kept).1.Sealed ∧
      (filterClause (valueAndFilter op mode left right kept).2).Sealed := by
  obtain ⟨hleft, hleftEnd⟩ := hleft
  obtain ⟨hright, hrightEnd⟩ := hright
  have hexpression : (valueExpression op left right).Apart false ∧
      (valueExpression op left right).touches false = false := by
    unfold valueExpression
    split <;> simp [hleft, hleftEnd, hright, hrightEnd]
  obtain ⟨hkept, hkeptEnd⟩ := hkept
  unfold Code.Sealed valueAndFilter
  split <;> simp [filterClause, hexpression, hkept, hkeptEnd]

theorem apart_joinValues (op : BinaryOperator) (mode : ComparisonMode) {left right : Compiled}
    (hleft : left.code.Apart false) (hright : right.code.Apart false) :
    (joinValues op mode left right).Apart false := by
  have hmetric : (w "metric_data" ++ w ".value").Sealed :=
    (Code.sealed_w _ _).append (Code.sealed_w _ _)
  have hscalar : (w "scalar_value" ++ w ".value").Sealed :=
    (Code.sealed_w _ _).append (Code.sealed_w _ _)
  have hkept : (w "metric_data.value").Sealed := Code.sealed_w _ _
  unfold joinValues
  split
  · have hfirst : (w "left_scalar.value").Sealed := Code.sealed_w _ _
    have hsecond : (w "right_scalar.value").Sealed := Code.sealed_w _ _
    obtain ⟨⟨hvalue, hvalueEnd⟩, -⟩ := sealed_valueAndFilter hfirst hsecond hfirst op mode
    simp [scalarScalar, twoTables, hleft, hright, hvalue]
  · obtain ⟨⟨hvalue, hvalueEnd⟩, hfilter, hfilterEnd⟩ :=
      sealed_valueAndFilter hmetric hscalar hkept op mode
    simp [vectorScalar, twoTables, hleft, hright, hvalue, hvalueEnd, hfilter]
  · obtain ⟨⟨hvalue, hvalueEnd⟩, hfilter, hfilterEnd⟩ :=
      sealed_valueAndFilter hscalar hmetric hkept op mode
    simp [vectorScalar, twoTables, hleft, hright, hvalue, hvalueEnd, hfilter]
  · have hfirst : (w "left_data.value").Sealed := Code.sealed_w _ _
    have hsecond : (w "right_data.value").Sealed := Code.sealed_w _ _
    obtain ⟨⟨hvalue, hvalueEnd⟩, hfilter, hfilterEnd⟩ :=
      sealed_valueAndFilter hfirst hsecond hfirst op mode
    simp [vectorVector, vectorTables, twoTables, hleft, hright, hvalue, hvalueEnd,
      hfilter]

theorem apart_setOperation (op : SetOperator) {left right : Code} (hleft : left.Apart false)
    (hright : right.Apart false) : (setOperation op left right).Apart false := by
  cases op <;>
    simp [setOperation, vectorTables, twoTables, sameLabels, hleft, hright]

/-! ## Label functions -/

theorem apart_columns (stage : Stage) : stage.columns.Apart false := by
  cases stage with
  | relabel labels => simp [Stage.columns, labels.apart]
  | derive column value => cases column <;> simp [Stage.columns, value.apart, Column.code]

theorem apart_stageName (n : Nat) (before : Bool) : (stageName n).Apart before := by
  cases n <;> simp [stageName]

theorem sealed_stageTables (n : Nat) (stages : List Stage) :
    (stageTables n stages).1.Sealed := by
  induction stages generalizing n with
  | nil => exact Code.sealed_w _ _
  | cons stage rest ih =>
    obtain ⟨hrest, hend⟩ := ih (n + 1)
    simp [stageTables, Code.Sealed, apart_columns, apart_stageName, hrest, hend]

theorem apart_rest (r : Relabeling) : r.rest.Apart false := by
  obtain ⟨htables, htablesEnd⟩ := sealed_stageTables 0 r.stages
  have hname : (stageName (stageTables 0 r.stages).2).touches false = false := by
    cases (stageTables 0 r.stages).2 <;> simp [stageName]
  unfold Relabeling.rest
  cases r.filter with
  | none => simp [htables, htablesEnd, apart_stageName]
  | some filter => simp [htables, htablesEnd, hname, apart_stageName, filter.apart]

theorem apart_relabeling (r : Relabeling) {input : Code} (hinput : input.Apart false) :
    (r.code input).Apart false := by
  simp [Relabeling.code, hinput, apart_rest]

end Compile

/-! ## Expressions -/

namespace Expr

theorem apart_of_compiles {o : Options} {e : Expr} {c : Compiled} (h : Compiles o e c) :
    c.code.Apart false := by
  induction h with
  | selector s => exact apart_selector o.patternMode s
  | rollup | quantile => exact apart_rollup _ _
  | label hname hinput htexts hedit hrelabels ih => exact apart_relabeling _ ih
  | latest => exact apart_latestGroups _ (sealed_sampleTables _ _) _
  | timed hkind hsplits hoperand htimed ih => exact apart_timedGroups _ ih _
  | binary hop hleft hright hjoin ihLeft ihRight =>
    rcases binary_cases hjoin with ⟨s, -, -, -, rfl⟩ | ⟨sign, -, rfl⟩
    · exact apart_setOperation s ihLeft ihRight
    · exact apart_joinValues _ _ ihLeft ihRight
  | paren hinner ih => exact ih
  | number x => simp [scalarCode]

/-- The code of a statement keeps literals and values apart. -/
theorem apart_rowsCode {o : Options} {e : Expr} {c : Compiled} (h : Compiles o e c) :
    (rowsCode c).Apart false := by
  unfold rowsCode
  split
  · exact apart_of_compiles h
  · simp [scalarRow, latestTimestamp, apart_of_compiles h]

end Expr

end SeriesSql
