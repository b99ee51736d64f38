import SeriesSql.Proofs.Compile.Derivation
import SeriesSql.Proofs.Sql.Code

/-!
# Values bound by compiled code

The values of the code that each construct writes, in the order of their placeholders: those of its
operands, from left to right, and then its own.

There are four groups.

* Terms over the label string, where one key is bound several times.
* The samples of a selector and the rollups over them.
* Groups and joins, which keep the values of their operands in order.
* Label functions, whose stages follow their input.
-/

namespace SeriesSql

open Sql Compile Labels

/-! ## Terms -/

namespace Labels.Term

theorem params_extract (key : LabelName) :
    (extract key).code.params = List.replicate 5 (.text key.text) := by
  simp [extract, valueStart, keyPosition, padded, labels, code, Column.code, List.replicate]

theorem params_hasKey (key : LabelName) : (hasKey key).code.params = [.text key.text] := rfl

theorem params_removeKey (key : LabelName) :
    (removeKey key).code.params = List.replicate 4 (.text key.text) := by
  simp [removeKey, pairStop, keyPosition, padded, labels, code, Column.code, List.replicate]

/-- The value of a key is written twice, once for each of the two cases. -/
theorem params_setValue (key : LabelName) (value : Term) :
    (setValue key value).code.params =
      [.text key.text, .text key.text] ++ value.code.params ++
        [.text key.text, .text key.text] ++ value.code.params ++
        [.text key.text, .text key.text] := by
  simp [setValue, keyPosition, pairStop, padded, labels, code, Column.code]

/-- Terms one after the other bind their values one after the other. -/
theorem params_concatAll {separator : Term → Term → Term}
    (hseparator : ∀ a b, (separator a b).code.params = a.code.params ++ b.code.params)
    (terms : List Term) :
    (concatAll separator terms).code.params = terms.flatMap fun t => t.code.params := by
  cases terms with
  | nil => rfl
  | cons first rest =>
    -- The fold carries the terms read so far, so the first one is left open.
    show (rest.foldl separator first).code.params = _
    rw [List.flatMap_cons]
    induction rest generalizing first with
    | nil => simp
    | cons next rest ih =>
      rw [List.foldl_cons, ih, hseparator, List.flatMap_cons, List.append_assoc]

theorem params_keepKeys (keys : List LabelName) :
    (keepKeys keys).code.params =
      keys.flatMap fun key => List.replicate 6 (.text key.text) := by
  have hconcat : ∀ a b : Term, (concat a b).code.params = a.code.params ++ b.code.params := by
    intro a b
    simp [code]
  simp only [keepKeys, code, Code.params_append, Code.params_parens, Code.params_w,
    Code.params_quoted, params_concatAll hconcat, List.flatMap_map]
  simp [params_extract, List.replicate]

theorem params_groupKey (value : LabelName → Term) (keys : List LabelName) :
    (groupKey value keys).code.params =
      keys.flatMap fun key => .text key.text :: (value key).code.params := by
  have hseparator : ∀ a b : Term,
      (concat (concat a (text ",")) b).code.params = a.code.params ++ b.code.params := by
    intro a b
    simp [code]
  simp only [groupKey, params_concatAll hseparator, List.flatMap_map]
  simp [code]

end Labels.Term

/-! ## Samples and rollups -/

namespace Compile

theorem params_filter (f : MembershipFilter) :
    f.code.params = [.text f.key, .text f.operand] := by
  simp only [MembershipFilter.code]
  split <;> split <;> simp

theorem params_matcherFilters (mode : PatternMode) (matchers : List Matcher) :
    (matcherFilters mode matchers).params =
      matchers.flatMap fun m => [.text m.name.text, .text (m.filter mode).operand] := by
  induction matchers with
  | nil => rfl
  | cons m rest ih => simp [matcherFilters, params_filter, ih, Matcher.filter]

theorem params_labeledSamples (mode : PatternMode) (s : Selector) :
    (labeledSamples mode s).params =
      .text s.metric.text :: (matcherFilters mode s.matchers).params := by
  simp only [labeledSamples, labelString]
  split <;> simp

theorem params_selector (mode : PatternMode) (s : Selector) :
    (selector mode s).params = (sampleTables mode s).params := by
  simp only [selector]
  split <;> simp

/-- The quantile that is bound is the one that is given, as there is one if it is needed. -/
theorem params_rollupRows (call : RollupCall) :
    (rollupRows call.rollup call.quantile?).params = (call.quantile?.map Value.real).toList := by
  cases hquantile : call.quantile? with
  | none =>
    cases hrollup : call.rollup with
    | quantileOverTime =>
      exact absurd hrollup (RollupCall.rollup_ne_of_quantile?_eq_none hquantile)
    | rate | increase | avgOverTime | sumOverTime | minOverTime | maxOverTime | countOverTime => rfl
  | some q =>
    obtain ⟨hr, -⟩ := RollupCall.of_quantile?_eq_some hquantile
    rw [hr]
    rfl

theorem params_rollup (mode : PatternMode) (call : RollupCall) :
    (rollup mode call).params =
      (sampleTables mode call.selector).params ++ (call.quantile?.map Value.real).toList := by
  simp [rollup, params_rollupRows]

/-! ## Groups and joins -/

/-- The values of the groups, where `value` gives the term for the value of a label. -/
def Partition.values (value : LabelName → Term) : Partition → List Value
  | all | labelString => []
  | canonical labels => (Term.groupKey value labels).code.params

theorem params_latestGroups (kind : Aggregate) (tables : Code) (p : Partition) :
    (latestGroups kind tables p).params =
      tables.params ++ p.values fun key => .lookup key.text := by
  have hvalue : (aggregateValue kind).params = [] := by
    cases kind <;> rfl
  cases p <;>
    simp [latestGroups, hvalue, latestTimestamp, groupedSamples, Partition.values,
      Term.groupByTables]

theorem params_timedGroups (kind : Aggregate) (operand : Code) (p : Partition) :
    (timedGroups kind operand p).params = operand.params ++ p.values Term.extract := by
  have hvalue : (aggregateValue kind).params = [] := by
    cases kind <;> rfl
  cases p <;>
    simp [timedGroups, hvalue, groupedSamples, Partition.values, Term.groupByString]

section Operators

variable {left right kept : Code} (hleft : left.params = []) (hright : right.params = [])

include hleft hright

/-- An operator on values binds nothing itself. -/
theorem params_valueExpression (op : BinaryOperator) :
    (valueExpression op left right).params = [] := by
  unfold valueExpression
  split <;> simp [hleft, hright]

theorem params_value (hkept : kept.params = []) (op : BinaryOperator) (mode : ComparisonMode) :
    (valueAndFilter op mode left right kept).1.params = [] := by
  unfold valueAndFilter
  split <;> simp [params_valueExpression hleft hright, hkept]

theorem params_valueFilter (op : BinaryOperator) (mode : ComparisonMode) :
    (filterClause (valueAndFilter op mode left right kept).2).params = [] := by
  unfold valueAndFilter
  split <;> simp [filterClause, params_valueExpression hleft hright]

end Operators

/-- The tables of a join stand in the order of its operands, also when the scalar is the left
one. -/
theorem params_joinValues (op : BinaryOperator) (mode : ComparisonMode) (left right : Compiled) :
    (joinValues op mode left right).params = left.code.params ++ right.code.params := by
  unfold joinValues
  split
  · simpa [scalarScalar, twoTables] using params_value rfl rfl rfl op mode
  · simpa [vectorScalar, twoTables] using
      And.intro (params_value rfl rfl rfl op mode) (params_valueFilter rfl rfl op mode)
  · simpa [vectorScalar, twoTables] using
      And.intro (params_value rfl rfl rfl op mode) (params_valueFilter rfl rfl op mode)
  · simpa [vectorVector, vectorTables, twoTables] using
      And.intro (params_value rfl rfl rfl op mode) (params_valueFilter rfl rfl op mode)

theorem params_setOperation (op : SetOperator) (left right : Code) :
    (setOperation op left right).params = left.params ++ right.params := by
  cases op <;> simp [setOperation, vectorTables, twoTables, sameLabels]

theorem params_binary {op : BinaryOperator} {mode : ComparisonMode} {left right c : Compiled}
    (h : binary op mode left right = .ok c) :
    c.code.params = left.code.params ++ right.code.params := by
  rcases binary_cases h with ⟨s, -, -, -, rfl⟩ | ⟨sign, -, rfl⟩
  · exact params_setOperation s left.code right.code
  · exact params_joinValues op mode left right

/-! ## Label functions -/

/-- The values of a stage. -/
def Stage.values : Stage → List Value
  | relabel labels => labels.code.params
  | derive _ value => value.code.params

theorem params_columns (stage : Stage) : stage.columns.params = stage.values := by
  cases stage with
  | relabel labels => simp [Stage.columns, Stage.values]
  | derive column value => cases column <;> simp [Stage.columns, Stage.values, Column.code]

@[simp] theorem params_stageName (n : Nat) : (stageName n).params = [] := by
  cases n <;> rfl

theorem params_stageTables (n : Nat) (stages : List Stage) :
    (stageTables n stages).1.params = stages.flatMap Stage.values := by
  induction stages generalizing n with
  | nil => rfl
  | cons stage rest ih => simp [stageTables, params_columns, ih]

/-- The input comes first, then every stage, then the filter. -/
theorem params_relabeling (r : Relabeling) (input : Code) :
    (r.code input).params =
      input.params ++ r.stages.flatMap Stage.values ++
        (r.filter.map fun filter => filter.code.params).getD [] := by
  unfold Relabeling.code Relabeling.rest
  cases r.filter <;> simp [params_stageTables]

end Compile

end SeriesSql
