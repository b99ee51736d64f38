import SeriesSql.Name

/-!
# Grouping of series

An aggregation takes all series together, or groups them by some labels or by all labels but some.
-/

namespace SeriesSql

inductive Grouping where
  | all
  | by (labels : List LabelName)
  | without (labels : List LabelName)
deriving DecidableEq

namespace Grouping

/-- The grouping by a clause and its labels, of which there must be one.  That is checked before the
names are. -/
def ofClause (clause : GroupClause) (labels : List String) : Except Invalid Grouping := do
  if labels.isEmpty then
    throw (.emptyLabelList clause)
  let names ← labels.mapM LabelName.ofString
  return match clause with
    | .by => .by names
    | .without => .without names

/-- What the clause of a grouping adds between the operator and its operand. -/
def text : Grouping → String
  | all => ""
  | .by labels => " by (" ++ String.intercalate ", " (labels.map LabelName.text) ++ ") "
  | .without labels => " without (" ++ String.intercalate ", " (labels.map LabelName.text) ++ ") "

end Grouping

/-- An aggregation operator with its grouping.  A canonical aggregation groups by the values of the
named labels, any other by the whole label string. -/
structure Aggregation where
  kind : Aggregate
  grouping : Grouping
  canonical : Bool
deriving DecidableEq

/-- A clause needs a label. -/
def Aggregation.ofParts (kind : Aggregate) (grouping : Grouping) (canonical : Bool) :
    Except Invalid Aggregation :=
  match grouping with
  | .by [] => .error (.emptyLabelList .by)
  | .without [] => .error (.emptyLabelList .without)
  | _ => .ok { kind, grouping, canonical }

end SeriesSql
