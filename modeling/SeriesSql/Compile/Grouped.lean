import SeriesSql.Compile.Samples
import SeriesSql.Grouping
import SeriesSql.Labels.Edit

/-!
# Aggregations

A selector without a window is aggregated at the latest timestamp, and canonical grouping reads
label values from the label tables.  Any other operand is aggregated at each of its timestamps, and
canonical grouping reads label values out of its label string.
-/

namespace SeriesSql.Compile

open Sql Labels

/-- How the rows of the operand are put together. -/
inductive Partition where
  | all
  | labelString
  | canonical (labels : List LabelName)

def partition (a : Aggregation) : Except CompileError Partition :=
  match a.grouping with
  | .all => .ok .all
  | .without _ => .error .withoutClause
  | .by labels => .ok (if labels.isEmpty || !a.canonical then .labelString else .canonical labels)

/-- The aggregate over the values of a group. -/
def aggregateValue (kind : Aggregate) : Code :=
  (match kind with
    | .sum => Words.sum
    | .avg => Words.avg
    | .min => Words.min
    | .max => Words.max
    | .count => Words.count
    | .stddev => w "STDDEV") ++
    .parens Words.value ++ Words.asValue

def groupedSamples (key : Term) (source : Code) : Code :=
  w ", grouped_samples AS " ++
    .parens (w "SELECT timestamp, value, " ++ key.code ++ w " AS group_labels FROM " ++ source)

/-- The aggregation of the latest samples of a selector. -/
def latestGroups (kind : Aggregate) (tables : Code) (p : Partition) : Code :=
  let value := Words.thenSelect ++ latestTimestamp ++ Words.asTimestamp ++ aggregateValue kind
  Words.withTables ++ tables ++
    match p with
    | .all =>
      value ++ Words.comma ++ .quoted "" ++ w " AS labels FROM labeled_samples HAVING COUNT" ++
        .parens Words.star ++ w " > 0"
    | .labelString => value ++ w ", labels FROM labeled_samples GROUP BY labels ORDER BY labels"
    | .canonical labels =>
      groupedSamples (.groupByTables labels) (w "labeled_samples") ++ value ++
        w ", group_labels AS labels FROM grouped_samples GROUP BY group_labels ORDER BY labels"

/-- The aggregation of the rows of an operand, at each timestamp. -/
def timedGroups (kind : Aggregate) (operand : Code) (p : Partition) : Code :=
  let value := w " SELECT timestamp, " ++ aggregateValue kind
  w "WITH aggregation_input AS " ++ .parens operand ++
    match p with
    | .all =>
      value ++ Words.comma ++ .quoted "" ++
        w " AS labels FROM aggregation_input GROUP BY timestamp ORDER BY timestamp"
    | .labelString =>
      value ++ w ", labels FROM aggregation_input GROUP BY timestamp, labels" ++
        Words.byTimeAndLabels
    | .canonical labels =>
      groupedSamples (.groupByString labels) (w "aggregation_input") ++ value ++
        w ", group_labels AS labels FROM grouped_samples GROUP BY timestamp, group_labels" ++
        Words.byTimeAndLabels

def aggregateCode (a : Aggregation) (operand : Code) : Except CompileError Code := do
  return timedGroups a.kind operand (← partition a)

def aggregateSelector (mode : PatternMode) (a : Aggregation) (s : Selector) :
    Except CompileError Code :=
  if s.window.isSome then
    aggregateCode a (selector mode s)
  else do
    return latestGroups a.kind (sampleTables mode s) (← partition a)

end SeriesSql.Compile
