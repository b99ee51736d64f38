import SeriesSql.Compile.Samples
import SeriesSql.RollupCall

/-!
# Rollups

The table expressions of the selector come first, so that the bounds of the window stay in scope.
`rate` compares every sample with the one before it; all other rollups yield one row for every
series and stamp it with the end of the window, so that series whose last samples differ in time
still come together in an aggregation.  A counter that went down counts from zero again.
-/

namespace SeriesSql.Compile

open Sql

/-- The end of the window, which all series share. -/
def windowStop : Code :=
  .parens (w "SELECT max_ts FROM time_window")

def bySeries : Code :=
  w " OVER " ++ .parens (w "PARTITION BY labels ORDER BY timestamp")

/-- Each sample with the value and time of the one before it. -/
def laggedSamples : Code :=
  w ", lagged_samples AS " ++
    .parens
      (w "SELECT timestamp, value, labels, " ++
        w "LAG" ++ .parens Words.value ++ bySeries ++ w " AS prev_value, " ++
        w "LAG" ++ .parens Words.timestamp ++ bySeries ++ w " AS prev_timestamp" ++
        w " FROM windowed_samples")

/-- The seconds since the sample before. -/
def elapsedSeconds : Code :=
  .parens
    (.parens (Words.timestamp ++ .sign .minus ++ w "prev_timestamp") ++ .sign .divide ++ w "1000.0")

def rate : Code :=
  laggedSamples ++
    w " SELECT timestamp, CASE WHEN timestamp = prev_timestamp THEN 0.0" ++
    w " WHEN value < prev_value THEN value" ++ .sign .divide ++ elapsedSeconds ++
    Words.otherwise ++ .parens (Words.value ++ .sign .minus ++ w "prev_value") ++ .sign .divide ++
    elapsedSeconds ++ w " END AS value, labels FROM lagged_samples" ++
    w " WHERE prev_value IS NOT NULL ORDER BY timestamp, labels"

def increase : Code :=
  laggedSamples ++ Words.thenSelect ++ windowStop ++ w " AS timestamp, SUM" ++
    .parens
      (w "CASE WHEN prev_value IS NULL THEN 0.0 WHEN value < prev_value THEN value" ++
        w " ELSE value" ++ .sign .minus ++ w "prev_value END") ++
    w " AS value, labels FROM lagged_samples GROUP BY labels ORDER BY timestamp, labels"

/-- One aggregate over the values of a series. -/
def overTime (aggregate : Code) : Code :=
  Words.thenSelect ++ windowStop ++ Words.asTimestamp ++ aggregate ++
    w " AS value, labels FROM windowed_samples GROUP BY labels ORDER BY timestamp, labels"

/-- The least value whose percent rank reaches `q`, or the greatest value if ties keep all ranks
below. -/
def quantile (q : Float) : Code :=
  w ", ranked_samples AS " ++
    .parens
      (w "SELECT timestamp, value, labels, PERCENT_RANK" ++ .parens Words.empty ++ w " OVER " ++
        .parens (w "PARTITION BY labels ORDER BY value") ++
        w " AS pct_rank FROM windowed_samples") ++
    Words.thenSelect ++ windowStop ++ w " AS timestamp, COALESCE" ++
    .parens
      (Words.min ++
        .parens (w "CASE WHEN pct_rank >= " ++ .bound (.real q) ++ w " THEN value END") ++
        w ", MAX" ++ .parens Words.value) ++
    w " AS value, labels FROM ranked_samples GROUP BY labels ORDER BY timestamp, labels"

/-- The rows of a rollup.  A quantile that is not given would be the greatest value. -/
def rollupRows (rollup : Rollup) (quantile? : Option Float) : Code :=
  match rollup with
  | .rate => rate
  | .increase => increase
  | .avgOverTime => overTime (Words.avg ++ .parens Words.value)
  | .sumOverTime => overTime (Words.sum ++ .parens Words.value)
  | .minOverTime => overTime (Words.min ++ .parens Words.value)
  | .maxOverTime => overTime (Words.max ++ .parens Words.value)
  | .countOverTime => overTime (Words.count ++ .parens Words.star)
  | .quantileOverTime => quantile (quantile?.getD 1.0)

def rollup (mode : PatternMode) (call : RollupCall) : Code :=
  Words.withTables ++ sampleTables mode call.selector ++ w ", windowed_samples AS " ++
    .parens (w "SELECT timestamp, value, labels FROM labeled_samples") ++
    rollupRows call.rollup call.quantile?

end SeriesSql.Compile
