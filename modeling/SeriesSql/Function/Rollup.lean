/-!
# Rollup functions

Functions over the samples of a series inside a time window.
-/

namespace SeriesSql

inductive Rollup where
  | rate
  | increase
  | avgOverTime
  | sumOverTime
  | minOverTime
  | maxOverTime
  | countOverTime
  | quantileOverTime
deriving Repr, DecidableEq

namespace Rollup

def name : Rollup → String
  | rate => "rate"
  | increase => "increase"
  | avgOverTime => "avg_over_time"
  | sumOverTime => "sum_over_time"
  | minOverTime => "min_over_time"
  | maxOverTime => "max_over_time"
  | countOverTime => "count_over_time"
  | quantileOverTime => "quantile_over_time"

def ofName? : String → Option Rollup
  | "rate" => some rate
  | "increase" => some increase
  | "avg_over_time" => some avgOverTime
  | "sum_over_time" => some sumOverTime
  | "min_over_time" => some minOverTime
  | "max_over_time" => some maxOverTime
  | "count_over_time" => some countOverTime
  | "quantile_over_time" => some quantileOverTime
  | _ => none

/-- An example call, shown when the arguments are wrong. -/
def usage : Rollup → String
  | quantileOverTime => "quantile_over_time(0.95, http_request_duration_seconds[5m])"
  | rate => "rate(http_requests_total[5m])"
  | increase => "increase(http_requests_total[5m])"
  | avgOverTime => "avg_over_time(node_load1[5m])"
  | sumOverTime => "sum_over_time(node_load1[5m])"
  | minOverTime => "min_over_time(node_load1[5m])"
  | maxOverTime => "max_over_time(node_load1[5m])"
  | countOverTime => "count_over_time(node_load1[5m])"

end Rollup

end SeriesSql
