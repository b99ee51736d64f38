/-!
# Aggregation operators

Functions over the values of several series at one time, and the two clauses that say how the
series are grouped.
-/

namespace SeriesSql

inductive Aggregate where
  | sum
  | avg
  | min
  | max
  | count
  | stddev
deriving Repr, DecidableEq

namespace Aggregate

def name : Aggregate → String
  | sum => "sum"
  | avg => "avg"
  | min => "min"
  | max => "max"
  | count => "count"
  | stddev => "stddev"

/-- The variance is asked for by its own name and computed as the deviation. -/
def ofName? : String → Option Aggregate
  | "sum" => some sum
  | "avg" => some avg
  | "min" => some min
  | "max" => some max
  | "count" => some count
  | "stddev" => some stddev
  | "stdvar" => some stddev
  | _ => none

/-- The aggregate function of the SQL engine. -/
def sqlName : Aggregate → String
  | sum => "SUM"
  | avg => "AVG"
  | min => "MIN"
  | max => "MAX"
  | count => "COUNT"
  | stddev => "STDDEV"

end Aggregate

inductive GroupClause where
  | by
  | without
deriving Repr, DecidableEq

def GroupClause.keyword : GroupClause → String
  | .by => "by"
  | .without => "without"

end SeriesSql
