import SeriesSql.Function.Operator

/-!
# Operators of the query language

The query language has more operators than have SQL: powers and the two-argument arc tangent, and
aggregations that rank, count or take a parameter.
-/

namespace SeriesSql.Query

/-- The types of values. -/
inductive ValueType where
  | scalar
  | vector
  | matrix
  | text
deriving Repr, DecidableEq

inductive Operator where
  | basic (op : BinaryOperator)
  | power
  | arcTangent
deriving Repr, DecidableEq

namespace Operator

def symbol : Operator → String
  | basic op => op.symbol
  | power => "^"
  | arcTangent => "atan2"

/-- How tightly an operator binds. -/
def level : Operator → Nat
  | basic (.set .union) => 1
  | basic (.set .intersection) => 2
  | basic (.set .difference) => 2
  | basic (.comparison _) => 3
  | basic (.arithmetic .add) => 4
  | basic (.arithmetic .sub) => 4
  | basic (.arithmetic .mul) => 5
  | basic (.arithmetic .div) => 5
  | basic (.arithmetic .mod) => 5
  | arcTangent => 5
  | power => 6

/-- How tightly an operator must bind to stand in the right operand; powers group to the right. -/
def rightLevel : Operator → Nat
  | power => 6
  | op => op.level + 1

def isComparison : Operator → Bool
  | basic (.comparison _) => true
  | _ => false

def isSet : Operator → Bool
  | basic (.set _) => true
  | _ => false

end Operator

inductive Aggregator where
  | sum
  | avg
  | count
  | min
  | max
  | group
  | stddev
  | stdvar
  | topk
  | bottomk
  | countValues
  | quantile
deriving Repr, DecidableEq

namespace Aggregator

def name : Aggregator → String
  | sum => "sum"
  | avg => "avg"
  | count => "count"
  | min => "min"
  | max => "max"
  | group => "group"
  | stddev => "stddev"
  | stdvar => "stdvar"
  | topk => "topk"
  | bottomk => "bottomk"
  | countValues => "count_values"
  | quantile => "quantile"

/-- The type of the parameter before the operand. -/
def paramType? : Aggregator → Option ValueType
  | topk | bottomk | quantile => some .scalar
  | countValues => some .text
  | _ => none

end Aggregator

end SeriesSql.Query
