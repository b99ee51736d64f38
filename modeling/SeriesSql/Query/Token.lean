import SeriesSql.Matcher
import SeriesSql.Query.Operator

/-!
# Tokens of the query language
-/

namespace SeriesSql.Query

inductive Keyword where
  | aggregator (op : Aggregator)
  | operator (op : Operator)
  | offset
  | by
  | without
  | on
  | ignoring
  | groupLeft
  | groupRight
  | bool
  | start
  | stop
deriving Repr, DecidableEq

/-- Keywords are given in small letters. -/
def Keyword.ofWord? : String → Option Keyword
  | "and" => some (operator (.basic (.set .intersection)))
  | "or" => some (operator (.basic (.set .union)))
  | "unless" => some (operator (.basic (.set .difference)))
  | "atan2" => some (operator .arcTangent)
  | "sum" => some (aggregator .sum)
  | "avg" => some (aggregator .avg)
  | "count" => some (aggregator .count)
  | "min" => some (aggregator .min)
  | "max" => some (aggregator .max)
  | "group" => some (aggregator .group)
  | "stddev" => some (aggregator .stddev)
  | "stdvar" => some (aggregator .stdvar)
  | "topk" => some (aggregator .topk)
  | "bottomk" => some (aggregator .bottomk)
  | "count_values" => some (aggregator .countValues)
  | "quantile" => some (aggregator .quantile)
  | "offset" => some offset
  | "by" => some .by
  | "without" => some without
  | "on" => some on
  | "ignoring" => some ignoring
  | "group_left" => some groupLeft
  | "group_right" => some groupRight
  | "bool" => some bool
  | "start" => some start
  | "end" => some stop
  | _ => none

inductive Token where
  | number (value : Float)
  /-- A duration in nanoseconds. -/
  | duration (nanos : Nat)
  | text (value : String)
  /-- A word that is no keyword; `colon` tells whether it holds a colon. -/
  | name (text : String) (colon : Bool)
  | keyword (word : Keyword) (text : String)
  | operator (op : Operator)
  | at
  | comma
  | openParen
  | closeParen
  | openBracket
  | closeBracket
  | colon
  | openBrace
  | closeBrace
  /-- The signs between a label and its value. -/
  | matcher (kind : MatchKind)
  /-- The `or` between matchers. -/
  | alternative
deriving Repr

end SeriesSql.Query
