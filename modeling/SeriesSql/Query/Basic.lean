import SeriesSql.Function.Aggregate
import SeriesSql.Matcher
import SeriesSql.Query.Operator

/-!
# Queries

The tree of a query as it is written, with all that the query language offers.  Only a part of it
can be expressed in SQL.
-/

namespace SeriesSql

namespace Query

/-- A label matcher as written. -/
structure LabelTest where
  label : String
  kind : MatchKind
  value : String
deriving Repr, DecidableEq

/-- The time at which a part of a query is evaluated. -/
inductive EvalTime where
  | start
  | stop
  | seconds (value : Float)
deriving Repr

/-- How the time of a part of a query is moved.  The offset is in nanoseconds. -/
structure Shift where
  offset : Option Int
  time : Option EvalTime
deriving Repr

def Shift.none : Shift := ⟨Option.none, Option.none⟩

/-- A choice of series.  Either all of `tests` must hold, or those of one of the `alternatives`. -/
structure Series where
  name : Option String
  tests : List LabelTest
  alternatives : List (List LabelTest)
  shift : Shift
deriving Repr

/-- The labels that two vectors are matched on. -/
inductive MatchLabels where
  | on (labels : List String)
  | ignoring (labels : List String)
deriving Repr, DecidableEq

def MatchLabels.labels : MatchLabels → List String
  | on labels => labels
  | ignoring labels => labels

/-- What stands between a binary operator and its right operand.  `group` has the labels that one of
the sides lends to the other. -/
structure Matching where
  bool : Bool
  labels : Option MatchLabels
  group : Option (List String)
deriving Repr, DecidableEq

end Query

open Query in
/-- Durations are in nanoseconds. -/
inductive Query where
  | selector (series : Series)
  | range (series : Series) (duration : Nat)
  | subquery (operand : Query) (duration : Nat) (step : Option Nat) (shift : Shift)
  | call (function : String) (args : List Query)
  | aggregate (op : Aggregator) (grouping : Option (GroupClause × List String))
      (param : Option Query) (operand : Query)
  | binary (op : Operator) (matching : Matching) (left right : Query)
  | negate (operand : Query)
  | paren (inner : Query)
  | number (value : Float)
  | text (value : String)
  /-- A value that is computed outside of the query language, of which only the type is known. -/
  | extension (type : ValueType)

namespace Query

/-- The sign of a numeral belongs to the number. -/
def negated : Query → Query
  | number value => number (-value)
  | q => negate q

end Query

end SeriesSql
