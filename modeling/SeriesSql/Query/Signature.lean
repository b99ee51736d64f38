import SeriesSql.Query.Operator

/-!
# Functions of the query language

The functions that a query may call, with the types of their arguments.
-/

namespace SeriesSql.Query

/-- The number of arguments: as many as listed, possibly one less, or any number from one less
on. -/
inductive Arity where
  | exact
  | lastOptional
  | lastRepeated
deriving Repr, DecidableEq

structure Signature where
  args : List ValueType
  arity : Arity
  result : ValueType
deriving Repr, DecidableEq

namespace Signature

def admits (s : Signature) (count : Nat) : Bool :=
  match s.arity with
  | .exact => count == s.args.length
  | .lastOptional => count == s.args.length || count + 1 == s.args.length
  | .lastRepeated => s.args.length ≤ count + 1

/-- The type of the argument at a place; further arguments have the type of the last one listed. -/
def argType? (s : Signature) (place : Nat) : Option ValueType :=
  if place < s.args.length then s.args[place]? else s.args.getLast?

end Signature

def vectorFunctions : List String :=
  ["abs", "absent", "acos", "acosh", "asin", "asinh", "atan", "atanh", "ceil", "cos", "cosh", "deg",
    "exp", "floor", "histogram_count", "histogram_sum", "ln", "log10", "log2", "rad", "sgn", "sin",
    "sinh", "sort", "sort_desc", "sqrt", "tan", "tanh", "timestamp"]

def calendarFunctions : List String :=
  ["days_in_month", "day_of_month", "day_of_week", "day_of_year", "hour", "minute", "month", "year"]

def rangeFunctions : List String :=
  ["absent_over_time", "avg_over_time", "changes", "count_over_time", "delta", "deriv", "idelta",
    "increase", "irate", "last_over_time", "max_over_time", "min_over_time", "present_over_time",
    "rate", "resets", "stddev_over_time", "stdvar_over_time", "sum_over_time"]

def Signature.ofName? (function : String) : Option Signature :=
  if vectorFunctions.contains function then some ⟨[.vector], .exact, .vector⟩
  else if rangeFunctions.contains function then some ⟨[.matrix], .exact, .vector⟩
  else if calendarFunctions.contains function then some ⟨[.vector], .lastOptional, .vector⟩
  else
    match function with
    | "scalar" => some ⟨[.vector], .exact, .scalar⟩
    | "vector" => some ⟨[.scalar], .exact, .vector⟩
    | "pi" => some ⟨[], .exact, .scalar⟩
    | "time" => some ⟨[], .exact, .scalar⟩
    | "clamp" => some ⟨[.vector, .scalar, .scalar], .exact, .vector⟩
    | "clamp_max" => some ⟨[.vector, .scalar], .exact, .vector⟩
    | "clamp_min" => some ⟨[.vector, .scalar], .exact, .vector⟩
    | "round" => some ⟨[.vector, .scalar], .lastOptional, .vector⟩
    | "histogram_fraction" => some ⟨[.scalar, .scalar, .vector], .exact, .vector⟩
    | "histogram_quantile" => some ⟨[.scalar, .vector], .exact, .vector⟩
    | "holt_winters" => some ⟨[.matrix, .scalar, .scalar], .exact, .vector⟩
    | "predict_linear" => some ⟨[.matrix, .scalar], .exact, .vector⟩
    | "quantile_over_time" => some ⟨[.scalar, .matrix], .exact, .vector⟩
    | "label_replace" => some ⟨[.vector, .text, .text, .text, .text], .exact, .vector⟩
    | "label_join" => some ⟨[.vector, .text, .text, .text], .lastRepeated, .vector⟩
    | "sort_by_label" => some ⟨[.vector, .text, .text], .lastRepeated, .vector⟩
    | "sort_by_label_desc" => some ⟨[.vector, .text, .text], .lastRepeated, .vector⟩
    | _ => none

/-- Whether a function takes the number as it stands, whatever the type of its argument: logarithms
outside their domain, and exponentials that are not finite. -/
def takesNumber (function : String) (value : Float) : Bool :=
  let unbounded := value.isNaN || value.isInf
  match function with
  | "exp" => unbounded
  | "ln" | "log2" | "log10" => unbounded || decide (value ≤ 0.0)
  | _ => false

end SeriesSql.Query
