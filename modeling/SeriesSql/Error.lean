import SeriesSql.Decimal.Layout
import SeriesSql.Function.Aggregate
import SeriesSql.Function.Operator
import SeriesSql.Function.Rollup
import SeriesSql.Text.Blank
import SeriesSql.Text.Quoted

/-!
# Errors

An error names its cause.  `Invalid` is raised where a name, pattern, window, quantile or fragment
is built, `CompileError` where an expression is turned into SQL, and `QueryError` where a query is
read as text.  Each has one function that words it.
-/

namespace SeriesSql

/-! ## Invalid values -/

inductive Invalid where
  | labelName (name : String)
  | metricName (name : String)
  | pattern (pattern : String)
  | quantile (value : Float)
  | missingQuantile
  | unexpectedQuantile (rollup : Rollup)
  | duration (text : String)
  | emptyFragment
  | placeholders (placeholders params : Nat)
  | emptyLabelList (clause : GroupClause)
  /-- A label value with a comma, which separates the pairs of a label string. -/
  | labelValue (value : String)
deriving Repr, BEq

def Invalid.message : Invalid → String
  | labelName name => "Invalid label name '" ++ name ++ "': must match ^[a-zA-Z_][a-zA-Z0-9_]*$"
  | metricName name => "Invalid metric name '" ++ name ++ "': must match ^[a-zA-Z_:][a-zA-Z0-9_:]*$"
  | pattern p => "Invalid regex '" ++ p ++ "': not a supported regular expression"
  | quantile value =>
    "Quantile " ++ Decimal.Layout.plain.render value ++
      " out of range in quantile_over_time(q, selector[window]): must be within [0.0, 1.0]"
  | missingQuantile => Rollup.quantileOverTime.usage ++ " requires a quantile argument"
  | unexpectedQuantile rollup => rollup.name ++ " does not take a quantile argument"
  | duration text => "Invalid duration '" ++ text ++ "': must be a positive duration such as 5m"
  | emptyFragment => "SQL fragment text must not be empty"
  | placeholders found given =>
    "SQL fragment has " ++ toString found ++ " placeholders but " ++ toString given ++ " parameters"
  | emptyLabelList clause =>
    "Grouping modifier '" ++ clause.keyword ++ "' requires at least one label"
  | labelValue value => "Label value '" ++ value ++ "' must not contain ','"

/-! ## Expressions without SQL -/

/-- What is wrong with the arguments of a call. -/
inductive ArgumentFault where
  | count (expected got : Nat)
  | quantileNotLiteral
  | notRange
  | noArguments
  | noNames
  | emptyNames
  | scalarInput
  | notText (found : String)
deriving Repr, BEq

def ArgumentFault.message : ArgumentFault → String
  | count expected got =>
    "expected " ++ toString expected ++ (if expected = 1 then " argument" else " arguments") ++
      ", got " ++ toString got
  | quantileNotLiteral => "the quantile must be a number literal"
  | notRange => "the argument must be a range selector"
  | noArguments => "expected a vector and label names"
  | noNames => "expected at least one label name"
  | emptyNames => "at least one label name is required"
  | scalarInput => "expected a vector, got a scalar"
  | notText found => "expected a string literal, got " ++ found

/-- Parts of the query language that have no SQL. -/
inductive Unsupported where
  | operator (symbol : String)
  | textValue (value : String)
  | scalarOperand (op : SetOperator)
  | scalarComparison (op : Comparison)
  | groupMatching
  | onMatching
  | ignoringMatching
  | subquery
  | extension
  | offset
  | atTime
  | alternativeMatchers
  | unnamedSelector
  | nameMatching
deriving Repr, BEq

def Unsupported.message : Unsupported → String
  | operator symbol => "binary operator '" ++ symbol ++ "'"
  | textValue value => "string literal " ++ Text.quote value ++ " cannot be used as a value"
  | scalarOperand op =>
    "set operator '" ++ op.symbol ++ "' requires vector operands on both sides"
  | scalarComparison op =>
    "comparison '" ++ op.symbol ++ "' between scalars requires the bool modifier"
  | groupMatching => "group_left/group_right vector matching"
  | onMatching => "on(...) vector matching"
  | ignoringMatching => "ignoring(...) vector matching"
  | subquery => "subqueries"
  | extension => "extension expressions"
  | offset => "offset modifier"
  | atTime => "@ modifier"
  | alternativeMatchers => "'or' between label matchers"
  | unnamedSelector => "selectors without a metric name"
  | nameMatching => "matching on __name__ other than by equality"

inductive CompileError where
  | unknownFunction (name : String)
  | arguments (function : String) (fault : ArgumentFault) (usage : String)
  /-- Grouping by all labels but the named ones. -/
  | withoutClause
  | missingWindow (rollup : Rollup)
  | unsupported (feature : Unsupported)
  | invalid (cause : Invalid)
deriving Repr, BEq

def CompileError.message : CompileError → String
  | unknownFunction name => "Unsupported function '" ++ name ++ "'"
  | arguments function fault usage =>
    "Invalid arguments for " ++ function ++ ": " ++ fault.message ++ " (expected " ++ usage ++ ")"
  | withoutClause =>
    "Aggregation modifier 'without' is not yet implemented; use by instead"
  | missingWindow rollup =>
    rollup.name ++ " requires a time window, e.g. " ++ rollup.name ++ "(http_requests_total[5m])"
  | unsupported feature => "Unsupported MetricsQL feature: " ++ feature.message
  | invalid cause => cause.message

instance : MonadLift (Except Invalid) (Except CompileError) := ⟨Except.mapError .invalid⟩

/-! ## Queries that cannot be read -/

inductive QueryError where
  | parse (diagnostics : List String)
  | tooLarge (size limit : Nat)
  | invalid (cause : Invalid)
  | compile (cause : CompileError)
deriving Repr, BEq

def QueryError.message : QueryError → String
  | parse diagnostics => "MetricsQL parse error: " ++ String.intercalate "; " diagnostics
  | tooLarge size limit =>
    "Query of " ++ toString size ++ " bytes exceeds the limit of " ++ toString limit ++ " bytes"
  | invalid cause => cause.message
  | compile cause => cause.message

/-- The lines of a parser's message that are not blank, without blanks around them. -/
def diagnostics (message : String) : List String :=
  let found := ((Text.lines message.toList).map Text.trimChars).filter fun line => !line.isEmpty
  if found.isEmpty then ["unknown parse error"] else found.map String.ofList

def QueryError.ofMessage (message : String) : QueryError :=
  parse (diagnostics message)

end SeriesSql
