import SeriesSql.Expr
import SeriesSql.Query.Basic
import SeriesSql.Query.Typing

/-!
# From queries to expressions

An expression keeps the part of a query that has SQL; everything else is an error.  A minus sign
becomes a multiplication by -1.
-/

namespace SeriesSql.Query

def unsupported {α : Type} (feature : Unsupported) : Except QueryError α :=
  .error (.compile (.unsupported feature))

/-! ## Selectors -/

/-- The metric name of a series: the one given, or that of the first test of it for equality. -/
def Series.metric? (s : Series) : Option String :=
  match s.name with
  | some name => some name
  | none => (s.tests.find? fun t => t.label == nameLabel && t.kind == .equal).map LabelTest.value

/-- The matchers of the tests, in their order.  A test of the metric name can only be for equality
with `metric`, and is left out. -/
def lowerTests (metric : String) : List LabelTest → Except QueryError (List Matcher)
  | [] => .ok []
  | t :: rest =>
    if t.label = nameLabel then
      if t.kind = .equal ∧ t.value = metric then lowerTests metric rest
      else unsupported .nameMatching
    else do
      let m ← (Matcher.ofParts t.label t.kind t.value).mapError .invalid
      return m :: (← lowerTests metric rest)

/-- A range of length zero is none. -/
def lowerRange (nanos : Option Nat) : Except QueryError (Option Window) :=
  match nanos with
  | none | some 0 => .ok none
  | some nanos => ((Window.ofNanos nanos).mapError .invalid).map some

def lowerSeries (s : Series) (range : Option Nat) : Except QueryError Selector := do
  if s.shift.offset.isSome then
    unsupported .offset
  if s.shift.time.isSome then
    unsupported .atTime
  if !s.alternatives.isEmpty then
    unsupported .alternativeMatchers
  match s.metric? with
  | none => unsupported .unnamedSelector
  | some name =>
    let metric ← (MetricName.ofString name).mapError .invalid
    let matchers ← lowerTests name s.tests
    let window ← lowerRange range
    return { metric, matchers, window }

/-! ## Modifiers -/

/-- Grouping by no labels takes all series together. -/
def lowerGrouping : Option (GroupClause × List String) → Except QueryError Grouping
  | none => .ok .all
  | some (.by, []) => .ok .all
  | some (clause, labels) => (Grouping.ofClause clause labels).mapError .invalid

def lowerMatching (m : Matching) : Except QueryError ComparisonMode :=
  match m.group, m.labels with
  | some _, _ => unsupported .groupMatching
  | none, some (.on _) => unsupported .onMatching
  | none, some (.ignoring (_ :: _)) => unsupported .ignoringMatching
  | none, _ => .ok (if m.bool then .bool else .filter)

/-! ## Queries -/

mutual

/-- The expression of a query. -/
def lower : Query → Except QueryError Expr
  | selector s => do return .selector (← lowerSeries s none)
  | range s duration => do return .selector (← lowerSeries s (some duration))
  | subquery _ _ _ _ => unsupported .subquery
  | call function args => do return .call function (← lowerAll args)
  | aggregate op grouping param operand =>
    match param with
    | some _ => .error (.compile (.unknownFunction op.name))
    | none => do
      let grouping ← lowerGrouping grouping
      return .aggregate op.name grouping (← lower operand)
  | binary op matching left right => do
    let mode ← lowerMatching matching
    let left ← lower left
    let right ← lower right
    return .binary op.symbol mode left right
  | negate operand => do return .binary "*" .bool (← lower operand) (.number (-1.0))
  | paren inner => do return .paren (← lower inner)
  | number value => .ok (.number value)
  | text value => .ok (.text value)
  | extension _ => unsupported .extension

def lowerAll : List Query → Except QueryError (List Expr)
  | [] => .ok []
  | q :: rest => do
    let e ← lower q
    return e :: (← lowerAll rest)

end

end SeriesSql.Query
