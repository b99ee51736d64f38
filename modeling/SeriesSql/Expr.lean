import SeriesSql.Grouping
import SeriesSql.Selector

/-!
# Expressions

The tree of a query.  Functions and operators are kept by name, so that a name without a meaning is
an error of compilation and not of reading.
-/

namespace SeriesSql

inductive Expr where
  | selector (s : Selector)
  | call (function : String) (args : List Expr)
  | aggregate (operator : String) (grouping : Grouping) (operand : Expr)
  | binary (operator : String) (mode : ComparisonMode) (left right : Expr)
  | paren (inner : Expr)
  | number (value : Float)
  | text (value : String)

namespace Expr

/-- The expression inside any number of parentheses. -/
def stripParens : Expr → Expr
  | paren inner => inner.stripParens
  | e => e

/-! ## Metric names -/

/-- `found` with `name` at its end, unless it is there already. -/
def addName (found : List String) (name : String) : List String :=
  if found.contains name then found else found ++ [name]

mutual

/-- The metric names of an expression from left to right, added to those found before. -/
def collectMetrics (found : List String) : Expr → List String
  | selector s => addName found s.metric.text
  | call _ args => collectMetricsList found args
  | aggregate _ _ operand => collectMetrics found operand
  | binary _ _ left right => collectMetrics (collectMetrics found left) right
  | paren inner => collectMetrics found inner
  | number _ => found
  | text _ => found

def collectMetricsList (found : List String) : List Expr → List String
  | [] => found
  | e :: rest => collectMetricsList (collectMetrics found e) rest

end

/-- The metric names of an expression, each once, in the order of their first occurrence. -/
def metricNames (e : Expr) : List String :=
  e.collectMetrics []

/-! ## Text -/

def operatorText (operator : String) (mode : ComparisonMode) : String :=
  if mode = .bool ∧ (Comparison.ofSymbol? operator).isSome then
    " " ++ operator ++ " bool "
  else
    " " ++ operator ++ " "

mutual

def render : Expr → String
  | selector s => s.text
  | call function args => function ++ "(" ++ String.intercalate ", " (renderList args) ++ ")"
  | aggregate operator grouping operand =>
    operator ++ grouping.text ++ "(" ++ operand.render ++ ")"
  | binary operator mode left right => left.render ++ operatorText operator mode ++ right.render
  | paren inner => "(" ++ inner.render ++ ")"
  | number value => Decimal.Layout.plain.render value
  | text value => Text.quote value

def renderList : List Expr → List String
  | [] => []
  | e :: rest => e.render :: renderList rest

end

/-! ## Comparison -/

mutual

/-- Whether two expressions are the same; numbers compare as numbers, so one that is no number is
not the same as itself. -/
def same : Expr → Expr → Bool
  | selector s, selector t => s == t
  | call f args, call g brgs => f == g && sameList args brgs
  | aggregate f g e, aggregate f' g' e' => f == f' && g == g' && e.same e'
  | binary op m l r, binary op' m' l' r' => op == op' && m == m' && l.same l' && r.same r'
  | paren e, paren e' => e.same e'
  | number x, number y => x == y
  | text s, text t => s == t
  | _, _ => false

def sameList : List Expr → List Expr → Bool
  | [], [] => true
  | e :: rest, e' :: rest' => e.same e' && sameList rest rest'
  | _, _ => false

end

end Expr

end SeriesSql
