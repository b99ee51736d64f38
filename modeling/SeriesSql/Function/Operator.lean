/-!
# Binary operators

Arithmetic and comparisons work on values, set operators on the label sets of two vectors.
-/

namespace SeriesSql

inductive Arithmetic where
  | add
  | sub
  | mul
  | div
  | mod
deriving Repr, DecidableEq

inductive Comparison where
  | equal
  | unequal
  | less
  | greater
  | atMost
  | atLeast
deriving Repr, DecidableEq

inductive SetOperator where
  | intersection
  | union
  | difference
deriving Repr, DecidableEq

inductive BinaryOperator where
  | arithmetic (op : Arithmetic)
  | comparison (op : Comparison)
  | set (op : SetOperator)
deriving Repr, DecidableEq

/-- What a comparison yields: its truth as a value, or the rows for which it holds. -/
inductive ComparisonMode where
  | bool
  | filter
deriving Repr, DecidableEq

/-! ## Symbols of the query language -/

def Arithmetic.symbol : Arithmetic → String
  | add => "+"
  | sub => "-"
  | mul => "*"
  | div => "/"
  | mod => "%"

def Comparison.symbol : Comparison → String
  | equal => "=="
  | unequal => "!="
  | less => "<"
  | greater => ">"
  | atMost => "<="
  | atLeast => ">="

def SetOperator.symbol : SetOperator → String
  | intersection => "and"
  | union => "or"
  | difference => "unless"

def BinaryOperator.symbol : BinaryOperator → String
  | arithmetic op => op.symbol
  | comparison op => op.symbol
  | set op => op.symbol

def Comparison.ofSymbol? : String → Option Comparison
  | "==" => some equal
  | "!=" => some unequal
  | "<" => some less
  | ">" => some greater
  | "<=" => some atMost
  | ">=" => some atLeast
  | _ => none

def BinaryOperator.ofSymbol? : String → Option BinaryOperator
  | "+" => some (arithmetic .add)
  | "-" => some (arithmetic .sub)
  | "*" => some (arithmetic .mul)
  | "/" => some (arithmetic .div)
  | "%" => some (arithmetic .mod)
  | "and" => some (set .intersection)
  | "or" => some (set .union)
  | "unless" => some (set .difference)
  | symbol => (Comparison.ofSymbol? symbol).map comparison

end SeriesSql
