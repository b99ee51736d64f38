import SeriesSql.Error
import SeriesSql.Sql.Code

/-!
# Binary operations

Values of two vectors are joined on timestamp and label string; rows without a partner are dropped.
A scalar is joined with every row.  Set operators compare label strings only.  The table expressions
follow the order of the operands, so that their values are bound from left to right.
-/

namespace SeriesSql

open Sql

/-- The SQL sign of an operator on values.  Set operators have none, as they compare rows. -/
def BinaryOperator.sqlSign? : BinaryOperator → Option Sign
  | arithmetic .add => some .plus
  | arithmetic .sub => some .minus
  | arithmetic .mul => some .times
  | arithmetic .div => some .divide
  | arithmetic .mod => some .modulo
  | comparison .equal => some .equal
  | comparison .unequal => some .unequal
  | comparison .less => some .less
  | comparison .greater => some .greater
  | comparison .atMost => some .atMost
  | comparison .atLeast => some .atLeast
  | set _ => none

namespace Compile

/-- Whether code yields one value or the rows of a vector. -/
inductive Shape where
  | scalar
  | vector
deriving Repr, DecidableEq

structure Compiled where
  code : Code
  shape : Shape

/-! ## Values -/

/-- Two values with the sign of the operator between them, which is a plus if the operator has none.
Division is made on reals. -/
def valueExpression (op : BinaryOperator) (left right : Code) : Code :=
  match op with
  | .arithmetic .div => w "CAST" ++ .parens (left ++ w " AS REAL") ++ .sign .divide ++ right
  | _ => left ++ .sign (op.sqlSign?.getD .plus) ++ right

/-- The value of a row and the condition under which the row is kept; a filtered row keeps the value
`kept`. -/
def valueAndFilter (op : BinaryOperator) (mode : ComparisonMode) (left right kept : Code) :
    Code × Option Code :=
  let expression := valueExpression op left right
  match op, mode with
  | .comparison _, .bool =>
    (Words.caseWhen ++ expression ++ w " THEN 1.0 ELSE 0.0 END", none)
  | .comparison _, .filter => (kept, some expression)
  | _, _ => (expression, none)

def filterClause : Option Code → Code
  | none => Words.empty
  | some filter => Words.keeping ++ filter

/-! ## Joins -/

/-- Two table expressions. -/
def twoTables (first : Code) (left : Code) (second : Code) (right : Code) : Code :=
  Words.withTables ++ first ++ Words.asName ++ .parens left ++ Words.comma ++ second ++
    Words.asName ++ .parens right

/-- A vector with a scalar; `vectorFirst` tells which operand is the vector. -/
def vectorScalar (vectorFirst : Bool) (op : BinaryOperator) (mode : ComparisonMode)
    (left right : Code) : Code :=
  let first := if vectorFirst then w "metric_data" else w "scalar_value"
  let second := if vectorFirst then w "scalar_value" else w "metric_data"
  let (value, filter) :=
    valueAndFilter op mode (first ++ w ".value") (second ++ w ".value") (w "metric_data.value")
  twoTables first left second right ++
    w " SELECT metric_data.timestamp AS timestamp, " ++ value ++
    w " AS value, metric_data.labels AS labels FROM " ++ first ++ Words.comma ++ second ++
    filterClause filter ++ Words.byTimeAndLabels

def vectorTables (left right : Code) : Code :=
  twoTables (w "left_data") left (w "right_data") right

def vectorVector (op : BinaryOperator) (mode : ComparisonMode) (left right : Code) : Code :=
  let (value, filter) :=
    valueAndFilter op mode (w "left_data.value") (w "right_data.value") (w "left_data.value")
  vectorTables left right ++
    w " SELECT left_data.timestamp AS timestamp, " ++ value ++
    w " AS value, left_data.labels AS labels FROM left_data JOIN right_data" ++
    w " ON left_data.timestamp = right_data.timestamp AND left_data.labels = right_data.labels" ++
    filterClause filter ++ Words.byTimeAndLabels

def scalarScalar (op : BinaryOperator) (mode : ComparisonMode) (left right : Code) : Code :=
  let (value, _) :=
    valueAndFilter op mode (w "left_scalar.value") (w "right_scalar.value") (w "left_scalar.value")
  twoTables (w "left_scalar") left (w "right_scalar") right ++
    Words.thenSelect ++ value ++ w " AS value FROM left_scalar, right_scalar"

def sameLabels : Code :=
  .parens (w "SELECT 1 FROM right_data WHERE right_data.labels = left_data.labels")

def setOperation (op : SetOperator) (left right : Code) : Code :=
  vectorTables left right ++ w " SELECT timestamp, value, labels FROM left_data" ++
    (match op with
      | .intersection => w " WHERE EXISTS " ++ sameLabels
      | .difference => w " WHERE NOT EXISTS " ++ sameLabels
      | .union => w " UNION SELECT timestamp, value, labels FROM right_data") ++
    Words.byTimeAndLabels

/-! ## Operators -/

def joinValues (op : BinaryOperator) (mode : ComparisonMode) (left right : Compiled) : Code :=
  match left.shape, right.shape with
  | .scalar, .scalar => scalarScalar op mode left.code right.code
  | .vector, .scalar => vectorScalar true op mode left.code right.code
  | .scalar, .vector => vectorScalar false op mode left.code right.code
  | .vector, .vector => vectorVector op mode left.code right.code

/-- Two scalars make a scalar, anything else a vector.  Set operators take vectors only, and two
scalars can be compared for their truth only. -/
def binary (op : BinaryOperator) (mode : ComparisonMode) (left right : Compiled) :
    Except CompileError Compiled :=
  let bothScalar := left.shape = .scalar ∧ right.shape = .scalar
  let shape : Shape := if bothScalar then .scalar else .vector
  match op with
  | .set s =>
    if left.shape = .vector ∧ right.shape = .vector then
      .ok ⟨setOperation s left.code right.code, .vector⟩
    else
      .error (.unsupported (.scalarOperand s))
  | .arithmetic _ => .ok ⟨joinValues op mode left right, shape⟩
  | .comparison c =>
    if bothScalar ∧ mode = .filter then
      .error (.unsupported (.scalarComparison c))
    else
      .ok ⟨joinValues op mode left right, shape⟩

end Compile

end SeriesSql
