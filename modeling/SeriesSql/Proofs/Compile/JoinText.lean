import SeriesSql.Proofs.Compile.Steps
import SeriesSql.Proofs.Sql.Code

/-!
# The text of operations

`OperationText` is the text of an operation from the texts of its operands.  It has one rule for
each way in which operators are written, and goes by their symbols in a query.  By
`operationText_of_binary` this is what is written, so no operator is written as another one.

There are three groups.

* The texts, with the tables of signs and of the rows that set operators keep.
* Joins, of which there is one for each pair of shapes.  A join has the tables of its operands, and
  then the value of each row and the condition under which it is kept.
* The values and conditions of the operators.
-/

namespace SeriesSql

open Sql

namespace Compile

/-! ## Texts -/

/-- The SQL signs of arithmetic operators, by their symbols in a query. -/
def arithmeticSigns : List (String × String) :=
  [("+", "+"), ("-", "-"), ("*", "*"), ("%", "%")]

def comparisonSigns : List (String × String) :=
  [("==", "="), ("!=", "<>"), ("<", "<"), (">", ">"), ("<=", "<="), (">=", ">=")]

/-- The rows of the left operand that a set operator keeps, and those that it adds. -/
def setRows : List (String × String) :=
  [("and", " WHERE EXISTS (SELECT 1 FROM right_data WHERE right_data.labels = left_data.labels)"),
    ("unless",
      " WHERE NOT EXISTS (SELECT 1 FROM right_data WHERE right_data.labels = left_data.labels)"),
    ("or", " UNION SELECT timestamp, value, labels FROM right_data")]

/-- How the operands of a join are named, which of them keeps its value in a filter, and what is
written around the value of a row. -/
structure JoinForm where
  left : String
  right : String
  kept : String
  before : String
  after : String
  order : String

def JoinForm.ofShapes : Shape → Shape → JoinForm
  | .scalar, .scalar =>
    { left := "left_scalar"
      right := "right_scalar"
      kept := "left_scalar"
      before := " SELECT "
      after := " AS value FROM left_scalar, right_scalar"
      order := "" }
  | .vector, .scalar =>
    { left := "metric_data"
      right := "scalar_value"
      kept := "metric_data"
      before := " SELECT metric_data.timestamp AS timestamp, "
      after := " AS value, metric_data.labels AS labels FROM metric_data, scalar_value"
      order := " ORDER BY timestamp, labels" }
  | .scalar, .vector =>
    { left := "scalar_value"
      right := "metric_data"
      kept := "metric_data"
      before := " SELECT metric_data.timestamp AS timestamp, "
      after := " AS value, metric_data.labels AS labels FROM scalar_value, metric_data"
      order := " ORDER BY timestamp, labels" }
  | .vector, .vector =>
    { left := "left_data"
      right := "right_data"
      kept := "left_data"
      before := " SELECT left_data.timestamp AS timestamp, "
      after := " AS value, left_data.labels AS labels FROM left_data JOIN right_data" ++
        " ON left_data.timestamp = right_data.timestamp AND left_data.labels = right_data.labels"
      order := " ORDER BY timestamp, labels" }

def joinForm (l r : Compiled) : JoinForm :=
  .ofShapes l.shape r.shape

/-- The values of both operands with a sign between them. -/
def JoinForm.sides (form : JoinForm) (sign : String) : String :=
  form.left ++ ".value" ++ " " ++ sign ++ " " ++ (form.right ++ ".value")

/-- The tables of the operands. -/
def JoinForm.tables (form : JoinForm) (left right : String) : String :=
  "WITH " ++ form.left ++ " AS (" ++ left ++ "), " ++ form.right ++ " AS (" ++ right ++ ")"

/-- A join with the value of a row and the condition under which it is kept. -/
def JoinForm.text (form : JoinForm) (left right value condition : String) : String :=
  form.tables left right ++ form.before ++ value ++ form.after ++ condition ++ form.order

/-- The text of the operation with the operands `l` and `r`, by the symbol of its operator.
Division is made on reals. -/
inductive OperationText (mode : ComparisonMode) (l r : Compiled) : String → String → Prop
  | arithmetic {operator sign : String} (hsign : (operator, sign) ∈ arithmeticSigns) :
      OperationText mode l r operator
        ((joinForm l r).text l.code.text r.code.text ((joinForm l r).sides sign) "")
  | quotient :
      OperationText mode l r "/"
        ((joinForm l r).text l.code.text r.code.text
          ("CAST(" ++ ((joinForm l r).left ++ ".value") ++ " AS REAL) / " ++
            ((joinForm l r).right ++ ".value")) "")
  | truth {operator sign : String} (hsign : (operator, sign) ∈ comparisonSigns)
      (hmode : mode = .bool) :
      OperationText mode l r operator
        ((joinForm l r).text l.code.text r.code.text
          ("CASE WHEN " ++ (joinForm l r).sides sign ++ " THEN 1.0 ELSE 0.0 END") "")
  | filter {operator sign : String} (hsign : (operator, sign) ∈ comparisonSigns)
      (hmode : mode = .filter) :
      OperationText mode l r operator
        ((joinForm l r).text l.code.text r.code.text ((joinForm l r).kept ++ ".value")
          (" WHERE " ++ (joinForm l r).sides sign))
  | set {operator rows : String} (hrows : (operator, rows) ∈ setRows) (hleft : l.shape = .vector)
      (hright : r.shape = .vector) :
      OperationText mode l r operator
        ((joinForm l r).tables l.code.text r.code.text ++
          " SELECT timestamp, value, labels FROM left_data" ++ rows ++
          " ORDER BY timestamp, labels")

/-! ## Joins -/

theorem text_twoTables (form : JoinForm) (first left second right : Code)
    (hfirst : first.text = form.left) (hsecond : second.text = form.right) :
    (twoTables first left second right).text = form.tables left.text right.text := by
  have has : " AS (" = " AS " ++ "(" := by decide
  have hcomma : "), " = ")" ++ ", " := by decide
  simp only [twoTables, JoinForm.tables, Code.text_append, Code.text_parens, Code.text_w, hfirst,
    hsecond, has, hcomma, String.append_assoc]

/-- The values of the operands in a join, and the one that a filter keeps. -/
structure JoinForm.Values (form : JoinForm) (left right kept : Code) : Prop where
  left : left.text = form.left ++ ".value"
  right : right.text = form.right ++ ".value"
  kept : kept.text = form.kept ++ ".value"

/-- The text of `code` is that of the join, with the value and the condition that an operator gives
to a row. -/
def JoinForm.Writes (form : JoinForm) (op : BinaryOperator) (mode : ComparisonMode)
    (left right code : Code) : Prop :=
  ∃ a b kept, form.Values a b kept ∧
    code.text = form.text left.text right.text (valueAndFilter op mode a b kept).1.text
      (filterClause (valueAndFilter op mode a b kept).2).text

theorem values_vectorVector : (JoinForm.ofShapes .vector .vector).Values (w "left_data.value")
    (w "right_data.value") (w "left_data.value") :=
  ⟨by decide, by decide, by decide⟩

theorem values_scalarScalar : (JoinForm.ofShapes .scalar .scalar).Values (w "left_scalar.value")
    (w "right_scalar.value") (w "left_scalar.value") :=
  ⟨by decide, by decide, by decide⟩

theorem values_vectorScalar : (JoinForm.ofShapes .vector .scalar).Values
    (w "metric_data" ++ w ".value") (w "scalar_value" ++ w ".value") (w "metric_data.value") :=
  ⟨rfl, rfl, by decide⟩

theorem values_scalarVector : (JoinForm.ofShapes .scalar .vector).Values
    (w "scalar_value" ++ w ".value") (w "metric_data" ++ w ".value") (w "metric_data.value") :=
  ⟨rfl, rfl, by decide⟩

section Rows

variable (op : BinaryOperator) (mode : ComparisonMode)

theorem writes_vectorVector (left right : Code) :
    (JoinForm.ofShapes .vector .vector).Writes op mode left right
      (vectorVector op mode left right) := by
  refine ⟨_, _, _, values_vectorVector, ?_⟩
  rw [JoinForm.text, ← text_twoTables _ (w "left_data") left (w "right_data") right rfl rfl]
  simp only [vectorVector, vectorTables, JoinForm.ofShapes, Code.text_append,
    Code.text_w, String.append_assoc]

/-- The names of the tables are written twice, the second time after `FROM`. -/
theorem writes_vectorScalar (left right : Code) :
    (JoinForm.ofShapes .vector .scalar).Writes op mode left right
      (vectorScalar true op mode left right) := by
  have hafter : (JoinForm.ofShapes .vector .scalar).after =
      " AS value, metric_data.labels AS labels FROM " ++ "metric_data" ++ ", " ++
        "scalar_value" := by
    decide +kernel
  refine ⟨_, _, _, values_vectorScalar, ?_⟩
  rw [JoinForm.text, ← text_twoTables _ (w "metric_data") left (w "scalar_value") right rfl rfl,
    hafter]
  simp only [vectorScalar, if_true, JoinForm.ofShapes, Code.text_append,
    Code.text_w, String.append_assoc]

theorem writes_scalarVector (left right : Code) :
    (JoinForm.ofShapes .scalar .vector).Writes op mode left right
      (vectorScalar false op mode left right) := by
  have hafter : (JoinForm.ofShapes .scalar .vector).after =
      " AS value, metric_data.labels AS labels FROM " ++ "scalar_value" ++ ", " ++
        "metric_data" := by
    decide +kernel
  refine ⟨_, _, _, values_scalarVector, ?_⟩
  rw [JoinForm.text, ← text_twoTables _ (w "scalar_value") left (w "metric_data") right rfl rfl,
    hafter]
  simp only [vectorScalar, Bool.false_eq_true, if_false, JoinForm.ofShapes,
    Code.text_append, Code.text_w, String.append_assoc]

/-- Two scalars are compared for their truth only, so there is no condition. -/
theorem writes_scalarScalar (left right : Code)
    (hnone : ∀ a b kept, (valueAndFilter op mode a b kept).2 = none) :
    (JoinForm.ofShapes .scalar .scalar).Writes op mode left right
      (scalarScalar op mode left right) := by
  refine ⟨_, _, _, values_scalarScalar, ?_⟩
  rw [JoinForm.text, ← text_twoTables _ (w "left_scalar") left (w "right_scalar") right rfl rfl]
  simp only [scalarScalar, hnone, filterClause, JoinForm.ofShapes, Code.text_append, Code.text_w,
    String.append_assoc, String.append_empty]

end Rows

theorem writes_joinValues {op : BinaryOperator} {mode : ComparisonMode} {l r c : Compiled}
    (h : binary op mode l r = .ok c) (hvalues : c.code = joinValues op mode l r) :
    (joinForm l r).Writes op mode l.code r.code c.code := by
  obtain ⟨left, leftShape⟩ := l
  obtain ⟨right, rightShape⟩ := r
  rw [hvalues]
  cases leftShape <;> cases rightShape
  case scalar.scalar =>
    refine writes_scalarScalar op mode left right fun a b kept => ?_
    cases op with
    | comparison op =>
      cases mode with
      | bool => rfl
      | filter => cases h
    | arithmetic op | set op => rfl
  case scalar.vector => exact writes_scalarVector op mode left right
  case vector.scalar => exact writes_vectorScalar op mode left right
  case vector.vector => exact writes_vectorVector op mode left right

/-! ## Operators -/

theorem text_valueExpression {op : BinaryOperator} {sign : Sign} (hsign : op.sqlSign? = some sign)
    (hdiv : op ≠ .arithmetic .div) {form : JoinForm} {a b kept : Code} (h : form.Values a b kept) :
    (valueExpression op a b).text = form.sides sign.symbol := by
  unfold valueExpression
  split
  · exact absurd rfl hdiv
  · simp only [hsign, Option.getD_some, Code.text_append, Code.text_sign, h.left, h.right,
      JoinForm.sides, String.append_assoc]

theorem text_quotient {form : JoinForm} {a b kept : Code} (h : form.Values a b kept) :
    (valueExpression (.arithmetic .div) a b).text =
      "CAST(" ++ (form.left ++ ".value") ++ " AS REAL) / " ++ (form.right ++ ".value") := by
  have hcast : "CAST(" = "CAST" ++ "(" := by decide
  have hreal : " AS REAL) / " = " AS REAL" ++ ")" ++ " / " := by decide
  simp only [valueExpression, Code.text_append, Code.text_parens, Code.text_w, Code.text_sign,
    Sign.symbol, h.left, h.right, hcast, hreal, String.append_assoc]
  rfl

theorem mem_arithmeticSigns {op : Arithmetic} {sign : Sign}
    (h : (BinaryOperator.arithmetic op).sqlSign? = some sign) (hdiv : op ≠ .div) :
    (op.symbol, sign.symbol) ∈ arithmeticSigns := by
  cases op with
  | div => exact absurd rfl hdiv
  | add | sub | mul | mod =>
    cases h
    decide

theorem mem_comparisonSigns {op : Comparison} {sign : Sign}
    (h : (BinaryOperator.comparison op).sqlSign? = some sign) :
    (op.symbol, sign.symbol) ∈ comparisonSigns := by
  cases op <;> cases h <;> decide

theorem operationText_of_arithmetic {op : Arithmetic} {mode : ComparisonMode} {l r c : Compiled}
    (h : binary (.arithmetic op) mode l r = .ok c)
    (hvalues : c.code = joinValues (.arithmetic op) mode l r) {sign : Sign}
    (hsign : (BinaryOperator.arithmetic op).sqlSign? = some sign) :
    OperationText mode l r op.symbol c.code.text := by
  obtain ⟨a, b, kept, hform, htext⟩ := writes_joinValues h hvalues
  rw [htext]
  by_cases hdiv : op = .div
  · subst hdiv
    have hvalue : (valueAndFilter (.arithmetic .div) mode a b kept).1.text = _ :=
      text_quotient hform
    rw [hvalue]
    exact .quotient
  · have hvalue : (valueAndFilter (.arithmetic op) mode a b kept).1.text = _ :=
      text_valueExpression hsign (fun h => hdiv (BinaryOperator.arithmetic.inj h)) hform
    rw [hvalue]
    exact .arithmetic (mem_arithmeticSigns hsign hdiv)

theorem operationText_of_comparison {op : Comparison} {mode : ComparisonMode} {l r c : Compiled}
    (h : binary (.comparison op) mode l r = .ok c)
    (hvalues : c.code = joinValues (.comparison op) mode l r) {sign : Sign}
    (hsign : (BinaryOperator.comparison op).sqlSign? = some sign) :
    OperationText mode l r op.symbol c.code.text := by
  obtain ⟨a, b, kept, hform, htext⟩ := writes_joinValues h hvalues
  have hsides := text_valueExpression hsign BinaryOperator.noConfusion hform
  rw [htext]
  cases mode with
  | bool =>
    have hvalue : (valueAndFilter (.comparison op) .bool a b kept).1.text =
        "CASE WHEN " ++ (joinForm l r).sides sign.symbol ++ " THEN 1.0 ELSE 0.0 END" := by
      simp only [valueAndFilter, Code.text_append, Code.text_w, hsides]
    rw [hvalue]
    exact .truth (mem_comparisonSigns hsign) rfl
  | filter =>
    have hcondition : (filterClause (valueAndFilter (.comparison op) .filter a b kept).2).text =
        " WHERE " ++ (joinForm l r).sides sign.symbol := by
      simp only [valueAndFilter, filterClause, Code.text_append, Code.text_w, hsides]
    have hkept : (valueAndFilter (.comparison op) .filter a b kept).1.text = _ := hform.kept
    rw [hcondition, hkept]
    exact .filter (mem_comparisonSigns hsign) rfl

theorem operationText_of_set (s : SetOperator) (mode : ComparisonMode) {l r : Compiled}
    (hleft : l.shape = .vector) (hright : r.shape = .vector) :
    OperationText mode l r s.symbol (setOperation s l.code r.code).text := by
  have htables : (vectorTables l.code r.code).text =
      (joinForm l r).tables l.code.text r.code.text := by
    rw [joinForm, hleft, hright]
    exact text_twoTables _ (w "left_data") l.code (w "right_data") r.code rfl rfl
  have hset {operator : String} (rows : Code) (hrows : (operator, rows.text) ∈ setRows) :
      OperationText mode l r operator (vectorTables l.code r.code ++
        w " SELECT timestamp, value, labels FROM left_data" ++ rows ++
        Words.byTimeAndLabels).text := by
    simp only [Code.text_append, Code.text_w, htables]
    exact .set hrows hleft hright
  cases s with
  | intersection => exact hset (w " WHERE EXISTS " ++ sameLabels) (by decide +kernel)
  | difference => exact hset (w " WHERE NOT EXISTS " ++ sameLabels) (by decide +kernel)
  | union =>
    exact hset (w " UNION SELECT timestamp, value, labels FROM right_data") (by decide +kernel)

/-- An operation is written by its rule. -/
theorem operationText_of_binary {operator : String} {op : BinaryOperator} {mode : ComparisonMode}
    {l r c : Compiled} (hop : BinaryOperator.ofSymbol? operator = some op)
    (h : binary op mode l r = .ok c) : OperationText mode l r operator c.code.text := by
  rw [← BinaryOperator.symbol_of_ofSymbol? hop]
  rcases binary_cases h with ⟨s, rfl, hleft, hright, rfl⟩ | ⟨sign, hsign, rfl⟩
  · exact operationText_of_set s mode hleft hright
  · cases op with
    | arithmetic op => exact operationText_of_arithmetic h rfl hsign
    | comparison op => exact operationText_of_comparison h rfl hsign
    | set s => cases hsign

end Compile

end SeriesSql
