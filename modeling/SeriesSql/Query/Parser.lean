import SeriesSql.Query.Grammar
import SeriesSql.Query.Lexer
import SeriesSql.Query.Lowering

/-!
# Reading queries
-/

namespace SeriesSql

/-- The query that a text stands for, if it is one and its parts have their types. -/
def Query.parse? (text : String) : Option Query := do
  let q ← Query.ofTokens? (← Query.tokens? text)
  let _ ← q.type?
  some q

/-- The expression of a query in the query language. -/
def Expr.parse (text : String) : Except QueryError Expr :=
  match Query.parse? text with
  | none => .error (.ofMessage "syntax error")
  | some q => q.lower

end SeriesSql
