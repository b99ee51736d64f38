import SeriesSql.Compile.Expr
import SeriesSql.Query.Parser

/-!
# From queries to SQL
-/

namespace SeriesSql

/-- The statement of a query that is not too long. -/
def translate (o : Options) (query : String) : Except QueryError Sql.Fragment :=
  if o.maxQueryBytes < query.utf8ByteSize then
    .error (.tooLarge query.utf8ByteSize o.maxQueryBytes)
  else do
    let e ← Expr.parse query
    (e.statement o).mapError .compile

end SeriesSql
