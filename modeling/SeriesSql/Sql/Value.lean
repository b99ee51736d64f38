import SeriesSql.Decimal.Layout

/-!
# Values bound to placeholders
-/

namespace SeriesSql.Sql

inductive Value where
  | text (s : String)
  | integer (n : Int64)
  | real (x : Float)
deriving Repr, BEq

/-- A quote inside a literal is written twice. -/
def doubleQuotes (cs : List Char) : List Char :=
  cs.flatMap fun c => if c = '\'' then ['\'', '\''] else [c]

/-- `s` as a string literal. -/
def quoteChars (s : String) : List Char :=
  '\'' :: (doubleQuotes s.toList ++ ['\''])

def Value.literal : Value → List Char
  | text s => quoteChars s
  | integer n => (toString n.toInt).toList
  | real x => (Decimal.Layout.literal.render x).toList

end SeriesSql.Sql
