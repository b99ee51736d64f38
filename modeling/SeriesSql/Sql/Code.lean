import SeriesSql.Sql.Fragment

/-!
# SQL code

SQL is put together from words, string literals, bound values and parentheses.  Words are plain:
they hold no quote, question mark or parenthesis and cannot end a statement or start a comment.  So
the text of `Code` has its literals closed, its parentheses matched and one placeholder for every
bound value, and text from outside can enter it only as a bound value or inside a literal.
-/

namespace SeriesSql.Sql

/-! ## Words -/

def isPlain (c : Char) : Bool :=
  c.isAlphanum || c == ' ' || c == '_' || c == '.' || c == ',' || c == '=' || c == '<' ||
    c == '>' || c == '|' || c == '+' || c == '*' || c == '%'

/-- A text of plain characters. -/
def Plain (text : String) : Prop :=
  text.toList.all isPlain = true

instance (text : String) : Decidable (Plain text) :=
  inferInstanceAs (Decidable (_ = true))

/-- A text is plain if its characters, once they are written out, are. -/
theorem Plain.of_chars {text : String} {cs : List Char} (written : text = String.ofList cs)
    (plain : cs.all isPlain = true) : Plain text := by
  rwa [Plain, written, String.toList_ofList]

/-- Keywords, names and operators that are fixed in this library. -/
structure Word where
  text : String
  plain : Plain text
deriving DecidableEq

/-- The operators between two values.  They are written between blanks, as the signs of two of them
could open a comment. -/
inductive Sign where
  | plus
  | minus
  | times
  | divide
  | modulo
  | equal
  | unequal
  | less
  | greater
  | atMost
  | atLeast
deriving Repr, DecidableEq

def Sign.symbol : Sign → String
  | plus => "+"
  | minus => "-"
  | times => "*"
  | divide => "/"
  | modulo => "%"
  | equal => "="
  | unequal => "<>"
  | less => "<"
  | greater => ">"
  | atMost => "<="
  | atLeast => ">="

def Sign.text (s : Sign) : String :=
  " " ++ s.symbol ++ " "

/-! ## Code -/

inductive Code where
  | word (w : Word)
  | sign (s : Sign)
  | number (n : Nat)
  | quoted (s : String)
  | bound (v : Value)
  | parens (inner : Code)
  | seq (first second : Code)
  /-- A fragment from outside, taken as it is. -/
  | given (f : Fragment)

namespace Code

instance : Append Code := ⟨seq⟩

def text : Code → String
  | word w => w.text
  | sign s => s.text
  | number n => toString n
  | quoted s => String.ofList (quoteChars s)
  | bound _ => "?"
  | parens inner => "(" ++ inner.text ++ ")"
  | seq first second => first.text ++ second.text
  | given f => f.text

def params : Code → List Value
  | word _ | sign _ | number _ | quoted _ => []
  | bound v => [v]
  | parens inner => inner.params
  | seq first second => first.params ++ second.params
  | given f => f.params

def fragment (code : Code) : Fragment :=
  ⟨code.text, code.params⟩

end Code

/-- Code made of one fixed word, whose text has to be plain. -/
def w (text : String) (plain : Plain text := by exact .of_chars rfl rfl) : Code :=
  .word ⟨text, plain⟩

/-! ## Words that statements share -/

namespace Words

abbrev empty : Code := w ""

abbrev comma : Code := w ", "

abbrev star : Code := w "*"

abbrev asName : Code := w " AS "

abbrev asLabels : Code := w " AS labels"

abbrev asTimestamp : Code := w " AS timestamp, "

abbrev asValue : Code := w " AS value"

abbrev caseWhen : Code := w "CASE WHEN "

abbrev otherwise : Code := w " ELSE "

abbrev coalesce : Code := w "COALESCE"

abbrev byTimeAndLabels : Code := w " ORDER BY timestamp, labels"

abbrev select : Code := w "SELECT "

abbrev thenSelect : Code := w " SELECT "

abbrev keeping : Code := w " WHERE "

abbrev withTables : Code := w "WITH "

abbrev sum : Code := w "SUM"

abbrev avg : Code := w "AVG"

abbrev min : Code := w "MIN"

abbrev max : Code := w "MAX"

abbrev count : Code := w "COUNT"

abbrev timestamp : Code := w "timestamp"

abbrev value : Code := w "value"

end Words

end SeriesSql.Sql
