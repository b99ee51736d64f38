import SeriesSql.Proofs.Labels.Evaluation
import SeriesSql.Proofs.Labels.Reader
import SeriesSql.Proofs.Statement.Lexical

/-!
# Staged statements

A staged statement has an input, which is a query of its own, and tables that select from a table
before them:

```
WITH label_input AS (…), label_stage_1 AS (SELECT … FROM label_input) SELECT … FROM label_stage_1 …
```

The input is not read.  It is cut out with the values that are bound in it, and its rows are those
that the engine has for it.  What follows it is read as it stands, and evaluated as in SQLite: there
is no result if a table or a column does not exist, if a name is given to two tables or if a value
has the wrong type.

There are three groups.

* Cutting at parentheses, of lexemes and of tokens.
* The statements and how they are read.
* Their evaluation.  Columns hold what a term can be evaluated to or a number, which is only passed
  on.
-/

namespace SeriesSql

open Sql Labels

/-! ## Cutting -/

namespace Sql

/-- How many parentheses are open after `x`. -/
def nesting {α : Type} [DecidableEq α] (opening closing : α) (depth : Nat) (x : α) : Nat :=
  if x = opening then depth + 1 else if x = closing then depth - 1 else depth

/-- What stands before the parenthesis that closes, where `depth` more are open, and what stands
after it. -/
def cutClosing (depth : Nat) : List Lexeme → Option (List Lexeme × List Lexeme)
  | [] => none
  | l :: rest =>
    if l = .char ')' ∧ depth = 0 then some ([], rest)
    else
      (cutClosing (nesting (.char '(') (.char ')') depth l) rest).map fun cut => (l :: cut.1, cut.2)

/-- The parts between the tokens `stop` that stand outside parentheses. -/
def splitOutside (stop : Token) (depth : Nat) : List Token → List (List Token)
  | [] => [[]]
  | t :: ts =>
    if t = stop ∧ depth = 0 then [] :: splitOutside stop 0 ts
    else (splitOutside stop (nesting (.word "(") (.word ")") depth t) ts).modifyHead (t :: ·)

def Lexeme.chars : Lexeme → List Char
  | char c => [c]
  | literal s => quoteChars s

/-- The tokens before the first parenthesis, what stands in it with its own values, and the tokens
after it. -/
def Fragment.cut? (f : Fragment) : Option (List Token × Fragment × List Token) := do
  let lexemes ← readCode f.text.toList
  let (inner, rest) ← cutClosing 0 (lexemes.dropWhile (· ≠ .char '(')).tail
  let count := inner.count (.char '?')
  let before ← Scan.read ⟨[], []⟩ [] (lexemes.takeWhile (· ≠ .char '('))
  let after ← Scan.read ⟨[], []⟩ (f.params.drop count) rest
  return (before, ⟨String.ofList (inner.flatMap Lexeme.chars), f.params.take count⟩, after)

end Sql

/-! ## Statements -/

namespace Stages

/-- A column of a result. -/
inductive Item where
  | column (name : String)
  | term (t : Term) (name : String)
deriving Repr, DecidableEq

def Item.name : Item → String
  | column name | term _ name => name

structure Select where
  items : List Item
  source : String
  filter : Option Term
  order : List String
deriving Repr, DecidableEq

structure Table where
  name : String
  select : Select
deriving Repr, DecidableEq

structure Statement where
  inputName : String
  input : Fragment
  tables : List Table
  body : Select

def readItem (ts : List Token) : Option Item :=
  match ts.reverse with
  | [.word name] => some (.column name)
  | .word name :: .word "AS" :: rest => (readTerm rest.reverse).map (.term · name)
  | _ => none

def readName : List Token → Option String
  | [.word name] => some name
  | _ => none

def readFilter : List Token → Option (Option Term)
  | [] => some none
  | .word "WHERE" :: ts => (readTerm ts).map some
  | _ => none

/-- Reads what follows the source of a query: a filter, and columns to sort by. -/
def readTail (ts : List Token) : Option (Option Term × List String) :=
  match splitOutside (.word "ORDER") 0 ts with
  | [filter] => do return (← readFilter filter, [])
  | [filter, .word "BY" :: order] => do
    return (← readFilter filter, ← (splitOutside (.word ",") 0 order).mapM readName)
  | _ => none

def readSelect : List Token → Option Select
  | .word "SELECT" :: ts =>
    match splitOutside (.word "FROM") 0 ts with
    | [items, .word source :: rest] => do
      let items ← (splitOutside (.word ",") 0 items).mapM readItem
      let (filter, order) ← readTail rest
      return ⟨items, source, filter, order⟩
    | _ => none
  | _ => none

def readTable : List Token → Option Table
  | .word name :: .word "AS" :: .word "(" :: ts => do
    if ts.getLast? = some (.word ")") then return ⟨name, ← readSelect ts.dropLast⟩ else none
  | _ => none

/-- Reads tables, each after a comma, and the query that they are for. -/
def readTables (ts : List Token) : Option (List Table × Select) :=
  match splitOutside (.word "SELECT") 0 ts with
  | [tables, body] => do
    match splitOutside (.word ",") 0 tables with
    | [] :: tables => return (← tables.mapM readTable, ← readSelect (.word "SELECT" :: body))
    | _ => none
  | _ => none

def readStatement (f : Fragment) : Option Statement := do
  match ← f.cut? with
  | ([.word "WITH", .word name, .word "AS"], input, rest) =>
    let (tables, body) ← readTables rest
    return ⟨name, input, tables, body⟩
  | _ => none

/-! ## Evaluation -/

/-- What a column of a row holds. -/
inductive Cell where
  | datum (d : Datum)
  | real (x : Float)

abbrev Row := List (String × Cell)

def Row.cells (row : Row) (names : List String) : List Cell :=
  names.filterMap fun name => row.lookup name

/-- A column that a term can read. -/
def Row.datum? (row : Row) (name : String) : Option Datum :=
  match row.lookup name with
  | some (.datum d) => some d
  | _ => none

/-- What is not read here: the rows of the input, the functions for regular expressions, and the
order of rows. -/
structure Engine where
  query : Fragment → Option (List Row)
  /-- Whether a text matches a pattern. -/
  isMatch : String → String → Bool
  /-- A text with a replacement for the matches of a pattern. -/
  replace : String → String → String → String
  /-- Whether a row may come before another one, by the columns that are sorted by. -/
  inOrder : List Cell → List Cell → Bool

end Stages

/-- Whether all columns of a term exist.  The rows at hand do not refer to the label tables. -/
def Labels.Term.fits (has : Column → Bool) : Term → Bool
  | null | int _ | text _ | bound _ => true
  | column c => has c
  | lookup _ => false
  | group t | length t | trimCommas t | isNull t | not t => t.fits has
  | concat a b | plus a b | minus a b | instr a b | suffix a b | coalesce a b | equal a b
  | greater a b | regexp a b | or a b => a.fits has && b.fits has
  | slice a b c | replace a b c | cond a b c => a.fits has && b.fits has && c.fits has

namespace Stages

namespace Engine

variable (engine : Engine)

def scope (row : Row) : Scope where
  column c := (row.datum? c.name).getD .null
  select _ := none
  isMatch
    | .text cs, .text pattern =>
      some (.ofBool (engine.isMatch (String.ofList cs) (String.ofList pattern)))
    | x, y => Datum.strict [x, y]
  replace
    | .text cs, .text pattern, .text replacement =>
      some (.text (engine.replace (String.ofList cs) (String.ofList pattern)
        (String.ofList replacement)).toList)
    | x, y, z => Datum.strict [x, y, z]

def value? (row : Row) (t : Term) : Option Datum :=
  if t.fits fun c => (row.datum? c.name).isSome then t.eval (engine.scope row) else none

def cell? (row : Row) : Item → Option (String × Cell)
  | .column name => (row.lookup name).map (name, ·)
  | .term t name => (engine.value? row t).map fun d => (name, .datum d)

/-- The columns of a result. -/
def project (items : List Item) (row : Row) : Option Row :=
  items.mapM (engine.cell? row)

def passes (row : Row) : Option Term → Option Bool
  | none => some true
  | some t => do (← engine.value? row t).passes

def keep (filter : Option Term) : List Row → Option (List Row)
  | [] => some []
  | row :: rows => do
    let passes ← engine.passes row filter
    let kept ← keep filter rows
    return if passes then row :: kept else kept

def sort (names : List String) (rows : List Row) : List Row :=
  if names.isEmpty then rows
  else rows.mergeSort fun a b => engine.inOrder (a.cells names) (b.cells names)

/-- The rows of the tables that exist, by their names. -/
abbrev Tables := List (String × List Row)

def select (tables : Tables) (s : Select) : Option (List Row) := do
  let kept ← engine.keep s.filter (← tables.lookup s.source)
  let rows ← kept.mapM (engine.project s.items)
  if s.order.all (· ∈ s.items.map Item.name) then return engine.sort s.order rows else none

def addTable (tables : Tables) (table : Table) : Option Tables := do
  if (tables.lookup table.name).isSome then none
  else return (table.name, ← engine.select tables table.select) :: tables

def rows (s : Statement) : Option (List Row) := do
  let tables ← s.tables.foldlM engine.addTable [(s.inputName, ← engine.query s.input)]
  engine.select tables s.body

/-- The rows of the staged statement that a fragment stands for. -/
def rows? (f : Fragment) : Option (List Row) := do
  engine.rows (← readStatement f)

end Engine

end Stages

end SeriesSql
