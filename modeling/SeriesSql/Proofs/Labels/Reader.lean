import SeriesSql.Labels.Term
import SeriesSql.Proofs.Labels.Query

/-!
# Reading terms

A term is written without parentheses around operands, and its text is read by the precedence of
operators: `||` binds tightest, then sums, `>`, the equalities, `NOT` and last `OR`, and operators
of the same rank go from left to right.  `readTerm` reads tokens this way, with a stack of what is
begun.

There are two groups.

* The symbols that terms are written with, each of which has its own text.
* The reader.  Operators wait on the stack until one that binds less tight follows or the part of
  the frame below them ends.  Of queries, only that for a value in the label tables is read.
-/

namespace SeriesSql.Labels

open Sql

/-! ## Symbols -/

def Column.name : Column → String
  | labels => "labels"
  | sourceValue => "source_value"
  | copiedValue => "copied_value"

namespace Reader

inductive Operator where
  | concat
  | plus
  | minus
  | greater
  | equal
  | is
  | regexp
  | or
deriving DecidableEq

namespace Operator

def text : Operator → String
  | concat => "||"
  | plus => "+"
  | minus => "-"
  | greater => ">"
  | equal => "="
  | is => "IS"
  | regexp => "REGEXP"
  | or => "OR"

/-- The rank of an operator; a higher one binds tighter. -/
def rank : Operator → Nat
  | concat => 5
  | plus | minus => 4
  | greater => 3
  | equal | is | regexp => 2
  | or => 0

/-- The term of an operator and its operands; `IS` is read before a null only. -/
def apply : Operator → Term → Term → Option Term
  | concat, a, b => some (.concat a b)
  | plus, a, b => some (.plus a b)
  | minus, a, b => some (.minus a b)
  | greater, a, b => some (.greater a b)
  | equal, a, b => some (.equal a b)
  | is, a, .null => some (.isNull a)
  | is, _, _ => none
  | regexp, a, b => some (.regexp a b)
  | or, a, b => some (.or a b)

end Operator

/-- The rank of `NOT` before its operand. -/
def notRank : Nat := 1

inductive Function where
  | instr
  | substr
  | length
  | trim
  | coalesce
  | regexpReplace
deriving DecidableEq

namespace Function

def text : Function → String
  | instr => "INSTR"
  | substr => "SUBSTR"
  | length => "LENGTH"
  | trim => "TRIM"
  | coalesce => "COALESCE"
  | regexpReplace => "regexp_replace"

/-- The term of a function and its arguments. -/
def apply : Function → List Term → Option Term
  | instr, [t, n] => some (.instr t n)
  | substr, [t, i] => some (.suffix t i)
  | substr, [t, i, n] => some (.slice t i n)
  | length, [t] => some (.length t)
  | trim, [t, .text ","] => some (.trimCommas t)
  | coalesce, [a, b] => some (.coalesce a b)
  | regexpReplace, [t, p, r] => some (.replace t p r)
  | _, _ => none

end Function

/-- The words of terms. -/
inductive Symbol where
  | opening
  | closing
  | comma
  | select
  | caseStart
  | caseTest
  | caseYes
  | caseNo
  | caseEnd
  | not
  | null
  | column (c : Column)
  | function (f : Function)
  | operator (op : Operator)
deriving DecidableEq

namespace Symbol

def text : Symbol → String
  | opening => "("
  | closing => ")"
  | comma => ","
  | select => "SELECT"
  | caseStart => "CASE"
  | caseTest => "WHEN"
  | caseYes => "THEN"
  | caseNo => "ELSE"
  | caseEnd => "END"
  | not => "NOT"
  | null => "NULL"
  | column c => c.name
  | function f => f.text
  | operator op => op.text

def all : List Symbol :=
  [opening, closing, comma, select, caseStart, caseTest, caseYes, caseNo, caseEnd, not, null] ++
    [Column.labels, .sourceValue, .copiedValue].map column ++
    [Function.instr, .substr, .length, .trim, .coalesce, .regexpReplace].map function ++
    [Operator.concat, .plus, .minus, .greater, .equal, .is, .regexp, .or].map operator

def ofText? (s : String) : Option Symbol :=
  all.find? (·.text = s)

def token (symbol : Symbol) : Token :=
  .word symbol.text

theorem ofText?_text (symbol : Symbol) : ofText? symbol.text = some symbol := by
  have hall : ∀ symbol ∈ all, ofText? symbol.text = some symbol := by decide +kernel
  refine hall symbol ?_
  cases symbol with
  | column c => cases c <;> decide
  | function f => cases f <;> decide
  | operator op => cases op <;> decide
  | _ => decide

end Symbol

/-! ## The reader -/

/-- The term of a query after `SELECT`.  Only that for the value of a key is one. -/
def selection? (ts : List Token) : Option Term := do
  let query ← Query.readFirst (Symbol.select.token :: ts)
  let key ← ts.findSome? Token.value?
  if query = Query.valueQuery key then some (.lookup key) else none

/-- What is begun and waits for a term or a word. -/
inductive Frame where
  | operand (left : Term) (op : Operator)
  | not
  | group
  /-- A function before its parenthesis. -/
  | name (f : Function)
  | call (f : Function) (args : List Term)
  | case
  | test
  | yes (test : Term)
  | no (test yes : Term)
  /-- A query, with what has been read of it. -/
  | select (read : List Token)

/-- The frames that are begun, the innermost one first, and the term that was read last unless one
is to come. -/
structure State where
  frames : List Frame
  term : Option Term

/-- Applies the operators that wait for the term and bind at least as tight as `rank`. -/
def reduce (rank : Nat) : List Frame → Term → Option (List Frame × Term)
  | .operand left op :: frames, t =>
    if rank ≤ op.rank then do reduce rank frames (← op.apply left t)
    else some (.operand left op :: frames, t)
  | .not :: frames, t =>
    if rank ≤ notRank then reduce rank frames (.not t) else some (.not :: frames, t)
  | frames, t => some (frames, t)

/-- A parenthesis opens the arguments of a function whose name stands before it, and else a
group. -/
def openParen : List Frame → List Frame
  | .name f :: frames => .call f [] :: frames
  | frames => .group :: frames

/-- A symbol where a term is to come. -/
def start (frames : List Frame) : Symbol → Option State
  | .opening => some ⟨openParen frames, none⟩
  | .select =>
    match frames with
    | .group :: frames => some ⟨.select [] :: frames, none⟩
    | _ => none
  | .caseStart => some ⟨.case :: frames, none⟩
  | .caseTest =>
    match frames with
    | .case :: frames => some ⟨.test :: frames, none⟩
    | _ => none
  | .not => some ⟨.not :: frames, none⟩
  | .null => some ⟨frames, some .null⟩
  | .column c => some ⟨frames, some (.column c)⟩
  | .function f => some ⟨.name f :: frames, none⟩
  | _ => none

/-- A symbol that ends a part of the innermost frame, after the whole of that part. -/
def close : List Frame → Term → Symbol → Option State
  | .call f args :: frames, t, .comma => some ⟨.call f (args ++ [t]) :: frames, none⟩
  | .call f args :: frames, t, .closing => (f.apply (args ++ [t])).map fun u => ⟨frames, some u⟩
  | .group :: frames, t, .closing => some ⟨frames, some (.group t)⟩
  | .test :: frames, t, .caseYes => some ⟨.yes t :: frames, none⟩
  | .yes test :: frames, t, .caseNo => some ⟨.no test t :: frames, none⟩
  | .no test yes :: frames, t, .caseEnd => some ⟨frames, some (.cond test yes t)⟩
  | _, _, _ => none

/-- A symbol after a term. -/
def follow (frames : List Frame) (t : Term) : Symbol → Option State
  | .operator op => do
    let (frames, t) ← reduce op.rank frames t
    some ⟨.operand t op :: frames, none⟩
  | symbol => do
    let (frames, t) ← reduce 0 frames t
    close frames t symbol

/-- A token where a term is to come. -/
def begin (frames : List Frame) : Token → Option State
  | .literal s => some ⟨frames, some (.text s)⟩
  | .value s => some ⟨frames, some (.bound s)⟩
  | .number n => some ⟨frames, some (.int n)⟩
  | .word s => do start frames (← Symbol.ofText? s)

def step : State → Token → Option State
  | ⟨frames, some t⟩, .word s => do follow frames t (← Symbol.ofText? s)
  | ⟨_, some _⟩, _ => none
  | ⟨.select read :: frames, none⟩, token =>
    if token = Symbol.closing.token then (selection? read).map fun t => ⟨frames, some t⟩
    else some ⟨.select (read ++ [token]) :: frames, none⟩
  | ⟨frames, none⟩, token => begin frames token

def run (ts : List Token) (s : State) : Option State :=
  ts.foldlM step s

def finish : State → Option Term
  | ⟨frames, some t⟩ =>
    match reduce 0 frames t with
    | some ([], t) => some t
    | _ => none
  | _ => none

end Reader

/-- The term that tokens stand for. -/
def readTerm (ts : List Token) : Option Term := do
  Reader.finish (← Reader.run ts ⟨[], none⟩)

/-- The term that the text and the values of a fragment stand for. -/
def termOf? (f : Fragment) : Option Term := do
  readTerm (← f.tokens)

end SeriesSql.Labels
