import SeriesSql.Proofs.Labels.Datum
import SeriesSql.Proofs.Sql.Tokens
import SeriesSql.Regex.Parser

/-!
# Queries inside a statement

A query takes the rows of a table, joins those of further tables, keeps the rows that satisfy its
conditions and yields one column of them.  It stands for the value of its first row, or in a filter,
which says that a column of the row at hand is, or is not, among the values that the query yields.
As in SQLite, a row is kept only if a condition is true, not if it is unknown, and there is no
result if a table or a column does not exist or a value has the wrong type.

There are four groups.

* Queries and filters, and how they are read.
* The queries of the label tables.
* Their evaluation in a database.
* Evaluation step by step, if the rows at hand are those of the members of a list: `keep_map`,
  `Join.rows_map`.
-/

namespace SeriesSql.Labels

open Sql

namespace Query

/-! ## Queries -/

inductive Operand where
  | column (name : String)
  | value (text : String)
deriving Repr, DecidableEq

inductive Comparison where
  | equal
  | regexp
deriving Repr, DecidableEq

structure Condition where
  left : Operand
  comparison : Comparison
  right : Operand
deriving Repr, DecidableEq

/-- A table and the name it has in the query. -/
structure Source where
  table : String
  name : String
deriving Repr, DecidableEq

structure Join where
  source : Source
  on : Condition
deriving Repr, DecidableEq

structure Select where
  column : String
  source : Source
  joins : List Join
  conditions : List Condition
deriving Repr, DecidableEq

structure Filter where
  column : String
  negated : Bool
  query : Select
deriving Repr, DecidableEq

def Operand.ofToken? : Token → Option Operand
  | .word name => some (.column name)
  | .value text => some (.value text)
  | _ => none

def Comparison.ofToken? : Token → Option Comparison
  | .word "=" => some .equal
  | .word "REGEXP" => some .regexp
  | _ => none

def Condition.ofTokens? (left comparison right : Token) : Option Condition := do
  return ⟨← Operand.ofToken? left, ← Comparison.ofToken? comparison, ← Operand.ofToken? right⟩

/-- Reads joins as far as there are any, with the tokens after them. -/
def readJoins : List Token → Option (List Join × List Token)
  | .word "JOIN" :: .word table :: .word name :: .word "ON" :: l :: c :: r :: rest => do
    let on ← Condition.ofTokens? l c r
    let (joins, rest) ← readJoins rest
    return (⟨⟨table, name⟩, on⟩ :: joins, rest)
  | rest => some ([], rest)

/-- Reads conditions with `AND` between them, with the tokens after them. -/
def readConditions : List Token → Option (List Condition × List Token)
  | l :: c :: r :: .word "AND" :: rest => do
    let condition ← Condition.ofTokens? l c r
    let (conditions, rest) ← readConditions rest
    return (condition :: conditions, rest)
  | l :: c :: r :: rest => do return ([← Condition.ofTokens? l c r], rest)
  | _ => none

/-- Reads a query, with the tokens after it. -/
def readSelect : List Token → Option (Select × List Token)
  | .word "SELECT" :: .word column :: .word "FROM" :: .word table :: .word name :: rest => do
    let (joins, rest) ← readJoins rest
    match rest with
    | .word "WHERE" :: rest =>
      let (conditions, rest) ← readConditions rest
      return (⟨column, ⟨table, name⟩, joins, conditions⟩, rest)
    | _ => none
  | _ => none

/-- Reads a query of which only the first row counts. -/
def readFirst (ts : List Token) : Option Select := do
  match ← readSelect ts with
  | (query, [.word "LIMIT", .number 1]) => some query
  | _ => none

/-- Reads the query in parentheses after `IN`. -/
def readMembers (column : String) (negated : Bool) : List Token → Option Filter
  | .word "IN" :: .word "(" :: rest => do
    match ← readSelect rest with
    | (query, [.word ")"]) => some ⟨column, negated, query⟩
    | _ => none
  | _ => none

def readFilter : List Token → Option Filter
  | .word column :: .word "NOT" :: rest => readMembers column true rest
  | .word column :: rest => readMembers column false rest
  | _ => none

/-! ## Queries of the label tables -/

/-- The parts of a statement that look into the label tables, each by its own names for them. -/
inductive Place where
  | filter
  | group

namespace Place

def source : Place → Source
  | filter => ⟨"label_set_membership", "m_lsm"⟩
  | group => ⟨"label_set_membership", "g_lsm"⟩

def nameJoin : Place → Join
  | filter =>
    ⟨⟨"label_key", "m_lk"⟩, ⟨.column "m_lk.id", .equal, .column "m_lsm.label_key_id"⟩⟩
  | group =>
    ⟨⟨"label_key", "g_lk"⟩, ⟨.column "g_lk.id", .equal, .column "g_lsm.label_key_id"⟩⟩

def valueJoin : Place → Join
  | filter =>
    ⟨⟨"label_value", "m_lv"⟩, ⟨.column "m_lv.id", .equal, .column "m_lsm.label_value_id"⟩⟩
  | group =>
    ⟨⟨"label_value", "g_lv"⟩, ⟨.column "g_lv.id", .equal, .column "g_lsm.label_value_id"⟩⟩

def setColumn : Place → String
  | filter => "m_lsm.label_set_id"
  | group => "g_lsm.label_set_id"

def nameColumn : Place → String
  | filter => "m_lk.name"
  | group => "g_lk.name"

def valueColumn : Place → String
  | filter => "m_lv.value"
  | group => "g_lv.value"

/-- Memberships with their names and values. -/
def select (p : Place) (column : String) (conditions : List Condition) : Select :=
  ⟨column, p.source, [p.nameJoin, p.valueJoin], conditions⟩

def hasName (p : Place) (key : String) : Condition :=
  ⟨.column p.nameColumn, .equal, .value key⟩

end Place

/-- The query for the value that the label set of the row at hand gives to a key. -/
def valueQuery (key : String) : Select :=
  Place.group.select Place.group.valueColumn
    [⟨.column Place.group.setColumn, .equal, .column "labeled_samples.label_set_id"⟩,
      Place.group.hasName key]

end Query

/-! ## Evaluation -/

namespace Datum

/-- Whether a pattern matches somewhere in a text; a pattern that cannot be read is an error. -/
def search : Datum → Datum → Option Datum
  | text cs, text pattern =>
    (Regex.parse? (String.ofList pattern)).map fun node => ofBool (node.isMatch (String.ofList cs))
  | x, y => strict [x, y]

/-- Whether a value is equal to one of several. -/
def isIn (x : Datum) : List Datum → Option Datum
  | [] => some (ofBool false)
  | y :: ys => do (← x.equal y).or (← x.isIn ys)

/-- Only what is true passes. -/
def passes (x : Datum) : Option Bool := do
  return (← x.truth) == some true

end Datum

namespace Query

/-- Columns with their values. -/
abbrev Row := List (String × Datum)

/-- The rows of the tables that exist. -/
abbrev Database := String → Option (List Row)

/-- The columns of a row by the name of its table. -/
def named (table : String) (row : Row) : Row :=
  row.map fun column => (table ++ "." ++ column.1, column.2)

/-- A row with each row of a table. -/
def Source.extend (s : Source) (rows : List Row) (row : Row) : List Row :=
  rows.map fun other => named s.name other ++ row

def Operand.eval (row : Row) : Operand → Option Datum
  | column name => row.lookup name
  | value text => some (.text text.toList)

def Comparison.apply : Comparison → Datum → Datum → Option Datum
  | equal => Datum.equal
  | regexp => Datum.search

def Condition.holds (row : Row) (c : Condition) : Option Bool := do
  (← c.comparison.apply (← c.left.eval row) (← c.right.eval row)).passes

def keep (c : Condition) : List Row → Option (List Row)
  | [] => some []
  | row :: rows => do
    let holds ← c.holds row
    let kept ← keep c rows
    return if holds then row :: kept else kept

/-- Each row with each row of another table, as far as the condition holds. -/
def Join.rows (db : Database) (rows : List Row) (j : Join) : Option (List Row) := do
  let others ← db j.source.table
  keep j.on (rows.flatMap (j.source.extend others))

/-- The values that a query yields, where `row` is the row around it. -/
def Select.values (db : Database) (row : Row) (s : Select) : Option (List Datum) := do
  let rows ← db s.source.table
  let joined ← s.joins.foldlM (Join.rows db) (s.source.extend rows row)
  let kept ← s.conditions.foldlM (fun rows c => keep c rows) joined
  kept.mapM fun row => row.lookup s.column

/-- The value of the first row, and null if there is none. -/
def Select.first (db : Database) (row : Row) (s : Select) : Option Datum := do
  return (← s.values db row).headD .null

def Filter.passes (db : Database) (row : Row) (f : Filter) : Option Bool := do
  let found ← (← row.lookup f.column).isIn (← f.query.values db row)
  if f.negated then (← found.not).passes else found.passes

end Query

/-- Whether the row passes the filter that a fragment stands for. -/
def passes? (db : Query.Database) (row : Query.Row) (f : Fragment) : Option Bool := do
  (← Query.readFilter (← f.tokens)).passes db row

/-! ## Step by step -/

namespace Datum

theorem passes_ofBool (b : Bool) : (ofBool b).passes = some b := by
  cases b <;> rfl

theorem not_ofBool (b : Bool) : (ofBool b).not = some (ofBool !b) := by
  cases b <;> rfl

theorem or_ofBool (b c : Bool) : (ofBool b).or (ofBool c) = some (ofBool (b || c)) := by
  cases b <;> cases c <;> rfl

/-- Among numbers there is nothing unknown. -/
theorem isIn_integers (n : Int) (ns : List Int) :
    (integer n).isIn (ns.map integer) = some (ofBool (decide (n ∈ ns))) := by
  induction ns with
  | nil => rfl
  | cons m ns ih =>
    have hequal : (integer n).equal (integer m) = some (ofBool (n == m)) := rfl
    rw [List.map_cons, isIn, hequal, ih]
    simp [or_ofBool, beq_eq_decide]

end Datum

namespace Query

variable {α β : Type}

theorem Condition.holds_of_apply {c : Condition} {row : Row} {x y : Datum} {b : Bool}
    (hleft : c.left.eval row = some x) (hright : c.right.eval row = some y)
    (h : c.comparison.apply x y = some (.ofBool b)) : c.holds row = some b := by
  rw [holds, hleft, hright]
  change (c.comparison.apply x y).bind Datum.passes = some b
  rw [h]
  exact Datum.passes_ofBool b

theorem keep_map {c : Condition} {row : α → Row} {p : α → Bool}
    (h : ∀ x, c.holds (row x) = some (p x)) (xs : List α) :
    keep c (xs.map row) = some ((xs.filter p).map row) := by
  induction xs with
  | nil => rfl
  | cons x xs ih =>
    rw [List.map_cons, keep, h, ih, List.filter_cons]
    cases p x <;> rfl

theorem Join.rows_map (j : Join) (row : α → Row) (other : β → Row) {db : Database} {ys : List β}
    {p : α × β → Bool} (htable : db j.source.table = some (ys.map other))
    (h : ∀ x, j.on.holds (named j.source.name (other x.2) ++ row x.1) = some (p x))
    (xs : List α) :
    j.rows db (xs.map row) =
      some (((xs.product ys).filter p).map fun x =>
        named j.source.name (other x.2) ++ row x.1) := by
  have hcross : (xs.map row).flatMap (j.source.extend (ys.map other)) =
      (xs.product ys).map fun x => named j.source.name (other x.2) ++ row x.1 := by
    simp [Source.extend, List.product, List.flatMap_map, List.map_flatMap, Function.comp_def]
  rw [Join.rows, htable]
  change keep j.on ((xs.map row).flatMap (j.source.extend (ys.map other))) = _
  rw [hcross, keep_map h]

/-- The columns that are selected from joined rows. -/
theorem mapM_lookup_map {row : α → Row} {name : String} {value : α → Datum}
    (h : ∀ x, (row x).lookup name = some (value x)) (xs : List α) :
    ((xs.map row).mapM fun r => r.lookup name) = some (xs.map value) := by
  rw [List.mapM_map]
  have hvalue : (fun r : Row => r.lookup name) ∘ row = fun x => pure (value x) := funext h
  rw [hvalue, List.mapM_pure]
  rfl

end Query

end SeriesSql.Labels
