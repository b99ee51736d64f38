import SeriesSql.Sql.Code

/-!
# Expressions over the label string

The label string of a row holds pairs `key=value` with commas between them.  The functions that read
and change it are SQL expressions built from string functions; this is their syntax, and the code
that is written for them.

Code is written without parentheses around operands.  That is right for the terms built in this
library: the operands of `concat` are never sums or comparisons, and those of sums never
comparisons.
-/

namespace SeriesSql.Labels

open Sql

/-- Columns that hold text in a row of label functions. -/
inductive Column where
  | labels
  | sourceValue
  | copiedValue
deriving Repr, DecidableEq

inductive Term where
  | null
  | int (n : Nat)
  | text (s : String)
  | column (c : Column)
  | bound (s : String)
  | concat (a b : Term)
  | plus (a b : Term)
  | minus (a b : Term)
  /-- A term between parentheses. -/
  | group (t : Term)
  /-- The position of the first occurrence of `needle`, from 1 on, and 0 if there is none. -/
  | instr (text needle : Term)
  /-- The part of a text from a position on. -/
  | suffix (text start : Term)
  /-- The given number of characters of a text from a position on. -/
  | slice (text start count : Term)
  | length (text : Term)
  /-- A text without commas at either end. -/
  | trimCommas (text : Term)
  | coalesce (a b : Term)
  /-- The value that the label set of the row gives to the key. -/
  | lookup (key : String)
  | replace (text pattern replacement : Term)
  | equal (a b : Term)
  | greater (a b : Term)
  | isNull (t : Term)
  | regexp (text pattern : Term)
  | or (a b : Term)
  | not (t : Term)
  | cond (test yes no : Term)
deriving Repr, DecidableEq

namespace Column

def code : Column → Code
  | labels => w "labels"
  | sourceValue => w "source_value"
  | copiedValue => w "copied_value"

end Column

namespace Term

def code : Term → Code
  | null => w "NULL"
  | int n => .number n
  | text s => .quoted s
  | column c => c.code
  | bound s => .bound (.text s)
  | concat a b => a.code ++ w " || " ++ b.code
  | plus a b => a.code ++ .sign .plus ++ b.code
  | minus a b => a.code ++ .sign .minus ++ b.code
  | group t => .parens t.code
  | instr t n => w "INSTR" ++ .parens (t.code ++ Words.comma ++ n.code)
  | suffix t i => w "SUBSTR" ++ .parens (t.code ++ Words.comma ++ i.code)
  | slice t i n => w "SUBSTR" ++ .parens (t.code ++ Words.comma ++ i.code ++ Words.comma ++ n.code)
  | length t => w "LENGTH" ++ .parens t.code
  | trimCommas t => w "TRIM" ++ .parens (t.code ++ Words.comma ++ .quoted ",")
  | coalesce a b => Words.coalesce ++ .parens (a.code ++ Words.comma ++ b.code)
  | lookup key =>
    .parens
      (w "SELECT g_lv.value FROM label_set_membership g_lsm" ++
        w " JOIN label_key g_lk ON g_lk.id = g_lsm.label_key_id" ++
        w " JOIN label_value g_lv ON g_lv.id = g_lsm.label_value_id" ++
        w " WHERE g_lsm.label_set_id = labeled_samples.label_set_id AND g_lk.name = " ++
        .bound (.text key) ++ w " LIMIT 1")
  | replace t p r =>
    w "regexp_replace" ++ .parens (t.code ++ Words.comma ++ p.code ++ Words.comma ++ r.code)
  | equal a b => a.code ++ .sign .equal ++ b.code
  | greater a b => a.code ++ .sign .greater ++ b.code
  | isNull t => t.code ++ w " IS NULL"
  | regexp t p => t.code ++ w " REGEXP " ++ p.code
  | or a b => a.code ++ w " OR " ++ b.code
  | not t => w "NOT " ++ t.code
  | cond test yes no =>
    Words.caseWhen ++ test.code ++ w " THEN " ++ yes.code ++ Words.otherwise ++ no.code ++ w " END"

end Term

end SeriesSql.Labels
