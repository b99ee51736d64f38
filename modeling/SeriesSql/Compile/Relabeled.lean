import SeriesSql.Labels.Edit
import SeriesSql.Options

/-!
# Label functions

A label function changes the label string of its input in stages, each of which reads the rows of
the one before.
-/

namespace SeriesSql.Compile

open Sql Labels

/-! ## Stages -/

inductive Stage where
  /-- Replaces the label string. -/
  | relabel (labels : Term)
  /-- Adds a column for the next stage. -/
  | derive (column : Column) (value : Term)
deriving Repr, DecidableEq

def Stage.columns : Stage → Code
  | relabel labels => w "timestamp, value, " ++ labels.code ++ Words.asLabels
  | derive column value =>
    w "timestamp, value, labels, " ++ value.code ++ Words.asName ++ column.code

/-- The stages of a label function and the rows it keeps. -/
structure Relabeling where
  stages : List Stage
  filter : Option Term
deriving Repr, DecidableEq

def stageName : Nat → Code
  | 0 => w "label_input"
  | n + 1 => w "label_stage_" ++ .number (n + 1)

/-- The table expressions of the stages from number `n + 1` on, and the number of the last. -/
def stageTables (n : Nat) : List Stage → Code × Nat
  | [] => (Words.empty, n)
  | stage :: rest =>
    let table :=
      Words.comma ++ stageName (n + 1) ++ Words.asName ++
        .parens (Words.select ++ stage.columns ++ w " FROM " ++ stageName n)
    let (tables, last) := stageTables (n + 1) rest
    (table ++ tables, last)

/-- What follows the input of the stages. -/
def Relabeling.rest (r : Relabeling) : Code :=
  (stageTables 0 r.stages).1 ++ w " SELECT timestamp, value, labels FROM " ++
    stageName (stageTables 0 r.stages).2 ++
    (match r.filter with
      | none => Words.empty
      | some filter => Words.keeping ++ filter.code) ++
    Words.byTimeAndLabels

def Relabeling.code (r : Relabeling) (input : Code) : Code :=
  w "WITH label_input AS " ++ .parens input ++ r.rest

/-! ## Functions -/

inductive LabelFunction where
  | set
  | del
  | keep
  | copy
  | move
  | replace
deriving Repr, DecidableEq

namespace LabelFunction

def name : LabelFunction → String
  | set => "label_set"
  | del => "label_del"
  | keep => "label_keep"
  | copy => "label_copy"
  | move => "label_move"
  | replace => "label_replace"

def ofName? : String → Option LabelFunction
  | "label_set" => some set
  | "label_del" => some del
  | "label_keep" => some keep
  | "label_copy" => some copy
  | "label_move" => some move
  | "label_replace" => some replace
  | _ => none

/-- An example call, shown when the number of arguments is wrong. -/
def usage : LabelFunction → String
  | set => "label_set(up, \"env\", \"prod\")"
  | del => "label_del(up, \"instance\", ...)"
  | keep => "label_keep(up, \"job\", ...)"
  | copy | move => "label_copy(up, \"src\", \"dst\")"
  | replace => "label_replace(up, \"dst\", \"$1\", \"src\", \"(.*)\")"

end LabelFunction

/-- A label function with its arguments after the input. -/
inductive LabelEdit where
  | set (key value : String)
  | del (keys : List String)
  | keep (keys : List String)
  | copy (source target : String)
  | move (source target : String)
  | replace (target replacement source pattern : String)
deriving Repr, DecidableEq

/-- The edit of a function with the given arguments, if their number is right. -/
def LabelFunction.edit? : LabelFunction → List String → Option LabelEdit
  | set, [key, value] => some (.set key value)
  | del, keys => some (.del keys)
  | keep, keys => some (.keep keys)
  | copy, [source, target] => some (.copy source target)
  | move, [source, target] => some (.move source target)
  | replace, [target, replacement, source, pattern] =>
    some (.replace target replacement source pattern)
  | _, _ => none

/-- Keys of a function that needs at least one. -/
def labelNames (function : LabelFunction) (keys : List String) :
    Except CompileError (List LabelName) := do
  if keys.isEmpty then
    throw (.arguments function.name .emptyNames
      (function.name ++ "(http_requests_total, \"instance\")"))
  keys.mapM fun key => LabelName.ofString key

/-- Sets `target` to the value of `source` where that is present. -/
def copyStages (source target : LabelName) : List Stage :=
  [.derive .copiedValue (.extract source),
    .relabel (.cond (.isNull (.column .copiedValue)) .labels
      (.setValue target (.column .copiedValue)))]

/-- Sets `target` where the value of `source`, empty if absent, matches the pattern as a whole. -/
def replaceStages (target source : LabelName) (pattern replacement : String) : List Stage :=
  let value := Term.column .sourceValue
  [.derive .sourceValue (.coalesce (.extract source) (.text "")),
    .relabel (.cond (.regexp value (.bound pattern))
      (.setValue target (.replace value (.bound pattern) (.bound replacement))) .labels)]

/-- Holds of the rows that carry none of the keys. -/
def noneOf (keys : List LabelName) : Term :=
  .not (.group (Term.concatAll .or (keys.map .hasKey)))

def LabelEdit.relabeling (mode : LabelMode) : LabelEdit → Except CompileError Relabeling
  | set key value => do
    let key ← LabelName.ofString key
    checkValue value
    return ⟨[.relabel (.setValue key (.bound value))], none⟩
  | del keys => do
    let keys ← labelNames .del keys
    return match mode with
      | .edit => ⟨keys.map fun key => .relabel (.removeKey key), none⟩
      | .legacy => ⟨[], some (noneOf keys)⟩
  | keep keys => do
    let keys := LabelName.sorted (← labelNames .keep keys)
    return match mode with
      | .edit => ⟨[.relabel (.keepKeys keys)], none⟩
      | .legacy => ⟨[], none⟩
  | copy source target => do
    let source ← LabelName.ofString source
    let target ← LabelName.ofString target
    return ⟨copyStages source target, none⟩
  | move source target => do
    let source ← LabelName.ofString source
    let target ← LabelName.ofString target
    return ⟨if source = target then [] else
      copyStages source target ++ [.relabel (.removeKey source)], none⟩
  | replace target replacement source pattern => do
    let target ← LabelName.ofString target
    let source ← LabelName.ofString source
    checkValue replacement
    let _ ← checkPattern pattern
    return ⟨replaceStages target source (Regex.anchored pattern) replacement, none⟩

end SeriesSql.Compile
