/-!
# Configuration values

What a configuration file or a variable of the environment can hold.  Layers of configuration are
merged: tables key by key, and anything else by taking the later value.
-/

namespace SeriesSql.Config

inductive Value where
  | bool (b : Bool)
  | integer (n : Int)
  | real (x : Float)
  | text (s : String)
  /-- A date or a time, as written. -/
  | date (s : String)
  | list (items : List Value)
  | table (entries : List (String × Value))

namespace Value

def empty : Value := table []

/-- The value of a key in a list of entries. -/
def find? (entries : List (String × Value)) (key : String) : Option Value :=
  entries.lookup key

/-- The entries with the value of a key replaced, or added at the end. -/
def insert (entries : List (String × Value)) (key : String) (value : Value) :
    List (String × Value) :=
  match entries with
  | [] => [(key, value)]
  | (k, v) :: rest => if k = key then (k, value) :: rest else (k, v) :: insert rest key value

mutual

/-- `base` with what `later` says. -/
def merge (base : Value) : Value → Value
  | table later =>
    match base with
    | table entries => table (mergeEntries entries later)
    | _ => table later
  | later => later

def mergeEntries (entries : List (String × Value)) :
    List (String × Value) → List (String × Value)
  | [] => entries
  | (key, value) :: rest =>
    let merged :=
      match find? entries key with
      | some old => merge old value
      | none => value
    mergeEntries (insert entries key merged) rest

end

/-- The value inside tables of one key each. -/
def nest (path : List String) (value : Value) : Value :=
  path.foldr (fun key inner => table [(key, inner)]) value

end Value

end SeriesSql.Config
