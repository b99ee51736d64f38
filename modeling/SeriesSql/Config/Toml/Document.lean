import SeriesSql.Config.Toml.Scalar

/-!
# TOML documents

A table can be defined once: by its header, by the dotted keys of one section, or as a value.  A
table that only stands in the path of a header is implicit, and may still get a header of its own.
-/

namespace SeriesSql.Config.Toml

/-! ## Sections -/

/-- How a table came about. -/
structure Origin where
  /-- Only as a part of a path, so far. -/
  implicit : Bool
  /-- As a part of a dotted key. -/
  dotted : Bool
deriving Repr, DecidableEq

inductive Item where
  | value (v : Value)
  | table (origin : Origin) (entries : List (String × Item))
  /-- The tables of a repeated header; the last one is first. -/
  | tables (latest : List (String × Item)) (earlier : List (List (String × Item)))

abbrev Entries := List (String × Item)

/-- The entries with the item of a key replaced, or added at the end. -/
def Entries.insert (entries : Entries) (key : String) (item : Item) : Entries :=
  match entries with
  | [] => [(key, item)]
  | (k, i) :: rest => if k = key then (k, item) :: rest else (k, i) :: Entries.insert rest key item

/-- Changes the table at a path; tables that are missing are made, and of repeated tables the last
one is taken.  Dotted keys cannot reach into a table that has its own header. -/
def Entries.update (dotted : Bool) (change : Origin → Entries → Option Entries) :
    (path : List String) → Origin → Entries → Option Entries
  | [], origin, entries => change origin entries
  | key :: path, _, entries =>
    match entries.lookup key with
    | none => do
      let inner ← Entries.update dotted change path ⟨true, dotted⟩ []
      some (entries.insert key (.table ⟨true, dotted⟩ inner))
    | some (.value _) => none
    | some (.table origin inner) =>
      if dotted && !origin.implicit then
        none
      else do
        let inner ← Entries.update dotted change path origin inner
        some (entries.insert key (.table origin inner))
    | some (.tables latest earlier) => do
      let latest ← Entries.update dotted change path ⟨false, false⟩ latest
      some (entries.insert key (.tables latest earlier))

/-- Adds a key with its value to a table, where `dotted` tells whether the key was dotted. -/
def addValue (key : String) (value : Value) (dotted : Bool) (origin : Origin) (entries : Entries) :
    Option Entries :=
  if origin.dotted = dotted ∧ (entries.lookup key).isNone then
    some (entries.insert key (.value value))
  else
    none

/-- The path and the last part of a key. -/
def splitKey (key : List String) : Option (List String × String) :=
  key.getLast?.map fun last => (key.dropLast, last)

/-- Adds a value at a key of the table under a header. -/
def addEntry (header : List String) (key : List String) (value : Value) (root : Entries) :
    Option Entries := do
  let (path, last) ← splitKey key
  let add (origin : Origin) (entries : Entries) : Option Entries :=
    Entries.update true (addValue last value (!path.isEmpty)) path origin entries
  Entries.update false add header ⟨false, false⟩ root

/-- Opens a table by its header. -/
def openTable (header : List String) (root : Entries) : Option Entries := do
  let (path, last) ← splitKey header
  let define (_ : Origin) (entries : Entries) : Option Entries :=
    match entries.lookup last with
    | none => some (entries.insert last (.table ⟨false, false⟩ []))
    | some (.table ⟨true, false⟩ inner) => some (entries.insert last (.table ⟨false, false⟩ inner))
    | some _ => none
  Entries.update false define path ⟨false, false⟩ root

/-- Opens one more table of a repeated header. -/
def openRepeated (header : List String) (root : Entries) : Option Entries := do
  let (path, last) ← splitKey header
  let define (_ : Origin) (entries : Entries) : Option Entries :=
    match entries.lookup last with
    | none => some (entries.insert last (.tables [] []))
    | some (.tables latest earlier) => some (entries.insert last (.tables [] (latest :: earlier)))
    | some _ => none
  Entries.update false define path ⟨false, false⟩ root

mutual

def Item.toValue : Item → Value
  | .value v => v
  | .table _ entries => .table (entriesValue entries)
  | .tables latest earlier => .list (tablesValue [.table (entriesValue latest)] earlier)

def entriesValue : List (String × Item) → List (String × Value)
  | [] => []
  | (key, item) :: rest => (key, item.toValue) :: entriesValue rest

/-- The tables of a repeated header in their order, before those in `later`. -/
def tablesValue (later : List Value) : List (List (String × Item)) → List Value
  | [] => later
  | entries :: earlier => tablesValue (.table (entriesValue entries) :: later) earlier

end

/-! ## Values -/

mutual

/-- A value; `depth` more lists and tables may be opened inside each other. -/
def readValue : (fuel : Nat) → (depth : Nat) → List Char → Option (Value × List Char)
  | 0, _, _ => none
  | fuel + 1, depth, cs =>
    match cs with
    | '[' :: cs =>
      match depth with
      | 0 => none
      | depth + 1 => do
        let (items, rest) ← readItems fuel depth (skipTrivia fuel cs)
        some (.list items, rest)
    | '\x7b' :: cs =>
      match depth with
      | 0 => none
      | depth + 1 => do
        let (entries, rest) ←
          match skipSpaces cs with
          | '\x7d' :: rest => some ([], rest)
          | cs => readPairs fuel depth [] cs
        some (.table (entriesValue entries), rest)
    | '"' :: _ | '\'' :: _ => do
      let (text, rest) ← readString fuel cs
      some (.text (String.ofList text), rest)
    | _ => readScalar cs

/-- The items of a list up to its end; a comma may follow the last one. -/
def readItems : (fuel : Nat) → (depth : Nat) → List Char → Option (List Value × List Char)
  | 0, _, _ => none
  | _ + 1, _, ']' :: rest => some ([], rest)
  | fuel + 1, depth, cs => do
    let (item, rest) ← readValue fuel depth cs
    match skipTrivia fuel rest with
    | ']' :: rest => some ([item], rest)
    | ',' :: rest =>
      let (items, rest) ← readItems fuel depth (skipTrivia fuel rest)
      some (item :: items, rest)
    | _ => none

/-- The pairs of a table on one line up to its end. -/
def readPairs : (fuel : Nat) → (depth : Nat) → Entries → List Char → Option (Entries × List Char)
  | 0, _, _, _ => none
  | fuel + 1, depth, entries, cs => do
    let (key, rest) ← readKey fuel cs
    let (value, rest) ← readValue fuel depth (skipSpaces (← expect? '=' rest))
    let entries ← addEntry [] key value entries
    match skipSpaces rest with
    | '\x7d' :: rest => some (entries, rest)
    | ',' :: rest => readPairs fuel depth entries rest
    | _ => none

end

/-! ## Documents -/

/-- The rest of a header after its opening brackets. -/
def readHeader (fuel : Nat) (closing : List Char) (cs : List Char) :
    Option (List String × List Char) := do
  let (key, rest) ← readKey fuel cs
  let rest ← closing.foldlM (fun rest c => expect? c rest) rest
  some (key, ← lineEnd? rest)

/-- The entries of a document that has been read up to some place under `header`. -/
def readDocument : (fuel : Nat) → (header : List String) → Entries → List Char → Option Entries
  | 0, _, _, _ => none
  | fuel + 1, header, root, cs =>
    match skipSpaces cs with
    | [] => some root
    | '#' :: rest => do readDocument fuel header root (← lineEnd? ('#' :: rest))
    | '[' :: '[' :: rest => do
      let (header, rest) ← readHeader fuel [']', ']'] rest
      readDocument fuel header (← openRepeated header root) rest
    | '[' :: rest => do
      let (header, rest) ← readHeader fuel [']'] rest
      readDocument fuel header (← openTable header root) rest
    | c :: rest =>
      match newline? (c :: rest) with
      | some rest => readDocument fuel header root rest
      | none => do
        let (key, rest) ← readKey fuel (c :: rest)
        let (value, rest) ←
          readValue fuel (nestingLimit - 1) (skipSpaces (← expect? '=' rest))
        readDocument fuel header (← addEntry header key value root) (← lineEnd? rest)

/-- A byte order mark may come first. -/
def skipMark : List Char → List Char
  | c :: cs => if c.toNat = 0xfeff then cs else c :: cs
  | [] => []

/-- The table of a document.  A list or table that is opened takes two steps and one character, and
all other steps take a character each. -/
def parse? (text : String) : Option Value := do
  let cs := skipMark text.toList
  let entries ← readDocument (4 * cs.length + 4) [] [] cs
  some (.table (entriesValue entries))

end SeriesSql.Config.Toml
