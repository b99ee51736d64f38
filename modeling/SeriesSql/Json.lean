import SeriesSql.Decimal.Layout

/-!
# JSON documents

Values and the text that is printed for them, one item to a line.
-/

namespace SeriesSql

inductive Json where
  | bool (b : Bool)
  | integer (n : Int)
  /-- A number; what is no finite number is written as `null`. -/
  | real (x : Float)
  | text (s : String)
  | list (items : List Json)
  | object (fields : List (String × Json))

namespace Json

def escapeChar (c : Char) : List Char :=
  match c with
  | '"' => ['\\', '"']
  | '\\' => ['\\', '\\']
  | '\n' => ['\\', 'n']
  | '\r' => ['\\', 'r']
  | '\t' => ['\\', 't']
  | '\x08' => ['\\', 'b']
  | '\x0c' => ['\\', 'f']
  | c =>
    if c.toNat < 32 then
      ['\\', 'u', '0', '0', Nat.digitChar (c.toNat / 16), Nat.digitChar (c.toNat % 16)]
    else
      [c]

def quote (s : String) : String :=
  "\"" ++ String.ofList (s.toList.flatMap escapeChar) ++ "\""

def indentation (depth : Nat) : String :=
  String.ofList (List.replicate (2 * depth) ' ')

/-- Items between brackets, each on a line of its own. -/
def block (opening closing : String) (depth : Nat) (items : List String) : String :=
  if items.isEmpty then
    opening ++ closing
  else
    let lines := items.map fun item => "\n" ++ indentation (depth + 1) ++ item
    opening ++ String.intercalate "," lines ++ "\n" ++ indentation depth ++ closing

mutual

def pretty (depth : Nat) : Json → String
  | bool b => if b then "true" else "false"
  | integer n => toString n
  | real x => Decimal.Layout.json.render x
  | text s => quote s
  | list items => block "[" "]" depth (prettyItems (depth + 1) items)
  | object fields => block "\x7b" "\x7d" depth (prettyFields (depth + 1) fields)

def prettyItems (depth : Nat) : List Json → List String
  | [] => []
  | item :: rest => item.pretty depth :: prettyItems depth rest

def prettyFields (depth : Nat) : List (String × Json) → List String
  | [] => []
  | (name, value) :: rest =>
    (quote name ++ ": " ++ value.pretty depth) :: prettyFields depth rest

end

def render (j : Json) : String :=
  j.pretty 0

end Json

end SeriesSql
