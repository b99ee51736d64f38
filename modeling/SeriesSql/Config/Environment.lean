import SeriesSql.Config.Toml.Text
import SeriesSql.Config.Value
import SeriesSql.Decimal.Numeral
import SeriesSql.Text.Blank

/-!
# Configuration from the environment

A variable whose name starts with `METRICSQL__` sets the value at the path given by the rest of its
name, in small letters and split at double underscores.  Its value is a truth value, an integer, a
list between brackets, a table between braces, a text between quotes, or else the text itself.
-/

namespace SeriesSql.Config.Environment

/-! ## Values -/

def isAsciiBlank (c : Char) : Bool :=
  c == ' ' || c == '\t' || c == '\n' || c == '\r' || c == '\x0c'

def skipAsciiBlanks (cs : List Char) : List Char :=
  cs.dropWhile isAsciiBlank

def isSeparator (c : Char) : Bool :=
  c == ',' || c == '\x7b' || c == '\x7d' || c == '[' || c == ']'

/-- An integer that fits in 64 bits, with a sign or without. -/
def integer? (cs : List Char) : Option Int :=
  let (negative, digits) :=
    match cs with
    | '-' :: rest => (true, rest)
    | '+' :: rest => (false, rest)
    | _ => (false, cs)
  let n := Decimal.digitsValue digits
  if digits.isEmpty || !digits.all Char.isDigit then none
  else if negative then (if n ≤ 9223372036854775808 then some (-n) else none)
  else if n < 18446744073709551616 then some n
  else none

def wordValue (cs : List Char) : Value :=
  match integer? cs with
  | some n => .integer n
  | none => .text (String.ofList cs)

/-- A key is a word or a text between quotes. -/
def readKey (fuel : Nat) (cs : List Char) : Option (String × List Char) :=
  match cs with
  | '"' :: rest => do
    let (key, rest) ← Toml.readBasic fuel rest
    some (String.ofList key, rest)
  | _ =>
    let key := cs.takeWhile Toml.isBareChar
    if key.isEmpty then none else some (String.ofList key, cs.dropWhile Toml.isBareChar)

mutual

/-- A value with the blanks around it. -/
def readValue : (fuel : Nat) → List Char → Option (Value × List Char)
  | 0, _ => none
  | fuel + 1, cs => do
    let (value, rest) ←
      match skipAsciiBlanks cs with
      | 't' :: 'r' :: 'u' :: 'e' :: rest => some (.bool true, rest)
      | 'f' :: 'a' :: 'l' :: 's' :: 'e' :: rest => some (.bool false, rest)
      | '[' :: rest => do
        let (items, rest) ← readItems fuel rest
        some (.list items, rest)
      | '\x7b' :: rest => do
        let (entries, rest) ← readPairs fuel [] rest
        some (.table entries, rest)
      | '"' :: rest => do
        let (text, rest) ← Toml.readBasic fuel rest
        some (.text (String.ofList text), rest)
      | '\'' :: c :: '\'' :: rest => some (.text (String.ofList [c]), rest)
      | '\'' :: _ => none
      | rest =>
        let word := rest.takeWhile fun c => !isSeparator c
        some (wordValue (Text.trimChars word), rest.dropWhile fun c => !isSeparator c)
    some (value, skipAsciiBlanks rest)

/-- The items of a list up to its end; a comma may follow the last one. -/
def readItems : (fuel : Nat) → List Char → Option (List Value × List Char)
  | 0, _ => none
  | _ + 1, ']' :: rest => some ([], rest)
  | fuel + 1, cs => do
    let (item, rest) ← readValue fuel cs
    match rest with
    | ',' :: rest =>
      let (items, rest) ← readItems fuel rest
      some (item :: items, rest)
    | ']' :: rest => some ([item], rest)
    | _ => none

/-- The pairs of a table up to its end, added to those before; the last of a key counts. -/
def readPairs : (fuel : Nat) → List (String × Value) → List Char →
    Option (List (String × Value) × List Char)
  | 0, _, _ => none
  | _ + 1, entries, '\x7d' :: rest => some (entries, rest)
  | fuel + 1, entries, cs => do
    let (key, rest) ← readKey fuel (skipAsciiBlanks cs)
    match skipAsciiBlanks rest with
    | '=' :: rest =>
      let (value, rest) ← readValue fuel rest
      let entries := Value.insert entries key value
      match rest with
      | ',' :: rest => readPairs fuel entries rest
      | '\x7d' :: rest => some (entries, rest)
      | _ => none
    | _ => none

end

/-- The value of a variable.  What cannot be read to its end is a text. -/
def parseValue (text : String) : Value :=
  let cs := Text.trimChars text.toList
  match readValue (2 * cs.length + 2) cs with
  | some (value, []) => value
  | _ => .text (String.ofList cs)

/-! ## Names -/

def namePrefix : List Char := "metricsql__".toList

/-- The parts of a name between double underscores or points. -/
def splitName (part : List Char) : List Char → List String
  | [] => [String.ofList part.reverse]
  | '_' :: '_' :: cs => String.ofList part.reverse :: splitName [] cs
  | '.' :: cs => String.ofList part.reverse :: splitName [] cs
  | c :: cs => splitName (c :: part) cs

/-- The path that a variable sets, if it is one of ours and no part of its path is empty. -/
def path? (name : String) : Option (List String) :=
  let lower := (Text.trimChars name.toList).map Char.toLower
  if namePrefix.isPrefixOf lower then
    let path := splitName [] (lower.drop namePrefix.length)
    if path.contains "" then none else some path
  else
    none

/-- What the variables set, later ones over earlier ones. -/
def toValue (vars : List (String × String)) : Value :=
  vars.foldl
    (fun value (name, text) =>
      match path? name with
      | some path => value.merge (Value.nest path (parseValue text))
      | none => value)
    .empty

end SeriesSql.Config.Environment
