/-!
# Characters, strings and keys of TOML

Readers take the first characters of a text and give what they stand for together with the
characters after them.
-/

namespace SeriesSql.Config.Toml

/-! ## Blanks, comments and lines -/

def isSpace (c : Char) : Bool :=
  c == ' ' || c == '\t'

/-- Characters that may stand in comments and strings: no controls but the tab. -/
def isTextChar (c : Char) : Bool :=
  c == '\t' || (decide (' ' ≤ c) && c != '\x7f')

def skipSpaces (cs : List Char) : List Char :=
  cs.dropWhile isSpace

/-- The text after a comment, if there is one. -/
def skipComment : List Char → List Char
  | '#' :: cs => cs.dropWhile isTextChar
  | cs => cs

/-- The text after a line break. -/
def newline? : List Char → Option (List Char)
  | '\n' :: cs => some cs
  | '\r' :: '\n' :: cs => some cs
  | _ => none

/-- The text after the end of a line: spaces, possibly a comment, and a line break unless the text
ends. -/
def lineEnd? (cs : List Char) : Option (List Char) :=
  match skipComment (skipSpaces cs) with
  | [] => some []
  | rest => newline? rest

/-- The text after spaces, comments and line breaks. -/
def skipTrivia : (fuel : Nat) → List Char → List Char
  | 0, cs => cs
  | fuel + 1, cs =>
    let rest := skipComment (skipSpaces cs)
    match newline? rest with
    | some rest => skipTrivia fuel rest
    | none => rest

/-! ## Escapes -/

def hexValue? (c : Char) : Option Nat :=
  if c.isDigit then some (c.toNat - '0'.toNat)
  else if 'a' ≤ c ∧ c ≤ 'f' then some (c.toNat - 'a'.toNat + 10)
  else if 'A' ≤ c ∧ c ≤ 'F' then some (c.toNat - 'A'.toNat + 10)
  else none

/-- The character with the code given by exactly `count` hexadecimal digits. -/
def readCode (count : Nat) (cs : List Char) : Option (Char × List Char) := do
  let digits ← (cs.take count).mapM hexValue?
  let code := digits.foldl (fun value d => 16 * value + d) 0
  if digits.length = count ∧ code.isValidChar then
    some (Char.ofNat code, cs.drop count)
  else
    none

/-- The character that an escape stands for, after its backslash. -/
def readEscape : List Char → Option (Char × List Char)
  | 'b' :: cs => some ('\x08', cs)
  | 't' :: cs => some ('\t', cs)
  | 'n' :: cs => some ('\n', cs)
  | 'f' :: cs => some ('\x0c', cs)
  | 'r' :: cs => some ('\r', cs)
  | '"' :: cs => some ('"', cs)
  | '\\' :: cs => some ('\\', cs)
  | 'u' :: cs => readCode 4 cs
  | 'U' :: cs => readCode 8 cs
  | _ => none

/-! ## Strings -/

/-- A string with escapes, after its opening quote. -/
def readBasic : (fuel : Nat) → List Char → Option (List Char × List Char)
  | 0, _ => none
  | _ + 1, '"' :: cs => some ([], cs)
  | fuel + 1, '\\' :: cs => do
    let (c, cs) ← readEscape cs
    let (text, rest) ← readBasic fuel cs
    some (c :: text, rest)
  | fuel + 1, c :: cs =>
    if isTextChar c then do
      let (text, rest) ← readBasic fuel cs
      some (c :: text, rest)
    else
      none
  | _ + 1, [] => none

/-- A string without escapes, after its opening quote. -/
def readLiteral (cs : List Char) : Option (List Char × List Char) :=
  match cs.dropWhile fun c => isTextChar c && c != '\'' with
  | '\'' :: rest => some (cs.takeWhile fun c => isTextChar c && c != '\'', rest)
  | _ => none

/-- The end of a string of several lines: its three closing quotes, of which up to two more belong
to the string. -/
def closing? (quote : Char) (cs : List Char) : Option (List Char × List Char) :=
  let count := (cs.takeWhile (· == quote)).length
  if count < 3 then none
  else some (List.replicate (min count 5 - 3) quote, cs.drop (min count 5))

/-- The text after spaces and line breaks. -/
def skipBlankLines : (fuel : Nat) → List Char → List Char
  | 0, cs => cs
  | fuel + 1, cs =>
    match newline? (skipSpaces cs) with
    | some rest => skipBlankLines fuel rest
    | none => skipSpaces cs

/-- The text after the line break that a backslash takes away, and after the blanks that follow. -/
def lineContinuation? (fuel : Nat) (cs : List Char) : Option (List Char) :=
  (newline? (skipSpaces cs)).map (skipBlankLines fuel)

/-- A string of several lines, after its opening quotes.  Escapes are read when the quote is the
double one. -/
def readLines (quote : Char) : (fuel : Nat) → List Char → Option (List Char × List Char)
  | 0, _ => none
  | fuel + 1, cs =>
    match closing? quote cs with
    | some (text, rest) => some (text, rest)
    | none =>
      match newline? cs with
      | some rest => do
        let (text, rest) ← readLines quote fuel rest
        some ('\n' :: text, rest)
      | none =>
        match cs with
        | [] => none
        | c :: cs =>
          if c == '\\' && quote == '"' then
            match lineContinuation? fuel cs with
            | some rest => readLines quote fuel rest
            | none => do
              let (c, cs) ← readEscape cs
              let (text, rest) ← readLines quote fuel cs
              some (c :: text, rest)
          else if isTextChar c then do
            let (text, rest) ← readLines quote fuel cs
            some (c :: text, rest)
          else
            none

/-- A line break right after the opening quotes does not count. -/
def skipFirstNewline (cs : List Char) : List Char :=
  (newline? cs).getD cs

/-- Any string. -/
def readString (fuel : Nat) : List Char → Option (List Char × List Char)
  | '"' :: '"' :: '"' :: cs => readLines '"' fuel (skipFirstNewline cs)
  | '\'' :: '\'' :: '\'' :: cs => readLines '\'' fuel (skipFirstNewline cs)
  | '"' :: cs => readBasic fuel cs
  | '\'' :: cs => readLiteral cs
  | _ => none

/-! ## Keys -/

def isBareChar (c : Char) : Bool :=
  c.isAlphanum || c == '-' || c == '_'

def readKeyPart (fuel : Nat) : List Char → Option (List Char × List Char)
  | '"' :: cs => readBasic fuel cs
  | '\'' :: cs => readLiteral cs
  | cs =>
    let part := cs.takeWhile isBareChar
    if part.isEmpty then none else some (part, cs.dropWhile isBareChar)

/-- The parts of a key with dots between them, and spaces anywhere around them. -/
def readKeyParts : (fuel : Nat) → List Char → Option (List String × List Char)
  | 0, _ => none
  | fuel + 1, cs => do
    let (part, rest) ← readKeyPart fuel (skipSpaces cs)
    match skipSpaces rest with
    | '.' :: rest =>
      let (parts, rest) ← readKeyParts fuel rest
      some (String.ofList part :: parts, rest)
    | rest => some ([String.ofList part], rest)

/-- Keys and values nest less deep than this. -/
def nestingLimit : Nat := 80

def readKey (fuel : Nat) (cs : List Char) : Option (List String × List Char) := do
  let (key, rest) ← readKeyParts fuel cs
  if key.length < nestingLimit then some (key, rest) else none

end SeriesSql.Config.Toml
