import SeriesSql.Query.Numeral
import SeriesSql.Query.Token

/-!
# Reading tokens

Braces and brackets have tokens of their own: between braces stand labels, texts and the signs of
matchers, between brackets numbers, durations and a colon.
-/

namespace SeriesSql.Query

/-- Where in a query the next token stands. -/
inductive Region where
  | expression
  | braces
  | brackets
deriving Repr, DecidableEq

/-- A token, the region after it and the text after it. -/
abbrev Lexeme := Token × Region × List Char

/-! ## Blanks and comments -/

def isQueryBlank (c : Char) : Bool :=
  c == ' ' || c == '\t' || c == '\n' || c == '\r' || c == '\x0c'

/-- The text after a comment. -/
def skipComment : List Char → List Char
  | [] => []
  | c :: cs => if c == '\n' || c == '\r' then c :: cs else skipComment cs

/-- The text after blanks and, where the region has them, comments. -/
def skipBlanks (region : Region) : (fuel : Nat) → List Char → List Char
  | 0, cs => cs
  | fuel + 1, cs =>
    match cs.dropWhile isQueryBlank with
    | '#' :: rest =>
      if region = .brackets then '#' :: rest else skipBlanks region fuel (skipComment rest)
    | rest => rest

/-! ## Words -/

def isWordStart (c : Char) : Bool :=
  c.isAlpha || c == '_'

def isWordPart (c : Char) : Bool :=
  c.isAlphanum || c == '_'

/-- Words of an expression may also hold colons. -/
def readWord (cs : List Char) : Option (Token × List Char) :=
  let word := cs.takeWhile fun c => isWordPart c || c == ':'
  let rest := cs.dropWhile fun c => isWordPart c || c == ':'
  let text := String.ofList word
  match String.ofList (word.map Char.toLower) with
  | "inf" => some (.number (1.0 / 0.0), rest)
  | "nan" => some (.number (0.0 / 0.0), rest)
  | lower =>
    match Keyword.ofWord? lower with
    | some keyword => some (.keyword keyword text, rest)
    | none => some (.name text (word.contains ':'), rest)

/-- The word `or` with a blank after it stands between matchers; any other word is a label. -/
def readLabel (cs : List Char) : Token × List Char :=
  let word := cs.takeWhile isWordPart
  let rest := cs.dropWhile isWordPart
  let isOr := String.ofList (word.map Char.toLower) == "or"
  match isOr, rest with
  | true, ' ' :: _ => (.alternative, rest)
  | _, _ => (.name (String.ofList word) false, rest)

/-! ## Texts -/

/-- The characters that may follow a backslash, besides the quote of the text. -/
def isEscape (c : Char) : Bool :=
  "abfnrtv\\01234567xuU".toList.contains c

/-- The raw characters up to the closing quote, and what comes after it. -/
def readText (quote : Char) : List Char → Option (List Char × List Char)
  | [] => none
  | '\\' :: c :: cs =>
    if c == quote || isEscape c then do
      let (chars, rest) ← readText quote cs
      some ('\\' :: c :: chars, rest)
    else
      none
  | c :: cs =>
    if c == quote then
      some ([], cs)
    else do
      let (chars, rest) ← readText quote cs
      some (c :: chars, rest)

/-! ## Numbers and durations -/

/-- The characters of a numeral and what comes after it. -/
def splitNumeral (cs : List Char) : List Char × List Char :=
  let hex :=
    match cs with
    | '0' :: x :: _ => x == 'x' || x == 'X'
    | _ => false
  let isDigit (c : Char) : Bool := if hex then (hexDigit? c).isSome else c.isDigit
  let head := if hex then cs.take 2 else []
  let cs := if hex then cs.drop 2 else cs
  let whole := cs.takeWhile isDigit
  let cs := cs.dropWhile isDigit
  let (fraction, cs) :=
    match cs with
    | '.' :: rest => ('.' :: rest.takeWhile isDigit, rest.dropWhile isDigit)
    | _ => ([], cs)
  let (exponent, cs) :=
    match cs with
    | e :: rest =>
      if e == 'e' || e == 'E' then
        match rest with
        | '+' :: digits =>
          (e :: '+' :: digits.takeWhile Char.isDigit, digits.dropWhile Char.isDigit)
        | '-' :: digits =>
          (e :: '-' :: digits.takeWhile Char.isDigit, digits.dropWhile Char.isDigit)
        | digits => (e :: digits.takeWhile Char.isDigit, digits.dropWhile Char.isDigit)
      else
        ([], cs)
    | [] => ([], cs)
  (head ++ whole ++ fraction ++ exponent, cs)

/-- A number, or a duration if a letter follows its digits. -/
def readNumeral (cs : List Char) : Option (Token × List Char) := do
  let (numeral, rest) := splitNumeral cs
  match rest with
  | c :: _ =>
    if isWordPart c then
      let word := rest.takeWhile isWordPart
      some (.duration (← readDuration? (numeral ++ word)), rest.dropWhile isWordPart)
    else if c == '.' then
      none
    else
      some (.number (← readNumber? numeral), rest)
  | [] => some (.number (← readNumber? numeral), rest)

/-! ## Tokens -/

def readExpressionToken : List Char → Option Lexeme
  | '=' :: '=' :: cs => some (.operator (.basic (.comparison .equal)), .expression, cs)
  | '!' :: '=' :: cs => some (.operator (.basic (.comparison .unequal)), .expression, cs)
  | '<' :: '=' :: cs => some (.operator (.basic (.comparison .atMost)), .expression, cs)
  | '<' :: cs => some (.operator (.basic (.comparison .less)), .expression, cs)
  | '>' :: '=' :: cs => some (.operator (.basic (.comparison .atLeast)), .expression, cs)
  | '>' :: cs => some (.operator (.basic (.comparison .greater)), .expression, cs)
  | '+' :: cs => some (.operator (.basic (.arithmetic .add)), .expression, cs)
  | '-' :: cs => some (.operator (.basic (.arithmetic .sub)), .expression, cs)
  | '*' :: cs => some (.operator (.basic (.arithmetic .mul)), .expression, cs)
  | '/' :: cs => some (.operator (.basic (.arithmetic .div)), .expression, cs)
  | '%' :: cs => some (.operator (.basic (.arithmetic .mod)), .expression, cs)
  | '^' :: cs => some (.operator .power, .expression, cs)
  | '@' :: cs => some (.at, .expression, cs)
  | ',' :: cs => some (.comma, .expression, cs)
  | '(' :: cs => some (.openParen, .expression, cs)
  | ')' :: cs => some (.closeParen, .expression, cs)
  | '\x7b' :: cs => some (.openBrace, .braces, cs)
  | '[' :: cs => some (.openBracket, .brackets, cs)
  | c :: cs =>
    if c == '"' || c == '\'' || c == '\x60' then do
      let (chars, rest) ← readText c cs
      some (.text (String.ofList chars), .expression, rest)
    else if c.isDigit || c == '.' then do
      let (token, rest) ← readNumeral (c :: cs)
      some (token, .expression, rest)
    else if isWordStart c || c == ':' then do
      let (token, rest) ← readWord (c :: cs)
      some (token, .expression, rest)
    else
      none
  | [] => none

def readBraceToken : List Char → Option Lexeme
  | '\x7d' :: cs => some (.closeBrace, .expression, cs)
  | ',' :: cs => some (.comma, .braces, cs)
  | '=' :: '~' :: cs => some (.matcher .regex, .braces, cs)
  | '=' :: cs => some (.matcher .equal, .braces, cs)
  | '!' :: '=' :: cs => some (.matcher .notEqual, .braces, cs)
  | '!' :: '~' :: cs => some (.matcher .notRegex, .braces, cs)
  | c :: cs =>
    if c == '"' || c == '\'' || c == '\x60' then do
      let (chars, rest) ← readText c cs
      some (.text (String.ofList chars), .braces, rest)
    else if isWordStart c then
      let (token, rest) := readLabel (c :: cs)
      some (token, .braces, rest)
    else
      none
  | [] => none

def readBracketToken : List Char → Option Lexeme
  | ']' :: cs => some (.closeBracket, .expression, cs)
  | ':' :: cs => some (.colon, .brackets, cs)
  | c :: cs =>
    if c.isDigit then do
      let (token, rest) ← readNumeral (c :: cs)
      some (token, .brackets, rest)
    else
      none
  | [] => none

def readLexeme : Region → List Char → Option Lexeme
  | .expression => readExpressionToken
  | .braces => readBraceToken
  | .brackets => readBracketToken

/-- The tokens of `cs`.  Every token and every comment takes at least one character, so `cs.length`
is enough fuel. -/
def readTokens : (fuel : Nat) → Region → List Char → Option (List Token)
  | fuel, region, cs =>
    match skipBlanks region fuel cs with
    | [] => some []
    | rest =>
      match fuel with
      | 0 => none
      | fuel + 1 => do
        let (token, region, rest) ← readLexeme region rest
        let tokens ← readTokens fuel region rest
        some (token :: tokens)

def tokens? (query : String) : Option (List Token) :=
  readTokens query.toList.length .expression query.toList

end SeriesSql.Query
