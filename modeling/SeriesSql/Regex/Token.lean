import SeriesSql.Regex.Node

/-!
# Tokens of a regular expression

Reading an expression from left to right gives single-character sets and conditions, repetition
operators, bars and the opening and closing of groups.  How a character is read depends on the flags
that are in force at that place, so the flags are an argument; `none` means that the text is not the
start of a token.
-/

namespace SeriesSql.Regex

/-- The flags that can be switched inside an expression. -/
structure Flags where
  ignoreCase : Bool
  multiLine : Bool
  dotAll : Bool
  verbose : Bool
  /-- A carriage return ends a line too, alone or before a line feed. -/
  crlf : Bool
deriving Repr, DecidableEq

namespace Flags

def none : Flags := ⟨false, false, false, false, false⟩

/-- `U` swaps which match is preferred and `u` asks for what is always done; neither changes what is
matched.  To switch `u` off would be to match bytes, which is left out. -/
def set? (f : Flags) (flag : Char) (on : Bool) : Option Flags :=
  match flag with
  | 'i' => some { f with ignoreCase := on }
  | 'm' => some { f with multiLine := on }
  | 's' => some { f with dotAll := on }
  | 'x' => some { f with verbose := on }
  | 'R' => some { f with crlf := on }
  | 'U' => some f
  | 'u' => if on then some f else Option.none
  | _ => Option.none

end Flags

/-- Drops blank characters and comments; `comment` tells whether a comment is open. -/
def dropBlank : (comment : Bool) → List Char → List Char
  | _, [] => []
  | true, c :: cs => dropBlank (c != '\n') cs
  | false, c :: cs =>
    if Text.isBlank c then dropBlank false cs
    else if c == '#' then dropBlank true cs
    else c :: cs

/-- What is left of `cs` after what the flags ignore. -/
def Flags.skip (f : Flags) (cs : List Char) : List Char :=
  if f.verbose then dropBlank false cs else cs

/-! ## Escapes -/

inductive Escape where
  | literal (c : Char)
  | set (s : CharSet)
  | look (l : Look)

def hexDigit? (c : Char) : Option Nat :=
  if c.isDigit then some (c.toNat - '0'.toNat)
  else if 'a' ≤ c && c ≤ 'f' then some (c.toNat - 'a'.toNat + 10)
  else if 'A' ≤ c && c ≤ 'F' then some (c.toNat - 'A'.toNat + 10)
  else none

def charOfCode? (n : Nat) : Option Char :=
  if n < 0xd800 || (0xdfff < n && n < 0x110000) then some (Char.ofNat n) else none

/-- Exactly `count` hexadecimal digits. -/
def fixedHex (f : Flags) : (count value : Nat) → List Char → Option (Nat × List Char)
  | 0, value, cs => some (value, cs)
  | _ + 1, _, [] => none
  | count + 1, value, c :: cs => do
    fixedHex f count (value * 16 + (← hexDigit? c)) (f.skip cs)

/-- Hexadecimal digits up to a closing brace; `digits` counts those before. -/
def bracedHex (f : Flags) : (fuel digits value : Nat) → List Char → Option (Nat × List Char)
  | 0, _, _, _ => none
  | fuel + 1, digits, value, cs =>
    match f.skip cs with
    | [] => none
    | '\x7d' :: rest => if digits = 0 then none else some (value, f.skip rest)
    | c :: rest => do bracedHex f fuel (digits + 1) (value * 16 + (← hexDigit? c)) rest

/-- The character code after `\x`, `\u` or `\U`: braced, or with `count` digits. -/
def hexEscape (f : Flags) (count : Nat) (cs : List Char) : Option (Escape × List Char) := do
  let (code, rest) ←
    match f.skip cs with
    | '\x7b' :: rest => bracedHex f (rest.length + 1) 0 0 rest
    | rest => fixedHex f count 0 rest
  return (.literal (← charOfCode? code), rest)

/-- The letters and hyphens of a braced word condition, up to its closing brace. -/
def lookName (f : Flags) : (fuel : Nat) → List Char → Option (List Char × List Char)
  | 0, _ => none
  | fuel + 1, cs =>
    match cs with
    | [] => none
    | '\x7d' :: rest => some ([], rest)
    | c :: rest =>
      if c.isAlpha || c == '-' then do
        let (name, rest) ← lookName f fuel (f.skip rest)
        return (c :: name, rest)
      else
        none

/-- `\b`, possibly followed by a braced name such as `start`. -/
def wordEdge (f : Flags) (cs : List Char) : Option (Escape × List Char) :=
  match cs with
  | '\x7b' :: rest =>
    match f.skip rest with
    | [] => none
    | c :: named =>
      if c.isAlpha || c == '-' then do
        let (name, rest) ← lookName f (named.length + 2) (c :: named)
        match String.ofList name with
        | "start" => some (.look .wordStart, rest)
        | "end" => some (.look .wordStop, rest)
        | "start-half" => some (.look .wordStartHalf, rest)
        | "end-half" => some (.look .wordStopHalf, rest)
        | _ => none
      else
        some (.look .wordEdge, cs)
  | _ => some (.look .wordEdge, cs)

/-- Characters that stand for themselves after a backslash: all of ASCII but letters, digits and
angle brackets. -/
def isEscapable (c : Char) : Bool :=
  c.toNat < 0x80 && !c.isAlphanum && c != '<' && c != '>'

/-- The text after a backslash.  Classes by a property, after `p` or `P`, are left out. -/
def readEscape (f : Flags) : List Char → Option (Escape × List Char)
  | [] => none
  | c :: cs =>
    match c with
    | 'x' => hexEscape f 2 cs
    | 'u' => hexEscape f 4 cs
    | 'U' => hexEscape f 8 cs
    | 'd' => some (.set .digit, cs)
    | 'D' => some (.set (.compl .digit), cs)
    | 's' => some (.set .space, cs)
    | 'S' => some (.set (.compl .space), cs)
    | 'w' => some (.set .word, cs)
    | 'W' => some (.set (.compl .word), cs)
    | 'a' => some (.literal '\x07', cs)
    | 'f' => some (.literal '\x0c', cs)
    | 't' => some (.literal '\t', cs)
    | 'n' => some (.literal '\n', cs)
    | 'r' => some (.literal '\r', cs)
    | 'v' => some (.literal '\x0b', cs)
    | 'A' => some (.look .textStart, cs)
    | 'z' => some (.look .textStop, cs)
    | 'b' => wordEdge f cs
    | 'B' => some (.look .notWordEdge, cs)
    | '<' => some (.look .wordStart, cs)
    | '>' => some (.look .wordStop, cs)
    | c => if isEscapable c then some (.literal c, cs) else none

/-! ## Classes -/

def Flags.foldSet (f : Flags) (s : CharSet) : CharSet :=
  if f.ignoreCase then .anyCase s else s

/-- `[:name:]` or `[:^name:]`, after the opening bracket.  Case is ignored before the class is
negated. -/
def asciiClass? (f : Flags) (cs : List Char) : Option (CharSet × List Char) :=
  match cs with
  | ':' :: cs =>
    let (negated, cs) :=
      match cs with
      | '^' :: cs => (true, cs)
      | cs => (false, cs)
    let name := cs.takeWhile (· != ':')
    match cs.dropWhile (· != ':') with
    | ':' :: ']' :: rest =>
      (AsciiClass.ofName? (String.ofList name)).map fun k =>
        let s := f.foldSet (.ascii k)
        (if negated then .compl s else s, rest)
    | _ => none
  | _ => none

/-- One end of a range, or a set on its own. -/
def classItem (f : Flags) : List Char → Option (Escape × List Char)
  | [] => none
  | '\\' :: cs => readEscape f cs
  | c :: cs => some (.literal c, cs)

def Escape.set? : Escape → Option CharSet
  | literal c => some (.single c)
  | set s => some s
  | look _ => none

def Escape.char? : Escape → Option Char
  | literal c => some c
  | _ => none

/-- A single character, an escaped set or a range.  A hyphen before the closing bracket or before
another hyphen does not make a range. -/
def classRange (f : Flags) (cs : List Char) : Option (CharSet × List Char) := do
  let (first, rest) ← classItem f cs
  let alone : Option (CharSet × List Char) := first.set?.map fun s => (s, f.skip rest)
  match f.skip rest with
  | [] => none
  | '-' :: more =>
    match f.skip more with
    | [] => none
    | ']' :: _ | '-' :: _ => alone
    | more =>
      let (last, rest) ← classItem f more
      let lo ← first.char?
      let hi ← last.char?
      if lo ≤ hi then some (.range lo hi, rest) else none
  | _ => alone

/-- Operators between the parts of a class. -/
inductive ClassOperator where
  | inter
  | diff
  | symmDiff

def ClassOperator.apply (f : Flags) (op : ClassOperator) (s t : CharSet) : CharSet :=
  let s := f.foldSet s
  let t := f.foldSet t
  match op with
  | inter => .inter s t
  | diff => s.diff t
  | symmDiff => s.symmDiff t

/-- The operator that waits for its right side, with its left side. -/
abbrev PendingClass := Option (ClassOperator × CharSet)

def PendingClass.apply (f : Flags) (pending : PendingClass) (s : CharSet) : CharSet :=
  match pending with
  | none => s
  | some (op, left) => op.apply f left s

/-- Hyphens at the start of a class stand for themselves. -/
def leadingHyphens (f : Flags) : (fuel : Nat) → CharSet → List Char → CharSet × List Char
  | 0, acc, cs => (acc, cs)
  | fuel + 1, acc, cs =>
    match cs with
    | '-' :: rest => leadingHyphens f fuel (.union acc (.single '-')) (f.skip rest)
    | _ => (acc, cs)

/-- What follows the opening bracket of a class and its possible negation, up to the parts: leading
hyphens, or a closing bracket that stands for itself. -/
def classHead (f : Flags) (cs : List Char) : Bool × CharSet × List Char :=
  let (negated, cs) :=
    match f.skip cs with
    | '^' :: rest => (true, f.skip rest)
    | cs => (false, cs)
  let (acc, rest) := leadingHyphens f cs.length .none cs
  match acc, rest with
  | .none, ']' :: rest => (negated, .single ']', rest)
  | acc, rest => (negated, acc, rest)

mutual

/-- A class after its opening bracket, up to and with its closing bracket. -/
def readClass (f : Flags) : (fuel : Nat) → List Char → Option (CharSet × List Char)
  | 0, _ => none
  | fuel + 1, cs => do
    let (negated, acc, cs) := classHead f cs
    let (s, rest) ← classParts f fuel none acc cs
    let s := f.foldSet s
    return (if negated then .compl s else s, rest)

/-- The parts of a class up to and with its closing bracket; `acc` is the union of those since the
last operator. -/
def classParts (f : Flags) :
    (fuel : Nat) → PendingClass → CharSet → List Char → Option (CharSet × List Char)
  | 0, _, _, _ => none
  | fuel + 1, pending, acc, cs =>
    match f.skip cs with
    | [] => none
    | ']' :: rest => some (pending.apply f acc, rest)
    | '[' :: rest =>
      match asciiClass? f rest with
      | some (s, rest) => classParts f fuel pending (.union acc s) rest
      | none => do
        let (s, rest) ← readClass f fuel rest
        classParts f fuel pending (.union acc s) rest
    | '&' :: '&' :: rest => classParts f fuel (some (.inter, pending.apply f acc)) .none rest
    | '-' :: '-' :: rest => classParts f fuel (some (.diff, pending.apply f acc)) .none rest
    | '~' :: '~' :: rest => classParts f fuel (some (.symmDiff, pending.apply f acc)) .none rest
    | cs => do
      let (s, rest) ← classRange f cs
      classParts f fuel pending (.union acc s) rest

end

/-! ## Repetition -/

/-- A question mark after a repetition operator changes only which match is preferred. -/
def dropLazy : List Char → List Char
  | '?' :: rest => rest
  | cs => cs

/-- The digits at the start of `cs`, with what the flags ignore after each. -/
def repeatDigits (f : Flags) : (fuel : Nat) → List Char → List Char × List Char
  | 0, cs => ([], cs)
  | fuel + 1, cs =>
    match cs with
    | c :: rest =>
      if c.isDigit then
        let (digits, rest) := repeatDigits f fuel (f.skip rest)
        (c :: digits, rest)
      else
        ([], cs)
    | [] => ([], [])

def digitsValue (digits : List Char) : Nat :=
  digits.foldl (fun n c => n * 10 + (c.toNat - '0'.toNat)) 0

/-- A count of at most 32 bits between blanks; no digits give no count. -/
def repeatCount (f : Flags) (cs : List Char) : Option (Option Nat × List Char) :=
  let (digits, rest) := repeatDigits f cs.length (cs.dropWhile Text.isBlank)
  let rest := f.skip (rest.dropWhile Text.isBlank)
  if digits.isEmpty then some (none, rest)
  else if digitsValue digits < 4294967296 then some (some (digitsValue digits), rest)
  else none

/-- The bounds after an opening brace, up to and with the closing brace. -/
def repeatBounds (f : Flags) (cs : List Char) : Option ((Nat × Option Nat) × List Char) := do
  let (least, rest) ← repeatCount f (f.skip cs)
  let least ← least
  let (most, rest) ←
    match rest with
    | ',' :: rest =>
      match f.skip rest with
      | '\x7d' :: _ => some (none, f.skip rest)
      | rest => do
        let (most, rest) ← repeatCount f rest
        let most ← most
        if least ≤ most then some (some most, rest) else none
    | rest => some (some least, rest)
  match rest with
  | '\x7d' :: rest => some ((least, most), dropLazy (f.skip rest))
  | _ => none

/-! ## Groups -/

/-- Flags up to a colon or closing parenthesis, which is returned; `seen` lists those before. -/
def readFlags (f : Flags) (seen : List Char) (negated dangling : Bool) :
    List Char → Option (Flags × Char × List Char)
  | [] => none
  | c :: cs =>
    if c == ':' || c == ')' then
      if dangling || (c == ')' && seen.isEmpty) then none else some (f, c, cs)
    else if c == '-' then
      if negated then none else readFlags f seen true true cs
    else if seen.contains c then
      none
    else do
      readFlags (← f.set? c (!negated)) (c :: seen) negated false cs

def isNameStart (c : Char) : Bool :=
  c == '_' || Text.isLetter c

def isNameChar (c : Char) : Bool :=
  isNameStart c || Text.isNumber c || c == '.' || c == '[' || c == ']'

/-- The name of a group up to and with its closing angle bracket. -/
def groupName (cs : List Char) : Option (String × List Char) :=
  let name := cs.takeWhile (· != '>')
  match name, cs.dropWhile (· != '>') with
  | first :: more, '>' :: rest =>
    if isNameStart first && more.all isNameChar then some (String.ofList name, rest) else none
  | _, _ => none

inductive Token where
  | item (node : Node)
  | repetition (least : Nat) (most : Option Nat)
  | bar
  | openGroup (inner : Flags) (name : Option String)
  | setFlags (flags : Flags)
  | closeGroup
deriving Repr

/-- What follows an opening parenthesis.  Look-around is not supported. -/
def readGroup (f : Flags) (cs : List Char) : Option (Token × List Char) :=
  match f.skip cs with
  | '?' :: '=' :: _ | '?' :: '!' :: _ | '?' :: '<' :: '=' :: _ | '?' :: '<' :: '!' :: _ => none
  | '?' :: 'P' :: '<' :: rest | '?' :: '<' :: rest =>
    (groupName rest).map fun (name, rest) => (.openGroup f (some name), rest)
  | '?' :: rest => do
    let (flags, stop, rest) ← readFlags f [] false false rest
    return (if stop == ')' then .setFlags flags else .openGroup flags none, rest)
  | rest => some (.openGroup f none, rest)

/-! ## Tokens -/

def Flags.literal (f : Flags) (c : Char) : Node :=
  .one (f.foldSet (.single c))

/-- The set that a dot stands for. -/
def Flags.dot (f : Flags) : CharSet :=
  if f.dotAll then .any else if f.crlf then .notLineBreak else .notLineFeed

/-- The condition that `^` stands for. -/
def Flags.caret (f : Flags) : Look :=
  if !f.multiLine then .textStart else if f.crlf then .breakStart else .lineStart

/-- The condition that `$` stands for. -/
def Flags.dollar (f : Flags) : Look :=
  if !f.multiLine then .textStop else if f.crlf then .breakStop else .lineStop

def Escape.node (f : Flags) : Escape → Node
  | literal c => f.literal c
  | set s => .one s
  | look l => .look l

/-- The first token of `cs`, which starts with nothing that the flags ignore. -/
def readToken (f : Flags) : List Char → Option (Token × List Char)
  | [] => none
  | c :: cs =>
    match c with
    | '(' => readGroup f cs
    | ')' => some (.closeGroup, cs)
    | '|' => some (.bar, cs)
    | '[' => (readClass f (cs.length + 1) cs).map fun (s, rest) => (.item (.one s), rest)
    | '?' => some (.repetition 0 (some 1), dropLazy cs)
    | '*' => some (.repetition 0 none, dropLazy cs)
    | '+' => some (.repetition 1 none, dropLazy cs)
    | '\x7b' => (repeatBounds f cs).map fun ((least, most), rest) => (.repetition least most, rest)
    | '\\' => (readEscape f cs).map fun (e, rest) => (.item (e.node f), rest)
    | '.' => some (.item (.one f.dot), cs)
    | '^' => some (.item (.look f.caret), cs)
    | '$' => some (.item (.look f.dollar), cs)
    | c => some (.item (f.literal c), cs)

end SeriesSql.Regex
