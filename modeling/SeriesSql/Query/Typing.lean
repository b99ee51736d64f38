import SeriesSql.Query.Basic
import SeriesSql.Query.Signature

/-!
# Types of queries

A query is either a scalar, a vector, a matrix or a text, and its parts must have the types that
their place asks for.
-/

namespace SeriesSql.Query

/-! ## Series -/

/-- The label that holds the name of the metric. -/
def nameLabel : String := "__name__"

/-- The characters of a repetition after its opening brace: digits with at most one comma after
them, up to the closing brace.  What is read of something else ends with the character that shows
it. -/
def readRepetition (seen : List Char) : List Char → Bool × List Char × List Char
  | [] => (false, seen.reverse, [])
  | c :: cs =>
    if c == ',' then
      if seen.isEmpty || seen.contains ',' then (false, (c :: seen).reverse, cs)
      else readRepetition (c :: seen) cs
    else if c == '\x7d' then (!seen.isEmpty, (c :: seen).reverse, cs)
    else if c.isDigit then readRepetition (c :: seen) cs
    else (false, (c :: seen).reverse, cs)

/-- The pattern with a backslash before every brace that does not open a repetition. -/
def escapeBraces : (fuel : Nat) → List Char → List Char
  | 0, _ => []
  | _ + 1, [] => []
  | _ + 1, ['\\'] => []
  | fuel + 1, '\\' :: c :: cs => '\\' :: c :: escapeBraces fuel cs
  | fuel + 1, '\x7b' :: cs =>
    let (isRepetition, read, rest) := readRepetition [] cs
    (if isRepetition then ['\x7b'] else ['\\', '\x7b']) ++ read ++ escapeBraces fuel rest
  | fuel + 1, c :: cs => c :: escapeBraces fuel cs

/-- The expression of a pattern between line anchors, with or without escaped braces. -/
def pattern? (value : String) : Option Regex.Node :=
  let pattern := "^" ++ value ++ "$"
  (Regex.parse? pattern).or
    (Regex.parse? (String.ofList (escapeBraces (pattern.toList.length + 1) pattern.toList)))

namespace LabelTest

def isReadable (t : LabelTest) : Bool :=
  !t.kind.isRegex || (pattern? t.value).isSome

/-- Whether a series without the label passes. -/
def acceptsEmpty (t : LabelTest) : Bool :=
  let accepted :=
    if t.kind.isRegex then (pattern? t.value).any fun node => node.isMatch "" else t.value == ""
  accepted != t.kind.isNegated

end LabelTest

namespace Series

def allTests (s : Series) : List LabelTest :=
  s.tests ++ s.alternatives.flatten

/-- Patterns can be read; the name is given once; without a name some test excludes the series
without labels. -/
def isSpecific (s : Series) : Bool :=
  s.allTests.all LabelTest.isReadable &&
    match s.name with
    | some _ => s.allTests.all fun t => t.label != nameLabel
    | none => s.allTests.any fun t => !t.acceptsEmpty

end Series

/-! ## Types -/

def isOperandType (type : ValueType) : Bool :=
  type = .scalar || type = .vector

/-- What a binary operator asks of its operands' types and its modifiers. -/
def isBinaryTyped (op : Operator) (m : Matching) (left right : ValueType) : Bool :=
  let vectors := left = .vector && right = .vector
  isOperandType left && isOperandType right &&
    (!m.bool || op.isComparison) &&
    (!op.isComparison || m.bool || !(left = .scalar && right = .scalar)) &&
    (!op.isSet || (vectors && m.group.isNone)) &&
    (vectors || m.labels.all fun labels => labels.labels.isEmpty) &&
    match m.labels, m.group with
    | some (.on labels), some group => labels.all fun label => !group.contains label
    | _, _ => true

/-- Whether the arguments from the given place on have their types. -/
def hasArgTypes (s : Signature) (place : Nat) : List ValueType → Bool
  | [] => true
  | type :: rest => s.argType? place == some type && hasArgTypes s (place + 1) rest

/-- The type of a call of a function that exists and takes these arguments. -/
def callType? (function : String) (args : List Query) (types : List ValueType) :
    Option ValueType := do
  let s ← Signature.ofName? function
  let asNumber :=
    match args with
    | number value :: _ => takesNumber function value
    | _ => false
  if s.admits types.length && (asNumber || hasArgTypes s 0 types) then some s.result else none

mutual

/-- The type of a query all of whose parts have the types that are asked for. -/
def type? : Query → Option ValueType
  | selector s => if s.isSpecific then some .vector else none
  | range s _ => if s.isSpecific then some .matrix else none
  | subquery operand _ _ _ => do
    if (← operand.type?) = .vector then some .matrix else none
  | call function args => do callType? function args (← types? args)
  | aggregate op _ param operand => do
    let paramType ← paramType? param
    if (← operand.type?) = .vector ∧ paramType = op.paramType? then some .vector else none
  | binary op matching left right => do
    let left ← left.type?
    let right ← right.type?
    if isBinaryTyped op matching left right then
      some (if left = .scalar ∧ right = .scalar then .scalar else .vector)
    else
      none
  | negate operand => do
    let type ← operand.type?
    if isOperandType type then some type else none
  | paren inner => inner.type?
  | number _ => some .scalar
  | text _ => some .text
  | extension type => some type

def types? : List Query → Option (List ValueType)
  | [] => some []
  | q :: rest => do some ((← q.type?) :: (← types? rest))

/-- The type of a parameter, if there is one. -/
def paramType? : Option Query → Option (Option ValueType)
  | none => some none
  | some q => do some (some (← q.type?))

end

end SeriesSql.Query
