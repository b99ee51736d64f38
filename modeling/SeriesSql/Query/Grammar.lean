import SeriesSql.Query.Basic
import SeriesSql.Query.Numeral
import SeriesSql.Query.Token

/-!
# Reading a query from its tokens

Binary operators are read by how tightly they bind.  A sign takes the powers after it and nothing
else; ranges, offsets and evaluation times bind tightest.  The readers take fuel, and every step
that uses up fuel without a token is followed by one that takes a token.
-/

namespace SeriesSql.Query

/-! ## Labels -/

/-- The label that a token stands for.  Most keywords are labels too. -/
def Token.label? : Token → Option String
  | name word false => some word
  | keyword .without _ => none
  | keyword _ word => some word
  | _ => none

/-- Labels with commas between them up to the closing parenthesis, possibly with a comma before
it. -/
def readLabelItems : List Token → Option (List String × List Token)
  | .closeParen :: rest => some ([], rest)
  | token :: .comma :: rest => do
    let label ← token.label?
    let (labels, rest) ← readLabelItems rest
    some (label :: labels, rest)
  | token :: .closeParen :: rest => do
    let label ← token.label?
    some ([label], rest)
  | _ => none

def readLabels : List Token → Option (List String × List Token)
  | .openParen :: rest => readLabelItems rest
  | _ => none

/-! ## Matchers -/

/-- The tests of a selector, and the alternatives if `or` stands between them. -/
structure Tests where
  tests : List LabelTest
  alternatives : List (List LabelTest)

/-- Adds a test to the last alternative. -/
def Tests.and (t : Tests) (test : LabelTest) : Tests :=
  match t.alternatives.reverse with
  | [] => { t with tests := t.tests ++ [test] }
  | last :: earlier => { t with alternatives := (((last ++ [test]) :: earlier).reverse) }

/-- Starts an alternative with a test. -/
def Tests.or (t : Tests) (test : LabelTest) : Tests :=
  match t.tests with
  | [] => { t with alternatives := t.alternatives ++ [[test]] }
  | tests => { tests := [], alternatives := t.alternatives ++ [tests, [test]] }

def readTest : List Token → Option (LabelTest × List Token)
  | .name label false :: .matcher kind :: .text value :: rest => some (⟨label, kind, value⟩, rest)
  | _ => none

/-- What comes after a test, up to the closing brace. -/
def readMoreTests : (fuel : Nat) → Tests → List Token → Option (Tests × List Token)
  | 0, _, _ => none
  | _ + 1, found, .closeBrace :: rest => some (found, rest)
  | _ + 1, found, .comma :: .closeBrace :: rest => some (found, rest)
  | fuel + 1, found, .comma :: rest => do
    let (test, rest) ← readTest rest
    readMoreTests fuel (found.and test) rest
  | fuel + 1, found, .alternative :: rest => do
    let (test, rest) ← readTest rest
    readMoreTests fuel (found.or test) rest
  | _ + 1, _, _ => none

/-- The tests after an opening brace. -/
def readTests (fuel : Nat) : List Token → Option (Tests × List Token)
  | .closeBrace :: rest => some (⟨[], []⟩, rest)
  | tokens => do
    let (test, rest) ← readTest tokens
    readMoreTests fuel ⟨[test], []⟩ rest

/-- The series of a name, whose matchers may follow. -/
def readSeries (fuel : Nat) (name : String) : List Token → Option (Query × List Token)
  | .openBrace :: rest => do
    let (t, rest) ← readTests fuel rest
    some (.selector ⟨some name, t.tests, t.alternatives, .none⟩, rest)
  | rest => some (.selector ⟨some name, [], [], .none⟩, rest)

/-- Keywords that may also be the name of a metric. -/
def Keyword.isMetric : Keyword → Bool
  | aggregator _ | offset | .by | without | start | stop => true
  | operator (.basic (.set _)) => true
  | operator _ | on | ignoring | groupLeft | groupRight | bool => false

/-! ## Ranges, offsets and evaluation times -/

/-- A duration, which may be given as a number of seconds. -/
def readSpan : List Token → Option (Nat × List Token)
  | .duration nanos :: rest => some (nanos, rest)
  | .number seconds :: rest => do some (← secondsDuration? seconds, rest)
  | _ => none

def readOffset : List Token → Option (Int × List Token)
  | .operator (.basic (.arithmetic .add)) :: rest => do
    let (nanos, rest) ← readSpan rest
    some (nanos, rest)
  | .operator (.basic (.arithmetic .sub)) :: rest => do
    let (nanos, rest) ← readSpan rest
    some (-nanos, rest)
  | rest => do
    let (nanos, rest) ← readSpan rest
    some (nanos, rest)

def readSeconds : List Token → Option (Float × List Token)
  | .number seconds :: rest => some (seconds, rest)
  | .duration nanos :: rest => some (durationSeconds nanos, rest)
  | _ => none

/-- The greatest finite double. -/
def greatestDouble : Float := Float.ofBits 0x7fefffffffffffff

/-- An evaluation time strictly between the least and the greatest finite double. -/
def evalTime? (seconds : Float) : Option EvalTime :=
  if decide (-greatestDouble < seconds) && decide (seconds < greatestDouble) then
    some (.seconds seconds)
  else
    none

def readEvalTime : List Token → Option (EvalTime × List Token)
  | .keyword .start _ :: .openParen :: .closeParen :: rest => some (.start, rest)
  | .keyword .stop _ :: .openParen :: .closeParen :: rest => some (.stop, rest)
  | .operator (.basic (.arithmetic .add)) :: rest => do
    let (seconds, rest) ← readSeconds rest
    some (← evalTime? seconds, rest)
  | .operator (.basic (.arithmetic .sub)) :: rest => do
    let (seconds, rest) ← readSeconds rest
    some (← evalTime? (-seconds), rest)
  | rest => do
    let (seconds, rest) ← readSeconds rest
    some (← evalTime? seconds, rest)

/-- Sets what is not set yet. -/
def Shift.withOffset? (s : Shift) (offset : Int) : Option Shift :=
  match s.offset with
  | Option.none => some { s with offset := some offset }
  | some _ => Option.none

@[inherit_doc Shift.withOffset?]
def Shift.withTime? (s : Shift) (time : EvalTime) : Option Shift :=
  match s.time with
  | Option.none => some { s with time := some time }
  | some _ => Option.none

/-- Moves the time of a selector, range or subquery. -/
def shifted? (change : Shift → Option Shift) : Query → Option Query
  | .selector s => do some (.selector { s with shift := ← change s.shift })
  | .range s duration => do some (.range { s with shift := ← change s.shift } duration)
  | .subquery operand duration step shift => do
    some (.subquery operand duration step (← change shift))
  | _ => none

/-- A range is taken of a selector that has no offset and no evaluation time. -/
def ranged? (duration : Nat) : Query → Option Query
  | .selector s =>
    match s.shift with
    | ⟨Option.none, Option.none⟩ => some (.range s duration)
    | _ => none
  | _ => none

/-- The ranges, subqueries, offsets and evaluation times after an operand. -/
def readSuffixes : (fuel : Nat) → Query → List Token → Option (Query × List Token)
  | 0, q, tokens => some (q, tokens)
  | fuel + 1, q, .openBracket :: rest => do
    let (duration, rest) ← readSpan rest
    match rest with
    | .closeBracket :: rest => readSuffixes fuel (← ranged? duration q) rest
    | .colon :: .closeBracket :: rest =>
      readSuffixes fuel (.subquery q duration none .none) rest
    | .colon :: rest =>
      let (step, rest) ← readSpan rest
      match rest with
      | .closeBracket :: rest => readSuffixes fuel (.subquery q duration (some step) .none) rest
      | _ => none
    | _ => none
  | fuel + 1, q, .keyword .offset _ :: rest => do
    let (offset, rest) ← readOffset rest
    readSuffixes fuel (← shifted? (·.withOffset? offset) q) rest
  | fuel + 1, q, .at :: rest => do
    let (time, rest) ← readEvalTime rest
    readSuffixes fuel (← shifted? (·.withTime? time) q) rest
  | _ + 1, q, tokens => some (q, tokens)

/-! ## Binary operators and aggregations -/

def Token.operator? : Token → Option Operator
  | operator op => some op
  | keyword (.operator op) _ => some op
  | _ => none

def readBool : List Token → Bool × List Token
  | .keyword .bool _ :: rest => (true, rest)
  | rest => (false, rest)

def readMatchLabels : List Token → Option (Option MatchLabels × List Token)
  | .keyword .on _ :: rest => do
    let (labels, rest) ← readLabels rest
    some (some (.on labels), rest)
  | .keyword .ignoring _ :: rest => do
    let (labels, rest) ← readLabels rest
    some (some (.ignoring labels), rest)
  | rest => some (none, rest)

/-- A parenthesis after the keyword always opens its labels. -/
def readGroup : List Token → Option (Option (List String) × List Token)
  | .keyword keyword _ :: rest =>
    if keyword = .groupLeft ∨ keyword = .groupRight then
      match rest with
      | .openParen :: _ => do
        let (labels, rest) ← readLabels rest
        some (some labels, rest)
      | _ => some (some [], rest)
    else
      none
  | _ => none

/-- What stands between a binary operator and its right operand. -/
def readMatching (tokens : List Token) : Option (Matching × List Token) := do
  let (bool, rest) := readBool tokens
  let (labels, rest) ← readMatchLabels rest
  match labels, readGroup rest with
  | some labels, some (group, rest) => some (⟨bool, some labels, group⟩, rest)
  | labels, _ => some (⟨bool, labels, none⟩, rest)

/-- The clause of an aggregation. -/
def readGrouping : List Token → Option (Option (GroupClause × List String) × List Token)
  | .keyword .by _ :: rest => do
    let (labels, rest) ← readLabels rest
    some (some (.by, labels), rest)
  | .keyword .without _ :: rest => do
    let (labels, rest) ← readLabels rest
    some (some (.without, labels), rest)
  | rest => some (none, rest)

/-- An aggregation has one argument, after its parameter if it takes one. -/
def aggregated? (op : Aggregator) (grouping : Option (GroupClause × List String)) :
    List Query → Option Query
  | [operand] => if op.paramType?.isSome then none else some (.aggregate op grouping none operand)
  | [param, operand] =>
    if op.paramType?.isSome then some (.aggregate op grouping (some param) operand) else none
  | _ => none

/-! ## Expressions -/

mutual

/-- An expression whose operators bind at least at `level`. -/
def readExpression : (fuel : Nat) → (level : Nat) → List Token → Option (Query × List Token)
  | 0, _, _ => none
  | fuel + 1, level, tokens => do
    let (left, rest) ← readOperand fuel tokens
    readOperations fuel level left rest

/-- The operators after a left operand. -/
def readOperations : (fuel : Nat) → (level : Nat) → Query → List Token → Option (Query × List Token)
  | 0, _, _, _ => none
  | fuel + 1, level, left, tokens =>
    match tokens with
    | [] => some (left, [])
    | token :: rest =>
      match token.operator? with
      | some op =>
        if level ≤ op.level then do
          let (matching, rest) ← readMatching rest
          let (right, rest) ← readExpression fuel op.rightLevel rest
          readOperations fuel level (.binary op matching left right) rest
        else
          some (left, tokens)
      | none => some (left, tokens)

def readOperand : (fuel : Nat) → List Token → Option (Query × List Token)
  | 0, _ => none
  | fuel + 1, tokens =>
    match tokens with
    | .operator (.basic (.arithmetic .add)) :: rest => readExpression fuel Operator.power.level rest
    | .operator (.basic (.arithmetic .sub)) :: rest => do
      let (q, rest) ← readExpression fuel Operator.power.level rest
      some (q.negated, rest)
    | .openParen :: rest => do
      let (q, rest) ← readExpression fuel 1 rest
      match rest with
      | .closeParen :: rest => readSuffixes fuel (.paren q) rest
      | _ => none
    | .number value :: rest => readSuffixes fuel (.number value) rest
    | .duration nanos :: rest => readSuffixes fuel (.number (durationSeconds nanos)) rest
    | .text value :: rest => readSuffixes fuel (.text value) rest
    | .name function false :: .openParen :: rest => do
      let (args, rest) ← readArgs fuel rest
      readSuffixes fuel (.call function args) rest
    | .name metric _ :: rest => do
      let (q, rest) ← readSeries fuel metric rest
      readSuffixes fuel q rest
    | .openBrace :: rest => do
      let (t, rest) ← readTests fuel rest
      readSuffixes fuel (.selector ⟨none, t.tests, t.alternatives, .none⟩) rest
    | .keyword (.aggregator op) _ :: .openParen :: rest => do
      let (args, rest) ← readArgs fuel rest
      let (grouping, rest) ← readGrouping rest
      readSuffixes fuel (← aggregated? op grouping args) rest
    | .keyword (.aggregator op) word :: rest => do
      let (grouping, after) ← readGrouping rest
      match grouping, after with
      | some grouping, .openParen :: rest =>
        let (args, rest) ← readArgs fuel rest
        readSuffixes fuel (← aggregated? op (some grouping) args) rest
      | some _, _ => none
      | none, _ =>
        let (q, rest) ← readSeries fuel word rest
        readSuffixes fuel q rest
    | .keyword keyword word :: rest =>
      if keyword.isMetric then do
        let (q, rest) ← readSeries fuel word rest
        readSuffixes fuel q rest
      else
        none
    | _ => none

/-- The arguments after an opening parenthesis. -/
def readArgs : (fuel : Nat) → List Token → Option (List Query × List Token)
  | 0, _ => none
  | _ + 1, .closeParen :: rest => some ([], rest)
  | fuel + 1, tokens => readMoreArgs fuel tokens

/-- At least one argument. -/
def readMoreArgs : (fuel : Nat) → List Token → Option (List Query × List Token)
  | 0, _ => none
  | fuel + 1, tokens => do
    let (arg, rest) ← readExpression fuel 1 tokens
    match rest with
    | .closeParen :: rest => some ([arg], rest)
    | .comma :: rest =>
      let (args, rest) ← readMoreArgs fuel rest
      some (arg :: args, rest)
    | _ => none

end

/-- The query of all the tokens. -/
def ofTokens? (tokens : List Token) : Option Query :=
  match readExpression (4 * tokens.length + 4) 1 tokens with
  | some (q, []) => some q
  | _ => none

end SeriesSql.Query
