import SeriesSql.Compile.Grouped
import SeriesSql.Compile.Joined
import SeriesSql.Compile.Relabeled
import SeriesSql.Compile.Rollup
import SeriesSql.Expr

/-!
# Compilation of expressions

Every expression compiles to code that yields a scalar or a vector; operands become table
expressions of the code around them.  Parentheses leave no trace.
-/

namespace SeriesSql

open Sql Compile

namespace Expr

/-- The value of an argument that must be a text. -/
def textArg (function : String) (arg : Expr) : Except CompileError String :=
  match arg.stripParens with
  | .text value => .ok value
  | other =>
    .error (.arguments function (.notText other.render)
      (function ++ "(http_requests_total, \"label\", ...)"))

/-! ## Rollups -/

/-- The quantile and the target among the arguments of a rollup. -/
def rollupArgs (rollup : Rollup) (args : List Expr) :
    Except CompileError (Option Float × Expr) :=
  let fault (f : ArgumentFault) : Except CompileError (Option Float × Expr) :=
    .error (.arguments rollup.name f rollup.usage)
  match rollup, args with
  | .quantileOverTime, [q, target] =>
    match q.stripParens with
    | .number value => .ok (some value, target)
    | _ => fault .quantileNotLiteral
  | .quantileOverTime, _ => fault (.count 2 args.length)
  | _, [target] => .ok (none, target)
  | _, _ => fault (.count 1 args.length)

def compileRollup (mode : PatternMode) (rollup : Rollup) (args : List Expr) :
    Except CompileError Code := do
  let (quantile, target) ← rollupArgs rollup args
  match target.stripParens with
  | .selector s => return Compile.rollup mode (← RollupCall.ofParts rollup s quantile)
  | _ => throw (.arguments rollup.name .notRange rollup.usage)

/-! ## Label functions -/

/-- Checks the number of arguments, the input among them. -/
def checkArgCount (f : LabelFunction) (count : Nat) : Except CompileError Unit :=
  let exactly (n : Nat) : Except CompileError Unit :=
    if count = n then .ok () else .error (.arguments f.name (.count n count) f.usage)
  match f with
  | .set | .copy | .move => exactly 3
  | .replace => exactly 5
  | .del | .keep =>
    if count = 0 then .error (.arguments f.name .noArguments f.usage)
    else if count = 1 then .error (.arguments f.name .noNames f.usage)
    else .ok ()

/-- The code of an operand that must be a vector. -/
def vectorCode (function : String) (compiled : Compiled) : Except CompileError Code :=
  match compiled.shape with
  | .vector => .ok compiled.code
  | .scalar =>
    .error (.arguments function .scalarInput (function ++ "(http_requests_total, ...)"))

/-- A call of a label function whose first argument compiled to `input`. -/
def compileLabelCall (mode : LabelMode) (f : LabelFunction) (args : List Expr) (input : Compiled) :
    Except CompileError Code := do
  let code ← vectorCode f.name input
  let texts ← args.tail.mapM (textArg f.name)
  match f.edit? texts with
  | some edit => return (← edit.relabeling mode).code code
  | none => throw (.arguments f.name .noNames f.usage)

/-! ## Expressions -/

def scalarCode (value : Float) : Code :=
  Words.select ++ .bound (.real value) ++ Words.asValue

mutual

def compile (o : Options) : Expr → Except CompileError Compiled
  | selector s => .ok ⟨Compile.selector o.patternMode s, .vector⟩
  | call function args =>
    match Rollup.ofName? function, LabelFunction.ofName? function with
    | some rollup, _ => do return ⟨← compileRollup o.patternMode rollup args, .vector⟩
    | none, some f => do
      checkArgCount f args.length
      return ⟨← compileLabelCall o.labelMode f args (← compileInput o f args), .vector⟩
    | none, none => .error (.unknownFunction function)
  | aggregate operator grouping operand =>
    match Aggregate.ofName? operator with
    | none => .error (.unknownFunction operator)
    | some kind => do
      let a ← Aggregation.ofParts kind grouping o.canonicalGrouping
      match operand.stripParens with
      | .selector s => return ⟨← aggregateSelector o.patternMode a s, .vector⟩
      | _ =>
        let input ← vectorCode operator (← compile o operand)
        return ⟨← aggregateCode a input, .vector⟩
  | binary operator mode left right =>
    match BinaryOperator.ofSymbol? operator with
    | none => .error (.unsupported (.operator operator))
    | some op => do
      let left ← compile o left
      let right ← compile o right
      Compile.binary op mode left right
  | paren inner => compile o inner
  | number value => .ok ⟨scalarCode value, .scalar⟩
  | text value => .error (.unsupported (.textValue value))

/-- The first argument of a label function. -/
def compileInput (o : Options) (f : LabelFunction) : List Expr → Except CompileError Compiled
  | [] => .error (.arguments f.name .noArguments f.usage)
  | e :: _ => compile o e

end

/-- A scalar as a row at the latest timestamp, without labels. -/
def scalarRow (code : Code) : Code :=
  Words.select ++ .parens (Words.select ++ latestTimestamp ++ w " FROM sample_value") ++
    w " AS timestamp, value, " ++ .quoted "" ++ w " AS labels FROM " ++ .parens code

/-- The statement that yields the timestamps, values and labels of a compiled expression. -/
def rowsCode (compiled : Compiled) : Code :=
  match compiled.shape with
  | .vector => compiled.code
  | .scalar => scalarRow compiled.code

/-- The statement of an expression. -/
def statement (o : Options) (e : Expr) : Except CompileError Fragment := do
  return (rowsCode (← e.compile o)).fragment

end Expr

end SeriesSql
