import SeriesSql.Selector

/-!
# Rollup calls

A rollup function applied to a selector with a window.  The quantile belongs to
`quantile_over_time` and lies between 0 and 1.
-/

namespace SeriesSql

/-- Whether a quantile lies between 0 and 1; what is no number does not. -/
def isQuantile (q : Float) : Bool :=
  decide (0.0 ≤ q) && decide (q ≤ 1.0)

/-- What is wrong with the quantile of a rollup, if anything: `quantile_over_time` takes one, and no
other function does. -/
def Rollup.quantileFault? : Rollup → Option Float → Option Invalid
  | quantileOverTime, none => some .missingQuantile
  | quantileOverTime, some q => if isQuantile q then none else some (.quantile q)
  | rollup, some _ => some (.unexpectedQuantile rollup)
  | _, none => none

structure RollupCall where
  rollup : Rollup
  selector : Selector
  window : Window
  quantile? : Option Float
  windowed : selector.window = some window
  quantified : rollup.quantileFault? quantile? = none

/-- Checks the window before the quantile. -/
def RollupCall.ofParts (rollup : Rollup) (selector : Selector) (quantile? : Option Float) :
    Except CompileError RollupCall :=
  match windowed : selector.window with
  | none => .error (.missingWindow rollup)
  | some window =>
    match quantified : rollup.quantileFault? quantile? with
    | some cause => .error (.invalid cause)
    | none => .ok { rollup, selector, window, quantile?, windowed, quantified }

end SeriesSql
