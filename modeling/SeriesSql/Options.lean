import SeriesSql.Matcher

/-!
# Options of compilation
-/

namespace SeriesSql

/-- What deleting and keeping labels does: edit the label string, or, as a legacy, drop the series
that carry a deleted label and keep every label. -/
inductive LabelMode where
  | edit
  | legacy
deriving Repr, DecidableEq

structure Options where
  /-- Group by the values of the named labels instead of by the whole label string. -/
  canonicalGrouping : Bool
  labelMode : LabelMode
  patternMode : PatternMode
  /-- The longest query that is read, in bytes. -/
  maxQueryBytes : Nat
deriving Repr, DecidableEq

end SeriesSql
