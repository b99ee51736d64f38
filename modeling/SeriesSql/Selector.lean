import SeriesSql.Matcher
import SeriesSql.Window

/-!
# Selectors

A metric name with label matchers and possibly a time window.
-/

namespace SeriesSql

structure Selector where
  metric : MetricName
  matchers : List Matcher
  window : Option Window
deriving DecidableEq

def Selector.text (s : Selector) : String :=
  s.metric.text ++
    (if s.matchers.isEmpty then ""
      else "\x7b" ++ String.intercalate ", " (s.matchers.map Matcher.text) ++ "\x7d") ++
    ((s.window.map Window.text).getD "")

end SeriesSql
