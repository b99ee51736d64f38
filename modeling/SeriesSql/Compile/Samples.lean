import SeriesSql.Selector

/-!
# Samples of a selector

A selector becomes a list of common table expressions.  The first bounds the time: the latest
timestamp of all, or the two ends of the window.  The second, `labeled_samples`, has a row for every
sample of the metric inside these bounds whose label set passes all matchers, with the label set
written as a string that is sorted by key.
-/

namespace SeriesSql.Compile

open Sql

def latestTimestamp : Code :=
  Words.max ++ .parens Words.timestamp

/-- The ends of a window as `max_ts` and `min_ts`. -/
def windowBounds (window : Window) : Code :=
  w "time_window AS " ++
    .parens
      (match window.stop, window.start? with
      | some stop, some start =>
        Words.select ++ .bound (.integer stop) ++ w " AS max_ts, " ++ .bound (.integer start) ++
          w " AS min_ts"
      | _, _ =>
        Words.select ++ latestTimestamp ++ w " AS max_ts, " ++ latestTimestamp ++ .sign .minus ++
          .bound (.integer window.signedMillis) ++ w " AS min_ts FROM sample_value")

def latestBound : Code :=
  w "latest_snapshot AS " ++
    .parens (Words.select ++ latestTimestamp ++ w " AS max_ts FROM sample_value")

/-- Each filter after an `AND`. -/
def matcherFilters (mode : PatternMode) : List Matcher → Code
  | [] => Words.empty
  | m :: rest => w " AND " ++ (m.filter mode).code ++ matcherFilters mode rest

/-- The label set of a sample as `key=value` pairs, sorted by key. -/
def labelString : Code :=
  Words.coalesce ++
    .parens
      (w "GROUP_CONCAT" ++
        .parens
          (w "lk.name || " ++ .quoted "=" ++ w " || lv.value, " ++ .quoted "," ++
            w " ORDER BY lk.name") ++
        Words.comma ++ .quoted "")

def labeledSamples (mode : PatternMode) (s : Selector) : Code :=
  w "labeled_samples AS " ++
    .parens
      (w "SELECT sv.id AS sample_id, sv.timestamp AS timestamp, sv.value AS value, " ++
        w "mi.label_set_id AS label_set_id, " ++ labelString ++ Words.asLabels ++
        w " FROM sample_value sv" ++
        w " JOIN metric_instance mi ON mi.id = sv.metric_instance_id" ++
        w " JOIN sample_name sn ON sn.id = mi.sample_name_id" ++
        w " JOIN label_set ls ON ls.id = mi.label_set_id" ++
        w " LEFT JOIN label_set_membership lsm ON lsm.label_set_id = ls.id" ++
        w " LEFT JOIN label_key lk ON lk.id = lsm.label_key_id" ++
        w " LEFT JOIN label_value lv ON lv.id = lsm.label_value_id" ++
        (if s.window.isSome then w " CROSS JOIN time_window"
          else w " CROSS JOIN latest_snapshot") ++
        w " WHERE sn.name = " ++ .bound (.text s.metric.text) ++
        (if s.window.isSome then
          w " AND sv.timestamp BETWEEN time_window.min_ts AND time_window.max_ts"
        else
          w " AND sv.timestamp = latest_snapshot.max_ts") ++
        matcherFilters mode s.matchers ++
        w " GROUP BY sv.id")

/-- The table expressions of a selector, the last of which is `labeled_samples`. -/
def sampleTables (mode : PatternMode) (s : Selector) : Code :=
  (match s.window with
    | some window => windowBounds window
    | none => latestBound) ++
    Words.comma ++ labeledSamples mode s

/-- The samples of a selector: the latest ones by label string, or all in the window by time. -/
def selector (mode : PatternMode) (s : Selector) : Code :=
  Words.withTables ++ sampleTables mode s ++
    w " SELECT timestamp, value, labels FROM labeled_samples" ++
    (if s.window.isSome then Words.byTimeAndLabels else w " ORDER BY labels")

end SeriesSql.Compile
