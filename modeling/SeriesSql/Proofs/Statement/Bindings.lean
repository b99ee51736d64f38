import SeriesSql.Proofs.Compile.Params
import SeriesSql.Proofs.Name
import SeriesSql.Proofs.Window

/-!
# The values of a statement

Values are bound by position, so a value too many or too few shifts all that follow.
`Expr.bindings` reads the whole list off an expression, without its SQL, and `params_statement` says
that a statement has exactly these values in this order.

There are three groups.

* The values of selectors, groupings and label functions.
* `Expr.bindings`, by recursion over expressions.
* The induction over derivations, with one lemma for label functions and one for groupings.
-/

namespace SeriesSql

open Sql Compile Labels

/-! ## Values of the constructs -/

/-- The length of a window up to the latest sample; the last and the first timestamp of any
other. -/
def Window.bindings (window : Window) : List Value :=
  match window.stop with
  | none => [.integer (Int64.ofNat window.millis)]
  | some stop =>
    [.integer stop, .integer (Int64.ofInt (max Int64.minValue.toInt (stop.toInt - window.millis)))]

/-- The name of a label and the text or pattern that its value is compared with. -/
def Matcher.bindings (mode : PatternMode) (m : Matcher) : List Value :=
  let operand :=
    match m.kind, mode with
    | .regex, .fullMatch | .notRegex, .fullMatch => "^(?:" ++ m.value ++ ")$"
    | _, _ => m.value
  [.text m.name.text, .text operand]

def Selector.bindings (mode : PatternMode) (s : Selector) : List Value :=
  (s.window.map Window.bindings).getD [] ++ .text s.metric.text ::
    s.matchers.flatMap (Matcher.bindings mode)

/-- Canonical groups bind each label `times` times. -/
def Grouping.bindings (canonical : Bool) (times : Nat) : Grouping → List Value
  | .by labels =>
    if canonical then labels.flatMap fun label => List.replicate times (.text label.text) else []
  | _ => []

/-- The texts that a label function binds after the values of its input. -/
def Compile.LabelFunction.bindings (mode : LabelMode) : LabelFunction → List String → List String
  | set, [k, v] => [k, k, v, k, k, v, k, k]
  | del, keys =>
    match mode with
    | .edit => keys.flatMap (List.replicate 4)
    | .legacy => keys
  | keep, keys =>
    match mode with
    | .edit => keys.dedup.mergeSort.flatMap (List.replicate 6)
    | .legacy => []
  | copy, [s, t] => List.replicate 5 s ++ List.replicate 6 t
  | move, [s, t] =>
    if s = t then [] else List.replicate 5 s ++ List.replicate 6 t ++ List.replicate 4 s
  | replace, [t, r, s, p] =>
    let p := "^(?:" ++ p ++ ")$"
    List.replicate 5 s ++ [p, t, t, p, r, t, t, p, r, t, t]
  | _, _ => []

namespace Expr

/-- The value of a number, up to parentheses. -/
def number? (e : Expr) : Option Float :=
  match e.stripParens with
  | .number x => some x
  | _ => none

/-- A selector without a window, up to parentheses. -/
def isLatest (e : Expr) : Bool :=
  match e.stripParens with
  | .selector s => s.window.isNone
  | _ => false

theorem isLatest_eq_false {e : Expr} (h : ∀ s, e.stripParens = .selector s → s.window ≠ none) :
    e.isLatest = false := by
  unfold isLatest
  split
  · rename_i s hs
    exact Option.isNone_eq_false_iff.mpr (Option.isSome_iff_ne_none.mpr (h s hs))
  · rfl

/-- The values of a label function after those of its input; any other function has none. -/
def labelBindings (mode : LabelMode) (function : String) (args : List Expr) : List Value :=
  match LabelFunction.ofName? function with
  | some f => (f.bindings mode (args.filterMap text?)).map .text
  | none => []

/-! ## Values of expressions -/

/-- The values that an expression binds, from left to right. -/
def bindings (o : Options) : Expr → List Value
  | selector s => s.bindings o.patternMode
  | call "quantile_over_time" [q, target] =>
    bindings o target ++ (q.number?.map Value.real).toList
  -- Any other rollup has its target as the only argument and adds nothing.
  | call function (input :: args) => bindings o input ++ labelBindings o.labelMode function args
  | call _ [] => []
  | aggregate _ grouping operand =>
    bindings o operand ++
      grouping.bindings o.canonicalGrouping (if operand.isLatest then 2 else 6)
  | binary _ _ left right => bindings o left ++ bindings o right
  | paren inner => bindings o inner
  | number x => [.real x]
  | text _ => []

end Expr

/-! ## Selectors and groupings -/

theorem params_windowBounds (window : Window) : (windowBounds window).params = window.bindings := by
  unfold windowBounds Window.bindings
  cases hstop : window.stop with
  | none => simp [latestTimestamp, Window.signedMillis]
  | some stop => simp [Window.start?_eq_some hstop]

theorem params_matcher (mode : PatternMode) (m : Matcher) :
    [Value.text m.name.text, .text (m.filter mode).operand] = m.bindings mode := by
  cases hkind : m.kind <;> cases mode <;>
    simp [Matcher.filter, Matcher.bindings, MatchKind.isRegex, Regex.anchored, hkind]

theorem params_sampleTables (mode : PatternMode) (s : Selector) :
    (sampleTables mode s).params = s.bindings mode := by
  have hmatchers : (matcherFilters mode s.matchers).params =
      s.matchers.flatMap (Matcher.bindings mode) := by
    rw [params_matcherFilters]
    congr
    funext m
    exact params_matcher mode m
  unfold sampleTables Selector.bindings
  cases s.window with
  | none =>
    simp [params_labeledSamples, hmatchers, latestBound, latestTimestamp]
  | some window =>
    simp [params_labeledSamples, hmatchers, params_windowBounds]

/-- The values of canonical groups, if the value of each label binds its name `times` times. -/
theorem params_splits {canonical : Bool} {grouping : Grouping} {p : Partition}
    {value : LabelName → Term} {times : Nat}
    (hsplits : grouping.Splits canonical p)
    (hvalue : ∀ key, (value key).code.params = List.replicate times (.text key.text)) :
    p.values value = grouping.bindings canonical (times + 1) := by
  cases hsplits with
  | all => rfl
  | canonical hlabels hcanonical =>
    simp [Partition.values, Grouping.bindings, hcanonical, Term.params_groupKey, hvalue,
      List.replicate_succ]
  | labelString hlabels hcanonical =>
    simp [Partition.values, Grouping.bindings, hcanonical]

/-! ## Label functions -/

theorem values_copyStages (source target : LabelName) :
    (copyStages source target).flatMap Stage.values =
      (List.replicate 5 source.text ++ List.replicate 6 target.text).map Value.text := by
  simp [copyStages, Stage.values, Term.params_extract, Term.params_setValue, Term.code, Term.labels,
    Column.code]

theorem values_replaceStages (target source : LabelName) (pattern replacement : String) :
    (replaceStages target source pattern replacement).flatMap Stage.values =
      (List.replicate 5 source.text ++ [pattern, target.text, target.text, pattern, replacement,
        target.text, target.text, pattern, replacement, target.text, target.text]).map
        Value.text := by
  simp [replaceStages, Stage.values, Term.params_extract, Term.params_setValue, Term.code,
    Term.labels, Column.code]

theorem params_noneOf (keys : List LabelName) :
    (noneOf keys).code.params = (keys.map LabelName.text).map Value.text := by
  have hor : ∀ a b : Term, (Term.or a b).code.params = a.code.params ++ b.code.params := by
    intro a b
    simp [Term.code]
  simp only [noneOf, Term.code, Code.params_append, Code.params_parens, Code.params_w,
    Term.params_concatAll hor, List.flatMap_map, Term.params_hasKey]
  simp [← List.map_eq_flatMap]

theorem params_relabels {mode : LabelMode} {f : LabelFunction} {texts : List String}
    {edit : LabelEdit} {r : Relabeling} (hedit : f.edit? texts = some edit)
    (hrelabels : edit.Relabels mode r) :
    r.stages.flatMap Stage.values ++ (r.filter.map fun filter => filter.code.params).getD [] =
      (f.bindings mode texts).map Value.text := by
  obtain ⟨rfl, rfl⟩ := LabelFunction.edit?_eq_some_iff.mp hedit
  cases hrelabels with
  | set =>
    simp [LabelFunction.bindings, Stage.values, Term.params_setValue, Term.code]
  | del hkeys hmode =>
    subst hmode
    simp [LabelFunction.bindings, Stage.values, Term.params_removeKey, List.flatMap_map,
      List.map_flatMap]
  | reject hkeys hmode =>
    subst hmode
    simp [LabelFunction.bindings, params_noneOf]
  | keep hkeys hmode =>
    subst hmode
    simp [LabelFunction.bindings, Stage.values, Term.params_keepKeys, ← LabelName.map_text_sorted,
      List.flatMap_map, List.map_flatMap]
  | keepAll hkeys hmode =>
    subst hmode
    rfl
  | copy => simp [LabelFunction.bindings, values_copyStages]
  | @move source target hne =>
    have htext : source.text ≠ target.text := fun h => hne (LabelName.text_injective h)
    simp [LabelFunction.bindings, htext, values_copyStages, Stage.values, Term.params_removeKey]
  | stay => simp [LabelFunction.bindings]
  | replace => simp [LabelFunction.bindings, values_replaceStages, Regex.anchored]

namespace Expr

theorem bindings_stripParens (o : Options) (e : Expr) :
    e.stripParens.bindings o = e.bindings o :=
  apply_stripParens (fun inner => by rw [bindings]) e

theorem bindings_of_stripParens_selector {o : Options} {e : Expr} {s : Selector}
    (h : e.stripParens = .selector s) : e.bindings o = s.bindings o.patternMode := by
  rw [← bindings_stripParens, h, bindings]

theorem params_of_compiles {o : Options} {e : Expr} {c : Compiled} (h : Compiles o e c) :
    c.code.params = e.bindings o := by
  induction h with
  | selector s => rw [params_selector, params_sampleTables, bindings]
  | @rollup function target call hname hquantile htarget =>
    rw [params_rollup, params_sampleTables, hquantile, bindings,
      labelBindings, label_ofName?_eq_none hname, bindings_of_stripParens_selector htarget]
    · rfl
    · simp
  | @quantile function q target x call hname hnumber hquantile htarget =>
    have hfunction := eq_of_ofName?_quantile hname
    subst hfunction
    rw [params_rollup, params_sampleTables, hquantile, bindings,
      bindings_of_stripParens_selector htarget, number?, hnumber]
  | @label function f input args code texts edit relabeling hname hinput htexts hedit hrelabels
      ih =>
    have hfunction : function ≠ "quantile_over_time" := by
      rintro rfl
      cases hname
    rw [params_relabeling, List.append_assoc, params_relabels hedit hrelabels, ih]
    rw [bindings, labelBindings, hname, filterMap_text? htexts]
    exact fun _ h _ => hfunction h
  | @latest operator kind grouping p operand s hkind hsplits hoperand hwindow =>
    have hlatest : operand.isLatest = true := by
      simp [isLatest, hoperand, hwindow]
    rw [params_latestGroups, params_sampleTables, bindings, hlatest,
      bindings_of_stripParens_selector hoperand, params_splits hsplits]
    · rfl
    · intro key
      rfl
  | @timed operator kind grouping p operand code hkind hsplits hoperand htimed ih =>
    rw [params_timedGroups, ih, bindings, isLatest_eq_false htimed,
      params_splits hsplits Term.params_extract]
    rfl
  | binary hop hleft hright hjoin ihLeft ihRight =>
    rw [params_binary hjoin, ihLeft, ihRight, bindings]
  | paren hinner ih => rw [ih, bindings]
  | number x => rfl

/-- A scalar that is made a row binds the same values. -/
theorem params_rowsCode (c : Compiled) : (rowsCode c).params = c.code.params := by
  unfold rowsCode
  split
  · rfl
  · simp [scalarRow, latestTimestamp]

/-- The values of a statement are those of its expression, in order. -/
theorem params_statement {o : Options} {e : Expr} {f : Fragment} (h : e.statement o = .ok f) :
    f.params = e.bindings o := by
  obtain ⟨c, hc, rfl⟩ := statement_eq_ok_iff.mp h
  calc (rowsCode c).params = c.code.params := params_rowsCode c
    _ = e.bindings o := params_of_compiles hc

/-- The number on the left comes first, then the window, the name and the matcher of the selector,
then the label that is set, and last the label of the groups. -/
theorem params_statement_groupedRate :
    ∃ f,
      Expr.statement ⟨true, .edit, .fullMatch, 100⟩
        (.aggregate "sum" (.by [⟨"job", by decide⟩])
          (.call "label_set"
            [.binary "*" .filter (.number 2)
              (.paren (.call "rate"
                [.selector ⟨⟨"up", by decide⟩, [⟨⟨"env", by decide⟩, .equal, "it's", by decide⟩],
                  some ⟨300000, none, by decide, by decide⟩⟩])),
              .text "job", .text "a"])) = .ok f ∧
      f.params =
        [.real 2, .integer 300000, .text "up", .text "env", .text "it's", .text "job", .text "job",
          .text "a", .text "job", .text "job", .text "a", .text "job", .text "job", .text "job",
          .text "job", .text "job", .text "job", .text "job", .text "job"] :=
  Exists.imp (fun _ hf => ⟨hf, (params_statement hf).trans rfl⟩) ⟨_, rfl⟩

end Expr

end SeriesSql
