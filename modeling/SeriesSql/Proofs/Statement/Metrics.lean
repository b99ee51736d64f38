import Mathlib.Data.List.Induction
import SeriesSql.Proofs.Statement.Bindings
import SeriesSql.Proofs.Statement.Independence

/-!
# Metric names of expressions

`Expr.metricNames` finds the metrics of an expression in one pass, which leaves out the names found
before.  `metricNames_eq_and_bound` says that this is the same as reading off all selectors from
left to right and then erasing what occurs again, and that a statement binds every one of the names.

There are three groups.

* `Expr.metricOccurrences`, the names as often as they occur, and its values on the constructs.
* The pass.  Its invariant is that what was found is what was seen, without repetitions:
  `addName_eraseDups` for one name, `collectMetrics_eraseDups` for an expression.
* The values of a statement, by induction over derivations: they hold all occurrences in order.
-/

namespace SeriesSql

open Sql Compile

namespace Expr

/-! ## Occurrences -/

/-- The metric of a selector. -/
def metric? : Expr → Option String
  | selector s => some s.metric.text
  | _ => none

/-- The metric names of all selectors in an expression, from left to right. -/
def metricOccurrences (e : Expr) : List String :=
  e.nodes.filterMap metric?

theorem mem_metricOccurrences_iff {e : Expr} {name : String} :
    name ∈ e.metricOccurrences ↔ ∃ s, .selector s ∈ e.nodes ∧ s.metric.text = name := by
  rw [metricOccurrences, List.mem_filterMap]
  constructor
  · rintro ⟨node, hnode, hname⟩
    cases node with
    | selector s => exact ⟨s, hnode, Option.some.inj hname⟩
    | call | aggregate | binary | paren | number | text => cases hname
  · rintro ⟨s, hnode, rfl⟩
    exact ⟨.selector s, hnode, rfl⟩

@[simp] theorem metricOccurrences_selector (s : Selector) :
    (selector s).metricOccurrences = [s.metric.text] := by
  simp [metricOccurrences, nodes, metric?]

@[simp] theorem metricOccurrences_call (function : String) (args : List Expr) :
    (call function args).metricOccurrences = args.flatMap metricOccurrences := by
  rw [metricOccurrences, nodes, nodesList_eq, List.filterMap_cons_none rfl, List.filterMap_flatMap]
  rfl

@[simp] theorem metricOccurrences_aggregate (operator : String) (grouping : Grouping)
    (operand : Expr) :
    (aggregate operator grouping operand).metricOccurrences = operand.metricOccurrences := by
  rw [metricOccurrences, nodes, List.filterMap_cons_none rfl, metricOccurrences]

@[simp] theorem metricOccurrences_binary (operator : String) (mode : ComparisonMode)
    (left right : Expr) :
    (binary operator mode left right).metricOccurrences =
      left.metricOccurrences ++ right.metricOccurrences := by
  rw [metricOccurrences, nodes, List.filterMap_cons_none rfl, List.filterMap_append]
  rfl

@[simp] theorem metricOccurrences_paren (inner : Expr) :
    (paren inner).metricOccurrences = inner.metricOccurrences := by
  rw [metricOccurrences, nodes, List.filterMap_cons_none rfl, metricOccurrences]

@[simp] theorem metricOccurrences_number (x : Float) : (number x).metricOccurrences = [] := by
  simp [metricOccurrences, nodes, metric?]

@[simp] theorem metricOccurrences_text (s : String) : (text s).metricOccurrences = [] := by
  simp [metricOccurrences, nodes, metric?]

theorem metricOccurrences_stripParens (e : Expr) :
    e.stripParens.metricOccurrences = e.metricOccurrences :=
  apply_stripParens metricOccurrences_paren e

/-! ## The pass -/

theorem addName_of_mem {found : List String} {name : String} (h : name ∈ found) :
    addName found name = found :=
  if_pos (List.contains_iff_mem.mpr h)

theorem addName_of_not_mem {found : List String} {name : String} (h : name ∉ found) :
    addName found name = found ++ [name] :=
  if_neg (mt List.contains_iff_mem.mp h)

/-- A name is added to the names seen before, without repetitions. -/
theorem addName_eraseDups (seen : List String) (name : String) :
    addName seen.eraseDups name = (seen ++ [name]).eraseDups := by
  rw [List.eraseDups_append, List.removeAll]
  by_cases hseen : name ∈ seen
  · rw [addName_of_mem (List.mem_eraseDups.mpr hseen),
      List.filter_cons_of_neg (by simpa using hseen), List.filter_nil, List.eraseDups_nil,
      List.append_nil]
  · rw [addName_of_not_mem (mt List.mem_eraseDups.mp hseen),
      List.filter_cons_of_pos (by simpa using hseen), List.filter_nil, List.eraseDups_cons,
      List.filter_nil, List.eraseDups_nil]

theorem nodup_addName {found : List String} (h : found.Nodup) (name : String) :
    (addName found name).Nodup := by
  by_cases hfound : name ∈ found
  · rwa [addName_of_mem hfound]
  · rw [addName_of_not_mem hfound, ← List.concat_eq_append]
    exact h.concat hfound

theorem nodup_eraseDups (names : List String) : names.eraseDups.Nodup := by
  induction names using List.reverseRecOn with
  | nil =>
    rw [List.eraseDups_nil]
    exact List.nodup_nil
  | append_singleton names name ih =>
    rw [← addName_eraseDups]
    exact nodup_addName ih name

theorem collectMetricsList_eraseDups {args : List Expr}
    (h : ∀ arg ∈ args, ∀ seen : List String,
      collectMetrics seen.eraseDups arg = (seen ++ arg.metricOccurrences).eraseDups)
    (seen : List String) :
    collectMetricsList seen.eraseDups args =
      (seen ++ args.flatMap metricOccurrences).eraseDups := by
  induction args generalizing seen with
  | nil => rw [collectMetricsList, List.flatMap_nil, List.append_nil]
  | cons arg args ih =>
    obtain ⟨harg, hargs⟩ := List.forall_mem_cons.mp h
    rw [collectMetricsList, harg, ih hargs, List.flatMap_cons, List.append_assoc]

/-- What the pass finds after some names were seen is what erasing repetitions from all of them
leaves. -/
theorem collectMetrics_eraseDups (seen : List String) (e : Expr) :
    collectMetrics seen.eraseDups e = (seen ++ e.metricOccurrences).eraseDups := by
  induction e using Expr.inductionOn generalizing seen with
  | selector s => rw [collectMetrics, addName_eraseDups, metricOccurrences_selector]
  | call function args ih =>
    rw [collectMetrics, collectMetricsList_eraseDups ih, metricOccurrences_call]
  | aggregate operator grouping operand ih =>
    rw [collectMetrics, ih, metricOccurrences_aggregate]
  | binary operator mode left right ihLeft ihRight =>
    rw [collectMetrics, ihLeft, ihRight, metricOccurrences_binary, List.append_assoc]
  | paren inner ih => rw [collectMetrics, ih, metricOccurrences_paren]
  | number x => rw [collectMetrics, metricOccurrences_number, List.append_nil]
  | text s => rw [collectMetrics, metricOccurrences_text, List.append_nil]

theorem metricNames_eq (e : Expr) : e.metricNames = e.metricOccurrences.eraseDups := by
  have h := collectMetrics_eraseDups [] e
  rwa [List.eraseDups_nil, List.nil_append] at h

/-! ## The values of a statement -/

theorem text_metric_mem_bindings (mode : PatternMode) (s : Selector) :
    Value.text s.metric.text ∈ s.bindings mode :=
  List.mem_append_right _ List.mem_cons_self

/-- The samples of a selector bind its metric, also where it stands in parentheses. -/
theorem metricOccurrences_sublist_sampleTables {e : Expr} {s : Selector}
    (h : e.stripParens = .selector s) (mode : PatternMode) :
    (e.metricOccurrences.map Value.text).Sublist (sampleTables mode s).params := by
  rw [← metricOccurrences_stripParens, h, metricOccurrences_selector, params_sampleTables]
  exact List.singleton_sublist.mpr (text_metric_mem_bindings mode s)

/-- Texts name no metrics. -/
theorem metricOccurrences_of_texts {args : List Expr} {texts : List String}
    (h : args.map stripParens = texts.map .text) : args.flatMap metricOccurrences = [] := by
  rw [List.flatMap_eq_nil_iff]
  intro arg harg
  obtain ⟨text, -, htext⟩ := exists_text_of_mem h harg
  rw [← metricOccurrences_stripParens, htext, metricOccurrences_text]

/-- Compiled code binds the metric of every selector, in the order of the selectors.  Every
construct binds the values of its operands first, and its arguments that are not operands are
literals. -/
theorem metricOccurrences_sublist_params {o : Options} {e : Expr} {c : Compiled}
    (h : Compiles o e c) : (e.metricOccurrences.map Value.text).Sublist c.code.params := by
  induction h with
  | selector s =>
    rw [params_selector]
    exact metricOccurrences_sublist_sampleTables rfl _
  | rollup hname hquantile htarget =>
    rw [params_rollup, metricOccurrences_call, List.flatMap_singleton]
    exact List.sublist_append_of_sublist_left (metricOccurrences_sublist_sampleTables htarget _)
  | @quantile function q target x call hname hnumber hquantile htarget =>
    have hq : q.metricOccurrences = [] := by
      rw [← metricOccurrences_stripParens, hnumber, metricOccurrences_number]
    rw [params_rollup, metricOccurrences_call, List.flatMap_cons, hq, List.nil_append,
      List.flatMap_singleton]
    exact List.sublist_append_of_sublist_left (metricOccurrences_sublist_sampleTables htarget _)
  | label hname hinput htexts hedit hrelabels ih =>
    rw [params_relabeling, metricOccurrences_call, List.flatMap_cons,
      metricOccurrences_of_texts htexts, List.append_nil, List.append_assoc]
    exact List.sublist_append_of_sublist_left ih
  | latest hkind hsplits hoperand hwindow =>
    rw [params_latestGroups, metricOccurrences_aggregate]
    exact List.sublist_append_of_sublist_left (metricOccurrences_sublist_sampleTables hoperand _)
  | timed hkind hsplits hoperand htimed ih =>
    rw [params_timedGroups, metricOccurrences_aggregate]
    exact List.sublist_append_of_sublist_left ih
  | binary hop hleft hright hjoin ihLeft ihRight =>
    rw [params_binary hjoin, metricOccurrences_binary, List.map_append]
    exact ihLeft.append ihRight
  | paren hinner ih =>
    rw [metricOccurrences_paren]
    exact ih
  | number x =>
    rw [metricOccurrences_number]
    exact List.nil_sublist _

/-- The metric names of an expression are those of its selectors from left to right, without those
that occur before.  So no name is there twice and none is missing, and if the expression compiles,
its statement binds each of them as a text. -/
theorem metricNames_eq_and_bound (e : Expr) :
    e.metricNames = e.metricOccurrences.eraseDups ∧ e.metricNames.Nodup ∧
    (∀ name, name ∈ e.metricNames ↔ ∃ s, .selector s ∈ e.nodes ∧ s.metric.text = name) ∧
    ∀ o c, e.compile o = .ok c →
      ∃ f, e.statement o = .ok f ∧ ∀ name ∈ e.metricNames, .text name ∈ f.params := by
  rw [metricNames_eq]
  refine ⟨rfl, nodup_eraseDups _, ?_, ?_⟩
  · intro name
    rw [List.mem_eraseDups, mem_metricOccurrences_iff]
  · intro o c hc
    have hcompiles := compile_eq_ok_iff.mp hc
    refine ⟨(rowsCode c).fragment, statement_eq_ok_iff.mpr ⟨c, hcompiles, rfl⟩, ?_⟩
    intro name hname
    rw [List.mem_eraseDups] at hname
    have hparam := (metricOccurrences_sublist_params hcompiles).subset (List.mem_map_of_mem hname)
    rw [← params_rowsCode] at hparam
    exact hparam

def failures : Expr :=
  .selector ⟨⟨"failures_total", by decide⟩, [], none⟩

/-- Failures as a share of attempts, where the attempts are a relabeled rate and the failures count
again. -/
def failureShare : Expr :=
  .binary "/" .bool (.aggregate "sum" .all failures)
    (.paren (.binary "+" .bool
      (.call "label_set"
        [.call "rate"
          [.paren (.selector ⟨⟨"attempts_total", by decide⟩, [],
            some ⟨240000, none, by decide, by decide⟩⟩)],
          .text "tier", .text "web"])
      (.paren failures)))

theorem metricNames_eq_and_bound_failureShare :
    failureShare.metricOccurrences = ["failures_total", "attempts_total", "failures_total"] ∧
    failureShare.metricNames = ["failures_total", "attempts_total"] ∧
    ∃ c f, failureShare.compile ⟨true, .edit, .fullMatch, 100⟩ = .ok c ∧
      failureShare.statement ⟨true, .edit, .fullMatch, 100⟩ = .ok f ∧
      .text "failures_total" ∈ f.params ∧ .text "attempts_total" ∈ f.params := by
  have hnames : failureShare.metricNames = ["failures_total", "attempts_total"] := rfl
  obtain ⟨c, hc⟩ : ∃ c, failureShare.compile ⟨true, .edit, .fullMatch, 100⟩ = .ok c := ⟨_, rfl⟩
  obtain ⟨-, -, -, hbound⟩ := metricNames_eq_and_bound failureShare
  obtain ⟨f, hf, hparams⟩ := hbound _ c hc
  rw [hnames] at hparams
  exact ⟨rfl, hnames, c, f, hc, hf, hparams _ (by simp), hparams _ (by simp)⟩

end Expr

end SeriesSql
