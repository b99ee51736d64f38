import SeriesSql.Proofs.Labels.FullMatch
import SeriesSql.Proofs.Window
import SeriesSql.Query.Lowering

/-!
# The series that a selector chooses

A series of a query is chosen by its name and by the tests of its labels, one of which is the label
of the metric name.  The selector it is lowered to has the metric name apart and only matchers of
other labels.

`Series.LowersTo` says what the selector of a series is, and `lowerSeries_eq_ok_iff` that lowering
gives that selector.  The two then choose the same series of the store, since the tests that are
left out all ask for the metric name.
-/

namespace SeriesSql

/-- The test of a matcher as it is written. -/
def Matcher.test (m : Matcher) : Query.LabelTest :=
  ⟨m.name.text, m.kind, m.value⟩

theorem MetricName.ofString_eq_ok_iff {name : String} {metric : MetricName} :
    MetricName.ofString name = .ok metric ↔ metric.text = name := by
  unfold MetricName.ofString
  split
  · rename_i hvalid
    constructor
    · intro h
      cases h
      rfl
    · rintro rfl
      rfl
  · rename_i hinvalid
    constructor
    · intro h
      cases h
    · rintro rfl
      exact absurd metric.valid hinvalid

namespace Query

/-! ## Tests -/

/-- The test of the metric name for equality. -/
def nameTest (metric : String) : LabelTest :=
  ⟨nameLabel, .equal, metric⟩

namespace LabelTest

/-- Whether there is a value that the pattern of the test matches from end to end. -/
def SpansAll (t : LabelTest) (value : Option String) : Prop :=
  ∃ v node, value = some v ∧ Regex.parse? t.value = some node ∧ node.Spans v

/-- What a test asks of the value of a label.  A label that is absent passes the negated kinds
only. -/
def Holds (t : LabelTest) (value : Option String) : Prop :=
  match t.kind with
  | .equal => value = some t.value
  | .notEqual => value ≠ some t.value
  | .regex => t.SpansAll value
  | .notRegex => ¬t.SpansAll value

end LabelTest

theorem holds_nameTest_iff {metric name : String} :
    (nameTest metric).Holds (some name) ↔ metric = name := by
  simp [nameTest, LabelTest.Holds, eq_comm]

/-- A matcher holds of the values that pass its test. -/
theorem holds_iff_holds_test (m : Matcher) (value : Option String) :
    m.holds value = true ↔ m.test.Holds value := by
  have hholds : m.holds value = (value.any m.accepts != m.kind.isNegated) := by
    cases value <;> simp [Matcher.holds]
  have hequal (hkind : m.kind.isRegex = false) :
      value.any m.accepts = true ↔ value = some m.value := by
    simp [Matcher.accepts, hkind, Option.any_eq_true]
  have hspans (hkind : m.kind.isRegex = true) :
      value.any m.accepts = true ↔ m.test.SpansAll value := by
    obtain ⟨node, hnode, haccepts⟩ := m.accepts_iff_spans hkind
    simp [LabelTest.SpansAll, Matcher.test, hnode, Option.any_eq_true, haccepts]
  have hplain : (value.any m.accepts != false) = true ↔ value.any m.accepts = true := by simp
  have hnegated : (value.any m.accepts != true) = true ↔ ¬value.any m.accepts = true := by simp
  obtain ⟨name, kind, pattern, readable⟩ := m
  rw [hholds]
  cases kind with
  | equal => exact hplain.trans (hequal rfl)
  | notEqual => exact hnegated.trans (not_congr (hequal rfl))
  | regex => exact hplain.trans (hspans rfl)
  | notRegex => exact hnegated.trans (not_congr (hspans rfl))

theorem ofParts_test_eq_ok_iff {t : LabelTest} {m : Matcher} :
    Matcher.ofParts t.label t.kind t.value = .ok m ↔ m.test = t := by
  rw [Matcher.ofParts_eq_ok_iff, Matcher.test, LabelTest.mk.injEq]

/-! ## The tests of a series -/

theorem lowerTests_eq_ok_iff {metric : String} {tests : List LabelTest} {matchers : List Matcher} :
    lowerTests metric tests = .ok matchers ↔
      (∀ t ∈ tests, t.label = nameLabel → t = nameTest metric) ∧
        matchers.map Matcher.test = tests.filter (· ≠ nameTest metric) := by
  induction tests generalizing matchers with
  | nil => simp [lowerTests, eq_comm]
  | cons t rest ih =>
    rw [lowerTests]
    split
    · rename_i hlabel
      split
      · rename_i hname
        have ht : t = nameTest metric := by
          obtain ⟨label, kind, value⟩ := t
          simp_all [nameTest]
        rw [ih]
        simp [ht]
      · rename_i hname
        have ht : t ≠ nameTest metric := by
          rintro rfl
          exact hname ⟨rfl, rfl⟩
        simp [unsupported, hlabel, ht]
    · rename_i hlabel
      have ht : t ≠ nameTest metric := by
        rintro rfl
        exact hlabel rfl
      simp only [bind_eq_ok, mapError_eq_ok_iff, ofParts_test_eq_ok_iff, ih, pure_eq_ok]
      rw [List.filter_cons_of_pos (by simpa using ht), List.forall_mem_cons, List.map_eq_cons_iff]
      constructor
      · rintro ⟨m, hm, ms, ⟨hnames, hms⟩, rfl⟩
        exact ⟨⟨fun h => absurd h hlabel, hnames⟩, m, ms, rfl, hm, hms⟩
      · rintro ⟨⟨-, hnames⟩, m, ms, rfl, hm, hms⟩
        exact ⟨m, hm, ms, ⟨hnames, hms⟩, rfl⟩

/-- The names that a series gives to its metric. -/
def Series.Names (s : Series) (name : String) : Prop :=
  s.name = some name ∨ s.name = none ∧ nameTest name ∈ s.tests

theorem Series.names_of_metric? {s : Series} {name : String} (h : s.metric? = some name) :
    s.Names name := by
  unfold metric? at h
  split at h
  · rename_i given hgiven
    cases h
    exact .inl hgiven
  · rename_i hnone
    obtain ⟨t, ht, rfl⟩ := Option.map_eq_some_iff.mp h
    have hequal := List.find?_some ht
    refine .inr ⟨hnone, ?_⟩
    have htest : t = nameTest t.value := by
      obtain ⟨label, kind, value⟩ := t
      simp_all [nameTest]
    rw [← htest]
    exact List.mem_of_find?_eq_some ht

/-! ## Ranges -/

/-- The window of a range: none for a range of length zero, else its whole milliseconds. -/
inductive Covers : Option Nat → Option Window → Prop where
  | absent : Covers none none
  | zero : Covers (some 0) none
  | whole {nanos : Nat} {window : Window} (hmillis : window.millis = nanos / Duration.nanosPerMilli)
      (hstop : window.stop = none) : Covers (some nanos) (some window)

namespace Covers

variable {range : Option Nat} {window : Window} {nanos : Nat}

theorem ne_zero (h : Covers (some nanos) (some window)) : nanos ≠ 0 := by
  cases h with
  | whole hmillis _ =>
    rintro rfl
    exact Nat.ne_of_gt window.positive hmillis

theorem eq_none_iff {window : Option Window} (h : Covers range window) :
    window = none ↔ range = none ∨ range = some 0 := by
  cases h with
  | absent | zero => simp
  | whole hmillis hstop => simp [(whole hmillis hstop).ne_zero]

theorem of_some (h : Covers range (some window)) :
    window.stop = none ∧ ∃ nanos, range = some nanos ∧ window.millis = nanos / 1000000 := by
  cases h with
  | whole hmillis hstop => exact ⟨hstop, _, rfl, hmillis⟩

/-- A range that is not zero has the window of its nanoseconds, if there is one. -/
theorem some_iff : Covers (some nanos) (some window) ↔ Window.ofNanos nanos = .ok window := by
  rw [(Window.makes_ofNanos nanos).eq_ok_iff]
  constructor
  · intro h
    cases h with
    | whole hmillis hstop => exact ⟨hmillis, hstop⟩
  · rintro ⟨hmillis, hstop⟩
    exact .whole hmillis hstop

end Covers

theorem lowerRange_eq_ok_iff {range : Option Nat} {window : Option Window} :
    lowerRange range = .ok window ↔ Covers range window := by
  constructor
  · intro h
    unfold lowerRange at h
    split at h
    · cases h
      exact .absent
    · cases h
      exact .zero
    · rename_i nanos _
      cases hmade : Window.ofNanos nanos with
      | error cause =>
        rw [hmade] at h
        cases h
      | ok made =>
        rw [hmade] at h
        cases h
        exact Covers.some_iff.mpr hmade
  · intro h
    cases h with
    | absent => rfl
    | zero => rfl
    | whole hmillis hstop =>
      have hcovers := Covers.whole hmillis hstop
      obtain ⟨nanos, rfl⟩ := Nat.exists_eq_succ_of_ne_zero hcovers.ne_zero
      simp only [lowerRange, Covers.some_iff.mp hcovers]
      rfl

/-! ## Series -/

/-- The selector of a series and a range. -/
structure Series.LowersTo (s : Series) (range : Option Nat) (sel : Selector) : Prop where
  offset : s.shift.offset = none
  time : s.shift.time = none
  alternatives : s.alternatives = []
  metric : s.metric? = some sel.metric.text
  names : ∀ t ∈ s.tests, t.label = nameLabel → t = nameTest sel.metric.text
  matchers : sel.matchers.map Matcher.test = s.tests.filter (· ≠ nameTest sel.metric.text)
  window : Covers range sel.window

theorem guarded_eq_ok_iff {α β : Type} {c : Prop} [Decidable c] {feature : Unsupported}
    {next : β → Except QueryError α} {rest : Except QueryError α} {a : α} :
    (if c then unsupported feature >>= next else rest) = .ok a ↔ ¬c ∧ rest = .ok a := by
  split
  · simp [unsupported, bind, Except.bind, *]
  · simp [*]

theorem lowerSeries_eq_ok_iff {s : Series} {range : Option Nat} {sel : Selector} :
    lowerSeries s range = .ok sel ↔ s.LowersTo range sel := by
  unfold lowerSeries
  simp only [guarded_eq_ok_iff, Bool.not_eq_true, Option.isSome_eq_false_iff,
    Option.isNone_iff_eq_none, Bool.not_eq_false', List.isEmpty_iff]
  constructor
  · rintro ⟨hoffset, htime, halternatives, h⟩
    split at h
    · cases h
    · rename_i name hname
      simp only [bind_eq_ok, mapError_eq_ok_iff, MetricName.ofString_eq_ok_iff,
        lowerTests_eq_ok_iff, lowerRange_eq_ok_iff, pure_eq_ok] at h
      obtain ⟨metric, rfl, matchers, ⟨hnames, hmatchers⟩, window, hwindow, rfl⟩ := h
      exact ⟨hoffset, htime, halternatives, hname, hnames, hmatchers, hwindow⟩
  · rintro ⟨hoffset, htime, halternatives, hname, hnames, hmatchers, hwindow⟩
    refine ⟨hoffset, htime, halternatives, ?_⟩
    simp only [hname, bind_eq_ok, mapError_eq_ok_iff, MetricName.ofString_eq_ok_iff,
      lowerTests_eq_ok_iff, lowerRange_eq_ok_iff, pure_eq_ok]
    exact ⟨sel.metric, rfl, sel.matchers, ⟨hnames, hmatchers⟩, sel.window, hwindow, rfl⟩

/-! ## Chosen series -/

/-- The value of a label of a stored series, whose metric is the value of the label of the name. -/
def storedValue (metric : String) (labels : String → Option String) (label : String) :
    Option String :=
  if label = nameLabel then some metric else labels label

theorem storedValue_of_ne {metric : String} {labels : String → Option String} {label : String}
    (h : label ≠ nameLabel) : storedValue metric labels label = labels label :=
  if_neg h

/-- The lists of tests of which one has to hold. -/
def Series.choices (s : Series) : List (List LabelTest) :=
  if s.alternatives.isEmpty then [s.tests] else s.alternatives

/-- The stored series that are chosen as a query is written. -/
def Series.Selects (s : Series) (metric : String) (labels : String → Option String) : Prop :=
  (∀ name, s.name = some name → name = metric) ∧
    ∃ tests ∈ s.choices, ∀ t ∈ tests, t.Holds (storedValue metric labels t.label)

end Query

open Query

/-- The stored series that are chosen by a selector. -/
def Selector.Selects (sel : Selector) (metric : String) (labels : String → Option String) : Prop :=
  sel.metric.text = metric ∧ ∀ m ∈ sel.matchers, m.holds (labels m.name.text) = true

namespace Query.Series.LowersTo

variable {s : Series} {range : Option Nat} {sel : Selector}

/-- A test of a series asks for the metric name, or it is that of a matcher. -/
theorem mem_tests_iff (h : s.LowersTo range sel) {t : LabelTest} (hlabel : t.label ≠ nameLabel) :
    t ∈ s.tests ↔ ∃ m ∈ sel.matchers, m.test = t := by
  have hname : t ≠ nameTest sel.metric.text := by
    rintro rfl
    exact hlabel rfl
  rw [← List.mem_map, h.matchers, List.mem_filter]
  simp [hname]

theorem label_ne (h : s.LowersTo range sel) {m : Matcher} (hm : m ∈ sel.matchers) :
    m.test.label ≠ nameLabel := by
  have htest : m.test ∈ s.tests.filter (· ≠ nameTest sel.metric.text) :=
    h.matchers ▸ List.mem_map_of_mem hm
  obtain ⟨hmem, hne⟩ := List.mem_filter.mp htest
  intro hlabel
  simp [h.names m.test hmem hlabel] at hne

theorem selects_iff (h : s.LowersTo range sel) (metric : String) (labels : String → Option String) :
    s.Selects metric labels ↔ sel.Selects metric labels := by
  have hchoices : s.choices = [s.tests] := by simp [choices, h.alternatives]
  simp only [Selects, hchoices, List.mem_singleton, exists_eq_left, Selector.Selects]
  constructor
  · rintro ⟨hname, htests⟩
    constructor
    · rcases names_of_metric? h.metric with hgiven | ⟨-, htest⟩
      · exact hname _ hgiven
      · exact holds_nameTest_iff.mp (htests _ htest)
    · intro m hm
      have hlabel := h.label_ne hm
      have htest := htests m.test ((h.mem_tests_iff hlabel).mpr ⟨m, hm, rfl⟩)
      rw [storedValue_of_ne hlabel] at htest
      exact (holds_iff_holds_test m _).mpr htest
  · rintro ⟨rfl, hmatchers⟩
    constructor
    · intro name hgiven
      have hmetric := h.metric
      simpa [metric?, hgiven] using hmetric
    · intro t ht
      by_cases hlabel : t.label = nameLabel
      · rw [h.names t ht hlabel]
        exact holds_nameTest_iff.mpr rfl
      · obtain ⟨m, hm, rfl⟩ := (h.mem_tests_iff hlabel).mp ht
        rw [storedValue_of_ne hlabel]
        exact (holds_iff_holds_test m _).mp (hmatchers m hm)

end Query.Series.LowersTo

namespace Query

/-- A series and its selector choose the same stored series.  The matchers are the tests in their
order without those for the metric name, and the window is the range in whole milliseconds. -/
theorem lowerSeries_keeps_selection {s : Series} {range : Option Nat} {sel : Selector}
    (h : lowerSeries s range = .ok sel) :
    (∀ metric labels, s.Selects metric labels ↔ sel.Selects metric labels) ∧
    sel.matchers.map Matcher.test = s.tests.filter (· ≠ ⟨nameLabel, .equal, sel.metric.text⟩) ∧
    (sel.window = none ↔ range = none ∨ range = some 0) ∧
    ∀ window, sel.window = some window →
      window.stop = none ∧ ∃ nanos, range = some nanos ∧ window.millis = nanos / 1000000 := by
  have hlowers := lowerSeries_eq_ok_iff.mp h
  refine ⟨hlowers.selects_iff, hlowers.matchers, hlowers.window.eq_none_iff, ?_⟩
  intro window hwindow
  exact (hwindow ▸ hlowers.window).of_some

/-- The name is given twice, by tests around that of another label. -/
theorem lowerSeries_keeps_selection_named_by_tests :
    ∃ s sel, lowerSeries s (some 90000000999) = .ok sel ∧
      s.tests = [nameTest "up", ⟨"job", .notRegex, "a|b"⟩, nameTest "up"] ∧
      sel.matchers.map Matcher.test = [⟨"job", .notRegex, "a|b"⟩] ∧
      sel.window ≠ none ∧
      s.Selects "up" (fun _ => some "ab") ∧ ¬s.Selects "up" (fun _ => some "b") := by
  let s : Series := ⟨none, [nameTest "up", ⟨"job", .notRegex, "a|b"⟩, nameTest "up"], [], .none⟩
  let m : Matcher := ⟨⟨"job", by decide⟩, .notRegex, "a|b", fun _ => by decide +kernel⟩
  let sel : Selector := ⟨⟨"up", by decide⟩, [m], some ⟨90000, none, by decide, by decide⟩⟩
  have hsel : lowerSeries s (some 90000000999) = .ok sel :=
    lowerSeries_eq_ok_iff.mpr ⟨rfl, rfl, rfl, rfl, by decide, by decide, .whole rfl rfl⟩
  obtain ⟨hselects, hmatchers, hwindow, -⟩ := lowerSeries_keeps_selection hsel
  refine ⟨s, sel, hsel, rfl, hmatchers.trans (by decide), ?_, ?_, ?_⟩
  · rw [ne_eq, hwindow]
    decide
  · rw [hselects]
    exact ⟨rfl, List.forall_mem_singleton.mpr (by decide +kernel)⟩
  · rw [hselects]
    rintro ⟨-, hholds⟩
    have hb : m.holds (some "b") = true := hholds m (List.mem_singleton.mpr rfl)
    have hnot : m.holds (some "b") = false := by decide +kernel
    rw [hnot] at hb
    cases hb

end Query

end SeriesSql
