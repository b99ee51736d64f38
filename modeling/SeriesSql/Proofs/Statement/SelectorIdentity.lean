import SeriesSql.Proofs.Compile.Text
import SeriesSql.Proofs.Statement.Bindings
import SeriesSql.Proofs.Window

/-!
# A selector is known by its statement

The text of a selector's statement and the values bound in it determine the selector, so two
different queries never share a statement.  The text alone tells what `text_selector` says that it
depends on, the form of the window and the kinds of the matchers, and no more:
`text_selector_eq_iff`.  The values tell the rest.

The one loss is in windows: a first timestamp below the least one is raised to it, and so all
windows that reach as far down have the same bounds.

There are three groups.

* Texts that diverge, so that a choice between them can be read off what is written.
* What the text tells.
* What the values tell, once the form is known.
-/

namespace SeriesSql

open Sql Compile

/-! ## Texts that diverge -/

/-- The texts differ before either of them ends. -/
def Diverge (a b : String) : Prop :=
  ∀ rest rest', a ++ rest ≠ b ++ rest'

theorem Diverge.symm {a b : String} (h : Diverge a b) : Diverge b a := by
  intro rest rest' heq
  exact h rest' rest heq.symm

theorem diverge_of_ne (shared : List Char) {a b : String} {as bs : List Char} {c d : Char}
    (ha : a.toList = shared ++ c :: as) (hb : b.toList = shared ++ d :: bs) (hne : c ≠ d) :
    Diverge a b := by
  intro rest rest' heq
  have hchars := congrArg String.toList heq
  simp [ha, hb, hne] at hchars

/-- Which of two diverging texts was written can be seen, whatever follows. -/
theorem Diverge.choice_inj {first second : Code} (h : Diverge first.text second.text) {b b' : Bool}
    {rest rest' : String}
    (heq : (if b then first else second).text ++ rest =
      (if b' then first else second).text ++ rest') : b = b' ∧ rest = rest' := by
  cases b <;> cases b'
  · exact ⟨rfl, (String.append_right_inj _).mp heq⟩
  · exact absurd heq (h.symm rest rest')
  · exact absurd heq (h rest rest')
  · exact ⟨rfl, (String.append_right_inj _).mp heq⟩

/-! ## What the text tells -/

theorem diverge_negated :
    Diverge (w "mi.label_set_id NOT IN ").text (w "mi.label_set_id IN ").text :=
  diverge_of_ne "mi.label_set_id ".toList (by rw [Code.text_w]; rfl)
    (by rw [Code.text_w]; rfl) (by decide)

theorem diverge_pattern :
    Diverge (w " AND m_lv.value REGEXP ").text (w " AND m_lv.value = ").text :=
  diverge_of_ne " AND m_lv.value ".toList (by rw [Code.text_w]; rfl)
    (by rw [Code.text_w]; rfl) (by decide)

/-- A filter shows whether it is negated and whether it has a pattern. -/
theorem filter_append_inj {f f' : MembershipFilter} {rest rest' : String}
    (h : f.code.text ++ rest = f'.code.text ++ rest') :
    f.negated = f'.negated ∧ f.pattern = f'.pattern ∧ rest = rest' := by
  unfold MembershipFilter.code at h
  simp only [Code.text_append, Code.text_parens, Code.text_bound, String.append_assoc] at h
  obtain ⟨hnegated, h⟩ := diverge_negated.choice_inj h
  simp only [String.append_right_inj] at h
  obtain ⟨hpattern, h⟩ := diverge_pattern.choice_inj h
  simp only [String.append_right_inj] at h
  exact ⟨hnegated, hpattern, h⟩

theorem MatchKind.eq_of_shown {kind kind' : MatchKind} (hnegated : kind.isNegated = kind'.isNegated)
    (hregex : kind.isRegex = kind'.isRegex) : kind = kind' := by
  revert hnegated hregex
  cases kind <;> cases kind' <;> decide

theorem text_matcherFilters_cons_ne_empty (mode : PatternMode) (m : Matcher) (rest : List Matcher) :
    (matcherFilters mode (m :: rest)).text ≠ (matcherFilters mode []).text := by
  intro h
  have hnone : (matcherFilters mode []).text = "" := rfl
  rw [hnone, matcherFilters, Code.text_append, Code.text_append] at h
  simp at h

/-- The converse of `text_matcherFilters`. -/
theorem kinds_eq_of_text {mode mode' : PatternMode} {matchers matchers' : List Matcher}
    (h : (matcherFilters mode matchers).text = (matcherFilters mode' matchers').text) :
    matchers.map Matcher.kind = matchers'.map Matcher.kind := by
  induction matchers generalizing matchers' with
  | nil =>
    cases matchers' with
    | nil => rfl
    | cons m' rest' => exact absurd h.symm (text_matcherFilters_cons_ne_empty mode' m' rest')
  | cons m rest ih =>
    cases matchers' with
    | nil => exact absurd h (text_matcherFilters_cons_ne_empty mode m rest)
    | cons m' rest' =>
      simp only [matcherFilters, Code.text_append, String.append_assoc,
        String.append_right_inj] at h
      obtain ⟨hnegated, hpattern, hrest⟩ := filter_append_inj h
      have hkind : m.kind = m'.kind := MatchKind.eq_of_shown hnegated hpattern
      rw [List.map_cons, List.map_cons, hkind, ih hrest]

/-- The name of the first table expression shows whether there is a window. -/
theorem diverge_latestBound (window : Window) :
    Diverge latestBound.text (windowBounds window).text := by
  intro rest rest' h
  have hnames : Diverge (w "latest_snapshot AS ").text (w "time_window AS ").text :=
    diverge_of_ne [] (by rw [Code.text_w]; rfl) (by rw [Code.text_w]; rfl) (by decide)
  simp only [latestBound, windowBounds, Code.text_append, String.append_assoc] at h
  exact hnames _ _ h

/-- A window up to the latest sample computes its bounds, any other has them bound. -/
theorem diverge_windowBounds {window window' : Window} {stop : Int64} (hstop : window.stop = none)
    (hstop' : window'.stop = some stop) :
    Diverge (windowBounds window).text (windowBounds window').text := by
  intro rest rest' h
  have hlast : Diverge (w "MAX").text "?" :=
    diverge_of_ne [] (by rw [Code.text_w]; rfl) rfl (by decide)
  simp only [windowBounds, Window.start?, hstop, hstop', Option.map_some, latestTimestamp,
    Code.text_append, Code.text_parens, Code.text_bound, String.append_assoc,
    String.append_right_inj] at h
  exact hlast _ _ h

theorem windowBounds_append_inj {window window' : Window} {rest rest' : String}
    (h : (windowBounds window).text ++ rest = (windowBounds window').text ++ rest') :
    window.stop.isSome = window'.stop.isSome ∧ rest = rest' := by
  by_cases hsome : window.stop.isSome = window'.stop.isSome
  · rw [text_windowBounds hsome, String.append_right_inj] at h
    exact ⟨hsome, h⟩
  · cases hstop : window.stop <;> cases hstop' : window'.stop
    case none.none | some.some => simp [hstop, hstop'] at hsome
    case none.some => exact absurd h (diverge_windowBounds hstop hstop' rest rest')
    case some.none => exact absurd h ((diverge_windowBounds hstop' hstop).symm rest rest')

namespace Selector

/-- The table expression that bounds the time. -/
def timeBounds (s : Selector) : Code :=
  match s.window with
  | some window => windowBounds window
  | none => latestBound

theorem sampleTables_eq (mode : PatternMode) (s : Selector) :
    sampleTables mode s = s.timeBounds ++ w ", " ++ labeledSamples mode s := rfl

/-- The bounds show the form of the window. -/
theorem timeBounds_append_inj {s s' : Selector} {rest rest' : String}
    (h : s.timeBounds.text ++ rest = s'.timeBounds.text ++ rest') :
    s.windowForm = s'.windowForm ∧ rest = rest' := by
  unfold timeBounds at h
  unfold windowForm
  cases hwindow : s.window <;> cases hwindow' : s'.window <;> rw [hwindow, hwindow'] at h
  case none.none => exact ⟨rfl, (String.append_right_inj _).mp h⟩
  case none.some window' => exact absurd h (diverge_latestBound window' rest rest')
  case some.none window => exact absurd h ((diverge_latestBound window).symm rest rest')
  case some.some window window' =>
    obtain ⟨hsome, hrest⟩ := windowBounds_append_inj h
    exact ⟨by simp only [hsome], hrest⟩

theorem isSome_window_eq (s : Selector) : s.window.isSome = decide (s.windowForm ≠ .latest) := by
  unfold windowForm
  cases s.window with
  | none => rfl
  | some window => cases hstop : window.stop <;> simp [hstop]

/-- The text of a selector's statement tells the form of its window and the kinds of its matchers,
and nothing else. -/
theorem text_selector_eq_iff {mode mode' : PatternMode} {s s' : Selector} :
    (selector mode s).text = (selector mode' s').text ↔ s.Alike s' := by
  refine ⟨fun h => ?_, fun h => h.text_selector mode mode'⟩
  simp only [selector, Code.text_append, sampleTables_eq, String.append_assoc,
    String.append_right_inj] at h
  obtain ⟨hform, h⟩ := timeBounds_append_inj h
  -- With windows of one form, only the filters can differ.
  have hsome : s.window.isSome = s'.window.isSome := by
    rw [isSome_window_eq, isSome_window_eq, hform]
  simp only [labeledSamples, hsome, Code.text_append, Code.text_parens, Code.text_bound,
    String.append_assoc, String.append_right_inj, String.append_left_inj] at h
  exact ⟨kinds_eq_of_text h, hform⟩

end Selector

/-! ## What the values tell -/

/-- The first timestamp is not raised to the least one. -/
def Window.Unsaturated (window : Window) : Prop :=
  ∀ stop, window.stop = some stop → -9223372036854775808 ≤ stop.toInt - window.millis

theorem Window.eq_of_parts {window window' : Window} (hmillis : window.millis = window'.millis)
    (hstop : window.stop = window'.stop) : window = window' := by
  cases window
  cases window'
  simp_all

theorem Window.bindings_of_stop {window : Window} {stop start : Int64}
    (hstop : window.stop = some stop) (hstart : window.start? = some start) :
    window.bindings = [.integer stop, .integer start] := by
  obtain rfl := Option.some.inj ((start?_eq_some hstop).symm.trans hstart)
  simp [bindings, hstop]

theorem Window.eq_of_bindings {window window' : Window} (hexact : window.Unsaturated)
    (hexact' : window'.Unsaturated) (h : window.bindings = window'.bindings) :
    window = window' := by
  cases hstop : window.stop with
  | none =>
    cases hstop' : window'.stop with
    | none =>
      have hmillis : window.signedMillis = window'.signedMillis := by
        simpa [bindings, signedMillis, hstop, hstop'] using h
      have hint := congrArg Int64.toInt hmillis
      rw [toInt_signedMillis, toInt_signedMillis] at hint
      exact eq_of_parts (by omega) (hstop.trans hstop'.symm)
    | some stop' => simp [bindings, hstop, hstop'] at h
  | some stop =>
    cases hstop' : window'.stop with
    | none => simp [bindings, hstop, hstop'] at h
    | some stop' =>
      obtain ⟨start, hstart⟩ := start?_isSome hstop
      obtain ⟨start', hstart'⟩ := start?_isSome hstop'
      rw [bindings_of_stop hstop hstart, bindings_of_stop hstop' hstart'] at h
      obtain ⟨rfl, rfl⟩ : stop = stop' ∧ start = start' := by simpa using h
      have hfirst := toInt_start hstop hstart
      have hfirst' := toInt_start hstop' hstart'
      have hlow := hexact stop hstop
      have hlow' := hexact' stop hstop'
      exact eq_of_parts (by omega) (hstop.trans hstop'.symm)

/-- Anchors are put around every pattern alike. -/
theorem Matcher.eq_of_bindings {mode : PatternMode} {m m' : Matcher} (hkind : m.kind = m'.kind)
    (h : m.bindings mode = m'.bindings mode) : m = m' := by
  have hname : m.name = m'.name := by
    apply LabelName.text_injective
    simpa [bindings] using congrArg List.head? h
  have hvalue : m.value = m'.value := by
    have hoperand := congrArg List.getLast? h
    simp only [bindings, hkind] at hoperand
    cases hpattern : m'.kind <;> cases mode <;>
      simpa [hpattern, String.append_right_inj, String.append_left_inj] using hoperand
  cases m
  cases m'
  simp_all

theorem Matcher.eq_of_flatMap_bindings {mode : PatternMode} {matchers matchers' : List Matcher}
    (hkinds : matchers.map Matcher.kind = matchers'.map Matcher.kind)
    (h : matchers.flatMap (Matcher.bindings mode) = matchers'.flatMap (Matcher.bindings mode)) :
    matchers = matchers' := by
  induction matchers generalizing matchers' with
  | nil => simpa using hkinds
  | cons m rest ih =>
    cases matchers' with
    | nil => cases hkinds
    | cons m' rest' =>
      obtain ⟨hkind, hrest⟩ := List.cons.inj hkinds
      rw [List.flatMap_cons, List.flatMap_cons] at h
      -- Every matcher binds two values.
      obtain ⟨hfirst, hothers⟩ := List.append_inj h rfl
      rw [Matcher.eq_of_bindings hkind hfirst, ih hrest hothers]

theorem MetricName.text_injective : Function.Injective MetricName.text := by
  intro a b h
  cases a
  cases b
  simp_all

/-- The number of values that bound the time. -/
def WindowForm.arity : WindowForm → Nat
  | latest => 0
  | relative => 1
  | explicit => 2

theorem Selector.length_windowBindings (s : Selector) :
    ((s.window.map Window.bindings).getD []).length = s.windowForm.arity := by
  unfold windowForm
  cases s.window with
  | none => rfl
  | some window => cases hstop : window.stop <;> simp [Window.bindings, WindowForm.arity, hstop]

theorem Selector.Alike.length_window {s s' : Selector} (h : s.Alike s') :
    ((s.window.map Window.bindings).getD []).length =
      ((s'.window.map Window.bindings).getD []).length := by
  rw [s.length_windowBindings, s'.length_windowBindings, h.window]

theorem Selector.Alike.eq_of_bindings {mode : PatternMode} {s s' : Selector} (halike : s.Alike s')
    (hexact : ∀ window, s.window = some window → window.Unsaturated)
    (hexact' : ∀ window, s'.window = some window → window.Unsaturated)
    (h : s.bindings mode = s'.bindings mode) : s = s' := by
  obtain ⟨hbounds, hrest⟩ := List.append_inj h halike.length_window
  obtain ⟨hmetric, hmatchers⟩ := List.cons.inj hrest
  have hwindow : s.window = s'.window := by
    have hsome := halike.isSome_window
    cases hs : s.window <;> cases hs' : s'.window <;> simp only [hs, hs'] at hsome hbounds
    case none.none => rfl
    case none.some | some.none => cases hsome
    case some.some window window' =>
      rw [Window.eq_of_bindings (hexact window hs) (hexact' window' hs') hbounds]
  have hname : s.metric = s'.metric := MetricName.text_injective (Value.text.inj hmetric)
  have hlist := Matcher.eq_of_flatMap_bindings halike.kinds hmatchers
  cases s
  cases s'
  simp_all

/-- Two selectors have the same statement only if they are the same: the same metric, the same
matchers in the same order, and the same window. -/
theorem Selector.fragment_selector_inj (mode : PatternMode) {s s' : Selector}
    (hexact : ∀ window, s.window = some window → window.Unsaturated)
    (hexact' : ∀ window, s'.window = some window → window.Unsaturated) :
    (selector mode s).fragment = (selector mode s').fragment ↔ s = s' := by
  refine ⟨fun h => ?_, fun h => by rw [h]⟩
  obtain ⟨htext, hvalues⟩ := Fragment.mk.inj h
  rw [params_selector, params_selector, params_sampleTables, params_sampleTables] at hvalues
  exact (text_selector_eq_iff.mp htext).eq_of_bindings hexact hexact' hvalues

/-- A pattern and the text that it is bound as: the values are the same, and the statements are
not. -/
theorem Selector.fragment_selector_inj_anchored :
    ∃ s s' : Selector,
      s.text = "heap\x7bhost=~\"a|b\"\x7d[1s] @ -9223372036854774808" ∧
      s'.text = "heap\x7bhost=\"^(?:a|b)$\"\x7d[1s] @ -9223372036854774808" ∧
      (selector .fullMatch s).params = (selector .fullMatch s').params ∧
      (selector .fullMatch s).fragment ≠ (selector .fullMatch s').fragment := by
  let window : Window := ⟨1000, some (Int64.minValue + 1000), by decide, by decide⟩
  have hexact : ∀ other, some window = some other → other.Unsaturated := by
    intro other hother stop hstop
    cases hother
    cases hstop
    decide
  let s : Selector :=
    ⟨⟨"heap", by decide⟩, [⟨⟨"host", by decide⟩, .regex, "a|b", by decide +kernel⟩], some window⟩
  let s' : Selector :=
    ⟨⟨"heap", by decide⟩, [⟨⟨"host", by decide⟩, .equal, "^(?:a|b)$", by decide⟩], some window⟩
  refine ⟨s, s', by decide +kernel, by decide +kernel, ?_, ?_⟩
  · rw [params_selector, params_selector, params_sampleTables, params_sampleTables]
    rfl
  · intro h
    have hsame : s = s' := (fragment_selector_inj .fullMatch hexact hexact).mp h
    cases congrArg (fun s : Selector => s.matchers.map Matcher.kind) hsame

/-- Windows that reach below the least timestamp are not told apart. -/
example : Window.start? ⟨1001, some (Int64.minValue + 1000), by decide, by decide⟩ =
    Window.start? ⟨1002, some (Int64.minValue + 1000), by decide, by decide⟩ := by decide

end SeriesSql
