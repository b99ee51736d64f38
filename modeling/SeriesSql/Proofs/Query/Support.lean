import Mathlib.Data.Set.List
import SeriesSql.Proofs.Query.Selection

/-!
# Queries that can be lowered

A query can be lowered exactly if each of its nodes is supported.  Whether a node is supported
depends on its own fields only (`Supported`), so nothing that is not supported is dropped on the
way, at any depth.  The expression that comes out has the query's tree (`Represents`): only a minus
sign becomes something else, a multiplication by -1.

There are five groups.

* Nodes of a query.
* What is supported of a series, a modifier and a node.
* Series and modifiers, which can be lowered if they are supported.
* The step: a node can be lowered if it is supported and the nodes below it can be lowered.
* The tree of the expression, with the texts of operators and aggregators.
-/

namespace SeriesSql.Query

/-! ## Nodes -/

/-- The queries right below a query, parameters of aggregations among them. -/
def children : Query → List Query
  | subquery operand _ _ _ | negate operand | paren operand => [operand]
  | call _ args => args
  | aggregate _ _ param operand => param.toList ++ [operand]
  | binary _ _ left right => [left, right]
  | selector _ | range _ _ | number _ | text _ | extension _ => []

/-- `q.HasNode n` if `n` is `q` or stands somewhere below it. -/
inductive HasNode : Query → Query → Prop where
  | self (q : Query) : HasNode q q
  | inside {q c n : Query} (hchild : c ∈ q.children) (hnode : HasNode c n) : HasNode q n

theorem forall_hasNode_iff {q : Query} {P : Query → Prop} :
    (∀ n, q.HasNode n → P n) ↔ P q ∧ ∀ c ∈ q.children, ∀ n, c.HasNode n → P n := by
  constructor
  · intro h
    exact ⟨h q (.self q), fun c hc n hn => h n (.inside hc hn)⟩
  · rintro ⟨hq, hchildren⟩ n hn
    cases hn with
    | self => exact hq
    | inside hc hn => exact hchildren _ hc n hn

theorem sizeOf_lt_of_mem_children {q c : Query} (h : c ∈ q.children) : sizeOf c < sizeOf q := by
  cases q with
  | subquery operand duration step shift =>
    obtain rfl := List.mem_singleton.mp h
    simp only [subquery.sizeOf_spec]
    omega
  | negate operand =>
    obtain rfl := List.mem_singleton.mp h
    simp only [negate.sizeOf_spec]
    omega
  | paren inner =>
    obtain rfl := List.mem_singleton.mp h
    simp only [paren.sizeOf_spec]
    omega
  | call function args =>
    have hargs : sizeOf c < sizeOf args := List.sizeOf_lt_of_mem h
    simp only [call.sizeOf_spec]
    omega
  | aggregate op grouping param operand =>
    simp only [children, List.mem_append, Option.mem_toList, List.mem_singleton] at h
    rcases h with rfl | rfl
    · simp only [aggregate.sizeOf_spec, Option.some.sizeOf_spec]
      omega
    · simp only [aggregate.sizeOf_spec]
      omega
  | binary op matching left right =>
    simp only [children, List.mem_cons, List.not_mem_nil, or_false] at h
    simp only [binary.sizeOf_spec]
    rcases h with rfl | rfl
    · omega
    · omega
  | selector | range | number | text | extension => cases h

/-- What holds of a query if it holds of those right below it holds of every query. -/
theorem inductionOn {P : Query → Prop} (q : Query)
    (step : ∀ q, (∀ c ∈ q.children, P c) → P q) : P q :=
  step q fun c _ => inductionOn c step
termination_by sizeOf q
decreasing_by exact sizeOf_lt_of_mem_children ‹_›

/-! ## What is supported -/

/-- The series that have a selector. -/
structure Series.Supported (s : Series) (range : Option Nat) : Prop where
  offset : s.shift.offset = none
  time : s.shift.time = none
  alternatives : s.alternatives = []
  name : ∃ name, s.Names name ∧ isMetricName name = true ∧
    ∀ t ∈ s.tests, t.label = nameLabel → t.kind = .equal ∧ t.value = name
  tests : ∀ t ∈ s.tests, t.label ≠ nameLabel →
    isLabelName t.label = true ∧ (t.kind.isRegex = true → isPattern t.value = true)
  length : ∀ nanos, range = some nanos →
    nanos = 0 ∨ 1 ≤ nanos / 1000000 ∧ nanos / 1000000 ≤ 9223372036854775807

/-- The groupings that are supported, by or without names of labels; `without` needs one. -/
def GroupingSupported (grouping : Option (GroupClause × List String)) : Prop :=
  ∀ clause labels, grouping = some (clause, labels) →
    (∀ label ∈ labels, isLabelName label = true) ∧ (clause = .without → labels ≠ [])

/-- Vectors are matched on all of their labels, one to one. -/
def Matching.Supported (m : Matching) : Prop :=
  m.group = none ∧ (m.labels = none ∨ m.labels = some (.ignoring []))

/-- Whether a node is supported, whatever stands below it. -/
def Supported : Query → Prop
  | selector s => s.Supported none
  | range s duration => s.Supported (some duration)
  | aggregate _ grouping param _ => param = none ∧ GroupingSupported grouping
  | binary _ matching _ _ => matching.Supported
  | subquery _ _ _ _ | extension _ => False
  | call _ _ | negate _ | paren _ | number _ | text _ => True

/-! ## Series -/

theorem Series.metric?_eq_some {s : Series} {name : String} (hname : s.Names name)
    (htests : ∀ t ∈ s.tests, t.label = nameLabel → t = nameTest name) : s.metric? = some name := by
  unfold metric?
  rcases hname with hgiven | ⟨hnone, htest⟩
  · rw [hgiven]
  · rw [hnone]
    cases hfind : s.tests.find? fun t => t.label == nameLabel && t.kind == .equal with
    | none =>
      have hnot := List.find?_eq_none.mp hfind _ htest
      simp [nameTest] at hnot
    | some t =>
      have ht := List.find?_some hfind
      simp only [Bool.and_eq_true, beq_iff_eq] at ht
      rw [htests t (List.mem_of_find?_eq_some hfind) ht.1]
      rfl

theorem exists_test_iff {t : LabelTest} :
    (∃ m : Matcher, m.test = t) ↔
      isLabelName t.label = true ∧ (t.kind.isRegex = true → isPattern t.value = true) := by
  simp only [← ofParts_test_eq_ok_iff, Matcher.exists_ofParts_iff]

theorem exists_covers_iff {range : Option Nat} :
    (∃ window, Covers range window) ↔ ∀ nanos, range = some nanos →
      nanos = 0 ∨ 1 ≤ nanos / 1000000 ∧ nanos / 1000000 ≤ 9223372036854775807 := by
  constructor
  · rintro ⟨window, h⟩ nanos rfl
    cases h with
    | zero => exact .inl rfl
    | whole hmillis hstop =>
      have hmade := Covers.some_iff.mp (.whole hmillis hstop)
      exact .inr ((Window.makes_ofNanos nanos).made_iff.mp ⟨_, hmade⟩)
  · intro h
    cases range with
    | none => exact ⟨none, .absent⟩
    | some nanos =>
      rcases h nanos rfl with rfl | hlength
      · exact ⟨none, .zero⟩
      · obtain ⟨window, hmade⟩ := (Window.makes_ofNanos nanos).made_iff.mpr hlength
        exact ⟨some window, Covers.some_iff.mpr hmade⟩

theorem Series.exists_lowersTo_iff {s : Series} {range : Option Nat} :
    (∃ sel, s.LowersTo range sel) ↔ s.Supported range := by
  constructor
  · rintro ⟨sel, h⟩
    refine ⟨h.offset, h.time, h.alternatives,
      ⟨sel.metric.text, names_of_metric? h.metric, sel.metric.valid, fun t ht hlabel => ?_⟩,
      fun t ht hlabel => exists_test_iff.mp ?_, exists_covers_iff.mp ⟨_, h.window⟩⟩
    · rw [h.names t ht hlabel]
      exact ⟨rfl, rfl⟩
    · obtain ⟨m, -, hm⟩ := (h.mem_tests_iff hlabel).mp ht
      exact ⟨m, hm⟩
  · rintro ⟨hoffset, htime, halternatives, ⟨name, hname, hvalid, hequal⟩, htests, hlength⟩
    have hnames : ∀ t ∈ s.tests, t.label = nameLabel → t = nameTest name := by
      intro t ht hlabel
      obtain ⟨hkind, hvalue⟩ := hequal t ht hlabel
      rw [nameTest, ← hlabel, ← hkind, ← hvalue]
    have hmatchers : s.tests.filter (· ≠ nameTest name) ∈ Set.range (List.map Matcher.test) := by
      rw [Set.range_list_map]
      intro t ht
      obtain ⟨hmem, hne⟩ := List.mem_filter.mp ht
      exact exists_test_iff.mpr (htests t hmem fun hlabel => by simp [hnames t hmem hlabel] at hne)
    obtain ⟨matchers, hmatchers⟩ := hmatchers
    obtain ⟨window, hwindow⟩ := exists_covers_iff.mpr hlength
    -- The first test of the name may be any of them, since all ask for the same name.
    exact ⟨⟨⟨name, hvalid⟩, matchers, window⟩, hoffset, htime, halternatives,
      metric?_eq_some hname hnames, hnames, hmatchers, hwindow⟩

/-! ## Modifiers -/

/-- The grouping of a clause and its labels. -/
inductive Groups : Option (GroupClause × List String) → Grouping → Prop where
  | absent : Groups none .all
  | byNothing : Groups (some (.by, [])) .all
  | byNames {labels : List String} {names : List LabelName} (hlabels : labels ≠ [])
      (hnames : names.map LabelName.text = labels) : Groups (some (.by, labels)) (.by names)
  | withoutNames {labels : List String} {names : List LabelName} (hlabels : labels ≠ [])
      (hnames : names.map LabelName.text = labels) :
      Groups (some (.without, labels)) (.without names)

theorem ofClause_eq_ok_iff {clause : GroupClause} {labels : List String} {grouping : Grouping} :
    Grouping.ofClause clause labels = .ok grouping ↔
      labels ≠ [] ∧ Groups (some (clause, labels)) grouping := by
  have hread {names : List LabelName} :
      labels.mapM LabelName.ofString = .ok names ↔ names.map LabelName.text = labels :=
    LabelName.readAll_eq_ok_iff fun _ _ => LabelName.ofString_eq_ok_iff
  by_cases hempty : labels = []
  · subst hempty
    cases clause <;>
      simp [Grouping.ofClause, throw, throwThe, MonadExceptOf.throw, bind, Except.bind]
  · have hisEmpty : labels.isEmpty = false := by simpa using hempty
    simp only [Grouping.ofClause, hisEmpty, Bool.false_eq_true, if_false]
    cases clause with
    | «by» =>
      simp only [bind_eq_ok, hread, pure_eq_ok]
      constructor
      · rintro ⟨names, hnames, rfl⟩
        exact ⟨hempty, .byNames hempty hnames⟩
      · rintro ⟨-, h⟩
        cases h with
        | byNothing => exact absurd rfl hempty
        | byNames _ hnames => exact ⟨_, hnames, rfl⟩
    | without =>
      simp only [bind_eq_ok, hread, pure_eq_ok]
      constructor
      · rintro ⟨names, hnames, rfl⟩
        exact ⟨hempty, .withoutNames hempty hnames⟩
      · rintro ⟨-, h⟩
        cases h with
        | withoutNames _ hnames => exact ⟨_, hnames, rfl⟩

theorem lowerGrouping_eq_ok_iff {clause : Option (GroupClause × List String)}
    {grouping : Grouping} : lowerGrouping clause = .ok grouping ↔ Groups clause grouping := by
  unfold lowerGrouping
  split
  · constructor
    · intro h
      cases h
      exact .absent
    · intro h
      cases h
      rfl
  · constructor
    · intro h
      cases h
      exact .byNothing
    · intro h
      cases h with
      | byNothing => rfl
      | byNames hlabels => exact absurd rfl hlabels
  · rename_i clause labels hclause
    rw [mapError_eq_ok_iff, ofClause_eq_ok_iff]
    refine ⟨And.right, fun h => ⟨?_, h⟩⟩
    cases h with
    | byNothing => exact absurd rfl (hclause rfl)
    | byNames hlabels | withoutNames hlabels => exact hlabels

theorem exists_groups_iff {clause : Option (GroupClause × List String)} :
    (∃ grouping, Groups clause grouping) ↔ GroupingSupported clause := by
  constructor
  · rintro ⟨grouping, h⟩ kind labels rfl
    cases h with
    | byNothing => simp
    | byNames hlabels hnames | withoutNames hlabels hnames =>
      subst hnames
      refine ⟨fun label hlabel => ?_, fun _ => hlabels⟩
      obtain ⟨name, -, rfl⟩ := List.mem_map.mp hlabel
      exact name.valid
  · intro h
    rcases clause with _ | ⟨kind, labels⟩
    · exact ⟨.all, .absent⟩
    · obtain ⟨hvalid, hwithout⟩ := h kind labels rfl
      have hnames : labels ∈ Set.range (List.map LabelName.text) := by
        rw [Set.range_list_map]
        exact fun label hlabel => ⟨⟨label, hvalid label hlabel⟩, rfl⟩
      obtain ⟨names, hnames⟩ := hnames
      cases kind with
      | «by» =>
        by_cases hlabels : labels = []
        · subst hlabels
          exact ⟨.all, .byNothing⟩
        · exact ⟨.by names, .byNames hlabels hnames⟩
      | without => exact ⟨.without names, .withoutNames (hwithout rfl) hnames⟩

theorem lowerMatching_eq_ok_iff {m : Matching} {mode : ComparisonMode} :
    lowerMatching m = .ok mode ↔ m.Supported ∧ (if m.bool then .bool else .filter) = mode := by
  obtain ⟨bool, labels, group⟩ := m
  unfold lowerMatching Matching.Supported
  cases group with
  | some lent => simp [unsupported]
  | none =>
    rcases labels with _ | labels | _ | _ <;> simp [unsupported]

/-! ## The step -/

theorem exists_lowerAll_iff {qs : List Query} :
    (∃ es, lowerAll qs = .ok es) ↔ ∀ q ∈ qs, ∃ e, q.lower = .ok e := by
  induction qs with
  | nil => simp [lowerAll]
  | cons q rest ih => simp [lowerAll, exists_bind_eq_ok_iff, exists_map_eq_ok_iff, ih]

/-- A node can be lowered if it is supported and the nodes right below it can be lowered. -/
theorem exists_lower_iff (q : Query) :
    (∃ e, q.lower = .ok e) ↔ q.Supported ∧ ∀ c ∈ q.children, ∃ e, c.lower = .ok e := by
  cases q with
  | selector s | range s duration =>
    simp [lower, exists_map_eq_ok_iff, lowerSeries_eq_ok_iff, Series.exists_lowersTo_iff, Supported,
      children]
  | call function args =>
    simp [lower, exists_map_eq_ok_iff, exists_lowerAll_iff, Supported, children]
  | aggregate op grouping param operand =>
    cases param with
    | none =>
      simp [lower, exists_bind_eq_ok_iff, exists_map_eq_ok_iff, lowerGrouping_eq_ok_iff,
        exists_groups_iff, Supported, children]
    | some param => simp [lower, Supported]
  | binary op matching left right =>
    simp [lower, exists_bind_eq_ok_iff, exists_map_eq_ok_iff, lowerMatching_eq_ok_iff, Supported,
      children]
  | negate operand | paren operand => simp [lower, exists_map_eq_ok_iff, Supported, children]
  | number value | text value => simp [lower, Supported, children]
  | subquery | extension => simp [lower, unsupported, Supported]

theorem exists_lower_iff_supported (q : Query) :
    (∃ e, q.lower = .ok e) ↔ ∀ n, q.HasNode n → n.Supported := by
  induction q using inductionOn with
  | step q ih =>
    rw [exists_lower_iff, forall_hasNode_iff]
    exact and_congr_right fun _ => forall₂_congr ih

/-! ## The tree of the expression -/

/-- The text of each operator in an expression. -/
def operatorTexts : List (Operator × String) :=
  [(.basic (.arithmetic .add), "+"), (.basic (.arithmetic .sub), "-"),
    (.basic (.arithmetic .mul), "*"), (.basic (.arithmetic .div), "/"),
    (.basic (.arithmetic .mod), "%"), (.basic (.comparison .equal), "=="),
    (.basic (.comparison .unequal), "!="), (.basic (.comparison .less), "<"),
    (.basic (.comparison .greater), ">"), (.basic (.comparison .atMost), "<="),
    (.basic (.comparison .atLeast), ">="), (.basic (.set .intersection), "and"),
    (.basic (.set .union), "or"), (.basic (.set .difference), "unless"), (.power, "^"),
    (.arcTangent, "atan2")]

def aggregatorTexts : List (Aggregator × String) :=
  [(.sum, "sum"), (.avg, "avg"), (.count, "count"), (.min, "min"), (.max, "max"),
    (.group, "group"), (.stddev, "stddev"), (.stdvar, "stdvar"), (.topk, "topk"),
    (.bottomk, "bottomk"), (.countValues, "count_values"), (.quantile, "quantile")]

theorem mem_operatorTexts (op : Operator) : (op, op.symbol) ∈ operatorTexts := by
  rcases op with (op | op | op) | _ | _
  · cases op <;> decide
  · cases op <;> decide
  · cases op <;> decide
  · decide
  · decide

theorem mem_aggregatorTexts (op : Aggregator) : (op, op.name) ∈ aggregatorTexts := by
  cases op <;> decide

/-- The expression of a query: the same tree, where a minus sign is a multiplication by -1. -/
inductive Represents : Query → Expr → Prop where
  | selector {s : Series} {sel : Selector} (h : s.LowersTo none sel) :
      Represents (selector s) (.selector sel)
  | range {s : Series} {duration : Nat} {sel : Selector} (h : s.LowersTo (some duration) sel) :
      Represents (range s duration) (.selector sel)
  | call {function : String} {args : List Query} {es : List Expr}
      (hargs : List.Forall₂ Represents args es) :
      Represents (call function args) (.call function es)
  | aggregate {op : Aggregator} {text : String} {clause : Option (GroupClause × List String)}
      {grouping : Grouping} {operand : Query} {e : Expr} (htext : (op, text) ∈ aggregatorTexts)
      (hgrouping : Groups clause grouping) (hoperand : Represents operand e) :
      Represents (aggregate op clause none operand) (.aggregate text grouping e)
  | binary {op : Operator} {text : String} {matching : Matching} {left right : Query} {l r : Expr}
      (htext : (op, text) ∈ operatorTexts) (hmatching : matching.Supported)
      (hleft : Represents left l) (hright : Represents right r) :
      Represents (binary op matching left right)
        (.binary text (if matching.bool then .bool else .filter) l r)
  | negate {operand : Query} {e : Expr} (hoperand : Represents operand e) :
      Represents (negate operand) (.binary "*" .bool e (.number (-1.0)))
  | paren {inner : Query} {e : Expr} (hinner : Represents inner e) :
      Represents (paren inner) (.paren e)
  | number (value : Float) : Represents (number value) (.number value)
  | text (value : String) : Represents (text value) (.text value)

theorem lowerAll_eq_mapM (qs : List Query) : lowerAll qs = qs.mapM lower := by
  induction qs with
  | nil => rfl
  | cons q rest ih => rw [lowerAll, List.mapM_cons, ih]

theorem represents_of_lower (q : Query) : ∀ e, q.lower = .ok e → q.Represents e := by
  induction q using inductionOn with
  | step q ih =>
    intro e h
    cases q with
    | selector s =>
      simp only [lower, bind_eq_ok, lowerSeries_eq_ok_iff, pure_eq_ok] at h
      obtain ⟨sel, hsel, rfl⟩ := h
      exact .selector hsel
    | range s duration =>
      simp only [lower, bind_eq_ok, lowerSeries_eq_ok_iff, pure_eq_ok] at h
      obtain ⟨sel, hsel, rfl⟩ := h
      exact .range hsel
    | call function args =>
      simp only [lower, bind_eq_ok, lowerAll_eq_mapM, mapM_eq_ok_iff, pure_eq_ok] at h
      obtain ⟨es, hes, rfl⟩ := h
      -- The arguments are all of the nodes below, so the hypothesis goes along with each of them.
      exact .call (((List.forall₂_and_left args es).mpr ⟨ih, hes⟩).imp fun c e h => h.1 e h.2)
    | aggregate op clause param operand =>
      cases param with
      | some param => cases h
      | none =>
        simp only [lower, bind_eq_ok, lowerGrouping_eq_ok_iff, pure_eq_ok] at h
        obtain ⟨grouping, hgrouping, e, he, rfl⟩ := h
        exact .aggregate (mem_aggregatorTexts op) hgrouping
          (ih operand (by simp [children]) e he)
    | binary op matching left right =>
      simp only [lower, bind_eq_ok, lowerMatching_eq_ok_iff, pure_eq_ok] at h
      obtain ⟨_, ⟨hmatching, rfl⟩, l, hl, r, hr, rfl⟩ := h
      exact .binary (mem_operatorTexts op) hmatching (ih left (by simp [children]) l hl)
        (ih right (by simp [children]) r hr)
    | negate operand =>
      simp only [lower, bind_eq_ok, pure_eq_ok] at h
      obtain ⟨e, he, rfl⟩ := h
      exact .negate (ih operand (by simp [children]) e he)
    | paren inner =>
      simp only [lower, bind_eq_ok, pure_eq_ok] at h
      obtain ⟨e, he, rfl⟩ := h
      exact .paren (ih inner (by simp [children]) e he)
    | number value =>
      cases h
      exact .number value
    | text value =>
      cases h
      exact .text value
    | subquery | extension => cases h

/-- A query has an expression exactly if all of its nodes are supported, and the expression has the
query's tree. -/
theorem lower_ok_iff_supported_and_represents (q : Query) :
    ((∃ e, q.lower = .ok e) ↔ ∀ n, q.HasNode n → n.Supported) ∧
      ∀ e, q.lower = .ok e → q.Represents e :=
  ⟨q.exists_lower_iff_supported, q.represents_of_lower⟩

/-- The rates of a series, summed by `job` and increased by one; the idle jobs are left out, and
what is left is negated. -/
def negatedRates (s : Series) : Query :=
  negate
    (paren
      (binary (.basic (.set .difference)) ⟨false, none, none⟩
        (binary (.basic (.arithmetic .add)) ⟨false, none, none⟩
          (aggregate .sum (some (.by, ["job"])) none (call "rate" [range s 300000000000]))
          (number 1.0))
        (selector ⟨some "idle", [], [], ⟨none, none⟩⟩)))

/-- The tree of the query shows in the expression. -/
theorem exists_eq_of_represents_negatedRates {s : Series} {e : Expr}
    (h : (negatedRates s).Represents e) :
    ∃ grouping range idle,
      e = .binary "*" .bool
        (.paren (.binary "unless" .filter
          (.binary "+" .filter (.aggregate "sum" grouping (.call "rate" [.selector range]))
            (.number 1.0))
          (.selector idle)))
        (.number (-1.0)) := by
  cases h with
  | negate hparen =>
  cases hparen with
  | paren hset =>
  cases hset with
  | binary hunless _ hleft hidle =>
  cases hleft with
  | binary hplus _ hrates hone =>
  cases hrates with
  | aggregate hsum _ hcall =>
  cases hcall with
  | call hargs =>
  cases hargs with
  | cons harg hnil =>
    cases harg
    cases hnil
    cases hone
    cases hidle
    obtain rfl : _ = "unless" := by simpa [operatorTexts] using hunless
    obtain rfl : _ = "+" := by simpa [operatorTexts] using hplus
    obtain rfl : _ = "sum" := by simpa [aggregatorTexts] using hsum
    exact ⟨_, _, _, rfl⟩

def requests (offset : Option Int) : Series :=
  ⟨some "requests", [⟨"env", .regex, "a|b"⟩], [], ⟨offset, none⟩⟩

/-- The operators stand at their places, and an offset is refused six levels below the root. -/
theorem lower_ok_iff_supported_and_represents_rates :
    (∃ e grouping range idle, (negatedRates (requests none)).lower = .ok e ∧
      e = .binary "*" .bool
        (.paren (.binary "unless" .filter
          (.binary "+" .filter (.aggregate "sum" grouping (.call "rate" [.selector range]))
            (.number 1.0))
          (.selector idle)))
        (.number (-1.0))) ∧
    (∀ n, (negatedRates (requests none)).HasNode n → n.Supported) ∧
    ¬∃ e, (negatedRates (requests (some 1))).lower = .ok e := by
  obtain ⟨hok, hrepresents⟩ := lower_ok_iff_supported_and_represents (negatedRates (requests none))
  obtain ⟨hshifted, -⟩ := lower_ok_iff_supported_and_represents (negatedRates (requests (some 1)))
  have hlower : ∃ e, (negatedRates (requests none)).lower = .ok e := by
    have hisOk : (negatedRates (requests none)).lower.isOk = true := by decide +kernel
    cases h : (negatedRates (requests none)).lower with
    | ok e => exact ⟨e, rfl⟩
    | error cause =>
      rw [h] at hisOk
      cases hisOk
  refine ⟨?_, hok.mp hlower, fun hlower => ?_⟩
  · obtain ⟨e, he⟩ := hlower
    obtain ⟨grouping, range, idle, htree⟩ :=
      exists_eq_of_represents_negatedRates (hrepresents e he)
    exact ⟨e, grouping, range, idle, he, htree⟩
  · have hrange : (negatedRates (requests (some 1))).HasNode
        (range (requests (some 1)) 300000000000) :=
      .inside List.mem_cons_self (.inside List.mem_cons_self (.inside List.mem_cons_self
        (.inside List.mem_cons_self (.inside List.mem_cons_self (.inside List.mem_cons_self
          (.self _))))))
    cases (hshifted.mp hlower _ hrange).offset

end SeriesSql.Query
