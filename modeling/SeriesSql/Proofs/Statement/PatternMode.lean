import SeriesSql.Proofs.Compile.Agreement
import SeriesSql.Proofs.Statement.Bindings
import SeriesSql.Proofs.Statement.Skeleton

/-!
# What the pattern mode changes

The pattern mode says whether the pattern of a matcher is bound as it is or between anchors.  It has
no other effect: an expression fails with the same error in both modes, or has statements with the
same text, whose values differ at the places of these patterns only.

There are three groups.

* `Expr.slots`: the values of an expression in order, with the patterns of matchers told apart.  The
  pattern of `label_replace` is a value like any other.
* `Expr.patterns`: the patterns of all selectors of an expression.  Each of them has its slot.
* Two runs.  `slots` gives the values of either one, and the text is that of one skeleton.
-/

namespace SeriesSql

open Sql Compile

/-! ## Slots -/

/-- A value that every mode binds, or the pattern of a matcher. -/
inductive Slot where
  | value (v : Value)
  | pattern (p : String)

namespace Slot

def bound (mode : PatternMode) : Slot → Value
  | value v => v
  | pattern p =>
    match mode with
    | .search => .text p
    | .fullMatch => .text ("^(?:" ++ p ++ ")$")

def pattern? : Slot → Option String
  | value _ => none
  | pattern p => some p

theorem map_bound_value (mode : PatternMode) (values : List Value) :
    (values.map value).map (bound mode) = values := by
  rw [List.map_map]
  exact List.map_id values

theorem filterMap_pattern?_value (values : List Value) :
    (values.map value).filterMap pattern? = [] := by
  simp [pattern?]

end Slot

def Matcher.slots (m : Matcher) : List Slot :=
  [.value (.text m.name.text),
    match m.kind with
    | .equal | .notEqual => .value (.text m.value)
    | .regex | .notRegex => .pattern m.value]

def Selector.slots (s : Selector) : List Slot :=
  ((s.window.map Window.bindings).getD []).map .value ++ .value (.text s.metric.text) ::
    s.matchers.flatMap Matcher.slots

namespace Expr

/-- The slots of an expression, from left to right. -/
def slots (o : Options) : Expr → List Slot
  | selector s => s.slots
  | call "quantile_over_time" [q, target] =>
    slots o target ++ (q.number?.map Value.real).toList.map .value
  | call function (input :: args) =>
    slots o input ++ (labelBindings o.labelMode function args).map .value
  | call _ [] => []
  | aggregate _ grouping operand =>
    slots o operand ++
      (grouping.bindings o.canonicalGrouping (if operand.isLatest then 2 else 6)).map .value
  | binary _ _ left right => slots o left ++ slots o right
  | paren inner => slots o inner
  | number x => [.value (.real x)]
  | text _ => []

end Expr

theorem map_bound_matcher (mode : PatternMode) (m : Matcher) :
    m.slots.map (Slot.bound mode) = m.bindings mode := by
  unfold Matcher.slots Matcher.bindings
  cases m.kind <;> cases mode <;> rfl

theorem map_bound_selector (mode : PatternMode) (s : Selector) :
    s.slots.map (Slot.bound mode) = s.bindings mode := by
  have hmatchers : (s.matchers.flatMap Matcher.slots).map (Slot.bound mode) =
      s.matchers.flatMap (Matcher.bindings mode) := by
    rw [List.map_flatMap]
    congr
    funext m
    exact map_bound_matcher mode m
  rw [Selector.slots, List.map_append, Slot.map_bound_value, List.map_cons, hmatchers]
  rfl

/-- The values of an expression in a mode are its slots, bound in that mode. -/
theorem Expr.map_bound_slots (o : Options) (mode : PatternMode) (e : Expr) :
    (e.slots o).map (Slot.bound mode) = e.bindings { o with patternMode := mode } := by
  fun_induction Expr.slots o e with
  | case1 s => exact map_bound_selector mode s
  | case2 q target ih => rw [bindings, List.map_append, ih, Slot.map_bound_value]
  | case3 function input args hother ih =>
    rw [bindings, List.map_append, ih, Slot.map_bound_value]
    exact hother
  | case4 function =>
    rw [bindings]
    rfl
  | case5 operator grouping operand ih => rw [bindings, List.map_append, ih, Slot.map_bound_value]
  | case6 operator cmp left right ihLeft ihRight => rw [bindings, List.map_append, ihLeft, ihRight]
  | case7 inner ih => rw [bindings, ih]
  | case8 x => rfl
  | case9 s => rfl

/-! ## Patterns -/

/-- The patterns of a selector, in the order of its matchers. -/
def Selector.patterns (s : Selector) : List String :=
  (s.matchers.filter fun m => m.kind.isRegex).map Matcher.value

namespace Expr

mutual

/-- The patterns of all selectors of an expression, from left to right. -/
def patterns : Expr → List String
  | selector s => s.patterns
  | call _ args => patternsList args
  | aggregate _ _ operand => operand.patterns
  | binary _ _ left right => left.patterns ++ right.patterns
  | paren inner => inner.patterns
  | number _ => []
  | text _ => []

def patternsList : List Expr → List String
  | [] => []
  | e :: rest => e.patterns ++ patternsList rest

end

theorem patterns_stripParens (e : Expr) : e.stripParens.patterns = e.patterns :=
  apply_stripParens (fun inner => by rw [patterns]) e

theorem slots_stripParens (o : Options) (e : Expr) : e.stripParens.slots o = e.slots o :=
  apply_stripParens (fun inner => by rw [slots]) e

theorem patternsList_of_texts {args : List Expr} {texts : List String}
    (h : args.map stripParens = texts.map .text) : patternsList args = [] := by
  induction args generalizing texts with
  | nil => rw [patternsList]
  | cons arg args ih =>
    cases texts with
    | nil => cases h
    | cons value texts =>
      obtain ⟨harg, hargs⟩ := List.cons.inj h
      rw [patternsList, ← patterns_stripParens, harg, patterns, ih hargs, List.nil_append]

theorem patterns_slots_matcher (m : Matcher) :
    m.slots.filterMap Slot.pattern? = if m.kind.isRegex then [m.value] else [] := by
  unfold Matcher.slots
  cases m.kind <;> rfl

theorem patterns_slots_selector (s : Selector) : s.slots.filterMap Slot.pattern? = s.patterns := by
  have hmatchers : ∀ matchers : List Matcher,
      (matchers.flatMap Matcher.slots).filterMap Slot.pattern? =
        (matchers.filter fun m => m.kind.isRegex).map Matcher.value := by
    intro matchers
    induction matchers with
    | nil => rfl
    | cons m rest ih =>
      rw [List.flatMap_cons, List.filterMap_append, patterns_slots_matcher, ih, List.filter_cons]
      split <;> rfl
  rw [Selector.slots, List.filterMap_append, Slot.filterMap_pattern?_value, List.nil_append,
    List.filterMap_cons, hmatchers]
  rfl

theorem patterns_slots_of_stripParens {o : Options} {e : Expr} {s : Selector}
    (h : e.stripParens = .selector s) : (e.slots o).filterMap Slot.pattern? = e.patterns := by
  rw [← slots_stripParens, ← patterns_stripParens, h, slots, patterns, patterns_slots_selector]

/-- Every pattern of a compiled expression has its slot. -/
theorem patterns_slots_of_compiles {o : Options} {e : Expr} {c : Compiled} (h : Compiles o e c) :
    (e.slots o).filterMap Slot.pattern? = e.patterns := by
  induction h with
  | selector s => rw [slots, patterns, patterns_slots_selector]
  | @rollup function target call hname hquantile htarget =>
    rw [slots, patterns, patternsList, patternsList, List.filterMap_append,
      Slot.filterMap_pattern?_value, patterns_slots_of_stripParens htarget]
    simp
  | @quantile function q target x call hname hnumber hquantile htarget =>
    have hfunction := eq_of_ofName?_quantile hname
    have hq : q.patterns = [] := by rw [← patterns_stripParens, hnumber, patterns]
    subst hfunction
    rw [slots, patterns, patternsList, patternsList, patternsList, hq, List.filterMap_append,
      Slot.filterMap_pattern?_value, patterns_slots_of_stripParens htarget]
    simp
  | @label function f input args code texts edit relabeling hname hinput htexts hedit hrelabels
      ih =>
    have hfunction : function ≠ "quantile_over_time" := by
      rintro rfl
      cases hname
    rw [slots, patterns, patternsList, patternsList_of_texts htexts, List.filterMap_append,
      Slot.filterMap_pattern?_value, ih]
    exact fun _ h _ => hfunction h
  | @latest operator kind grouping p operand s hkind hsplits hoperand hwindow =>
    rw [slots, patterns, List.filterMap_append, Slot.filterMap_pattern?_value,
      patterns_slots_of_stripParens hoperand, List.append_nil]
  | timed hkind hsplits hoperand htimed ih =>
    rw [slots, patterns, List.filterMap_append, Slot.filterMap_pattern?_value, ih, List.append_nil]
  | binary hop hleft hright hjoin ihLeft ihRight =>
    rw [slots, patterns, List.filterMap_append, ihLeft, ihRight]
  | paren hinner ih => rw [slots, patterns, ih]
  | number x => rfl

/-! ## Two runs -/

theorem labelCallsAgree_refl (e : Expr) : e.LabelCallsAgree e := by
  have htexts (f : LabelFunction) (texts : List String) : f.TextsAgree texts texts := by
    unfold LabelFunction.TextsAgree
    split <;> trivial
  induction e using Expr.inductionOn with
  | call function args ih =>
    have hargs : LabelCallsAgreeList args args := by
      induction args with
      | nil => trivial
      | cons arg args ihArgs =>
        rw [List.forall_mem_cons] at ih
        exact ⟨ih.1, ihArgs ih.2⟩
    exact ⟨fun f _ => htexts f _, hargs⟩
  | aggregate operator grouping operand ih => exact ih
  | binary operator mode left right ihLeft ihRight => exact ⟨ihLeft, ihRight⟩
  | paren inner ih => exact ih
  | selector | number | text => trivial

/-- The pattern mode decides how the patterns of matchers are bound, and nothing else: the
expression fails with the same error in both modes, or has the same text and the same slots in
both. -/
theorem statement_patternMode (o : Options) (e : Expr) :
    (∃ cause, ∀ mode, e.statement { o with patternMode := mode } = .error cause) ∨
      (e.slots o).filterMap Slot.pattern? = e.patterns ∧
        ∃ text, ∀ mode, e.statement { o with patternMode := mode } =
          .ok ⟨text, (e.slots o).map (Slot.bound mode)⟩ := by
  have hagree (mode : PatternMode) := agree_compile o { o with patternMode := mode } e
  cases hcompile : e.compile o with
  | error cause =>
    refine .inl ⟨cause, fun mode => ?_⟩
    have hcause := (hcompile ▸ hagree mode).eq_error
    rw [statement, hcause]
    rfl
  | ok c =>
    have hc := compile_eq_ok_iff.mp hcompile
    refine .inr ⟨patterns_slots_of_compiles hc, (rowsCode c).text, fun mode => ?_⟩
    obtain ⟨c', hcompile', -⟩ := (hcompile ▸ hagree mode).exists_ok
    have hc' := compile_eq_ok_iff.mp hcompile'
    have htext : (rowsCode c').text = (rowsCode c).text :=
      (text_rowsCode (alike_of_compiles hc hc' rfl (labelCallsAgree_refl e))).symm
    have hparams : (rowsCode c').params = (e.slots o).map (Slot.bound mode) := by
      rw [params_rowsCode, params_of_compiles hc', map_bound_slots]
    rw [statement, hcompile', ← htext, ← hparams]
    rfl

end Expr

end SeriesSql
