import SeriesSql.Proofs.Compile.Derivation

/-!
# The expressions that compile

`Expr.HasShape e s` says in the words of the query language which expressions have SQL, and whether
it yields a scalar or a vector.  It knows no options and no code: functions and operators are listed
by name, label names are described by their characters.  `compile_shape_iff` says that exactly these
expressions compile, with exactly these shapes, whatever the options are.

There are five groups.

* Names and quantiles, described without the functions that check them.
* The rules, one for each construct.
* The operators and functions that have the listed names, and the shapes that operators join.
* From code that compiles to the rules, by induction over its derivation.
* From the rules to code that compiles.
-/

namespace SeriesSql

open Sql Compile Labels

/-! ## Names and quantiles -/

/-- A letter of the ASCII alphabet or an underscore. -/
def IsNameStart (c : Char) : Prop :=
  ('a' ≤ c ∧ c ≤ 'z') ∨ ('A' ≤ c ∧ c ≤ 'Z') ∨ c = '_'

/-- `[a-zA-Z_][a-zA-Z0-9_]*`. -/
def IsName (name : String) : Prop :=
  ∃ first rest, name.toList = first :: rest ∧ IsNameStart first ∧
    ∀ c ∈ rest, IsNameStart c ∨ ('0' ≤ c ∧ c ≤ '9')

theorem isNameStart_iff {c : Char} : (c.isAlpha || c == '_') = true ↔ IsNameStart c := by
  have halpha : c.isAlpha =
      (decide ('A' ≤ c ∧ c ≤ 'Z') || decide ('a' ≤ c) && decide (c ≤ 'z')) := rfl
  simp only [halpha, Bool.or_eq_true, Bool.and_eq_true, decide_eq_true_eq, beq_iff_eq, IsNameStart]
  tauto

theorem isNamePart_iff {c : Char} :
    (c.isAlphanum || c == '_') = true ↔ IsNameStart c ∨ ('0' ≤ c ∧ c ≤ '9') := by
  have halphanum : c.isAlphanum = (c.isAlpha || decide ('0' ≤ c) && decide (c ≤ '9')) := rfl
  rw [← isNameStart_iff]
  simp only [halphanum, Bool.or_eq_true, Bool.and_eq_true, decide_eq_true_eq]
  tauto

theorem isLabelName_iff {name : String} : isLabelName name = true ↔ IsName name := by
  unfold isLabelName IsName
  cases name.toList with
  | nil => simp
  | cons first rest =>
    rw [Bool.and_eq_true, isNameStart_iff, List.all_eq_true]
    simp only [isNamePart_iff, List.cons.injEq]
    constructor
    · rintro ⟨hfirst, hrest⟩
      exact ⟨first, rest, ⟨rfl, rfl⟩, hfirst, hrest⟩
    · rintro ⟨_, _, ⟨rfl, rfl⟩, hfirst, hrest⟩
      exact ⟨hfirst, hrest⟩

/-- What is no number is not above anything. -/
theorem isNaN_eq_false_of_le {x y : Float} (h : x ≤ y) : y.isNaN = false := by
  have hle : Float.Model.UnpackedFloat.le x.toModel.unpack y.toModel.unpack = true :=
    of_decide_eq_true h
  change y.toModel.unpack.isNaN = false
  cases hy : y.toModel.unpack with
  | notANumber =>
    rw [hy] at hle
    cases hx : x.toModel.unpack <;> rw [hx] at hle <;> cases hle
  | infinity | zero | finite => rfl

theorem isQuantile_iff {x : Float} :
    isQuantile x = true ↔ x.isNaN = false ∧ 0 ≤ x ∧ x ≤ 1 := by
  rw [isQuantile, Bool.and_eq_true, decide_eq_true_eq, decide_eq_true_eq]
  constructor
  · rintro ⟨hlow, hhigh⟩
    exact ⟨isNaN_eq_false_of_le hlow, hlow, hhigh⟩
  · rintro ⟨-, hlow, hhigh⟩
    exact ⟨hlow, hhigh⟩

/-! ## The rules -/

/-- The shape of an operation on two values. -/
def Compile.Shape.join : Shape → Shape → Shape
  | scalar, scalar => scalar
  | _, _ => vector

namespace Expr

/-- A text that is a label name, up to parentheses. -/
def IsNameArg (arg : Expr) : Prop := ∃ name, arg.stripParens = .text name ∧ IsName name

/-- A text without a comma, up to parentheses. -/
def IsValueArg (arg : Expr) : Prop := ∃ value, arg.stripParens = .text value ∧ ',' ∉ value.toList

/-- A regular expression that can be read alone and between anchors, up to parentheses. -/
def IsPatternArg (arg : Expr) : Prop :=
  ∃ pattern, arg.stripParens = .text pattern ∧ (Regex.parse? pattern).isSome = true ∧
    (Regex.parse? ("^(?:" ++ pattern ++ ")$")).isSome = true

/-- A selector with a window, up to parentheses. -/
def IsRange (target : Expr) : Prop :=
  ∃ s, target.stripParens = .selector s ∧ s.window ≠ none

/-- The expressions of the query language that have SQL, and their shapes. -/
inductive HasShape : Expr → Shape → Prop
  | selector (s : Selector) : HasShape (.selector s) .vector
  | number (x : Float) : HasShape (.number x) .scalar
  | paren {inner : Expr} {s : Shape} (hinner : HasShape inner s) : HasShape (.paren inner) s
  | rollup {function : String} {target : Expr}
      (hname : function ∈ ["rate", "increase", "avg_over_time", "sum_over_time", "min_over_time",
        "max_over_time", "count_over_time"])
      (htarget : target.IsRange) : HasShape (.call function [target]) .vector
  | quantile {q target : Expr} {x : Float} (hq : q.stripParens = .number x)
      (hnumber : x.isNaN = false) (hlow : 0 ≤ x) (hhigh : x ≤ 1) (htarget : target.IsRange) :
      HasShape (.call "quantile_over_time" [q, target]) .vector
  | labelSet {input key value : Expr} (hinput : HasShape input .vector) (hkey : key.IsNameArg)
      (hvalue : value.IsValueArg) : HasShape (.call "label_set" [input, key, value]) .vector
  | labelKeys {function : String} {input : Expr} {keys : List Expr}
      (hname : function ∈ ["label_del", "label_keep"]) (hinput : HasShape input .vector)
      (hsome : keys ≠ []) (hkeys : ∀ key ∈ keys, key.IsNameArg) :
      HasShape (.call function (input :: keys)) .vector
  | labelPair {function : String} {input source target : Expr}
      (hname : function ∈ ["label_copy", "label_move"]) (hinput : HasShape input .vector)
      (hsource : source.IsNameArg) (htarget : target.IsNameArg) :
      HasShape (.call function [input, source, target]) .vector
  | labelReplace {input target replacement source pattern : Expr}
      (hinput : HasShape input .vector) (htarget : target.IsNameArg)
      (hreplacement : replacement.IsValueArg) (hsource : source.IsNameArg)
      (hpattern : pattern.IsPatternArg) :
      HasShape (.call "label_replace" [input, target, replacement, source, pattern]) .vector
  | aggregate {operator : String} {grouping : Grouping} {operand : Expr}
      (hname : operator ∈ ["sum", "avg", "min", "max", "count", "stddev", "stdvar"])
      (hgrouping : grouping = .all ∨ ∃ labels, labels ≠ [] ∧ grouping = .by labels)
      (hoperand : HasShape operand .vector) :
      HasShape (.aggregate operator grouping operand) .vector
  | arithmetic {operator : String} {mode : ComparisonMode} {left right : Expr} {l r : Shape}
      (hname : operator ∈ ["+", "-", "*", "/", "%"]) (hleft : HasShape left l)
      (hright : HasShape right r) : HasShape (.binary operator mode left right) (l.join r)
  | comparison {operator : String} {mode : ComparisonMode} {left right : Expr} {l r : Shape}
      (hname : operator ∈ ["==", "!=", "<", ">", "<=", ">="]) (hleft : HasShape left l)
      (hright : HasShape right r) (hmode : l.join r = .scalar → mode = .bool) :
      HasShape (.binary operator mode left right) (l.join r)
  | set {operator : String} {mode : ComparisonMode} {left right : Expr}
      (hname : operator ∈ ["and", "or", "unless"]) (hleft : HasShape left .vector)
      (hright : HasShape right .vector) : HasShape (.binary operator mode left right) .vector

end Expr

/-! ## Operators -/

/-- The shapes that an operator takes and yields. -/
def BinaryOperator.Joins (mode : ComparisonMode) (l r s : Shape) : BinaryOperator → Prop
  | arithmetic _ => s = l.join r
  | comparison _ => (l.join r = .scalar → mode = .bool) ∧ s = l.join r
  | set _ => l = .vector ∧ r = .vector ∧ s = .vector

theorem BinaryOperator.joins_iff {op : BinaryOperator} {mode : ComparisonMode}
    {left right : Compiled} {s : Shape} :
    op.Joins mode left.shape right.shape s ↔
      ∃ c, Compile.binary op mode left right = .ok c ∧ c.shape = s := by
  obtain ⟨leftCode, l⟩ := left
  obtain ⟨rightCode, r⟩ := right
  cases op <;> cases mode <;> cases l <;> cases r <;>
    simp [Joins, Compile.binary, Shape.join, eq_comm]

/-! ## Names of functions and operators -/

theorem Rollup.mem_names_iff {function : String} :
    function ∈ ["rate", "increase", "avg_over_time", "sum_over_time", "min_over_time",
        "max_over_time", "count_over_time"] ↔
      ∃ r, Rollup.ofName? function = some r ∧ r ≠ .quantileOverTime := by
  constructor
  · simp only [List.mem_cons, List.not_mem_nil, or_false]
    rintro (rfl | rfl | rfl | rfl | rfl | rfl | rfl) <;> exact ⟨_, rfl, by decide⟩
  · rintro ⟨r, hname, hr⟩
    unfold Rollup.ofName? at hname
    split at hname
    case h_8 =>
      -- a quantile has its number besides the samples
      cases hname
      exact absurd rfl hr
    case h_9 => cases hname
    all_goals decide

theorem Aggregate.mem_names_iff {operator : String} :
    operator ∈ ["sum", "avg", "min", "max", "count", "stddev", "stdvar"] ↔
      ∃ kind, Aggregate.ofName? operator = some kind := by
  constructor
  · simp only [List.mem_cons, List.not_mem_nil, or_false]
    rintro (rfl | rfl | rfl | rfl | rfl | rfl | rfl) <;> exact ⟨_, rfl⟩
  · rintro ⟨kind, hname⟩
    unfold Aggregate.ofName? at hname
    split at hname
    case h_8 => cases hname
    all_goals decide

theorem Compile.LabelFunction.ofName?_eq_some_iff {function : String} {f : LabelFunction} :
    LabelFunction.ofName? function = some f ↔ function = f.name := by
  constructor
  · intro h
    unfold LabelFunction.ofName? at h
    split at h <;> cases h <;> rfl
  · rintro rfl
    cases f <;> rfl

/-- A symbol is one of the listed ones or that of a comparison. -/
theorem BinaryOperator.ofSymbol?_cases {operator : String} {op : BinaryOperator}
    (h : BinaryOperator.ofSymbol? operator = some op) :
    (operator ∈ ["+", "-", "*", "/", "%"] ∧ ∃ a, op = .arithmetic a) ∨
      (operator ∈ ["==", "!=", "<", ">", "<=", ">="] ∧ ∃ c, op = .comparison c) ∨
      (operator ∈ ["and", "or", "unless"] ∧ ∃ s, op = .set s) := by
  unfold BinaryOperator.ofSymbol? at h
  split at h
  case h_9 =>
    unfold Comparison.ofSymbol? at h
    split at h <;> cases h <;> exact .inr (.inl ⟨by decide, _, rfl⟩)
  case h_6 | h_7 | h_8 =>
    cases h
    exact .inr (.inr ⟨by decide, _, rfl⟩)
  all_goals
    cases h
    exact .inl ⟨by decide, _, rfl⟩

theorem BinaryOperator.exists_arithmetic {operator : String}
    (h : operator ∈ ["+", "-", "*", "/", "%"]) :
    ∃ a, BinaryOperator.ofSymbol? operator = some (.arithmetic a) := by
  simp only [List.mem_cons, List.not_mem_nil, or_false] at h
  rcases h with rfl | rfl | rfl | rfl | rfl <;> exact ⟨_, rfl⟩

theorem BinaryOperator.exists_comparison {operator : String}
    (h : operator ∈ ["==", "!=", "<", ">", "<=", ">="]) :
    ∃ c, BinaryOperator.ofSymbol? operator = some (.comparison c) := by
  simp only [List.mem_cons, List.not_mem_nil, or_false] at h
  rcases h with rfl | rfl | rfl | rfl | rfl | rfl <;> exact ⟨_, rfl⟩

theorem BinaryOperator.exists_set {operator : String} (h : operator ∈ ["and", "or", "unless"]) :
    ∃ s, BinaryOperator.ofSymbol? operator = some (.set s) := by
  simp only [List.mem_cons, List.not_mem_nil, or_false] at h
  rcases h with rfl | rfl | rfl <;> exact ⟨_, rfl⟩

/-! ## Code that compiles follows the rules -/

namespace Expr

theorem isRange_of_call {target : Expr} {call : RollupCall}
    (h : target.stripParens = .selector call.selector) : target.IsRange := by
  refine ⟨call.selector, h, ?_⟩
  rw [call.windowed]
  simp

theorem isNameArg_of_keys {args : List Expr} {keys : List LabelName}
    (h : args.map stripParens = (keys.map LabelName.text).map .text) :
    ∀ arg ∈ args, arg.IsNameArg := by
  intro arg harg
  have htext : arg.stripParens ∈ (keys.map LabelName.text).map Expr.text := by
    rw [← h]
    exact List.mem_map_of_mem harg
  simp only [List.map_map, List.mem_map, Function.comp_apply] at htext
  obtain ⟨key, -, hkey⟩ := htext
  exact ⟨key.text, hkey.symm, isLabelName_iff.mp key.valid⟩

theorem ne_nil_of_keys {args : List Expr} {keys : List LabelName}
    (h : args.map stripParens = (keys.map LabelName.text).map .text) (hkeys : keys ≠ []) :
    args ≠ [] := by
  rintro rfl
  simp at h
  exact hkeys h

theorem isNameArg_of_key {arg : Expr} {key : LabelName} (h : arg.stripParens = .text key.text) :
    arg.IsNameArg :=
  ⟨key.text, h, isLabelName_iff.mp key.valid⟩

theorem hasShape_of_stripParens_selector {e : Expr} {s : Selector}
    (h : e.stripParens = .selector s) : e.HasShape .vector := by
  induction e using Expr.stripParens.induct with
  | case1 inner ih => exact .paren (ih h)
  | case2 e hother =>
    rw [stripParens] at h
    · subst h
      exact .selector s
    · exact hother

/-- A label function whose arguments passed all checks. -/
theorem hasShape_of_relabels {mode : LabelMode} {function : String} {f : LabelFunction}
    {input : Expr} {args : List Expr} {texts : List String} {edit : LabelEdit}
    {relabeling : Relabeling} (hname : LabelFunction.ofName? function = some f)
    (hinput : HasShape input .vector) (htexts : args.map stripParens = texts.map .text)
    (hedit : f.edit? texts = some edit) (hrelabels : edit.Relabels mode relabeling) :
    HasShape (.call function (input :: args)) .vector := by
  obtain ⟨rfl, rfl⟩ := LabelFunction.edit?_eq_some_iff.mp hedit
  obtain rfl := LabelFunction.ofName?_eq_some_iff.mp hname
  cases hrelabels with
  | set hvalue =>
    simp only [LabelEdit.texts, List.map_cons, List.map_nil, List.map_eq_cons_iff,
      List.map_eq_nil_iff] at htexts
    obtain ⟨key, _, rfl, hkey, value, _, rfl, harg, rfl⟩ := htexts
    exact .labelSet hinput (isNameArg_of_key hkey) ⟨_, harg, hvalue⟩
  | @del keys hkeys | @reject keys hkeys =>
    exact .labelKeys (by simp [LabelFunction.name]) hinput (ne_nil_of_keys htexts hkeys)
      (isNameArg_of_keys htexts)
  | @keep keys hkeys | @keepAll keys hkeys =>
    exact .labelKeys (by simp [LabelFunction.name]) hinput (ne_nil_of_keys htexts hkeys)
      (isNameArg_of_keys htexts)
  | copy | move | stay =>
    simp only [LabelEdit.texts, List.map_cons, List.map_nil, List.map_eq_cons_iff,
      List.map_eq_nil_iff] at htexts
    obtain ⟨source, _, rfl, hsource, target, _, rfl, htarget, rfl⟩ := htexts
    exact .labelPair (by simp [LabelFunction.name]) hinput (isNameArg_of_key hsource)
      (isNameArg_of_key htarget)
  | replace hreplacement hpattern =>
    simp only [LabelEdit.texts, List.map_cons, List.map_nil, List.map_eq_cons_iff,
      List.map_eq_nil_iff] at htexts
    obtain ⟨target, _, rfl, htarget, replacement, _, rfl, hvalue, source, _, rfl, hsource, pattern,
      _, rfl, hregex, rfl⟩ := htexts
    rw [isPattern, Bool.and_eq_true] at hpattern
    exact .labelReplace hinput (isNameArg_of_key htarget) ⟨_, hvalue, hreplacement⟩
      (isNameArg_of_key hsource) ⟨_, hregex, hpattern⟩

theorem grouping_of_splits {canonical : Bool} {grouping : Grouping} {p : Partition}
    (h : grouping.Splits canonical p) :
    grouping = .all ∨ ∃ labels, labels ≠ [] ∧ grouping = .by labels := by
  cases h with
  | all => exact .inl rfl
  | canonical hlabels | labelString hlabels => exact .inr ⟨_, hlabels, rfl⟩

theorem hasShape_of_compiles {o : Options} {e : Expr} {c : Compiled} (h : Compiles o e c) :
    e.HasShape c.shape := by
  induction h with
  | selector s => exact .selector s
  | rollup hname hquantile htarget =>
    have hr := RollupCall.rollup_ne_of_quantile?_eq_none hquantile
    exact .rollup (Rollup.mem_names_iff.mpr ⟨_, hname, hr⟩) (isRange_of_call htarget)
  | @quantile function q target x call hname hnumber hquantile htarget =>
    have hfunction := eq_of_ofName?_quantile hname
    subst hfunction
    obtain ⟨-, hrange⟩ := RollupCall.of_quantile?_eq_some hquantile
    obtain ⟨hnan, hlow, hhigh⟩ := isQuantile_iff.mp hrange
    exact .quantile hnumber hnan hlow hhigh (isRange_of_call htarget)
  | label hname hinput htexts hedit hrelabels ih =>
    exact hasShape_of_relabels hname ih htexts hedit hrelabels
  | latest hkind hsplits hoperand hwindow =>
    exact .aggregate (Aggregate.mem_names_iff.mpr ⟨_, hkind⟩) (grouping_of_splits hsplits)
      (hasShape_of_stripParens_selector hoperand)
  | timed hkind hsplits hoperand htimed ih =>
    exact .aggregate (Aggregate.mem_names_iff.mpr ⟨_, hkind⟩) (grouping_of_splits hsplits) ih
  | @binary operator op mode left right l r c hop hleft hright hjoin ihLeft ihRight =>
    have hjoins := BinaryOperator.joins_iff.mpr ⟨_, hjoin, rfl⟩
    rcases BinaryOperator.ofSymbol?_cases hop with
      ⟨hname, _, rfl⟩ | ⟨hname, _, rfl⟩ | ⟨hname, _, rfl⟩
    · have hshape : c.shape = l.shape.join r.shape := hjoins
      rw [hshape]
      exact .arithmetic hname ihLeft ihRight
    · obtain ⟨hmode, hshape⟩ := hjoins
      rw [hshape]
      exact .comparison hname ihLeft ihRight hmode
    · obtain ⟨hl, hr, hshape⟩ := hjoins
      rw [hl] at ihLeft
      rw [hr] at ihRight
      rw [hshape]
      exact .set hname ihLeft ihRight
  | paren hinner ih => exact .paren ih
  | number x => exact .number x

/-! ## The rules lead to code -/

theorem exists_key_of_isNameArg {arg : Expr} (h : arg.IsNameArg) :
    ∃ key : LabelName, arg.stripParens = .text key.text := by
  obtain ⟨name, harg, hname⟩ := h
  exact ⟨⟨name, isLabelName_iff.mpr hname⟩, harg⟩

theorem exists_keys_of_isNameArg {args : List Expr} (h : ∀ arg ∈ args, arg.IsNameArg) :
    ∃ keys : List LabelName, args.map stripParens = (keys.map LabelName.text).map .text := by
  induction args with
  | nil => exact ⟨[], rfl⟩
  | cons arg args ih =>
    obtain ⟨harg, hargs⟩ := List.forall_mem_cons.mp h
    obtain ⟨key, hkey⟩ := exists_key_of_isNameArg harg
    obtain ⟨keys, hkeys⟩ := ih hargs
    exact ⟨key :: keys, by simp [hkey, hkeys]⟩

/-- A label function whose edit has stages. -/
theorem exists_compiles_of_edit {o : Options} {input : Expr} {args : List Expr} {edit : LabelEdit}
    {relabeling : Relabeling} (hrelabels : edit.Relabels o.labelMode relabeling)
    (hinput : ∃ code, Compiles o input ⟨code, .vector⟩)
    (htexts : args.map stripParens = edit.texts.map .text) :
    ∃ code, Compiles o (.call edit.function.name (input :: args)) ⟨code, .vector⟩ := by
  obtain ⟨code, hinput⟩ := hinput
  exact ⟨_, .label (LabelFunction.ofName?_eq_some_iff.mpr rfl) hinput htexts
    (LabelFunction.edit?_eq_some_iff.mpr ⟨rfl, rfl⟩) hrelabels⟩

theorem exists_splits (canonical : Bool) {grouping : Grouping}
    (h : grouping = .all ∨ ∃ labels, labels ≠ [] ∧ grouping = .by labels) :
    ∃ p, grouping.Splits canonical p := by
  rcases h with rfl | ⟨labels, hlabels, rfl⟩
  · exact ⟨_, .all⟩
  · cases canonical with
    | true => exact ⟨_, .canonical hlabels rfl⟩
    | false => exact ⟨_, .labelString hlabels rfl⟩

theorem exists_relabels_del (mode : LabelMode) {keys : List LabelName} (hkeys : keys ≠ []) :
    ∃ r, (LabelEdit.del (keys.map LabelName.text)).Relabels mode r := by
  cases mode with
  | edit => exact ⟨_, .del hkeys rfl⟩
  | legacy => exact ⟨_, .reject hkeys rfl⟩

theorem exists_relabels_keep (mode : LabelMode) {keys : List LabelName} (hkeys : keys ≠ []) :
    ∃ r, (LabelEdit.keep (keys.map LabelName.text)).Relabels mode r := by
  cases mode with
  | edit => exact ⟨_, .keep hkeys rfl⟩
  | legacy => exact ⟨_, .keepAll hkeys rfl⟩

theorem exists_relabels_move (mode : LabelMode) (source target : LabelName) :
    ∃ r, (LabelEdit.move source.text target.text).Relabels mode r := by
  by_cases hsame : source = target
  · subst hsame
    exact ⟨_, .stay⟩
  · exact ⟨_, .move hsame⟩

/-- A rollup over a selector with a window. -/
theorem exists_call_of_isRange {target : Expr} {r : Rollup} {quantile? : Option Float}
    (hquantile : r.quantileFault? quantile? = none) (h : target.IsRange) :
    ∃ call : RollupCall, call.rollup = r ∧ call.quantile? = quantile? ∧
      target.stripParens = .selector call.selector := by
  obtain ⟨s, hs, hwindow⟩ := h
  obtain ⟨window, hwindow⟩ := Option.ne_none_iff_exists'.mp hwindow
  exact ⟨⟨r, s, window, quantile?, hwindow, hquantile⟩, rfl, rfl, hs⟩

theorem exists_compiles_of_aggregate {o : Options} {operator : String} {grouping : Grouping}
    {operand : Expr} {code : Code}
    (hname : operator ∈ ["sum", "avg", "min", "max", "count", "stddev", "stdvar"])
    (hgrouping : grouping = .all ∨ ∃ labels, labels ≠ [] ∧ grouping = .by labels)
    (hoperand : Compiles o operand ⟨code, .vector⟩) :
    ∃ code, Compiles o (.aggregate operator grouping operand) ⟨code, .vector⟩ := by
  obtain ⟨kind, hkind⟩ := Aggregate.mem_names_iff.mp hname
  obtain ⟨p, hsplits⟩ := exists_splits o.canonicalGrouping hgrouping
  -- A selector without a window is aggregated by a rule of its own.
  by_cases hlatest : ∃ s, operand.stripParens = .selector s ∧ s.window = none
  · obtain ⟨s, hs, hwindow⟩ := hlatest
    exact ⟨_, .latest hkind hsplits hs hwindow⟩
  · exact ⟨_, .timed hkind hsplits hoperand fun s hs hwindow => hlatest ⟨s, hs, hwindow⟩⟩

theorem exists_compiles_of_binary {o : Options} {operator : String} {op : BinaryOperator}
    {mode : ComparisonMode} {left right : Expr} {l r s : Shape}
    (hop : BinaryOperator.ofSymbol? operator = some op) (hjoins : op.Joins mode l r s)
    (hleft : ∃ code, Compiles o left ⟨code, l⟩) (hright : ∃ code, Compiles o right ⟨code, r⟩) :
    ∃ code, Compiles o (.binary operator mode left right) ⟨code, s⟩ := by
  obtain ⟨leftCode, hleft⟩ := hleft
  obtain ⟨rightCode, hright⟩ := hright
  have hjoins : op.Joins mode (Compiled.mk leftCode l).shape (Compiled.mk rightCode r).shape s :=
    hjoins
  obtain ⟨⟨code, _⟩, hjoin, rfl⟩ := BinaryOperator.joins_iff.mp hjoins
  exact ⟨code, .binary hop hleft hright hjoin⟩

theorem exists_compiles_of_hasShape (o : Options) {e : Expr} {s : Shape} (h : e.HasShape s) :
    ∃ code, Compiles o e ⟨code, s⟩ := by
  induction h with
  | selector s => exact ⟨_, .selector s⟩
  | number x => exact ⟨_, .number x⟩
  | paren _ ih =>
    obtain ⟨code, hcode⟩ := ih
    exact ⟨code, .paren hcode⟩
  | rollup hname htarget =>
    obtain ⟨r, hname, hr⟩ := Rollup.mem_names_iff.mp hname
    obtain ⟨call, rfl, hquantile, hcall⟩ := exists_call_of_isRange
      (Rollup.quantileFault?_eq_none_iff.mpr (.inl ⟨hr, rfl⟩)) htarget
    exact ⟨_, .rollup hname hquantile hcall⟩
  | @quantile q target x hq hnan hlow hhigh htarget =>
    have hrange := isQuantile_iff.mpr ⟨hnan, hlow, hhigh⟩
    obtain ⟨call, -, hquantile, hcall⟩ := exists_call_of_isRange
      (Rollup.quantileFault?_eq_none_iff.mpr (.inr ⟨x, rfl, rfl, hrange⟩)) htarget
    exact ⟨_, .quantile rfl hq hquantile hcall⟩
  | labelSet _ hkey hvalue ih =>
    obtain ⟨key, hkey⟩ := exists_key_of_isNameArg hkey
    obtain ⟨value, harg, hvalue⟩ := hvalue
    have hrelabels : (LabelEdit.set key.text value).Relabels o.labelMode _ := .set hvalue
    exact exists_compiles_of_edit hrelabels ih (by simp [hkey, harg])
  | labelKeys hname _ hsome hkeys ih =>
    obtain ⟨keys, htexts⟩ := exists_keys_of_isNameArg hkeys
    have hkeys : keys ≠ [] := by
      rintro rfl
      exact hsome (List.map_eq_nil_iff.mp htexts)
    simp only [List.mem_cons, List.not_mem_nil, or_false] at hname
    rcases hname with rfl | rfl
    · obtain ⟨_, hrelabels⟩ := exists_relabels_del o.labelMode hkeys
      exact exists_compiles_of_edit hrelabels ih htexts
    · obtain ⟨_, hrelabels⟩ := exists_relabels_keep o.labelMode hkeys
      exact exists_compiles_of_edit hrelabels ih htexts
  | labelPair hname _ hsource htarget ih =>
    obtain ⟨source, hsource⟩ := exists_key_of_isNameArg hsource
    obtain ⟨target, htarget⟩ := exists_key_of_isNameArg htarget
    simp only [List.mem_cons, List.not_mem_nil, or_false] at hname
    rcases hname with rfl | rfl
    · have hrelabels : (LabelEdit.copy source.text target.text).Relabels o.labelMode _ := .copy
      exact exists_compiles_of_edit hrelabels ih (by simp [hsource, htarget])
    · obtain ⟨_, hrelabels⟩ := exists_relabels_move o.labelMode source target
      exact exists_compiles_of_edit hrelabels ih (by simp [hsource, htarget])
  | labelReplace _ htarget hreplacement hsource hpattern ih =>
    obtain ⟨target, htarget⟩ := exists_key_of_isNameArg htarget
    obtain ⟨replacement, harg, hreplacement⟩ := hreplacement
    obtain ⟨source, hsource⟩ := exists_key_of_isNameArg hsource
    obtain ⟨pattern, hregex, hpattern⟩ := hpattern
    have hpattern : isPattern pattern = true := (Bool.and_eq_true _ _).mpr hpattern
    have hrelabels : (LabelEdit.replace target.text replacement source.text pattern).Relabels
        o.labelMode _ := .replace hreplacement hpattern
    exact exists_compiles_of_edit hrelabels ih (by simp [htarget, harg, hsource, hregex])
  | aggregate hname hgrouping hoperand ih =>
    obtain ⟨code, hcode⟩ := ih
    exact exists_compiles_of_aggregate hname hgrouping hcode
  | arithmetic hname _ _ ihLeft ihRight =>
    obtain ⟨op, hop⟩ := BinaryOperator.exists_arithmetic hname
    exact exists_compiles_of_binary hop rfl ihLeft ihRight
  | comparison hname _ _ hmode ihLeft ihRight =>
    obtain ⟨op, hop⟩ := BinaryOperator.exists_comparison hname
    exact exists_compiles_of_binary hop ⟨hmode, rfl⟩ ihLeft ihRight
  | set hname _ _ ihLeft ihRight =>
    obtain ⟨op, hop⟩ := BinaryOperator.exists_set hname
    exact exists_compiles_of_binary hop ⟨rfl, rfl, rfl⟩ ihLeft ihRight

/-- An expression compiles to code of some shape exactly if it has that shape by the rules. -/
theorem compile_shape_iff (o : Options) (e : Expr) (s : Shape) :
    (∃ c, e.compile o = .ok c ∧ c.shape = s) ↔ e.HasShape s := by
  constructor
  · rintro ⟨c, hc, rfl⟩
    exact hasShape_of_compiles (compile_eq_ok_iff.mp hc)
  · intro h
    obtain ⟨code, hcode⟩ := exists_compiles_of_hasShape o h
    exact ⟨_, compile_eq_ok_iff.mpr hcode, rfl⟩

end Expr

end SeriesSql
