import Mathlib.Data.List.Forall2
import SeriesSql.Compile.Expr

/-!
# Steps of compilation

Every step of compilation can fail.  This file says for each of them when it succeeds and with what
result, so that later proofs do not open the functions themselves.

There are five groups.

* Steps of `Except` code: what a successful bind, lift or `mapM` says about its parts.
* Groupings: `Grouping.Splits` relates a clause to the way in which it tells groups apart.
* Arguments of rollups and label functions.
* Joins, of label sets or of values.
* Edits: `LabelEdit.Relabels` relates a label function with its arguments to its stages.
-/

namespace SeriesSql

open Sql Compile Labels

/-! ## Successful steps -/

theorem bind_eq_ok {ε α β : Type} {x : Except ε α} {f : α → Except ε β} {b : β} :
    x >>= f = .ok b ↔ ∃ a, x = .ok a ∧ f a = .ok b := by
  cases x with
  | error cause => simp [bind, Except.bind]
  | ok a => simp [bind, Except.bind]

/-- An invalid value stays a failure when its cause is wrapped. -/
theorem liftM_eq_ok {α : Type} {x : Except Invalid α} {a : α} :
    (liftM x : Except CompileError α) = .ok a ↔ x = .ok a := by
  cases x with
  | error cause => simp [liftM, monadLift, MonadLift.monadLift, Except.mapError]
  | ok b => simp [liftM, monadLift, MonadLift.monadLift, Except.mapError]

theorem pure_eq_ok {ε α : Type} {a b : α} : (pure a : Except ε α) = .ok b ↔ a = b := by
  simp [pure, Except.pure]

theorem mapError_eq_ok_iff {ε ε' α : Type} {g : ε → ε'} {x : Except ε α} {a : α} :
    x.mapError g = .ok a ↔ x = .ok a := by
  cases x <;> simp [Except.mapError]

theorem exists_bind_eq_ok_iff {ε α β : Type} {x : Except ε α} {f : α → Except ε β} :
    (∃ b, x >>= f = .ok b) ↔ ∃ a, x = .ok a ∧ ∃ b, f a = .ok b := by
  simp only [bind_eq_ok]
  constructor
  · rintro ⟨b, a, ha, hb⟩
    exact ⟨a, ha, b, hb⟩
  · rintro ⟨a, ha, b, hb⟩
    exact ⟨b, a, ha, hb⟩

theorem exists_map_eq_ok_iff {ε α β : Type} {x : Except ε α} {f : α → β} :
    (∃ b, f <$> x = .ok b) ↔ ∃ a, x = .ok a := by
  cases x with
  | error cause => simp [Functor.map, Except.map]
  | ok a => simp [Functor.map, Except.map]

/-- A successful `mapM` succeeded on every item. -/
theorem mapM_eq_ok_iff {ε α β : Type} {f : α → Except ε β} {xs : List α} {ys : List β} :
    xs.mapM f = .ok ys ↔ List.Forall₂ (fun x y => f x = .ok y) xs ys := by
  induction xs generalizing ys with
  | nil =>
    rw [List.mapM_nil, pure_eq_ok, List.forall₂_nil_left_iff]
    exact eq_comm
  | cons x xs ih =>
    rw [List.mapM_cons, List.forall₂_cons_left_iff]
    simp only [bind_eq_ok, pure_eq_ok, ih]
    constructor
    · rintro ⟨y, hy, zs, hzs, rfl⟩
      exact ⟨y, zs, hy, hzs, rfl⟩
    · rintro ⟨y, zs, hy, hzs, rfl⟩
      exact ⟨y, hy, zs, hzs, rfl⟩

/-! ## Groupings -/

/-- How the groups of an aggregation are told apart.  A clause without labels has no groups, and
neither has a `without` clause. -/
inductive Grouping.Splits (canonical : Bool) : Grouping → Partition → Prop
  | all : Splits canonical .all .all
  | canonical {labels : List LabelName} (hlabels : labels ≠ []) (hcanonical : canonical = true) :
      Splits canonical (.by labels) (.canonical labels)
  | labelString {labels : List LabelName} (hlabels : labels ≠ []) (hcanonical : canonical = false) :
      Splits canonical (.by labels) .labelString

/-- The clause is checked first, then the groups are named. -/
theorem Grouping.splits_iff (kind : Aggregate) {grouping : Grouping} {canonical : Bool}
    {p : Partition} :
    grouping.Splits canonical p ↔
      ∃ a, Aggregation.ofParts kind grouping canonical = .ok a ∧ partition a = .ok p := by
  constructor
  · rintro (_ | ⟨hlabels, rfl⟩ | ⟨hlabels, rfl⟩)
    · exact ⟨⟨kind, .all, canonical⟩, rfl, rfl⟩
    · rename_i labels
      refine ⟨⟨kind, .by labels, true⟩, ?_, ?_⟩
      · cases labels with
        | nil => exact absurd rfl hlabels
        | cons => rfl
      · simp [partition, hlabels]
    · rename_i labels
      refine ⟨⟨kind, .by labels, false⟩, ?_, ?_⟩
      · cases labels with
        | nil => exact absurd rfl hlabels
        | cons => rfl
      · simp [partition]
  · rintro ⟨a, ha, hp⟩
    match grouping with
    | .all =>
      cases ha
      cases hp
      exact .all
    | .without [] | .by [] => cases ha
    | .without (label :: labels) =>
      cases ha
      cases hp
    | .by (label :: labels) =>
      cases ha
      cases canonical with
      | true =>
        cases hp
        exact .canonical (by simp) rfl
      | false =>
        cases hp
        exact .labelString (by simp) rfl

/-- An aggregation keeps the operator that it was made with. -/
theorem Aggregation.kind_of_ofParts {kind : Aggregate} {grouping : Grouping} {canonical : Bool}
    {a : Aggregation} (h : Aggregation.ofParts kind grouping canonical = .ok a) :
    a.kind = kind := by
  unfold Aggregation.ofParts at h
  split at h
  · cases h
  · cases h
  · cases h
    rfl

/-! ## Arguments -/

/-- The arguments of a label function are texts, up to parentheses. -/
theorem Expr.textArg_eq_ok_iff {function value : String} {arg : Expr} :
    arg.textArg function = .ok value ↔ arg.stripParens = .text value := by
  unfold Expr.textArg
  split
  · rename_i found hfound
    rw [hfound]
    simp
  · rename_i hother
    constructor
    · intro h
      cases h
    · intro h
      exact absurd h (hother value)

theorem Expr.textArgs_eq_ok_iff {function : String} {args : List Expr} {texts : List String} :
    args.mapM (Expr.textArg function) = .ok texts ↔ args.map stripParens = texts.map .text := by
  rw [mapM_eq_ok_iff]
  induction args generalizing texts with
  | nil =>
    cases texts <;> simp
  | cons arg args ih =>
    cases texts with
    | nil => simp
    | cons value texts => simp [← ih, Expr.textArg_eq_ok_iff]

/-- If all arguments are texts, each of them is one. -/
theorem Expr.exists_text_of_mem {args : List Expr} {texts : List String}
    (h : args.map stripParens = texts.map .text) {arg : Expr} (harg : arg ∈ args) :
    ∃ text ∈ texts, arg.stripParens = .text text := by
  have hmem : arg.stripParens ∈ texts.map Expr.text := by
    rw [← h]
    exact List.mem_map_of_mem harg
  obtain ⟨text, htext, hstrip⟩ := List.mem_map.mp hmem
  exact ⟨text, htext, hstrip.symm⟩

/-- The value of a text, up to parentheses. -/
def Expr.text? (e : Expr) : Option String :=
  match e.stripParens with
  | .text s => some s
  | _ => none

theorem Expr.filterMap_text? {args : List Expr} {texts : List String}
    (h : args.map stripParens = texts.map .text) : args.filterMap text? = texts := by
  induction args generalizing texts with
  | nil => simpa [eq_comm] using h
  | cons arg args ih =>
    cases texts with
    | nil => cases h
    | cons value texts =>
      obtain ⟨harg, hargs⟩ := List.cons.inj h
      simp [text?, harg, ih hargs]

theorem Expr.vectorCode_eq_ok_iff {function : String} {compiled : Compiled} {code : Code} :
    Expr.vectorCode function compiled = .ok code ↔ compiled = ⟨code, .vector⟩ := by
  obtain ⟨found, shape⟩ := compiled
  cases shape with
  | scalar => simp [Expr.vectorCode]
  | vector => simp [Expr.vectorCode]

/-- Only `quantile_over_time` has a second argument, which comes first and is a number up to
parentheses. -/
theorem Expr.rollupArgs_eq_ok_iff {r : Rollup} {args : List Expr} {quantile : Option Float}
    {target : Expr} :
    Expr.rollupArgs r args = .ok (quantile, target) ↔
      (r ≠ .quantileOverTime ∧ args = [target] ∧ quantile = none) ∨
        (r = .quantileOverTime ∧
          ∃ q x, args = [q, target] ∧ q.stripParens = .number x ∧ quantile = some x) := by
  by_cases hr : r = .quantileOverTime
  · subst hr
    match args with
    | [] | [_] | _ :: _ :: _ :: _ => simp [Expr.rollupArgs]
    | [q, found] =>
      simp only [Expr.rollupArgs]
      split
      · rename_i x hx
        simp [hx, eq_comm, and_comm]
      · rename_i hother
        simp only [reduceCtorEq, false_iff]
        rintro (⟨hr, -⟩ | ⟨-, _, x, hargs, hx, -⟩)
        · exact hr rfl
        · cases hargs
          exact hother x hx
  · match args with
    | [found] =>
      have hargs : Expr.rollupArgs r [found] = .ok (none, found) := by
        cases r <;> first | rfl | exact absurd rfl hr
      simp [hargs, hr, eq_comm, and_comm]
    | [] | _ :: _ :: _ =>
      cases r <;> simp_all [Expr.rollupArgs]

/-- Only `quantile_over_time` has a quantile. -/
theorem Rollup.quantileFault?_eq_none_iff {r : Rollup} {quantile? : Option Float} :
    r.quantileFault? quantile? = none ↔
      (r ≠ .quantileOverTime ∧ quantile? = none) ∨
        ∃ q, r = .quantileOverTime ∧ quantile? = some q ∧ isQuantile q = true := by
  cases r <;> cases quantile? <;> simp [quantileFault?]

/-- A call has the parts it is made of. -/
theorem RollupCall.ofParts_eq_ok_iff {r : Rollup} {s : Selector} {quantile? : Option Float}
    {call : RollupCall} :
    RollupCall.ofParts r s quantile? = .ok call ↔
      call.rollup = r ∧ call.selector = s ∧ call.quantile? = quantile? := by
  obtain ⟨rollup, selector, window, quantile, windowed, quantified⟩ := call
  unfold RollupCall.ofParts
  constructor
  · intro h
    split at h
    · cases h
    · split at h
      · cases h
      · cases h
        exact ⟨rfl, rfl, rfl⟩
  · rintro ⟨rfl, rfl, rfl⟩
    split
    · rename_i hnone
      cases windowed.symm.trans hnone
    · rename_i found hfound
      split
      · rename_i hfault
        cases quantified.symm.trans hfault
      · have hwindow : found = window := Option.some.inj (hfound.symm.trans windowed)
        subst hwindow
        rfl

theorem RollupCall.rollup_ne_of_quantile?_eq_none {call : RollupCall} (h : call.quantile? = none) :
    call.rollup ≠ .quantileOverTime := by
  rcases Rollup.quantileFault?_eq_none_iff.mp call.quantified with ⟨hother, -⟩ | ⟨q, -, hq, -⟩
  · exact hother
  · cases h.symm.trans hq

theorem RollupCall.of_quantile?_eq_some {call : RollupCall} {q : Float}
    (h : call.quantile? = some q) : call.rollup = .quantileOverTime ∧ isQuantile q = true := by
  rcases Rollup.quantileFault?_eq_none_iff.mp call.quantified with ⟨-, hnone⟩ | ⟨q', hr, hq, hrange⟩
  · cases hnone.symm.trans h
  · cases hq.symm.trans h
    exact ⟨hr, hrange⟩

/-! ## Joins -/

theorem BinaryOperator.symbol_of_ofSymbol? {operator : String} {op : BinaryOperator}
    (h : BinaryOperator.ofSymbol? operator = some op) : op.symbol = operator := by
  unfold BinaryOperator.ofSymbol? at h
  split at h
  case h_9 =>
    unfold Comparison.ofSymbol? at h
    split at h <;> cases h <;> rfl
  all_goals
    cases h
    rfl

/-- Two scalars make a scalar. -/
def Compile.joinShape (left right : Compiled) : Shape :=
  if left.shape = .scalar ∧ right.shape = .scalar then .scalar else .vector

/-- A join is one of label sets or one of values, and then its operator has a sign. -/
theorem Compile.binary_cases {op : BinaryOperator} {mode : ComparisonMode}
    {left right c : Compiled} (h : Compile.binary op mode left right = .ok c) :
    (∃ s, op = .set s ∧ left.shape = .vector ∧ right.shape = .vector ∧
        c = ⟨setOperation s left.code right.code, .vector⟩) ∨
      ∃ sign, op.sqlSign? = some sign ∧
        c = ⟨joinValues op mode left right, joinShape left right⟩ := by
  unfold Compile.binary at h
  cases op with
  | arithmetic op =>
    cases h
    cases op <;> exact .inr ⟨_, rfl, rfl⟩
  | comparison op =>
    simp only at h
    split at h
    · cases h
    · cases h
      cases op <;> exact .inr ⟨_, rfl, rfl⟩
  | set op =>
    simp only at h
    split at h
    · rename_i hvectors
      cases h
      exact .inl ⟨op, rfl, hvectors.1, hvectors.2, rfl⟩
    · cases h

/-! ## Edits -/

theorem LabelName.ofString_eq_ok_iff {name : String} {key : LabelName} :
    LabelName.ofString name = .ok key ↔ key.text = name := by
  unfold LabelName.ofString
  split
  · rename_i hvalid
    constructor
    · intro h
      cases h
      rfl
    · rintro rfl
      rfl
  · rename_i hinvalid
    constructor
    · intro h
      cases h
    · rintro rfl
      exact absurd key.valid hinvalid

/-- Names that are read one by one are the texts of the result. -/
theorem LabelName.readAll_eq_ok_iff {ε : Type} {read : String → Except ε LabelName}
    (hread : ∀ name key, read name = .ok key ↔ key.text = name) {names : List String}
    {keys : List LabelName} : names.mapM read = .ok keys ↔ keys.map LabelName.text = names := by
  rw [mapM_eq_ok_iff]
  induction names generalizing keys with
  | nil => cases keys <;> simp
  | cons name names ih =>
    cases keys with
    | nil => simp
    | cons key keys => simp [← ih, hread]

theorem LabelName.ofStrings_eq_ok_iff {names : List String} {keys : List LabelName} :
    (names.mapM fun name => (LabelName.ofString name : Except CompileError LabelName)) = .ok keys ↔
      keys.map LabelName.text = names :=
  LabelName.readAll_eq_ok_iff fun _ _ => liftM_eq_ok.trans LabelName.ofString_eq_ok_iff

namespace Compile

/-- The function of an edit. -/
@[simp] def LabelEdit.function : LabelEdit → LabelFunction
  | set _ _ => .set
  | del _ => .del
  | keep _ => .keep
  | copy _ _ => .copy
  | move _ _ => .move
  | replace _ _ _ _ => .replace

/-- The arguments of an edit after the input. -/
@[simp] def LabelEdit.texts : LabelEdit → List String
  | set key value => [key, value]
  | del keys | keep keys => keys
  | copy source target | move source target => [source, target]
  | replace target replacement source pattern => [target, replacement, source, pattern]

theorem LabelFunction.edit?_eq_some_iff {f : LabelFunction} {texts : List String}
    {edit : LabelEdit} : f.edit? texts = some edit ↔ f = edit.function ∧ texts = edit.texts := by
  constructor
  · intro h
    unfold LabelFunction.edit? at h
    split at h <;> cases h <;> exact ⟨rfl, rfl⟩
  · rintro ⟨rfl, rfl⟩
    cases edit <;> rfl

theorem labelNames_eq_ok_iff {f : LabelFunction} {names : List String} {keys : List LabelName} :
    labelNames f names = .ok keys ↔ keys ≠ [] ∧ keys.map LabelName.text = names := by
  cases names with
  | nil =>
    constructor
    · intro h
      cases h
    · rintro ⟨hkeys, hnames⟩
      exact absurd (List.map_eq_nil_iff.mp hnames) hkeys
  | cons name names =>
    have hne : keys.map LabelName.text = name :: names → keys ≠ [] := by
      rintro hnames rfl
      cases hnames
    rw [and_iff_right_of_imp hne]
    exact LabelName.ofStrings_eq_ok_iff

theorem checkValue_eq_ok_iff {value : String} {u : Unit} :
    checkValue value = .ok u ↔ ',' ∉ value.toList := by
  simp [checkValue]

theorem exists_checkPattern_iff {pattern : String} :
    (∃ h, checkPattern pattern = .ok h) ↔ isPattern pattern = true := by
  constructor
  · rintro ⟨⟨hpattern⟩, -⟩
    exact hpattern
  · intro hpattern
    have hboth := hpattern
    rw [isPattern, Bool.and_eq_true] at hboth
    refine ⟨⟨hpattern⟩, ?_⟩
    unfold checkPattern
    rw [dif_pos hboth.1, dif_pos hboth.2]

/-- The stages of a label function with valid arguments. -/
inductive LabelEdit.Relabels (mode : LabelMode) : LabelEdit → Relabeling → Prop
  | set {key : LabelName} {value : String} (hvalue : ',' ∉ value.toList) :
      Relabels mode (.set key.text value) ⟨[.relabel (.setValue key (.bound value))], none⟩
  | del {keys : List LabelName} (hkeys : keys ≠ []) (hmode : mode = .edit) :
      Relabels mode (.del (keys.map LabelName.text))
        ⟨keys.map fun key => .relabel (.removeKey key), none⟩
  | reject {keys : List LabelName} (hkeys : keys ≠ []) (hmode : mode = .legacy) :
      Relabels mode (.del (keys.map LabelName.text)) ⟨[], some (noneOf keys)⟩
  | keep {keys : List LabelName} (hkeys : keys ≠ []) (hmode : mode = .edit) :
      Relabels mode (.keep (keys.map LabelName.text))
        ⟨[.relabel (.keepKeys (LabelName.sorted keys))], none⟩
  | keepAll {keys : List LabelName} (hkeys : keys ≠ []) (hmode : mode = .legacy) :
      Relabels mode (.keep (keys.map LabelName.text)) ⟨[], none⟩
  | copy {source target : LabelName} :
      Relabels mode (.copy source.text target.text) ⟨copyStages source target, none⟩
  | move {source target : LabelName} (hne : source ≠ target) :
      Relabels mode (.move source.text target.text)
        ⟨copyStages source target ++ [.relabel (.removeKey source)], none⟩
  | stay {source : LabelName} : Relabels mode (.move source.text source.text) ⟨[], none⟩
  | replace {target source : LabelName} {replacement pattern : String}
      (hreplacement : ',' ∉ replacement.toList) (hpattern : isPattern pattern = true) :
      Relabels mode (.replace target.text replacement source.text pattern)
        ⟨replaceStages target source (Regex.anchored pattern) replacement, none⟩

theorem LabelEdit.relabels_of_relabeling {mode : LabelMode} {edit : LabelEdit} {r : Relabeling}
    (h : edit.relabeling mode = .ok r) : edit.Relabels mode r := by
  cases edit with
  | set key value =>
    simp only [relabeling, bind_eq_ok, pure_eq_ok, liftM_eq_ok, LabelName.ofString_eq_ok_iff,
      checkValue_eq_ok_iff] at h
    obtain ⟨key, rfl, _, hvalue, rfl⟩ := h
    exact .set hvalue
  | del keys =>
    simp only [relabeling, bind_eq_ok, pure_eq_ok, labelNames_eq_ok_iff] at h
    obtain ⟨keys, ⟨hkeys, rfl⟩, rfl⟩ := h
    cases mode with
    | edit => exact .del hkeys rfl
    | legacy => exact .reject hkeys rfl
  | keep keys =>
    simp only [relabeling, bind_eq_ok, pure_eq_ok, labelNames_eq_ok_iff] at h
    obtain ⟨keys, ⟨hkeys, rfl⟩, rfl⟩ := h
    cases mode with
    | edit => exact .keep hkeys rfl
    | legacy => exact .keepAll hkeys rfl
  | copy source target =>
    simp only [relabeling, bind_eq_ok, pure_eq_ok, liftM_eq_ok, LabelName.ofString_eq_ok_iff] at h
    obtain ⟨source, rfl, target, rfl, rfl⟩ := h
    exact .copy
  | move source target =>
    simp only [relabeling, bind_eq_ok, pure_eq_ok, liftM_eq_ok, LabelName.ofString_eq_ok_iff] at h
    obtain ⟨source, rfl, target, rfl, rfl⟩ := h
    split
    · rename_i hsame
      subst hsame
      exact .stay
    · rename_i hne
      exact .move hne
  | replace target replacement source pattern =>
    simp only [relabeling, bind_eq_ok, pure_eq_ok, liftM_eq_ok, LabelName.ofString_eq_ok_iff,
      checkValue_eq_ok_iff] at h
    obtain ⟨target, rfl, source, rfl, _, hreplacement, hfound, hpattern, rfl⟩ := h
    exact .replace hreplacement (exists_checkPattern_iff.mp ⟨hfound, hpattern⟩)

/-- The converse: valid arguments are accepted. -/
theorem LabelEdit.relabeling_of_relabels {mode : LabelMode} {edit : LabelEdit} {r : Relabeling}
    (h : edit.Relabels mode r) : edit.relabeling mode = .ok r := by
  cases h with
  | set hvalue =>
    simp only [relabeling, bind_eq_ok, pure_eq_ok, liftM_eq_ok, LabelName.ofString_eq_ok_iff,
      checkValue_eq_ok_iff]
    exact ⟨_, rfl, (), hvalue, rfl⟩
  | del hkeys hmode | reject hkeys hmode | keep hkeys hmode | keepAll hkeys hmode =>
    subst hmode
    rw [relabeling, bind_eq_ok]
    exact ⟨_, labelNames_eq_ok_iff.mpr ⟨hkeys, rfl⟩, rfl⟩
  | copy =>
    simp only [relabeling, bind_eq_ok, pure_eq_ok, liftM_eq_ok, LabelName.ofString_eq_ok_iff]
    exact ⟨_, rfl, _, rfl, rfl⟩
  | move hne =>
    simp only [relabeling, bind_eq_ok, pure_eq_ok, liftM_eq_ok, LabelName.ofString_eq_ok_iff]
    exact ⟨_, rfl, _, rfl, by rw [if_neg hne]⟩
  | stay =>
    simp only [relabeling, bind_eq_ok, pure_eq_ok, liftM_eq_ok, LabelName.ofString_eq_ok_iff]
    exact ⟨_, rfl, _, rfl, by rw [if_pos rfl]⟩
  | replace hreplacement hpattern =>
    obtain ⟨hfound, hpattern⟩ := exists_checkPattern_iff.mpr hpattern
    simp only [relabeling, bind_eq_ok, pure_eq_ok, liftM_eq_ok, LabelName.ofString_eq_ok_iff,
      checkValue_eq_ok_iff]
    exact ⟨_, rfl, _, rfl, (), hreplacement, hfound, hpattern, rfl⟩

end Compile

end SeriesSql
