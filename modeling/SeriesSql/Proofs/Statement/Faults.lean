import SeriesSql.Proofs.Statement.Independence

/-!
# Invalid values in expressions

The names, matchers and windows of an expression are valid by their types, so compilation can find
few values invalid: the labels of a clause, a quantile, and the texts that label functions take.
`Invalid.Within` says for each cause what the expression holds if compilation fails with it, and
that all other causes are impossible.  `failsOnly_compile` says that this is so for all expressions.

There are four groups.

* `FailsOnly`, which says of a run what it can find invalid, and how this is carried through its
  steps.
* Numbers that are no quantiles.
* The steps: rollups, clauses and label functions.  All other steps find nothing invalid.
* Expressions, by induction.
-/

namespace SeriesSql

open Sql Compile Labels

/-! ## Runs -/

/-- If the run finds a value invalid, the cause satisfies `P`. -/
def FailsOnly {α : Type} (P : Invalid → Prop) (x : Except CompileError α) : Prop :=
  ∀ cause, x = .error (.invalid cause) → P cause

namespace FailsOnly

variable {α β : Type} {P Q : Invalid → Prop}

theorem ok (a : α) : FailsOnly P (.ok a) := by
  intro cause h
  cases h

/-- Failures of any other kind. -/
theorem error {failure : CompileError} (h : ∀ cause, failure ≠ .invalid cause) :
    FailsOnly P (.error failure : Except CompileError α) := by
  intro cause hfailure
  exact absurd (Except.error.inj hfailure) (h cause)

theorem bind {x : Except CompileError α} {f : α → Except CompileError β} (h : FailsOnly P x)
    (hnext : ∀ a, x = .ok a → FailsOnly P (f a)) : FailsOnly P (x >>= f) := by
  intro cause hfailure
  cases hx : x with
  | error failure =>
    rw [hx] at hfailure
    cases hfailure
    exact h cause hx
  | ok a =>
    rw [hx] at hfailure
    exact hnext a hx cause hfailure

theorem mono {x : Except CompileError α} (h : FailsOnly P x) (hmono : ∀ cause, P cause → Q cause) :
    FailsOnly Q x := by
  intro cause hfailure
  exact hmono cause (h cause hfailure)

theorem lift {x : Except Invalid α} (h : ∀ cause, x = .error cause → P cause) :
    FailsOnly P (liftM x : Except CompileError α) := by
  cases x with
  | ok a => exact .ok a
  | error cause =>
    intro cause' hfailure
    cases hfailure
    exact h cause rfl

theorem mapM {f : α → Except CompileError β} {xs : List α} (h : ∀ x ∈ xs, FailsOnly P (f x)) :
    FailsOnly P (xs.mapM f) := by
  induction xs with
  | nil => exact .ok []
  | cons x xs ih =>
    obtain ⟨hx, hxs⟩ := List.forall_mem_cons.mp h
    rw [List.mapM_cons]
    exact hx.bind fun _ _ => (ih hxs).bind fun _ _ => .ok _

end FailsOnly

/-! ## Numbers that are no quantiles -/

section Order

open Float.Model

theorem compare_then_swap (e e' : Int) (m m' : Nat) :
    (compare e' e).then (compare m' m) = ((compare e e').then (compare m m')).swap := by
  rw [Ordering.swap_then, Int.compare_swap, Nat.compare_swap]

theorem compare_swap (a b : UnpackedFloat) : b.compare a = (a.compare b).map Ordering.swap := by
  cases a with
  | notANumber => cases b <;> rfl
  | infinity s => cases s <;> rcases b with (_ | _) | _ | (_ | _) | (_ | _) <;> rfl
  | zero s => rcases b with (_ | _) | _ | (_ | _) | (_ | _) <;> rfl
  | finite s m e h =>
    cases b with
    | finite s' m' e' h' =>
      have hswap := compare_then_swap e e' m m'
      cases s <;> cases s'
      · exact congrArg (fun order => some order.swap) hswap
      · rfl
      · rfl
      · exact congrArg some hswap
    | infinity s' => cases s <;> cases s' <;> rfl
    | zero s' => cases s <;> rfl
    | notANumber => cases s <;> rfl

theorem exists_compare {a b : UnpackedFloat} (ha : a.isNaN = false) (hb : b.isNaN = false) :
    ∃ order, a.compare b = some order := by
  cases a with
  | notANumber => cases ha
  | infinity s | zero s | finite s m e h =>
    cases b with
    | notANumber => cases hb
    | infinity s' | zero s' | finite s' m' e' h' => cases s <;> cases s' <;> exact ⟨_, rfl⟩

/-- Of two numbers, the one that is not below the other is above it. -/
theorem lt_of_not_le {x y : Float} (hx : x.isNaN = false) (hy : y.isNaN = false) (h : ¬x ≤ y) :
    y < x := by
  obtain ⟨order, horder⟩ := exists_compare hx hy
  have hnot : order.isLE = false := by
    rw [Bool.eq_false_iff]
    intro hle
    apply h
    apply decide_eq_true
    change (x.toModel.unpack.compare y.toModel.unpack).any (·.isLE) = true
    rw [horder]
    exact hle
  have hgt : order = .gt := by
    cases order with
    | gt => rfl
    | lt | eq => cases hnot
  apply decide_eq_true
  change (y.toModel.unpack.compare x.toModel.unpack == some .lt) = true
  rw [compare_swap, horder, hgt]
  rfl

end Order

theorem outside_of_isQuantile_eq_false {x : Float} (h : isQuantile x = false) :
    x.isNaN = true ∨ x < 0 ∨ 1 < x := by
  cases hnumber : x.isNaN with
  | true => exact .inl rfl
  | false =>
    by_cases hlow : 0 ≤ x
    · by_cases hhigh : x ≤ 1
      · rw [isQuantile_iff.mpr ⟨hnumber, hlow, hhigh⟩] at h
        cases h
      · exact .inr (.inr (lt_of_not_le hnumber rfl hhigh))
    · exact .inr (.inl (lt_of_not_le rfl hnumber hlow))

/-! ## What an expression holds -/

/-- A label function in the expression has the text among its arguments after the input. -/
def Expr.HasLabelText (e : Expr) (text : String) : Prop :=
  ∃ function f args arg, .call function args ∈ e.nodes ∧ LabelFunction.ofName? function = some f ∧
    arg ∈ args.tail ∧ arg.stripParens = .text text

/-- What an expression holds if compilation finds a value invalid. -/
def Invalid.Within (e : Expr) : Invalid → Prop
  | emptyLabelList .by => ∃ operator operand, .aggregate operator (.by []) operand ∈ e.nodes
  | emptyLabelList .without =>
    ∃ operator operand, .aggregate operator (.without []) operand ∈ e.nodes
  | quantile x =>
    ∃ q target, .call "quantile_over_time" [q, target] ∈ e.nodes ∧ q.stripParens = .number x ∧
      (x.isNaN = true ∨ x < 0 ∨ 1 < x)
  | labelName name => e.HasLabelText name ∧ ¬IsName name
  | labelValue value => e.HasLabelText value ∧ ',' ∈ value.toList
  | pattern found =>
    ∃ text, e.HasLabelText text ∧ isPattern text = false ∧
      (found = text ∨ found = Regex.anchored text)
  -- These are checked where names, windows, rollups and fragments are made.
  | metricName _ | duration _ | missingQuantile | unexpectedQuantile _ | emptyFragment
  | placeholders _ _ => False

theorem Expr.HasLabelText.mono {inner e : Expr} (h : inner.nodes ⊆ e.nodes) {text : String}
    (htext : inner.HasLabelText text) : e.HasLabelText text := by
  obtain ⟨function, f, args, arg, hcall, hrest⟩ := htext
  exact ⟨function, f, args, arg, h hcall, hrest⟩

theorem Invalid.Within.mono {inner e : Expr} (h : inner.nodes ⊆ e.nodes) (cause : Invalid)
    (hcause : cause.Within inner) : cause.Within e := by
  cases cause with
  | emptyLabelList clause =>
    cases clause <;>
    · obtain ⟨operator, operand, hnode⟩ := hcause
      exact ⟨operator, operand, h hnode⟩
  | quantile x =>
    obtain ⟨q, target, hnode, hrest⟩ := hcause
    exact ⟨q, target, h hnode, hrest⟩
  | labelName name => exact ⟨hcause.1.mono h, hcause.2⟩
  | labelValue value => exact ⟨hcause.1.mono h, hcause.2⟩
  | pattern found =>
    obtain ⟨text, htext, hrest⟩ := hcause
    exact ⟨text, htext.mono h, hrest⟩
  | metricName | duration | missingQuantile | unexpectedQuantile | emptyFragment | placeholders =>
    cases hcause

/-! ## Steps -/

section Labels

variable {e : Expr}

theorem failsOnly_labelName {name : String} (h : e.HasLabelText name) :
    FailsOnly (Invalid.Within e)
      (liftM (LabelName.ofString name) : Except CompileError LabelName) := by
  apply FailsOnly.lift
  intro cause hcause
  unfold LabelName.ofString at hcause
  split at hcause
  · cases hcause
  · rename_i hname
    cases hcause
    exact ⟨h, fun hvalid => hname (isLabelName_iff.mpr hvalid)⟩

theorem failsOnly_checkValue {value : String} (h : e.HasLabelText value) :
    FailsOnly (Invalid.Within e) (liftM (checkValue value) : Except CompileError Unit) := by
  apply FailsOnly.lift
  intro cause hcause
  unfold checkValue at hcause
  split at hcause
  · rename_i hcomma
    cases hcause
    exact ⟨h, by simpa using hcomma⟩
  · cases hcause

theorem failsOnly_checkPattern {text : String} (h : e.HasLabelText text) :
    FailsOnly (Invalid.Within e)
      (liftM (checkPattern text) : Except CompileError (PLift (isPattern text = true))) := by
  apply FailsOnly.lift
  intro cause hcause
  unfold checkPattern at hcause
  by_cases hraw : (Regex.parse? text).isSome = true
  · rw [dif_pos hraw] at hcause
    by_cases hfull : (Regex.parse? (Regex.anchored text)).isSome = true
    · rw [dif_pos hfull] at hcause
      cases hcause
    · rw [dif_neg hfull] at hcause
      cases hcause
      exact ⟨text, h, by simp [isPattern, hfull], .inr rfl⟩
  · rw [dif_neg hraw] at hcause
    cases hcause
    exact ⟨text, h, by simp [isPattern, hraw], .inl rfl⟩

theorem failsOnly_labelNames (f : LabelFunction) {keys : List String}
    (h : ∀ key ∈ keys, e.HasLabelText key) : FailsOnly (Invalid.Within e) (labelNames f keys) := by
  unfold labelNames
  split
  · exact .error (by simp)
  · exact FailsOnly.mapM fun key hkey => failsOnly_labelName (h key hkey)

/-- A label function finds only its own arguments invalid. -/
theorem failsOnly_relabeling (mode : LabelMode) {edit : LabelEdit}
    (h : ∀ text ∈ edit.texts, e.HasLabelText text) :
    FailsOnly (Invalid.Within e) (edit.relabeling mode) := by
  cases edit with
  | set key value =>
    refine (failsOnly_labelName (h key (by simp))).bind fun _ _ => ?_
    exact (failsOnly_checkValue (h value (by simp))).bind fun _ _ => .ok _
  | del keys => exact (failsOnly_labelNames .del h).bind fun _ _ => .ok _
  | keep keys => exact (failsOnly_labelNames .keep h).bind fun _ _ => .ok _
  | copy source target | move source target =>
    refine (failsOnly_labelName (h source (by simp))).bind fun _ _ => ?_
    exact (failsOnly_labelName (h target (by simp))).bind fun _ _ => .ok _
  | replace target replacement source pattern =>
    refine (failsOnly_labelName (h target (by simp))).bind fun _ _ => ?_
    refine (failsOnly_labelName (h source (by simp))).bind fun _ _ => ?_
    refine (failsOnly_checkValue (h replacement (by simp))).bind fun _ _ => ?_
    exact (failsOnly_checkPattern (h pattern (by simp))).bind fun _ _ => .ok _

end Labels

namespace Expr

variable {P : Invalid → Prop}

theorem failsOnly_textArg (function : String) (arg : Expr) :
    FailsOnly P (arg.textArg function) := by
  unfold textArg
  split
  · exact .ok _
  · exact .error (by simp)

theorem failsOnly_vectorCode (function : String) (c : Compiled) :
    FailsOnly P (vectorCode function c) := by
  unfold vectorCode
  split
  · exact .ok _
  · exact .error (by simp)

theorem failsOnly_checkArgCount (f : LabelFunction) (count : Nat) :
    FailsOnly P (checkArgCount f count) := by
  cases f <;> unfold checkArgCount <;> dsimp only <;> (repeat' split) <;>
    first | exact .ok _ | exact .error (by simp)

theorem failsOnly_compileLabelCall {function : String} {f : LabelFunction} {args : List Expr}
    (hname : LabelFunction.ofName? function = some f) (mode : LabelMode) (input : Compiled) :
    FailsOnly (Invalid.Within (.call function args)) (compileLabelCall mode f args input) := by
  refine (failsOnly_vectorCode f.name input).bind fun _ _ => ?_
  refine (FailsOnly.mapM fun arg _ => failsOnly_textArg f.name arg).bind fun texts htexts => ?_
  split
  · rename_i edit hedit
    refine (failsOnly_relabeling mode fun text htext => ?_).bind fun _ _ => .ok _
    obtain ⟨-, rfl⟩ := LabelFunction.edit?_eq_some_iff.mp hedit
    -- The texts of the edit are the arguments after the input.
    have hmem : Expr.text text ∈ args.tail.map stripParens := by
      rw [textArgs_eq_ok_iff.mp htexts]
      exact List.mem_map_of_mem htext
    obtain ⟨arg, harg, hstrip⟩ := List.mem_map.mp hmem
    exact ⟨function, f, args, arg, by simp [nodes], hname, harg, hstrip⟩
  · exact .error (by simp)

theorem failsOnly_rollupArgs (r : Rollup) (args : List Expr) : FailsOnly P (rollupArgs r args) := by
  unfold rollupArgs
  dsimp only
  (repeat' split) <;> first | exact .ok _ | exact .error (by simp)

theorem failsOnly_ofParts {r : Rollup} {s : Selector} {quantile : Option Float}
    (h : ∀ cause, r.quantileFault? quantile = some cause → P cause) :
    FailsOnly P (RollupCall.ofParts r s quantile) := by
  unfold RollupCall.ofParts
  split
  · exact .error (by simp)
  · split
    · rename_i cause hfault
      intro cause' hfailure
      cases hfailure
      exact h cause hfault
    · exact .ok _

/-- A rollup finds only its quantile invalid.  `quantile_over_time` has one among its arguments and
the other functions have none, so it is neither missing nor unexpected. -/
theorem failsOnly_compileRollup {function : String} {r : Rollup} {args : List Expr}
    (hname : Rollup.ofName? function = some r) (mode : PatternMode) :
    FailsOnly (Invalid.Within (.call function args)) (compileRollup mode r args) := by
  refine (failsOnly_rollupArgs r args).bind ?_
  rintro ⟨quantile, target⟩ hargs
  dsimp only
  split
  · refine (failsOnly_ofParts ?_).bind fun _ _ => .ok _
    intro cause hcause
    rcases rollupArgs_eq_ok_iff.mp hargs with ⟨hplain, -, rfl⟩ | ⟨rfl, q, x, rfl, hx, rfl⟩
    · cases r <;> first | exact absurd rfl hplain | cases hcause
    · simp only [Rollup.quantileFault?] at hcause
      split at hcause
      · cases hcause
      · rename_i hrange
        cases hcause
        refine ⟨q, target, ?_, hx, outside_of_isQuantile_eq_false (by simpa using hrange)⟩
        rw [eq_of_ofName?_quantile hname, nodes]
        exact List.mem_cons_self
  · exact .error (by simp)

theorem failsOnly_partition (a : Aggregation) : FailsOnly P (partition a) := by
  unfold partition
  split
  · exact .ok _
  · exact .error (by simp)
  · exact .ok _

theorem failsOnly_aggregateCode (a : Aggregation) (operand : Code) :
    FailsOnly P (aggregateCode a operand) :=
  (failsOnly_partition a).bind fun _ _ => .ok _

theorem failsOnly_aggregateSelector (mode : PatternMode) (a : Aggregation) (s : Selector) :
    FailsOnly P (aggregateSelector mode a s) := by
  unfold aggregateSelector
  split
  · exact failsOnly_aggregateCode a _
  · exact (failsOnly_partition a).bind fun _ _ => .ok _

/-- A clause is refused for the lack of labels only. -/
theorem failsOnly_clause (operator : String) (kind : Aggregate) (grouping : Grouping)
    (canonical : Bool) (operand : Expr) :
    FailsOnly (Invalid.Within (.aggregate operator grouping operand))
      (liftM (Aggregation.ofParts kind grouping canonical) : Except CompileError Aggregation) := by
  apply FailsOnly.lift
  intro cause hcause
  match grouping with
  | .by [] | .without [] =>
    cases hcause
    exact ⟨operator, operand, by simp [nodes]⟩
  | .all | .by (_ :: _) | .without (_ :: _) => cases hcause

theorem failsOnly_binary (op : BinaryOperator) (mode : ComparisonMode) (left right : Compiled) :
    FailsOnly P (Compile.binary op mode left right) := by
  unfold Compile.binary
  dsimp only
  (repeat' split) <;> first | exact .ok _ | exact .error (by simp)

/-! ## Expressions -/

/-- Compilation finds a value invalid only if the expression holds it. -/
theorem failsOnly_compile (o : Options) (e : Expr) :
    FailsOnly (Invalid.Within e) (e.compile o) := by
  induction e using Expr.inductionOn with
  | selector s =>
    rw [compile]
    exact .ok _
  | call function args ih =>
    rw [compile]
    split
    · rename_i r hname
      exact (failsOnly_compileRollup hname _).bind fun _ _ => .ok _
    · rename_i f _ hname
      have hinput : FailsOnly (Invalid.Within (.call function args)) (compileInput o f args) := by
        cases args with
        | nil =>
          rw [compileInput]
          exact .error (by simp)
        | cons input args =>
          rw [compileInput]
          exact (ih input List.mem_cons_self).mono
            (Invalid.Within.mono (nodes_subset_call List.mem_cons_self function))
      refine (failsOnly_checkArgCount f args.length).bind fun _ _ => hinput.bind fun _ _ => ?_
      exact (failsOnly_compileLabelCall hname _ _).bind fun _ _ => .ok _
    · exact .error (by simp)
  | aggregate operator grouping operand ih =>
    rw [compile]
    split
    · exact .error (by simp)
    · rename_i kind hkind
      refine (failsOnly_clause operator kind grouping _ operand).bind fun a _ => ?_
      split
      · exact (failsOnly_aggregateSelector _ a _).bind fun _ _ => .ok _
      · refine (ih.mono (Invalid.Within.mono ?_)).bind fun c _ => ?_
        · rw [nodes]
          exact List.subset_cons_self _ _
        · refine (failsOnly_vectorCode operator c).bind fun input _ => ?_
          exact (failsOnly_aggregateCode a input).bind fun _ _ => .ok _
  | binary operator mode left right ihLeft ihRight =>
    rw [compile]
    split
    · exact .error (by simp)
    · rename_i op hop
      refine (ihLeft.mono (Invalid.Within.mono ?_)).bind fun l _ => ?_
      · rw [nodes]
        exact List.Subset.trans (List.subset_append_left _ _) (List.subset_cons_self _ _)
      · refine (ihRight.mono (Invalid.Within.mono ?_)).bind fun r _ => failsOnly_binary op mode l r
        rw [nodes]
        exact List.Subset.trans (List.subset_append_right _ _) (List.subset_cons_self _ _)
  | paren inner ih =>
    rw [compile]
    refine ih.mono (Invalid.Within.mono ?_)
    rw [nodes]
    exact List.subset_cons_self _ _
  | number x =>
    rw [compile]
    exact .ok _
  | text s =>
    rw [compile]
    exact .error (by simp)

end Expr

end SeriesSql
