import SeriesSql.Proofs.Compile.Agreement
import SeriesSql.Proofs.Compile.Shapes

/-!
# Expressions with the same code

`Expr.SameCode o o' e e'` says that `e` under `o` and `e'` under `o'` cannot be told apart by
compilation: they have the same code, or fail with errors that differ at most in the argument that
is shown, and the same thing is found inside their parentheses.

The relation is a congruence.  There is one lemma for every construct, with what the construct
itself may differ in as a hypothesis, so a law about rewritten expressions or about other options is
proved by induction over expressions and opens no step of compilation.

There are four groups.

* Errors without the argument that they show.
* Leaves, which are looked for inside parentheses.
* The steps of compilation, in terms of the leaves of their arguments.
* The congruence.
-/

namespace SeriesSql

open Sql Compile Labels

/-! ## Errors without their argument -/

/-- The error without the argument that it shows.  Only the fault of an argument that is no text
shows one. -/
def CompileError.hideArgument : CompileError → CompileError
  | arguments function (.notText _) usage => arguments function (.notText "") usage
  | cause => cause

section Hidden

variable {ε ε' α β : Type} {g : ε → ε'}

theorem mapError_bind_congr {x y : Except ε α} {f f' : α → Except ε β}
    (h : x.mapError g = y.mapError g) (hnext : ∀ a, (f a).mapError g = (f' a).mapError g) :
    (x >>= f).mapError g = (y >>= f').mapError g := by
  cases x with
  | error cause =>
    cases y with
    | error cause' => exact congrArg Except.error (Except.error.inj h)
    | ok b => cases h
  | ok a =>
    cases y with
    | error cause => cases h
    | ok b =>
      obtain rfl := Except.ok.inj h
      exact hnext a

theorem mapError_mapM_congr {f : α → Except ε β} {xs ys : List α}
    (h : List.Forall₂ (fun x y => (f x).mapError g = (f y).mapError g) xs ys) :
    (xs.mapM f).mapError g = (ys.mapM f).mapError g := by
  induction h with
  | nil => rfl
  | cons hhead _ ih =>
    rw [List.mapM_cons, List.mapM_cons]
    refine mapError_bind_congr hhead fun b => ?_
    exact mapError_bind_congr ih fun _ => rfl

/-- The first steps have the same errors, and the next ones differ at most in the argument. -/
theorem Agree.mapError_bind {γ : Type} {R : α → β → Prop} {x : Except ε α} {y : Except ε β}
    {f : α → Except ε γ} {f' : β → Except ε γ} (h : Agree R x y)
    (hnext : ∀ a b, R a b → (f a).mapError g = (f' b).mapError g) :
    (x >>= f).mapError g = (y >>= f').mapError g := by
  cases h with
  | error cause => rfl
  | ok h => exact hnext _ _ h

theorem Agree.eq {x y : Except ε α} (h : Agree (· = ·) x y) : x = y := by
  cases h with
  | error cause => rfl
  | ok h => rw [h]

theorem Agree.error_iff {R : α → β → Prop} {x : Except ε α} {y : Except ε β} (h : Agree R x y)
    {cause : ε} : x = .error cause ↔ y = .error cause := by
  cases h with
  | error found => simp
  | ok h => simp

end Hidden

/-! ## Leaves -/

/-- What a construct may ask of its argument, up to parentheses. -/
inductive Leaf where
  | selector (s : Selector)
  | number (x : Float)
  | text (s : String)

namespace Expr

/-- The leaf inside the parentheses of an expression. -/
def leaf? (e : Expr) : Option Leaf :=
  match e.stripParens with
  | .selector s => some (.selector s)
  | .number x => some (.number x)
  | .text s => some (.text s)
  | _ => none

/-- Both expressions have the same selector inside their parentheses, or neither has one. -/
theorem selector_cases {e e' : Expr} (h : e.leaf? = e'.leaf?) :
    (∃ s, e.stripParens = .selector s ∧ e'.stripParens = .selector s) ∨
      (∀ s, e.stripParens ≠ .selector s) ∧ ∀ s, e'.stripParens ≠ .selector s := by
  have hselector (e : Expr) (s : Selector) :
      e.stripParens = .selector s ↔ e.leaf? = some (.selector s) := by
    unfold leaf?
    cases e.stripParens <;> simp
  by_cases hs : ∃ s, e.stripParens = .selector s
  · obtain ⟨s, hs⟩ := hs
    exact .inl ⟨s, hs, by rwa [hselector, ← h, ← hselector]⟩
  · rw [not_exists] at hs
    refine .inr ⟨hs, fun s hs' => hs s ?_⟩
    rwa [hselector, h, ← hselector]

/-! ## Steps -/

theorem textArg_eq_leaf? (function : String) (e : Expr) :
    (e.textArg function).mapError CompileError.hideArgument =
      match e.leaf? with
      | some (.text value) => .ok value
      | _ =>
        .error (.arguments function (.notText "")
          (function ++ "(http_requests_total, \"label\", ...)")) := by
  unfold textArg leaf?
  cases e.stripParens <;> rfl

theorem rollupArgs_eq_leaf? (q target : Expr) :
    rollupArgs .quantileOverTime [q, target] =
      match q.leaf? with
      | some (.number x) => .ok (some x, target)
      | _ =>
        .error (.arguments Rollup.quantileOverTime.name .quantileNotLiteral
          Rollup.quantileOverTime.usage) := by
  unfold leaf?
  simp only [rollupArgs]
  cases q.stripParens <;> rfl

/-- Rollups find the same quantile, and targets with the same leaf. -/
theorem agree_rollupArgs (r : Rollup) {args args' : List Expr}
    (h : List.Forall₂ (fun e e' => e.leaf? = e'.leaf?) args args') :
    Agree (fun found found' => found.1 = found'.1 ∧ found.2.leaf? = found'.2.leaf?)
      (rollupArgs r args) (rollupArgs r args') := by
  have hlength : args.length = args'.length := h.length_eq
  match h with
  | .nil => exact .refl (fun _ => ⟨rfl, rfl⟩) _
  | .cons htarget .nil =>
    cases r with
    | quantileOverTime => exact .error _
    | _ => exact .ok ⟨rfl, htarget⟩
  | .cons hq (.cons htarget .nil) =>
    cases r with
    | quantileOverTime =>
      rw [rollupArgs_eq_leaf?, rollupArgs_eq_leaf?, hq]
      split
      · exact .ok ⟨rfl, htarget⟩
      · exact .error _
    | _ => exact .error _
  | .cons _ (.cons _ (.cons _ _)) =>
    simp only [List.length_cons] at hlength
    cases r <;> simp only [rollupArgs, List.length_cons, hlength] <;> exact .error _

theorem compileRollup_congr (mode : PatternMode) (r : Rollup) {args args' : List Expr}
    (h : List.Forall₂ (fun e e' => e.leaf? = e'.leaf?) args args') :
    compileRollup mode r args = compileRollup mode r args' := by
  refine Agree.eq ((agree_rollupArgs r h).bind ?_)
  rintro ⟨quantile, target⟩ ⟨quantile', target'⟩ ⟨hquantile, htarget⟩
  obtain rfl : quantile = quantile' := hquantile
  rcases selector_cases htarget with ⟨s, hs, hs'⟩ | ⟨hnone, hnone'⟩
  · simp only [hs, hs']
    exact .refl (fun _ => rfl) _
  · dsimp only
    split
    · exact absurd ‹_› (hnone _)
    · exact .error _

/-- Only deleting and keeping labels depends on the mode. -/
theorem relabeling_congr {mode mode' : LabelMode} {edit : LabelEdit}
    (h : edit.function = .del ∨ edit.function = .keep → mode = mode') :
    edit.relabeling mode = edit.relabeling mode' := by
  cases edit with
  | del keys => rw [h (.inl rfl)]
  | keep keys => rw [h (.inr rfl)]
  | set | copy | move | replace => rfl

/-- Two calls have the same texts after their input, or both have an argument that is no text. -/
theorem compileLabelCall_congr {mode mode' : LabelMode} {f : LabelFunction} {args args' : List Expr}
    (hmode : f = .del ∨ f = .keep → mode = mode')
    (h : List.Forall₂ (fun e e' => e.leaf? = e'.leaf?) args args') (input : Compiled) :
    (compileLabelCall mode f args input).mapError CompileError.hideArgument =
      (compileLabelCall mode' f args' input).mapError CompileError.hideArgument := by
  have htexts : (args.tail.mapM (textArg f.name)).mapError CompileError.hideArgument =
      (args'.tail.mapM (textArg f.name)).mapError CompileError.hideArgument := by
    refine mapError_mapM_congr ?_
    cases h with
    | nil => exact .nil
    | cons _ hrest =>
      refine hrest.imp fun e e' hleaf => ?_
      rw [textArg_eq_leaf?, textArg_eq_leaf?, hleaf]
  refine mapError_bind_congr rfl fun code => mapError_bind_congr htexts fun texts => ?_
  cases hedit : f.edit? texts with
  | none => rfl
  | some edit =>
    obtain ⟨rfl, -⟩ := LabelFunction.edit?_eq_some_iff.mp hedit
    dsimp only
    rw [relabeling_congr hmode]

end Expr

/-- Aggregations with the same operator and the same groups. -/
def Compile.SameGroups (a a' : Aggregation) : Prop :=
  a.kind = a'.kind ∧ partition a = partition a'

/-- The clauses of two groupings pass the same checks and make the same groups. -/
def Grouping.Exchangeable (canonical canonical' : Bool) (g g' : Grouping) : Prop :=
  ∀ kind, Agree SameGroups
    (liftM (Aggregation.ofParts kind g canonical) : Except CompileError Aggregation)
    (liftM (Aggregation.ofParts kind g' canonical'))

theorem Grouping.Exchangeable.refl (canonical : Bool) (g : Grouping) :
    g.Exchangeable canonical canonical g :=
  fun _ => Agree.refl (fun _ => ⟨rfl, rfl⟩) _

namespace Compile

variable {a a' : Aggregation}

theorem SameGroups.aggregateCode_eq (h : SameGroups a a') (operand : Code) :
    aggregateCode a operand = aggregateCode a' operand := by
  unfold aggregateCode
  rw [h.1, h.2]

theorem SameGroups.aggregateSelector_eq (h : SameGroups a a') (mode : PatternMode) (s : Selector) :
    aggregateSelector mode a s = aggregateSelector mode a' s := by
  unfold aggregateSelector
  rw [h.1, h.2, h.aggregateCode_eq]

end Compile

/-! ## The congruence -/

namespace Expr

/-- Compilation does not tell `e` under `o` from `e'` under `o'`. -/
structure SameCode (o o' : Options) (e e' : Expr) : Prop where
  compile : (e.compile o).mapError CompileError.hideArgument =
    (e'.compile o').mapError CompileError.hideArgument
  leaf : e.leaf? = e'.leaf?

namespace SameCode

variable {o o' : Options}

theorem compile_eq_ok_iff {e e' : Expr} (h : SameCode o o' e e') {c : Compiled} :
    e.compile o = .ok c ↔ e'.compile o' = .ok c := by
  rw [← mapError_eq_ok_iff (g := CompileError.hideArgument), h.compile, mapError_eq_ok_iff]

theorem statement_eq_ok_iff {e e' : Expr} (h : SameCode o o' e e') {f : Fragment} :
    e.statement o = .ok f ↔ e'.statement o' = .ok f := by
  simp only [statement, bind_eq_ok, h.compile_eq_ok_iff]

theorem selector (hpattern : o.patternMode = o'.patternMode) (s : Selector) :
    SameCode o o' (.selector s) (.selector s) where
  compile := by rw [Expr.compile, Expr.compile, hpattern]
  leaf := rfl

theorem number (x : Float) : SameCode o o' (.number x) (.number x) where
  compile := by rw [Expr.compile, Expr.compile]
  leaf := rfl

theorem text (s : String) : SameCode o o' (.text s) (.text s) where
  compile := by rw [Expr.compile, Expr.compile]
  leaf := rfl

theorem paren_left {e e' : Expr} (h : SameCode o o' e e') : SameCode o o' (.paren e) e' where
  compile := by
    rw [Expr.compile]
    exact h.compile
  leaf := h.leaf

theorem paren_right {e e' : Expr} (h : SameCode o o' e e') : SameCode o o' e (.paren e') where
  compile := by
    rw [Expr.compile.eq_def o' (.paren e')]
    exact h.compile
  leaf := h.leaf

theorem binary {left left' right right' : Expr} (hleft : SameCode o o' left left')
    (hright : SameCode o o' right right') (operator : String) (mode : ComparisonMode) :
    SameCode o o' (.binary operator mode left right) (.binary operator mode left' right') where
  compile := by
    rw [Expr.compile, Expr.compile]
    cases BinaryOperator.ofSymbol? operator with
    | none => rfl
    | some op =>
      exact mapError_bind_congr hleft.compile fun _ =>
        mapError_bind_congr hright.compile fun _ => rfl
  leaf := rfl

theorem call {args args' : List Expr} (hargs : List.Forall₂ (SameCode o o') args args')
    (hpattern : o.patternMode = o'.patternMode) {function : String}
    (hmode : function = "label_del" ∨ function = "label_keep" → o.labelMode = o'.labelMode) :
    SameCode o o' (.call function args) (.call function args') where
  compile := by
    have hleaves : List.Forall₂ (fun e e' => e.leaf? = e'.leaf?) args args' :=
      hargs.imp fun _ _ h => h.leaf
    rw [Expr.compile, Expr.compile]
    cases Rollup.ofName? function with
    | some r =>
      refine mapError_bind_congr ?_ fun _ => rfl
      rw [hpattern, compileRollup_congr _ r hleaves]
    | none =>
      cases hname : LabelFunction.ofName? function with
      | none => rfl
      | some f =>
        rw [LabelFunction.ofName?_eq_some_iff] at hname
        subst hname
        have hinput : (compileInput o f args).mapError CompileError.hideArgument =
            (compileInput o' f args').mapError CompileError.hideArgument := by
          cases hargs with
          | nil =>
            rw [compileInput, compileInput]
          | cons hfirst _ =>
            rw [compileInput, compileInput]
            exact hfirst.compile
        have hmode' : f = .del ∨ f = .keep → o.labelMode = o'.labelMode := by
          rintro (rfl | rfl)
          · exact hmode (.inl rfl)
          · exact hmode (.inr rfl)
        rw [hleaves.length_eq]
        refine mapError_bind_congr rfl fun _ => mapError_bind_congr hinput fun input => ?_
        exact mapError_bind_congr (compileLabelCall_congr hmode' hleaves input) fun _ => rfl
  leaf := rfl

theorem aggregate {operand operand' : Expr} (h : SameCode o o' operand operand')
    (hpattern : o.patternMode = o'.patternMode) {grouping grouping' : Grouping}
    (hgroups : grouping.Exchangeable o.canonicalGrouping o'.canonicalGrouping grouping')
    (operator : String) :
    SameCode o o' (.aggregate operator grouping operand)
      (.aggregate operator grouping' operand') where
  compile := by
    rw [Expr.compile, Expr.compile]
    cases Aggregate.ofName? operator with
    | none => rfl
    | some kind =>
      refine (hgroups kind).mapError_bind fun a a' hsame => ?_
      rcases selector_cases h.leaf with ⟨s, hs, hs'⟩ | ⟨hnone, hnone'⟩
      · simp only [hs, hs', hpattern, hsame.aggregateSelector_eq]
      · split
        · exact absurd ‹_› (hnone _)
        · refine mapError_bind_congr h.compile fun _ => mapError_bind_congr rfl fun input => ?_
          rw [hsame.aggregateCode_eq]
  leaf := rfl

end SameCode

end Expr

end SeriesSql
