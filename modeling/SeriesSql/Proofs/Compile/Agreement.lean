import SeriesSql.Proofs.Compile.Derivation

/-!
# Options decide neither success nor shape

Whatever the options are, an expression compiles to the same shape or fails with the same error:
`agree_compile`.  Options only choose between pieces of code, once everything is checked.

There are three groups.

* `Agree`: two runs that fail with the same error or succeed with related results, and how this is
  carried through a bind.
* The steps that read options: rollups, label functions and groupings.
* The induction over expressions.
-/

namespace SeriesSql

open Sql Compile Labels

/-! ## Runs that agree -/

/-- Both runs fail with the same error, or both succeed and their results are related. -/
inductive Agree {ε α β : Type} (R : α → β → Prop) : Except ε α → Except ε β → Prop
  | error (cause : ε) : Agree R (.error cause) (.error cause)
  | ok {a : α} {b : β} (h : R a b) : Agree R (.ok a) (.ok b)

namespace Agree

variable {ε α β γ δ : Type} {R : α → β → Prop} {S : γ → δ → Prop}

theorem bind {x : Except ε α} {y : Except ε β} {f : α → Except ε γ} {g : β → Except ε δ}
    (h : Agree R x y) (hnext : ∀ a b, R a b → Agree S (f a) (g b)) :
    Agree S (x >>= f) (y >>= g) := by
  cases h with
  | error cause => exact .error cause
  | ok h => exact hnext _ _ h

/-- Two runs that start with the same step. -/
theorem bind_same (x : Except ε α) {f : α → Except ε γ} {g : α → Except ε δ}
    (hnext : ∀ a, Agree S (f a) (g a)) : Agree S (x >>= f) (x >>= g) := by
  cases x with
  | error cause => exact .error cause
  | ok a => exact hnext a

theorem eq_error {cause : ε} {y : Except ε β} (h : Agree R (.error cause) y) :
    y = .error cause := by
  cases h
  rfl

theorem exists_ok {a : α} {y : Except ε β} (h : Agree R (.ok a) y) : ∃ b, y = .ok b ∧ R a b := by
  cases h with
  | ok h => exact ⟨_, rfl, h⟩

theorem refl {R : α → α → Prop} (hR : ∀ a, R a a) (x : Except ε α) : Agree R x x := by
  cases x with
  | error cause => exact .error cause
  | ok a => exact .ok (hR a)

end Agree

/-- The results of both runs may be anything. -/
def AnyResults {α β : Type} (_ : α) (_ : β) : Prop := True

/-! ## Steps that read options -/

namespace Compile

theorem agree_relabeling (mode mode' : LabelMode) (edit : LabelEdit) :
    Agree AnyResults (edit.relabeling mode) (edit.relabeling mode') := by
  cases edit with
  | del keys | keep keys => exact Agree.bind_same _ fun _ => .ok trivial
  | set | copy | move | replace => exact Agree.refl (fun _ => trivial) _

/-- Canonical grouping plays no part in the check of a clause. -/
theorem agree_ofParts (kind : Aggregate) (grouping : Grouping) (canonical canonical' : Bool) :
    Agree (fun a a' => a.grouping = a'.grouping)
      (liftM (Aggregation.ofParts kind grouping canonical) : Except CompileError Aggregation)
      (liftM (Aggregation.ofParts kind grouping canonical')) := by
  match grouping with
  | .by [] | .without [] => exact .error _
  | .all | .by (_ :: _) | .without (_ :: _) => exact .ok rfl

theorem agree_partition {a a' : Aggregation} (h : a.grouping = a'.grouping) :
    Agree AnyResults (partition a) (partition a') := by
  unfold partition
  rw [h]
  cases a'.grouping with
  | without labels => exact .error _
  | all | «by» labels => exact .ok trivial

theorem agree_aggregateCode {a a' : Aggregation} (h : a.grouping = a'.grouping)
    (operand operand' : Code) :
    Agree AnyResults (aggregateCode a operand) (aggregateCode a' operand') :=
  (agree_partition h).bind fun _ _ _ => .ok trivial

theorem agree_aggregateSelector (mode mode' : PatternMode) {a a' : Aggregation}
    (h : a.grouping = a'.grouping) (s : Selector) :
    Agree AnyResults (aggregateSelector mode a s) (aggregateSelector mode' a' s) := by
  unfold aggregateSelector
  split
  · exact agree_aggregateCode h _ _
  · exact (agree_partition h).bind fun _ _ _ => .ok trivial

/-- Compiled expressions of the same shape. -/
def SameShape (c c' : Compiled) : Prop := c.shape = c'.shape

/-- A join is refused for its operator and the shapes of its operands. -/
theorem agree_binary (op : BinaryOperator) (mode : ComparisonMode)
    {left left' right right' : Compiled} (hleft : SameShape left left')
    (hright : SameShape right right') :
    Agree SameShape (binary op mode left right) (binary op mode left' right') := by
  unfold SameShape at hleft hright
  unfold binary
  rw [hleft, hright]
  cases op with
  | arithmetic op => exact .ok rfl
  | comparison op =>
    dsimp only
    split
    · exact .error _
    · exact .ok rfl
  | set op =>
    dsimp only
    split
    · exact .ok rfl
    · exact .error _

end Compile

namespace Expr

theorem agree_vectorCode (function : String) {c c' : Compiled} (h : SameShape c c') :
    Agree AnyResults (vectorCode function c) (vectorCode function c') := by
  unfold SameShape at h
  unfold vectorCode
  rw [h]
  cases c'.shape with
  | vector => exact .ok trivial
  | scalar => exact .error _

theorem agree_compileRollup (mode mode' : PatternMode) (r : Rollup) (args : List Expr) :
    Agree AnyResults (compileRollup mode r args) (compileRollup mode' r args) := by
  refine Agree.bind_same _ ?_
  rintro ⟨quantile, target⟩
  dsimp only
  cases target.stripParens with
  | selector s => exact Agree.bind_same _ fun _ => .ok trivial
  | _ => exact .error _

theorem agree_compileLabelCall (mode mode' : LabelMode) (f : LabelFunction) (args : List Expr)
    {input input' : Compiled} (h : SameShape input input') :
    Agree AnyResults (compileLabelCall mode f args input)
      (compileLabelCall mode' f args input') := by
  refine (agree_vectorCode f.name h).bind fun _ _ _ => Agree.bind_same _ fun texts => ?_
  cases f.edit? texts with
  | none => exact .error _
  | some edit => exact (agree_relabeling mode mode' edit).bind fun _ _ _ => .ok trivial

/-! ## Expressions -/

/-- An expression compiles to the same shape under all options, or fails with the same error. -/
theorem agree_compile (o o' : Options) (e : Expr) :
    Agree SameShape (e.compile o) (e.compile o') := by
  induction e using Expr.inductionOn with
  | selector s =>
    rw [compile, compile]
    exact .ok rfl
  | call function args ih =>
    rw [compile, compile]
    cases Rollup.ofName? function with
    | some r => exact (agree_compileRollup _ _ r args).bind fun _ _ _ => .ok rfl
    | none =>
      cases LabelFunction.ofName? function with
      | none => exact .error _
      | some f =>
        have hinput : Agree SameShape (compileInput o f args) (compileInput o' f args) := by
          cases args with
          | nil =>
            rw [compileInput, compileInput]
            exact .error _
          | cons input args =>
            rw [compileInput, compileInput]
            exact ih input List.mem_cons_self
        refine Agree.bind_same _ fun _ => hinput.bind fun input input' hshape => ?_
        exact (agree_compileLabelCall _ _ f args hshape).bind fun _ _ _ => .ok rfl
  | aggregate operator grouping operand ih =>
    rw [compile, compile]
    cases Aggregate.ofName? operator with
    | none => exact .error _
    | some kind =>
      refine (agree_ofParts kind grouping _ _).bind fun a a' hgrouping => ?_
      have hother : Agree SameShape
          (do
            let input ← vectorCode operator (← operand.compile o)
            return (⟨← aggregateCode a input, .vector⟩ : Compiled))
          (do
            let input ← vectorCode operator (← operand.compile o')
            return (⟨← aggregateCode a' input, .vector⟩ : Compiled)) := by
        refine ih.bind fun c c' hshape => (agree_vectorCode operator hshape).bind fun _ _ _ => ?_
        exact (agree_aggregateCode hgrouping _ _).bind fun _ _ _ => .ok rfl
      cases operand.stripParens with
      | selector s => exact (agree_aggregateSelector _ _ hgrouping s).bind fun _ _ _ => .ok rfl
      | _ => exact hother
  | binary operator mode left right ihLeft ihRight =>
    rw [compile, compile]
    cases BinaryOperator.ofSymbol? operator with
    | none => exact .error _
    | some op =>
      exact ihLeft.bind fun _ _ hleft =>
        ihRight.bind fun _ _ hright => agree_binary op mode hleft hright
  | paren inner ih =>
    rw [compile, compile]
    exact ih
  | number x =>
    rw [compile, compile]
    exact .ok rfl
  | text s =>
    rw [compile, compile]
    exact .error _

end Expr

end SeriesSql
