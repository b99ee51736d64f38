import SeriesSql.Proofs.Compile.Spacing
import SeriesSql.Proofs.Sql.Embedding
import SeriesSql.Proofs.Statement.Bindings

/-!
# Operands inside statements

The operands of an expression are compiled on their own and then stand in parentheses in the code of
the expression.  `compile_statement_operands` says that each of them, however deep, keeps its text
and gets its own values, and that the operands of a binary operation stand in their order.

There are three groups.

* Paths.  `Expr.operandAt?` is the operand that a path leads to, and `Expr.Locates` says where it
  stands.  What is known of the operands of an operand carries over to the expression:
  `Locates.embeds_nest`.
* The code of the constructs that have operands.  It starts with the table expressions of the
  operands, so that only fixed words and other operands stand before an operand.
* Expressions, by induction over the rules.
-/

namespace SeriesSql

open Sql Compile

/-! ## Paths -/

/-- From an expression to an operand: a side of a binary operation, or the input of an aggregation
or of a label function. -/
inductive Expr.Step where
  | left
  | right
  | input
deriving Repr, DecidableEq

namespace Expr

/-- The expression that a path leads to, through operands that are compiled on their own.  Rollups
and aggregations of latest samples have none. -/
def operandAt? : Expr → List Step → Option Expr
  | e, [] => some e
  | binary _ _ left _, .left :: path => left.operandAt? path
  | binary _ _ _ right, .right :: path => right.operandAt? path
  | aggregate _ _ operand, .input :: path =>
    if operand.isLatest then none else operand.operandAt? path
  | call function (input :: _), .input :: path =>
    if (LabelFunction.ofName? function).isSome then input.operandAt? path else none
  | paren inner, step :: path => inner.operandAt? (step :: path)
  | _, _ :: _ => none

/-- `frame` tells where the operands of an expression stand in `whole`. -/
structure Locates (o : Options) (e : Expr) (whole : Fragment) (frame : List Step → Frame) :
    Prop where
  embeds : ∀ path s, path ≠ [] → e.operandAt? path = some s →
    ∃ c, s.compile o = .ok c ∧ (frame path).Embeds c.code.fragment whole
  /-- All of the left operand stands before the right one. -/
  ordered : ∀ path l r c, e.operandAt? (path ++ [.left]) = some l →
    e.operandAt? (path ++ [.right]) = some r → l.compile o = .ok c →
    ∃ between, (frame (path ++ [.right])).before =
      (frame (path ++ [.left])).before ++ (c.code.fragment.parenthesize ++ between)

theorem stable_of_compile {o : Options} {e : Expr} {c : Compiled} (h : e.compile o = .ok c) :
    c.code.fragment.Stable :=
  Code.stable_fragment (apart_of_compiles (compile_eq_ok_iff.mp h)).native

/-- The frames of the operands of an operand, which itself has the frame `outer`. -/
def nest (outer : Frame) (frame : List Step → Frame) : List Step → Frame
  | [] => outer
  | path => (frame path).within outer

section Nest

variable {o : Options} {s : Expr} {d : Compiled} {whole : Fragment} {outer : Frame}
  {frame : List Step → Frame}

theorem Locates.embeds_nest (h : s.Locates o d.code.fragment frame) (hs : s.compile o = .ok d)
    (houter : outer.Embeds d.code.fragment whole) {path : List Step} {t : Expr}
    (ht : s.operandAt? path = some t) :
    ∃ c, t.compile o = .ok c ∧ (nest outer frame path).Embeds c.code.fragment whole := by
  cases path with
  | nil =>
    rw [operandAt?] at ht
    cases ht
    exact ⟨d, hs, houter⟩
  | cons step path =>
    obtain ⟨c, hc, hembeds⟩ := h.embeds _ t (List.cons_ne_nil step path) ht
    exact ⟨c, hc, hembeds.within (stable_of_compile hc) houter⟩

theorem nest_concat (path : List Step) (step : Step) :
    nest outer frame (path ++ [step]) = (frame (path ++ [step])).within outer := by
  cases path <;> rfl

theorem Locates.ordered_nest (h : s.Locates o d.code.fragment frame) {path : List Step}
    {l r : Expr} {c : Compiled} (hl : s.operandAt? (path ++ [.left]) = some l)
    (hr : s.operandAt? (path ++ [.right]) = some r) (hc : l.compile o = .ok c) :
    ∃ between, (nest outer frame (path ++ [.right])).before =
      (nest outer frame (path ++ [.left])).before ++ (c.code.fragment.parenthesize ++ between) := by
  obtain ⟨between, hbetween⟩ := h.ordered path l r c hl hr hc
  refine ⟨between, ?_⟩
  rw [nest_concat, nest_concat, Frame.within, Frame.within, hbetween]
  simp only [Fragment.append_assoc]

end Nest

/-- An expression without operands. -/
theorem exists_locates_leaf {o : Options} {e : Expr} (whole : Fragment)
    (hnone : ∀ step path, e.operandAt? (step :: path) = none) :
    ∃ frame, e.Locates o whole frame := by
  have hne {path : List Step} {s : Expr} (hs : e.operandAt? path = some s) : path = [] := by
    cases path with
    | nil => rfl
    | cons step path =>
      rw [hnone] at hs
      cases hs
  refine ⟨fun _ => ⟨⟨"", []⟩, ⟨"", []⟩⟩, ?_, ?_⟩
  · intro path s hpath hs
    exact absurd (hne hs) hpath
  · intro path l r c hl hr hc
    exact absurd (hne hl) (by simp)

/-- An expression with one operand. -/
theorem exists_locates_unary {o : Options} {e s : Expr} {d : Compiled} {whole : Fragment}
    {outer : Frame}
    (hpaths : ∀ step path, e.operandAt? (step :: path) =
      if step = .input then s.operandAt? path else none)
    (hs : s.compile o = .ok d) (houter : outer.Embeds d.code.fragment whole)
    (hlocates : ∃ frame, s.Locates o d.code.fragment frame) :
    ∃ frame, e.Locates o whole frame := by
  obtain ⟨frame, hframe⟩ := hlocates
  have hinput {step : Step} {path : List Step} {t : Expr}
      (ht : e.operandAt? (step :: path) = some t) : s.operandAt? path = some t := by
    rw [hpaths] at ht
    split at ht
    · exact ht
    · cases ht
  refine ⟨fun path => nest outer frame path.tail, ?_, ?_⟩
  · intro path t hpath ht
    cases path with
    | nil => exact absurd rfl hpath
    | cons step path => exact hframe.embeds_nest hs houter (hinput ht)
  · intro path l r c hl hr hc
    cases path with
    | nil =>
      rw [List.nil_append, hpaths, if_neg (by decide)] at hl
      cases hl
    | cons step path => exact hframe.ordered_nest (hinput hl) (hinput hr) hc

/-- A binary operation, whose right operand stands after the left one. -/
theorem exists_locates_binary {o : Options} {operator : String} {mode : ComparisonMode}
    {left right : Expr} {l r : Compiled} {whole between : Fragment} {leftFrame rightFrame : Frame}
    (hl : left.compile o = .ok l) (hr : right.compile o = .ok r)
    (hleft : leftFrame.Embeds l.code.fragment whole)
    (hright : rightFrame.Embeds r.code.fragment whole)
    (hbetween : rightFrame.before =
      leftFrame.before ++ (l.code.fragment.parenthesize ++ between))
    (hleftOperands : ∃ frame, left.Locates o l.code.fragment frame)
    (hrightOperands : ∃ frame, right.Locates o r.code.fragment frame) :
    ∃ frame, (binary operator mode left right).Locates o whole frame := by
  obtain ⟨frameLeft, hframeLeft⟩ := hleftOperands
  obtain ⟨frameRight, hframeRight⟩ := hrightOperands
  let frame : List Step → Frame := fun path =>
    if path.head? = some .left then nest leftFrame frameLeft path.tail
    else nest rightFrame frameRight path.tail
  refine ⟨frame, ?_, ?_⟩
  · intro path t hpath ht
    match path with
    | [] => exact absurd rfl hpath
    | .left :: path =>
      rw [operandAt?] at ht
      exact hframeLeft.embeds_nest hl hleft ht
    | .right :: path =>
      rw [operandAt?] at ht
      exact hframeRight.embeds_nest hr hright ht
    | .input :: path =>
      simp only [operandAt?, reduceCtorEq] at ht
  · intro path s t c hs ht hc
    match path with
    | [] =>
      simp only [List.nil_append, operandAt?, Option.some.injEq] at hs ht
      subst hs
      rw [hl] at hc
      cases hc
      exact ⟨between, hbetween⟩
    | .left :: path =>
      rw [List.cons_append, operandAt?] at hs ht
      exact hframeLeft.ordered_nest hs ht hc
    | .right :: path =>
      rw [List.cons_append, operandAt?] at hs ht
      exact hframeRight.ordered_nest hs ht hc
    | .input :: path =>
      simp only [List.cons_append, operandAt?, reduceCtorEq] at hs

end Expr

/-! ## Code with operands -/

namespace Compile

/-- The code starts with `before` and the operand in parentheses. -/
def Leads (before : Fragment) (operand code : Code) : Prop :=
  ∃ after, code.fragment = Frame.around ⟨before, after⟩ operand.fragment

theorem leads_relabeling (r : Relabeling) (input : Code) :
    Leads (w "WITH label_input AS ").fragment input (r.code input) := by
  constructor
  simp only [Relabeling.code, Code.fragment_append, Code.fragment_parens, Fragment.append_assoc,
    Frame.around]
  rfl

theorem leads_timedGroups (kind : Aggregate) (operand : Code) (p : Partition) :
    Leads (w "WITH aggregation_input AS ").fragment operand (timedGroups kind operand p) := by
  constructor
  simp only [timedGroups, Code.fragment_append, Code.fragment_parens, Fragment.append_assoc,
    Frame.around]
  rfl

/-- The code of a binary operation starts with the tables of its operands. -/
theorem exists_twoTables {op : BinaryOperator} {mode : ComparisonMode} {l r c : Compiled}
    (h : Compile.binary op mode l r = .ok c) :
    ∃ (first second : Word) (rest : Fragment), c.code.fragment =
      (twoTables (.word first) l.code (.word second) r.code).fragment ++ rest := by
  obtain ⟨s, rfl, -, -, rfl⟩ | ⟨sign, -, rfl⟩ := binary_cases h
  · refine ⟨⟨"left_data", .of_chars rfl rfl⟩, ⟨"right_data", .of_chars rfl rfl⟩, ?_⟩
    constructor
    simp only [setOperation, vectorTables, Code.fragment_append, Fragment.append_assoc]
    rfl
  · unfold joinValues
    split
    · refine ⟨⟨"left_scalar", .of_chars rfl rfl⟩, ⟨"right_scalar", .of_chars rfl rfl⟩, ?_⟩
      constructor
      simp only [scalarScalar, Code.fragment_append, Fragment.append_assoc]
      rfl
    · refine ⟨⟨"metric_data", .of_chars rfl rfl⟩, ⟨"scalar_value", .of_chars rfl rfl⟩, ?_⟩
      constructor
      simp only [vectorScalar, if_true, Code.fragment_append, Fragment.append_assoc]
      rfl
    · refine ⟨⟨"scalar_value", .of_chars rfl rfl⟩, ⟨"metric_data", .of_chars rfl rfl⟩, ?_⟩
      constructor
      simp only [vectorScalar, Bool.false_eq_true, if_false, Code.fragment_append,
        Fragment.append_assoc]
      rfl
    · refine ⟨⟨"left_data", .of_chars rfl rfl⟩, ⟨"right_data", .of_chars rfl rfl⟩, ?_⟩
      constructor
      simp only [vectorVector, vectorTables, Code.fragment_append, Fragment.append_assoc]
      rfl

/-- A binary operation leads with its left operand, and after it and fixed words with the right
one. -/
theorem leads_binary {op : BinaryOperator} {mode : ComparisonMode} {l r c : Compiled}
    (h : Compile.binary op mode l r = .ok c) :
    ∃ first between : Code, first.Native ∧ between.Native ∧ Leads first.fragment l.code c.code ∧
      Leads (first.fragment ++ (l.code.fragment.parenthesize ++ between.fragment)) r.code
        c.code := by
  obtain ⟨first, second, rest, hcode⟩ := exists_twoTables h
  refine ⟨w "WITH " ++ Code.word first ++ w " AS ", w ", " ++ Code.word second ++ w " AS ",
    ⟨⟨trivial, trivial⟩, trivial⟩, ⟨⟨trivial, trivial⟩, trivial⟩, ?_, ?_⟩
  · constructor
    simp only [hcode, twoTables, Code.fragment_append, Code.fragment_parens, Frame.around,
      Fragment.append_assoc]
    rfl
  · constructor
    simp only [hcode, twoTables, Code.fragment_append, Code.fragment_parens, Frame.around,
      Fragment.append_assoc]
    rfl

theorem leads_scalarRow (code : Code) :
    ∃ before : Code, before.Native ∧ Leads before.fragment code (Expr.scalarRow code) := by
  refine ⟨w "SELECT " ++ .parens (w "SELECT " ++ latestTimestamp ++ w " FROM sample_value") ++
    w " AS timestamp, value, " ++ .quoted "" ++ w " AS labels FROM ", ?_, ⟨"", []⟩, ?_⟩
  · refine Code.Apart.native (show Code.Apart false _ from ?_)
    simp [latestTimestamp]
  · rw [Frame.around, Fragment.append_empty]
    rfl

theorem Leads.exists_embeds {before : Fragment} {operand code : Code}
    (h : Leads before operand code) (hbefore : before.Stable) (hoperand : operand.fragment.Stable) :
    ∃ outer : Frame, outer.before = before ∧ outer.Embeds operand.fragment code.fragment := by
  obtain ⟨after, hcode⟩ := h
  refine ⟨⟨before, after⟩, rfl, ?_⟩
  rw [hcode]
  exact Frame.embeds_around hbefore hoperand

end Compile

/-! ## Expressions -/

namespace Expr

theorem exists_locates_of_compiles {o : Options} {e : Expr} {c : Compiled} (h : Compiles o e c) :
    ∃ frame, e.Locates o c.code.fragment frame := by
  induction h with
  | selector s => exact exists_locates_leaf _ fun _ _ => by simp [operandAt?]
  | @rollup function target call hname hquantile htarget =>
    have hlabel := label_ofName?_eq_none hname
    refine exists_locates_leaf _ fun step _ => ?_
    cases step <;> simp [operandAt?, hlabel]
  | @quantile function q target x call hname hnumber hquantile htarget =>
    have hlabel := label_ofName?_eq_none hname
    refine exists_locates_leaf _ fun step _ => ?_
    cases step <;> simp [operandAt?, hlabel]
  | @label function f input args code texts edit relabeling hname hinput htexts hedit hrelabels
      ih =>
    have hcompile := compile_eq_ok_iff.mpr hinput
    obtain ⟨outer, -, houter⟩ := (leads_relabeling relabeling code).exists_embeds
      (Code.stable_fragment trivial) (stable_of_compile hcompile)
    refine exists_locates_unary (fun step _ => ?_) hcompile houter ih
    cases step <;> simp [operandAt?, hname]
  | @latest operator kind grouping p operand s hkind hsplits hoperand hwindow =>
    have hlatest : operand.isLatest = true := by simp [isLatest, hoperand, hwindow]
    refine exists_locates_leaf _ fun step _ => ?_
    cases step <;> simp [operandAt?, hlatest]
  | @timed operator kind grouping p operand code hkind hsplits hoperand htimed ih =>
    have hcompile := compile_eq_ok_iff.mpr hoperand
    obtain ⟨outer, -, houter⟩ := (leads_timedGroups kind code p).exists_embeds
      (Code.stable_fragment trivial) (stable_of_compile hcompile)
    refine exists_locates_unary (fun step _ => ?_) hcompile houter ih
    cases step <;> simp [operandAt?, isLatest_eq_false htimed]
  | @binary operator op mode left right l r c hop hleft hright hjoin ihLeft ihRight =>
    have hl := compile_eq_ok_iff.mpr hleft
    have hr := compile_eq_ok_iff.mpr hright
    obtain ⟨first, between, hfirst, hbetween, hleads, hleads'⟩ := leads_binary hjoin
    have hstable := Code.stable_fragment hfirst
    have hstable' := hstable.append
      ((stable_of_compile hl).parenthesize.append (Code.stable_fragment hbetween))
    obtain ⟨leftFrame, hbefore, hembeds⟩ := hleads.exists_embeds hstable (stable_of_compile hl)
    obtain ⟨rightFrame, hbefore', hembeds'⟩ := hleads'.exists_embeds hstable' (stable_of_compile hr)
    rw [← hbefore] at hbefore'
    exact exists_locates_binary hl hr hembeds hembeds' hbefore' ihLeft ihRight
  | @paren inner c hinner ih =>
    obtain ⟨frame, hframe⟩ := ih
    have hpaths {path : List Step} (hpath : path ≠ []) :
        (paren inner).operandAt? path = inner.operandAt? path := by
      cases path with
      | nil => exact absurd rfl hpath
      | cons step path => rw [operandAt?]
    refine ⟨frame, ?_, ?_⟩
    · intro path s hpath hs
      rw [hpaths hpath] at hs
      exact hframe.embeds path s hpath hs
    · intro path l r c hl hr hc
      rw [hpaths (by simp)] at hl hr
      exact hframe.ordered path l r c hl hr hc
  | number x => exact exists_locates_leaf _ fun _ _ => by simp [operandAt?]

/-- Wherever an operand stands in the code of an expression, and in its statement, it keeps its text
and takes its own values. -/
theorem compile_statement_operands (o : Options) (e : Expr) :
    (∀ c, e.compile o = .ok c → ∃ frame, e.Locates o c.code.fragment frame) ∧
      ∀ f, e.statement o = .ok f → ∃ frame, e.Locates o f frame := by
  refine ⟨fun c hc => exists_locates_of_compiles (compile_eq_ok_iff.mp hc), fun f hf => ?_⟩
  obtain ⟨c, hc, rfl⟩ := statement_eq_ok_iff.mp hf
  unfold rowsCode
  split
  · exact exists_locates_of_compiles hc
  · obtain ⟨frame, hframe⟩ := exists_locates_of_compiles hc
    obtain ⟨before, hbefore, hleads⟩ := leads_scalarRow c.code
    obtain ⟨outer, -, houter⟩ := hleads.exists_embeds (Code.stable_fragment hbefore)
      (stable_of_compile (compile_eq_ok_iff.mpr hc))
    exact ⟨nest outer frame, fun _ _ _ => hframe.embeds_nest (compile_eq_ok_iff.mpr hc) houter,
      fun _ _ _ _ => hframe.ordered_nest⟩

/-- Operands under each construct that has some. -/
def relabeledQuotient : Expr :=
  .aggregate "sum" .all
    (.call "label_set"
      [.binary "/" .filter (.selector ⟨⟨"hits", by decide⟩, [], none⟩)
        (.paren (.binary "+" .filter (.selector ⟨⟨"misses", by decide⟩, [], none⟩) (.number 2))),
        .text "env", .text "what's up?"])

theorem compile_statement_operands_relabeledQuotient :
    relabeledQuotient.operandAt? [.input, .input, .right, .right] = some (.number 2) ∧
      (∃ c, relabeledQuotient.compile ⟨true, .edit, .fullMatch, 100⟩ = .ok c ∧
        ∃ frame, relabeledQuotient.Locates ⟨true, .edit, .fullMatch, 100⟩ c.code.fragment frame) ∧
      ∃ f, relabeledQuotient.statement ⟨true, .edit, .fullMatch, 100⟩ = .ok f ∧
        ∃ frame, relabeledQuotient.Locates ⟨true, .edit, .fullMatch, 100⟩ f frame :=
  ⟨by rfl, ⟨_, rfl, (compile_statement_operands _ relabeledQuotient).1 _ rfl⟩,
    ⟨_, rfl, (compile_statement_operands _ relabeledQuotient).2 _ rfl⟩⟩

end Expr

end SeriesSql
