import SeriesSql.Proofs.Compile.Steps

/-!
# Derivations of compiled code

`Expr.Compiles o e c` has one rule for every way in which an expression `e` can compile to `c`, with
the checks that were passed as premises.  `compile_eq_ok_iff` says that these are all the ways there
are, so a law of compiled code is proved by induction over a derivation and `Expr.compile` is opened
only here.

The rules come first.  The rest proves the equivalence: from code that compiles to a derivation,
with one lemma for each construct that has checks of its own, and from a derivation back.
-/

namespace SeriesSql

open Sql Compile Labels

/-! ## The rules -/

/-- The ways in which an expression compiles. -/
inductive Expr.Compiles (o : Options) : Expr → Compiled → Prop
  | selector (s : Selector) : Compiles o (.selector s) ⟨Compile.selector o.patternMode s, .vector⟩
  | rollup {function : String} {target : Expr} {call : RollupCall}
      (hname : Rollup.ofName? function = some call.rollup) (hquantile : call.quantile? = none)
      (htarget : target.stripParens = .selector call.selector) :
      Compiles o (.call function [target]) ⟨Compile.rollup o.patternMode call, .vector⟩
  | quantile {function : String} {q target : Expr} {x : Float} {call : RollupCall}
      (hname : Rollup.ofName? function = some .quantileOverTime)
      (hnumber : q.stripParens = .number x) (hquantile : call.quantile? = some x)
      (htarget : target.stripParens = .selector call.selector) :
      Compiles o (.call function [q, target]) ⟨Compile.rollup o.patternMode call, .vector⟩
  | label {function : String} {f : LabelFunction} {input : Expr} {args : List Expr} {code : Code}
      {texts : List String} {edit : LabelEdit} {relabeling : Relabeling}
      (hname : LabelFunction.ofName? function = some f) (hinput : Compiles o input ⟨code, .vector⟩)
      (htexts : args.map stripParens = texts.map .text) (hedit : f.edit? texts = some edit)
      (hrelabels : edit.Relabels o.labelMode relabeling) :
      Compiles o (.call function (input :: args)) ⟨relabeling.code code, .vector⟩
  | latest {operator : String} {kind : Aggregate} {grouping : Grouping} {p : Partition}
      {operand : Expr} {s : Selector}
      (hkind : Aggregate.ofName? operator = some kind)
      (hsplits : grouping.Splits o.canonicalGrouping p)
      (hoperand : operand.stripParens = .selector s) (hwindow : s.window = none) :
      Compiles o (.aggregate operator grouping operand)
        ⟨latestGroups kind (sampleTables o.patternMode s) p, .vector⟩
  | timed {operator : String} {kind : Aggregate} {grouping : Grouping} {p : Partition}
      {operand : Expr} {code : Code}
      (hkind : Aggregate.ofName? operator = some kind)
      (hsplits : grouping.Splits o.canonicalGrouping p)
      (hoperand : Compiles o operand ⟨code, .vector⟩)
      (htimed : ∀ s, operand.stripParens = .selector s → s.window ≠ none) :
      Compiles o (.aggregate operator grouping operand) ⟨timedGroups kind code p, .vector⟩
  | binary {operator : String} {op : BinaryOperator} {mode : ComparisonMode} {left right : Expr}
      {l r c : Compiled}
      (hop : BinaryOperator.ofSymbol? operator = some op) (hleft : Compiles o left l)
      (hright : Compiles o right r) (hjoin : Compile.binary op mode l r = .ok c) :
      Compiles o (.binary operator mode left right) c
  | paren {inner : Expr} {c : Compiled} (hinner : Compiles o inner c) : Compiles o (.paren inner) c
  | number (x : Float) : Compiles o (.number x) ⟨scalarCode x, .scalar⟩

namespace Expr

/-- No name is that of a rollup and of a label function. -/
theorem rollup_ofName?_eq_none {function : String} {f : LabelFunction}
    (h : LabelFunction.ofName? function = some f) : Rollup.ofName? function = none := by
  unfold LabelFunction.ofName? at h
  split at h <;> first | rfl | cases h

theorem label_ofName?_eq_none {function : String} {r : Rollup}
    (h : Rollup.ofName? function = some r) : LabelFunction.ofName? function = none := by
  cases hlabel : LabelFunction.ofName? function with
  | none => rfl
  | some f => cases h.symm.trans (rollup_ofName?_eq_none hlabel)

theorem eq_of_ofName?_quantile {function : String}
    (h : Rollup.ofName? function = some .quantileOverTime) : function = "quantile_over_time" := by
  unfold Rollup.ofName? at h
  split at h <;> cases h
  rfl

/-- What does not see one pair of parentheses does not see any number of them. -/
theorem apply_stripParens {α : Type} {f : Expr → α} (h : ∀ inner, f (.paren inner) = f inner)
    (e : Expr) : f e.stripParens = f e := by
  induction e using Expr.stripParens.induct with
  | case1 inner ih => rw [stripParens, ih, h]
  | case2 e hother => rw [stripParens]; exact hother

/-- A selector compiles to the same code inside parentheses. -/
theorem compile_of_stripParens_selector {o : Options} {e : Expr} {s : Selector}
    (h : e.stripParens = .selector s) :
    e.compile o = .ok ⟨Compile.selector o.patternMode s, .vector⟩ := by
  have hcompile : e.stripParens.compile o = e.compile o :=
    apply_stripParens (fun inner => by rw [compile]) e
  rw [← hcompile, h, compile]

/-- Induction over expressions, with all arguments of a call at once. -/
@[elab_as_elim]
theorem inductionOn {motive : Expr → Prop} (e : Expr)
    (selector : ∀ s, motive (.selector s))
    (call : ∀ function args, (∀ arg ∈ args, motive arg) → motive (.call function args))
    (aggregate : ∀ operator grouping operand, motive operand →
      motive (.aggregate operator grouping operand))
    (binary : ∀ operator mode left right, motive left → motive right →
      motive (.binary operator mode left right))
    (paren : ∀ inner, motive inner → motive (.paren inner))
    (number : ∀ x, motive (.number x)) (text : ∀ s, motive (.text s)) : motive e :=
  @Expr.rec motive (fun args => ∀ arg ∈ args, motive arg) selector call aggregate binary paren
    number text (by simp) (fun arg args harg hargs => by simpa using ⟨harg, hargs⟩) e

/-! ## Rules and compilation -/

theorem compiles_of_compileRollup {o : Options} {function : String} {r : Rollup}
    {args : List Expr} {code : Code} (hname : Rollup.ofName? function = some r)
    (h : compileRollup o.patternMode r args = .ok code) :
    Compiles o (.call function args) ⟨code, .vector⟩ := by
  rw [compileRollup, bind_eq_ok] at h
  obtain ⟨⟨quantile, target⟩, hargs, h⟩ := h
  simp only at h
  split at h
  · rename_i s htarget
    rw [bind_eq_ok] at h
    obtain ⟨call, hcall, h⟩ := h
    rw [pure_eq_ok] at h
    subst h
    obtain ⟨rfl, rfl, rfl⟩ := RollupCall.ofParts_eq_ok_iff.mp hcall
    rcases rollupArgs_eq_ok_iff.mp hargs with ⟨-, rfl, hnone⟩ | ⟨hr, q, x, rfl, hx, hsome⟩
    · exact .rollup hname hnone htarget
    · exact .quantile (hr ▸ hname) hx hsome htarget
  · cases h

theorem compiles_of_compileLabelCall {o : Options} {function : String} {f : LabelFunction}
    {input : Expr} {args : List Expr} {compiled : Compiled} {code : Code}
    (hname : LabelFunction.ofName? function = some f) (hinput : Compiles o input compiled)
    (h : compileLabelCall o.labelMode f (input :: args) compiled = .ok code) :
    Compiles o (.call function (input :: args)) ⟨code, .vector⟩ := by
  simp only [compileLabelCall, bind_eq_ok, List.tail_cons] at h
  obtain ⟨inner, hinner, texts, htexts, h⟩ := h
  rw [vectorCode_eq_ok_iff] at hinner
  subst hinner
  split at h
  · rename_i edit hedit
    rw [bind_eq_ok] at h
    obtain ⟨relabeling, hrelabeling, h⟩ := h
    rw [pure_eq_ok] at h
    subst h
    exact .label hname hinput (textArgs_eq_ok_iff.mp htexts) hedit
      (LabelEdit.relabels_of_relabeling hrelabeling)
  · cases h

theorem compiles_of_aggregate {o : Options} {operator : String} {grouping : Grouping}
    {operand : Expr} {c : Compiled}
    (ih : ∀ c, operand.compile o = .ok c → Compiles o operand c)
    (h : (Expr.aggregate operator grouping operand).compile o = .ok c) :
    Compiles o (.aggregate operator grouping operand) c := by
  rw [compile] at h
  split at h
  · cases h
  rename_i kind hkind
  rw [bind_eq_ok] at h
  obtain ⟨a, ha, h⟩ := h
  rw [liftM_eq_ok] at ha
  have hkept : a.kind = kind := Aggregation.kind_of_ofParts ha
  split at h
  · rename_i s hs
    rw [bind_eq_ok] at h
    obtain ⟨code, hcode, h⟩ := h
    rw [pure_eq_ok] at h
    subst h
    unfold aggregateSelector at hcode
    split at hcode
    · rename_i hwindow
      -- With a window the selector is an operand like any other.
      rw [aggregateCode, bind_eq_ok] at hcode
      obtain ⟨p, hp, hcode⟩ := hcode
      rw [pure_eq_ok] at hcode
      subst hcode
      rw [hkept]
      refine .timed hkind ((Grouping.splits_iff kind).mpr ⟨a, ha, hp⟩)
        (ih _ (compile_of_stripParens_selector hs)) ?_
      intro t ht
      rw [hs] at ht
      cases ht
      exact Option.isSome_iff_ne_none.mp hwindow
    · rename_i hwindow
      rw [bind_eq_ok] at hcode
      obtain ⟨p, hp, hcode⟩ := hcode
      rw [pure_eq_ok] at hcode
      subst hcode
      rw [hkept]
      exact .latest hkind ((Grouping.splits_iff kind).mpr ⟨a, ha, hp⟩) hs
        (by simpa using hwindow)
  · rename_i hother
    simp only [bind_eq_ok, pure_eq_ok] at h
    obtain ⟨compiled, hcompiled, code, hcode, timed, htimed, rfl⟩ := h
    rw [vectorCode_eq_ok_iff] at hcode
    subst hcode
    rw [aggregateCode, bind_eq_ok] at htimed
    obtain ⟨p, hp, htimed⟩ := htimed
    rw [pure_eq_ok] at htimed
    subst htimed
    rw [hkept]
    exact .timed hkind ((Grouping.splits_iff kind).mpr ⟨a, ha, hp⟩) (ih _ hcompiled)
      (fun s hs => absurd hs (hother s))

theorem compiles_of_compile {o : Options} {e : Expr} {c : Compiled} (h : e.compile o = .ok c) :
    Compiles o e c := by
  induction e using Expr.inductionOn generalizing c with
  | selector s =>
    rw [compile] at h
    cases h
    exact .selector s
  | call function args ih =>
    rw [compile] at h
    split at h
    · rename_i r hname
      rw [bind_eq_ok] at h
      obtain ⟨code, hcode, h⟩ := h
      rw [pure_eq_ok] at h
      subst h
      exact compiles_of_compileRollup hname hcode
    · rename_i f _ hname
      simp only [bind_eq_ok, pure_eq_ok] at h
      obtain ⟨_, _, compiled, hcompiled, code, hcode, rfl⟩ := h
      cases args with
      | nil =>
        rw [compileInput] at hcompiled
        cases hcompiled
      | cons input args =>
        rw [compileInput] at hcompiled
        exact compiles_of_compileLabelCall hname (ih input (by simp) hcompiled) hcode
    · cases h
  | aggregate operator grouping operand ih => exact compiles_of_aggregate (fun _ => ih) h
  | binary operator mode left right ihLeft ihRight =>
    rw [compile] at h
    split at h
    · cases h
    · rename_i op hop
      simp only [bind_eq_ok] at h
      obtain ⟨l, hl, r, hr, hjoin⟩ := h
      exact .binary hop (ihLeft hl) (ihRight hr) hjoin
  | paren inner ih =>
    rw [compile] at h
    exact .paren (ih h)
  | number x =>
    rw [compile] at h
    cases h
    exact .number x
  | text s =>
    rw [compile] at h
    cases h

/-- A valid edit has as many arguments as its function takes. -/
theorem checkArgCount_of_relabels {mode : LabelMode} {f : LabelFunction} {texts : List String}
    {edit : LabelEdit} {relabeling : Relabeling} (hedit : f.edit? texts = some edit)
    (hrelabels : edit.Relabels mode relabeling) :
    checkArgCount f (texts.length + 1) = .ok () := by
  unfold LabelFunction.edit? at hedit
  split at hedit
  case h_2 | h_3 =>
    cases hedit
    cases hrelabels <;> simp_all [checkArgCount]
  all_goals
    cases hedit
    try rfl

theorem compile_rollup {o : Options} {function : String} {args : List Expr} {target : Expr}
    {call : RollupCall} (hname : Rollup.ofName? function = some call.rollup)
    (hargs : rollupArgs call.rollup args = .ok (call.quantile?, target))
    (htarget : target.stripParens = .selector call.selector) :
    (Expr.call function args).compile o =
      .ok ⟨Compile.rollup o.patternMode call, .vector⟩ := by
  have hcall : RollupCall.ofParts call.rollup call.selector call.quantile? = .ok call :=
    RollupCall.ofParts_eq_ok_iff.mpr ⟨rfl, rfl, rfl⟩
  rw [compile]
  simp only [hname, compileRollup, bind_eq_ok, pure_eq_ok]
  refine ⟨_, ⟨_, hargs, ?_⟩, rfl⟩
  simp only [htarget, bind_eq_ok, pure_eq_ok]
  exact ⟨call, hcall, rfl⟩

theorem compile_of_compiles {o : Options} {e : Expr} {c : Compiled} (h : Compiles o e c) :
    e.compile o = .ok c := by
  induction h with
  | selector s => rw [compile]
  | @rollup function target call hname hquantile htarget =>
    have hr := RollupCall.rollup_ne_of_quantile?_eq_none hquantile
    exact compile_rollup hname (rollupArgs_eq_ok_iff.mpr (.inl ⟨hr, rfl, hquantile⟩)) htarget
  | @quantile function q target x call hname hnumber hquantile htarget =>
    obtain ⟨hr, -⟩ := RollupCall.of_quantile?_eq_some hquantile
    exact compile_rollup (hr ▸ hname)
      (rollupArgs_eq_ok_iff.mpr (.inr ⟨hr, q, x, rfl, hnumber, hquantile⟩)) htarget
  | @label function f input args code texts edit relabeling hname hinput htexts hedit
      hrelabels ih =>
    have hrollup : Rollup.ofName? function = none := rollup_ofName?_eq_none hname
    have hlength : (input :: args).length = texts.length + 1 := by
      simpa using congrArg List.length htexts
    have hcount : checkArgCount f (input :: args).length = .ok () := by
      rw [hlength]
      exact checkArgCount_of_relabels hedit hrelabels
    have htexts' : args.mapM (textArg f.name) = .ok texts := textArgs_eq_ok_iff.mpr htexts
    rw [compile]
    simp only [hrollup, hname, compileInput, compileLabelCall, bind_eq_ok, pure_eq_ok]
    refine ⟨(), hcount, _, ih, _, ⟨code, rfl, texts, htexts', ?_⟩, rfl⟩
    simp only [hedit, bind_eq_ok, pure_eq_ok]
    exact ⟨relabeling, LabelEdit.relabeling_of_relabels hrelabels, rfl⟩
  | @latest operator kind grouping p operand s hkind hsplits hoperand hwindow =>
    obtain ⟨a, ha, hp⟩ := (Grouping.splits_iff kind).mp hsplits
    have hkept : a.kind = kind := Aggregation.kind_of_ofParts ha
    rw [compile]
    simp only [hkind, bind_eq_ok, liftM_eq_ok]
    refine ⟨a, ha, ?_⟩
    simp only [hoperand, aggregateSelector, hwindow, Option.isSome_none, Bool.false_eq_true,
      if_false, bind_eq_ok, pure_eq_ok]
    exact ⟨_, ⟨p, hp, rfl⟩, by rw [hkept]⟩
  | @timed operator kind grouping p operand code hkind hsplits hoperand htimed ih =>
    obtain ⟨a, ha, hp⟩ := (Grouping.splits_iff kind).mp hsplits
    have hkept : a.kind = kind := Aggregation.kind_of_ofParts ha
    rw [compile]
    simp only [hkind, bind_eq_ok, liftM_eq_ok]
    refine ⟨a, ha, ?_⟩
    split
    · rename_i s hs
      have hwindow : s.window.isSome = true := Option.isSome_iff_ne_none.mpr (htimed s hs)
      rw [compile_of_stripParens_selector hs] at ih
      cases ih
      simp only [aggregateSelector, hwindow, if_true, aggregateCode, bind_eq_ok, pure_eq_ok]
      exact ⟨_, ⟨p, hp, rfl⟩, by rw [hkept]⟩
    · simp only [aggregateCode, bind_eq_ok, pure_eq_ok]
      exact ⟨_, ih, code, rfl, _, ⟨p, hp, rfl⟩, by rw [hkept]⟩
  | binary hop hleft hright hjoin ihLeft ihRight =>
    rw [compile]
    simp only [hop, ihLeft, ihRight]
    exact hjoin
  | paren hinner ih =>
    rw [compile]
    exact ih
  | number x => rw [compile]

/-- The rules are all the ways in which an expression compiles. -/
theorem compile_eq_ok_iff {o : Options} {e : Expr} {c : Compiled} :
    e.compile o = .ok c ↔ Compiles o e c :=
  ⟨compiles_of_compile, compile_of_compiles⟩

/-- A statement is made of compiled code. -/
theorem statement_eq_ok_iff {o : Options} {e : Expr} {f : Fragment} :
    e.statement o = .ok f ↔ ∃ c, Compiles o e c ∧ (rowsCode c).fragment = f := by
  simp only [statement, bind_eq_ok, pure_eq_ok, compile_eq_ok_iff]

end Expr

end SeriesSql
