import SeriesSql.Proofs.Compile.Text

/-!
# The text of a statement depends on the skeleton only

The skeleton of an expression is what is left when metric names, label names, matcher values,
patterns, texts, numbers, durations and timestamps are taken out.  Two expressions with the same
skeleton have statements with the same text, so nothing that is taken out can reach the text: it
travels as a bound value.

Two label functions write code by the texts of their arguments.  `label_keep` has a term for every
distinct key, and `label_move` has no stage if source and target are the same.
`Expr.LabelCallsAgree` says that the calls of two expressions agree in that.

The proof goes over two derivations at once, and compares the last rules of both.
-/

namespace SeriesSql

open Sql Compile Labels

/-! ## Skeletons -/

/-- The clause of a grouping and the number of its labels. -/
inductive GroupingForm where
  | all
  | by (count : Nat)
  | without (count : Nat)
deriving Repr, DecidableEq

def Grouping.form : Grouping → GroupingForm
  | all => .all
  | .by labels => .by labels.length
  | .without labels => .without labels.length

inductive Skeleton where
  | selector (kinds : List MatchKind) (window : WindowForm)
  | call (function : String) (args : List Skeleton)
  | aggregate (operator : String) (grouping : GroupingForm) (operand : Skeleton)
  | binary (operator : String) (mode : ComparisonMode) (left right : Skeleton)
  | paren (inner : Skeleton)
  | number
  | text

namespace Expr

mutual

def skeleton : Expr → Skeleton
  | selector s => .selector (s.matchers.map Matcher.kind) s.windowForm
  | call function args => .call function (skeletonList args)
  | aggregate operator grouping operand => .aggregate operator grouping.form operand.skeleton
  | binary operator mode left right => .binary operator mode left.skeleton right.skeleton
  | paren inner => .paren inner.skeleton
  | number _ => .number
  | text _ => .text

def skeletonList : List Expr → List Skeleton
  | [] => []
  | e :: rest => e.skeleton :: skeletonList rest

end

end Expr

/-! ## Label functions whose code depends on their texts -/

/-- The texts of two calls of a function agree in what its code depends on. -/
def Compile.LabelFunction.TextsAgree : LabelFunction → List String → List String → Prop
  | keep, keys, keys' => keys.dedup.length = keys'.dedup.length
  | move, [source, target], [source', target'] => source = target ↔ source' = target'
  | _, _, _ => True

namespace Expr

mutual

/-- Corresponding calls of label functions agree in what their code depends on. -/
def LabelCallsAgree : Expr → Expr → Prop
  | call function args, call _ args' =>
    (∀ f ∈ LabelFunction.ofName? function,
      f.TextsAgree (args.tail.filterMap text?) (args'.tail.filterMap text?)) ∧
      LabelCallsAgreeList args args'
  | aggregate _ _ operand, aggregate _ _ operand' => operand.LabelCallsAgree operand'
  | binary _ _ left right, binary _ _ left' right' =>
    left.LabelCallsAgree left' ∧ right.LabelCallsAgree right'
  | paren inner, paren inner' => inner.LabelCallsAgree inner'
  | _, _ => True

def LabelCallsAgreeList : List Expr → List Expr → Prop
  | e :: rest, e' :: rest' => e.LabelCallsAgree e' ∧ LabelCallsAgreeList rest rest'
  | _, _ => True

end

end Expr

/-! ## Corresponding parts -/

/-- Groupings of the same form split the rows alike. -/
theorem Grouping.Splits.alike {canonical : Bool} {grouping grouping' : Grouping} {p p' : Partition}
    (h : grouping.Splits canonical p) (h' : grouping'.Splits canonical p')
    (hform : grouping.form = grouping'.form) : p.Alike p' := by
  cases h with
  | all =>
    cases h' with
    | all => exact .all
    | canonical | labelString => cases hform
  | canonical hlabels hcanonical =>
    cases h' with
    | all => cases hform
    | canonical => exact .canonical (GroupingForm.by.inj hform)
    | labelString hlabels' hcanonical' => cases hcanonical.symm.trans hcanonical'
  | labelString hlabels hcanonical =>
    cases h' with
    | all => cases hform
    | canonical hlabels' hcanonical' => cases hcanonical.symm.trans hcanonical'
    | labelString => exact .labelString

/-- Texts that agree make edits of the same form. -/
theorem Compile.LabelEdit.alike_of_edit? {f : LabelFunction} {texts texts' : List String}
    {edit edit' : LabelEdit} (h : f.edit? texts = some edit) (h' : f.edit? texts' = some edit')
    (hlength : texts.length = texts'.length) (hagree : f.TextsAgree texts texts') :
    edit.Alike edit' := by
  obtain ⟨rfl, rfl⟩ := LabelFunction.edit?_eq_some_iff.mp h
  obtain ⟨hfunction, rfl⟩ := LabelFunction.edit?_eq_some_iff.mp h'
  cases edit <;> cases edit' <;> cases hfunction
  · exact .set
  · exact .del hlength
  · exact .keep hagree
  · exact .copy
  · exact .move hagree
  · exact .replace

namespace Expr

theorem length_of_skeletonList_eq {args args' : List Expr}
    (h : skeletonList args = skeletonList args') : args.length = args'.length := by
  induction args generalizing args' with
  | nil =>
    cases args' with
    | nil => rfl
    | cons e' args' => simp [skeletonList] at h
  | cons e args ih =>
    cases args' with
    | nil => simp [skeletonList] at h
    | cons e' args' =>
      simp only [skeletonList, List.cons.injEq] at h
      simp [ih h.2]

/-- Parentheses come off two expressions together. -/
theorem skeleton_stripParens {e e' : Expr} (h : e.skeleton = e'.skeleton) :
    e.stripParens.skeleton = e'.stripParens.skeleton := by
  induction e using Expr.stripParens.induct generalizing e' with
  | case1 inner ih =>
    cases e' <;> simp only [skeleton, reduceCtorEq, Skeleton.paren.injEq] at h
    simpa only [stripParens] using ih h
  | case2 e hother =>
    have hother' : ∀ inner, e' ≠ .paren inner := by
      rintro inner rfl
      cases e <;> simp only [skeleton, reduceCtorEq] at h
      exact hother _ rfl
    rw [stripParens, stripParens]
    · exact h
    · exact hother'
    · exact hother

theorem exists_alike_of_stripParens {e e' : Expr} {s : Selector} (h : e.skeleton = e'.skeleton)
    (hs : e.stripParens = .selector s) : ∃ s', e'.stripParens = .selector s' ∧ s.Alike s' := by
  have hstrip := skeleton_stripParens h
  rw [hs] at hstrip
  cases he' : e'.stripParens <;>
    simp only [he', skeleton, reduceCtorEq, Skeleton.selector.injEq] at hstrip
  exact ⟨_, rfl, hstrip.1, hstrip.2⟩

/-- The target of a rollup, from both sides. -/
theorem alike_of_stripParens {e e' : Expr} {s s' : Selector} (h : e.skeleton = e'.skeleton)
    (hs : e.stripParens = .selector s) (hs' : e'.stripParens = .selector s') : s.Alike s' := by
  obtain ⟨found, hfound, halike⟩ := exists_alike_of_stripParens h hs
  cases hs'.symm.trans hfound
  exact halike

/-- An operand is a selector without a window on both sides or on neither. -/
theorem window_ne_none_of_timed {e e' : Expr} {s : Selector} (h : e.skeleton = e'.skeleton)
    (hs : e.stripParens = .selector s)
    (htimed : ∀ s', e'.stripParens = .selector s' → s'.window ≠ none) : s.window ≠ none := by
  obtain ⟨s', hs', halike⟩ := exists_alike_of_stripParens h hs
  intro hwindow
  have hsome := halike.isSome_window
  rw [hwindow, Option.isSome_none, eq_comm, Option.isSome_eq_false_iff, Option.isNone_iff_eq_none]
    at hsome
  exact htimed s' hs' hsome

theorem length_texts_eq {args args' : List Expr} {texts texts' : List String}
    (h : skeletonList args = skeletonList args') (htexts : args.map stripParens = texts.map .text)
    (htexts' : args'.map stripParens = texts'.map .text) : texts.length = texts'.length := by
  have hargs := length_of_skeletonList_eq h
  have hleft := congrArg List.length htexts
  have hright := congrArg List.length htexts'
  rw [List.length_map, List.length_map] at hleft hright
  omega

/-! ## Two derivations -/

/-- Patterns may be bound in different ways, which the text does not show. -/
theorem alike_of_compiles {o : Options} {mode : PatternMode} {e e' : Expr} {c c' : Compiled}
    (h : Compiles o e c) (h' : Compiles { o with patternMode := mode } e' c')
    (hskeleton : e.skeleton = e'.skeleton) (hagree : e.LabelCallsAgree e') : c.Alike c' := by
  -- The skeletons start alike, so the second derivation ends in a rule for the same construct.
  -- Calls and aggregations have several rules, which names and windows tell apart.
  induction h generalizing e' c' with
  | selector s =>
    cases h' with
    | selector s' =>
      obtain ⟨hkinds, hwindow⟩ := Skeleton.selector.inj hskeleton
      exact ⟨Selector.Alike.text_selector _ _ ⟨hkinds, hwindow⟩, rfl⟩
    | _ => cases hskeleton
  | @rollup function target call hname hquantile htarget =>
    cases h' with
    | rollup hname' hquantile' htarget' =>
      simp only [skeleton, skeletonList, Skeleton.call.injEq, List.cons.injEq, and_true]
        at hskeleton
      obtain ⟨rfl, hskeleton⟩ := hskeleton
      have hrollup := Option.some.inj (hname.symm.trans hname')
      exact ⟨text_rollup _ _ (alike_of_stripParens hskeleton htarget htarget') hrollup, rfl⟩
    | quantile => simp [skeleton, skeletonList] at hskeleton
    | label hname' =>
      obtain ⟨rfl, -⟩ := Skeleton.call.inj hskeleton
      cases hname.symm.trans (rollup_ofName?_eq_none hname')
    | _ => cases hskeleton
  | @quantile function q target x call hname hnumber hquantile htarget =>
    cases h' with
    | rollup => simp [skeleton, skeletonList] at hskeleton
    | quantile hname' hnumber' hquantile' htarget' =>
      simp only [skeleton, skeletonList, Skeleton.call.injEq, List.cons.injEq, and_true]
        at hskeleton
      obtain ⟨-, -, hskeleton⟩ := hskeleton
      obtain ⟨hrollup, -⟩ := RollupCall.of_quantile?_eq_some hquantile
      obtain ⟨hrollup', -⟩ := RollupCall.of_quantile?_eq_some hquantile'
      exact ⟨text_rollup _ _ (alike_of_stripParens hskeleton htarget htarget')
        (hrollup.trans hrollup'.symm), rfl⟩
    | label hname' =>
      obtain ⟨rfl, -⟩ := Skeleton.call.inj hskeleton
      cases hname.symm.trans (rollup_ofName?_eq_none hname')
    | _ => cases hskeleton
  | @label function f input args code texts edit relabeling hname hinput htexts hedit hrelabels
      ih =>
    cases h' with
    | rollup hname' | quantile hname' =>
      obtain ⟨rfl, -⟩ := Skeleton.call.inj hskeleton
      cases hname'.symm.trans (rollup_ofName?_eq_none hname)
    | @label function' f' input' args' code' texts' edit' relabeling' hname' hinput' htexts' hedit'
        hrelabels' =>
      simp only [skeleton, skeletonList, Skeleton.call.injEq, List.cons.injEq] at hskeleton
      obtain ⟨rfl, hinputs, hargs⟩ := hskeleton
      cases hname.symm.trans hname'
      simp only [LabelCallsAgree, LabelCallsAgreeList, List.tail_cons, filterMap_text? htexts,
        filterMap_text? htexts'] at hagree
      obtain ⟨htextsAgree, hinputAgree, -⟩ := hagree
      have hedits := LabelEdit.alike_of_edit? hedit hedit'
        (length_texts_eq hargs htexts htexts') (htextsAgree f hname)
      exact ⟨(hedits.relabels hrelabels hrelabels').text (ih hinput' hinputs hinputAgree).text, rfl⟩
    | _ => cases hskeleton
  | @latest operator kind grouping p operand s hkind hsplits hoperand hwindow =>
    cases h' with
    | latest hkind' hsplits' hoperand' hwindow' =>
      obtain ⟨rfl, hform, hoperands⟩ := Skeleton.aggregate.inj hskeleton
      cases hkind.symm.trans hkind'
      have htables := (alike_of_stripParens hoperands hoperand hoperand').text_sampleTables
      exact ⟨text_latestGroups _ (htables _ _) (hsplits.alike hsplits' hform), rfl⟩
    | timed hkind' hsplits' hoperand' htimed' =>
      obtain ⟨-, -, hoperands⟩ := Skeleton.aggregate.inj hskeleton
      exact absurd hwindow (window_ne_none_of_timed hoperands hoperand htimed')
    | _ => cases hskeleton
  | @timed operator kind grouping p operand code hkind hsplits hoperand htimed ih =>
    cases h' with
    | latest hkind' hsplits' hoperand' hwindow' =>
      obtain ⟨-, -, hoperands⟩ := Skeleton.aggregate.inj hskeleton
      exact absurd hwindow' (window_ne_none_of_timed hoperands.symm hoperand' htimed)
    | timed hkind' hsplits' hoperand' htimed' =>
      obtain ⟨rfl, hform, hoperands⟩ := Skeleton.aggregate.inj hskeleton
      cases hkind.symm.trans hkind'
      have hcode := (ih hoperand' hoperands hagree).text
      exact ⟨text_timedGroups _ hcode (hsplits.alike hsplits' hform), rfl⟩
    | _ => cases hskeleton
  | binary hop hleft hright hjoin ihLeft ihRight =>
    cases h' with
    | binary hop' hleft' hright' hjoin' =>
      obtain ⟨rfl, rfl, hlefts, hrights⟩ := Skeleton.binary.inj hskeleton
      cases hop.symm.trans hop'
      obtain ⟨hagreeLeft, hagreeRight⟩ := hagree
      exact (ihLeft hleft' hlefts hagreeLeft).binary (ihRight hright' hrights hagreeRight) hjoin
        hjoin'
    | _ => cases hskeleton
  | paren hinner ih =>
    cases h' with
    | paren hinner' => exact ih hinner' (Skeleton.paren.inj hskeleton) hagree
    | _ => cases hskeleton
  | number x =>
    cases h' with
    | number x' => exact ⟨by simp [scalarCode], rfl⟩
    | _ => cases hskeleton

theorem text_rowsCode {c c' : Compiled} (h : c.Alike c') :
    (rowsCode c).text = (rowsCode c').text := by
  unfold rowsCode
  rw [h.shape]
  split
  · exact h.text
  · simp [scalarRow, h.text]

/-- Values never reach the text of a statement. -/
theorem text_statement_eq {o : Options} {e e' : Expr} {f f' : Fragment}
    (hskeleton : e.skeleton = e'.skeleton) (hagree : e.LabelCallsAgree e')
    (h : e.statement o = .ok f) (h' : e'.statement o = .ok f') : f.text = f'.text := by
  obtain ⟨c, hc, rfl⟩ := statement_eq_ok_iff.mp h
  obtain ⟨c', hc', rfl⟩ := statement_eq_ok_iff.mp h'
  exact text_rowsCode (alike_of_compiles hc hc' hskeleton hagree)

/-- A query with a place for a name, a matcher, a label, a number and three keys. -/
def keptSum (metric : MetricName) (m : Matcher) (group : LabelName) (x : Float)
    (first second third : String) : Expr :=
  .aggregate "sum" (.by [group])
    (.binary "*" .filter (.number x)
      (.call "label_keep"
        [.selector ⟨metric, [m], none⟩, .text first, .text second, .text third]))

/-- A value that closes a literal and starts a comment leaves the text as it is, and so do other
names and another number.  Both queries keep two distinct keys. -/
theorem text_statement_eq_hostile :
    ∃ f f',
      Expr.statement ⟨true, .edit, .fullMatch, 100⟩
        (keptSum ⟨"up", by decide⟩ ⟨⟨"env", by decide⟩, .equal, "prod", by decide⟩
          ⟨"job", by decide⟩ 2 "job" "dc" "job") = .ok f ∧
      Expr.statement ⟨true, .edit, .fullMatch, 100⟩
        (keptSum ⟨"down", by decide⟩ ⟨⟨"dc", by decide⟩, .equal, "' OR 1 = 1 -- ?", by decide⟩
          ⟨"host", by decide⟩ 0.5 "host" "host" "dc") = .ok f' ∧
      f.text = f'.text := by
  have hagree :
      (keptSum ⟨"up", by decide⟩ ⟨⟨"env", by decide⟩, .equal, "prod", by decide⟩
        ⟨"job", by decide⟩ 2 "job" "dc" "job").LabelCallsAgree
      (keptSum ⟨"down", by decide⟩ ⟨⟨"dc", by decide⟩, .equal, "' OR 1 = 1 -- ?", by decide⟩
        ⟨"host", by decide⟩ 0.5 "host" "host" "dc") := by
    simp [keptSum, LabelCallsAgree, LabelCallsAgreeList, LabelFunction.ofName?,
      LabelFunction.TextsAgree, text?, stripParens]
  refine ⟨_, _, rfl, rfl, text_statement_eq ?_ hagree rfl rfl⟩
  simp only [keptSum, skeleton, skeletonList, List.map, Grouping.form, List.length,
    Selector.windowForm]

end Expr

end SeriesSql
