import SeriesSql.Proofs.Compile.Derivation
import SeriesSql.Proofs.Name
import SeriesSql.Proofs.Sql.Code

/-!
# What the text of compiled code depends on

The text of the code that each construct writes is determined by the text of its operands and by the
form of the construct: the kinds of matchers, the form of a window, the number of keys.  It does not
depend on the names, patterns, texts and numbers themselves, nor on how patterns are bound.  Each
lemma compares two instances of one construct that agree in form.

There are four groups, in the order of the constructs: terms over the label string, samples and
rollups, groups and joins, and label functions.
-/

namespace SeriesSql

open Sql Compile Labels

/-! ## Terms -/

namespace Labels.Term

theorem text_extract (key key' : LabelName) :
    (extract key).code.text = (extract key').code.text := rfl

theorem text_hasKey (key key' : LabelName) :
    (hasKey key).code.text = (hasKey key').code.text := rfl

theorem text_removeKey (key key' : LabelName) :
    (removeKey key).code.text = (removeKey key').code.text := rfl

theorem text_setValue (key key' : LabelName) {value value' : Term}
    (hvalue : value.code.text = value'.code.text) :
    (setValue key value).code.text = (setValue key' value').code.text := by
  simp [setValue, keyPosition, pairStop, padded, labels, code, hvalue]

section Lists

variable {separator : Term → Term → Term}
  (hseparator : ∀ a a' b b' : Term, a.code.text = a'.code.text → b.code.text = b'.code.text →
    (separator a b).code.text = (separator a' b').code.text)
  {piece : LabelName → Term} (hpiece : ∀ key key', (piece key).code.text = (piece key').code.text)

include hseparator hpiece

theorem text_foldl {keys keys' : List LabelName} (hlength : keys.length = keys'.length)
    {first first' : Term} (hfirst : first.code.text = first'.code.text) :
    ((keys.map piece).foldl separator first).code.text =
      ((keys'.map piece).foldl separator first').code.text := by
  induction keys generalizing keys' first first' with
  | nil =>
    cases keys' with
    | nil => exact hfirst
    | cons key' keys' => cases hlength
  | cons key keys ih =>
    cases keys' with
    | nil => cases hlength
    | cons key' keys' =>
      exact ih (Nat.succ.inj hlength) (hseparator _ _ _ _ hfirst (hpiece key key'))

/-- The text of terms one after the other depends on their number only. -/
theorem text_concatAll {keys keys' : List LabelName} (hlength : keys.length = keys'.length) :
    (concatAll separator (keys.map piece)).code.text =
      (concatAll separator (keys'.map piece)).code.text := by
  match keys, keys', hlength with
  | [], [], _ => rfl
  | key :: keys, key' :: keys', hlength =>
    exact text_foldl hseparator hpiece (Nat.succ.inj hlength) (hpiece key key')

end Lists

theorem text_keepKeys {keys keys' : List LabelName} (hlength : keys.length = keys'.length) :
    (keepKeys keys).code.text = (keepKeys keys').code.text := by
  have htrim : ∀ a a' : Term, a.code.text = a'.code.text →
      (trimCommas a).code.text = (trimCommas a').code.text := by
    intro a a' ha
    simp [code, ha]
  refine htrim _ _ (text_concatAll ?_ ?_ hlength)
  · intro a a' b b' ha hb
    simp [code, ha, hb]
  · intro key key'
    simp [code, text_extract key key']

theorem text_groupKey {value : LabelName → Term}
    (hvalue : ∀ key key', (value key).code.text = (value key').code.text)
    {keys keys' : List LabelName} (hlength : keys.length = keys'.length) :
    (groupKey value keys).code.text = (groupKey value keys').code.text := by
  refine text_concatAll ?_ ?_ hlength
  · intro a a' b b' ha hb
    simp [code, ha, hb]
  · intro key key'
    simp [code, hvalue key key']

end Labels.Term

namespace Compile

/-! ## Samples and rollups -/

theorem text_windowBounds {window window' : Window}
    (hstop : window.stop.isSome = window'.stop.isSome) :
    (windowBounds window).text = (windowBounds window').text := by
  cases h : window.stop <;> cases h' : window'.stop <;>
    simp_all [windowBounds, Window.start?]

theorem text_filter {f f' : MembershipFilter} (hnegated : f.negated = f'.negated)
    (hpattern : f.pattern = f'.pattern) : f.code.text = f'.code.text := by
  unfold MembershipFilter.code
  rw [hnegated, hpattern]
  rfl

/-- Matchers are written by their kinds, whatever the modes are. -/
theorem text_matcherFilters (mode mode' : PatternMode) {matchers matchers' : List Matcher}
    (hkinds : matchers.map Matcher.kind = matchers'.map Matcher.kind) :
    (matcherFilters mode matchers).text = (matcherFilters mode' matchers').text := by
  induction matchers generalizing matchers' with
  | nil =>
    cases matchers' with
    | nil => rfl
    | cons m' rest' => cases hkinds
  | cons m rest ih =>
    cases matchers' with
    | nil => cases hkinds
    | cons m' rest' =>
      obtain ⟨hkind, hrest⟩ := List.cons.inj hkinds
      have hfilter : (m.filter mode).code.text = (m'.filter mode').code.text :=
        text_filter (congrArg MatchKind.isNegated hkind) (congrArg MatchKind.isRegex hkind)
      simp [matcherFilters, hfilter, ih hrest]

end Compile

/-- The ways to bound the time of a selector. -/
inductive WindowForm where
  | latest
  | relative
  | explicit
deriving Repr, DecidableEq

def Selector.windowForm (s : Selector) : WindowForm :=
  match s.window with
  | none => .latest
  | some window => if window.stop.isSome then .explicit else .relative

/-- Selectors with matchers of the same kinds and the same form of window. -/
structure Selector.Alike (s s' : Selector) : Prop where
  kinds : s.matchers.map Matcher.kind = s'.matchers.map Matcher.kind
  window : s.windowForm = s'.windowForm

namespace Selector.Alike

variable {s s' : Selector}

theorem isSome_window (h : s.Alike s') : s.window.isSome = s'.window.isSome := by
  have hwindow := h.window
  unfold windowForm at hwindow
  cases hs : s.window <;> cases hs' : s'.window <;> simp_all <;> split at hwindow <;> cases hwindow

theorem text_sampleTables (mode mode' : PatternMode) (h : s.Alike s') :
    (sampleTables mode s).text = (sampleTables mode' s').text := by
  have hsamples : (labeledSamples mode s).text = (labeledSamples mode' s').text := by
    simp [labeledSamples, h.isSome_window, text_matcherFilters mode mode' h.kinds]
  have hwindow := h.window
  unfold windowForm at hwindow
  unfold sampleTables
  cases hs : s.window <;> cases hs' : s'.window <;> simp only [hs, hs'] at hwindow
  · simp [hsamples]
  · split at hwindow <;> cases hwindow
  · split at hwindow <;> cases hwindow
  · rename_i window window'
    have hstop : window.stop.isSome = window'.stop.isSome := by
      cases h : window.stop.isSome <;> cases h' : window'.stop.isSome <;> simp_all
    simp [hsamples, text_windowBounds hstop]

theorem text_selector (mode mode' : PatternMode) (h : s.Alike s') :
    (selector mode s).text = (selector mode' s').text := by
  simp [selector, h.text_sampleTables mode mode', h.isSome_window]

end Selector.Alike

namespace Compile

theorem text_rollupRows (r : Rollup) (quantile? quantile?' : Option Float) :
    (rollupRows r quantile?).text = (rollupRows r quantile?').text := by
  cases r with
  | quantileOverTime => simp [rollupRows, quantile]
  | _ => rfl

theorem text_rollup (mode mode' : PatternMode) {call call' : RollupCall}
    (hselector : call.selector.Alike call'.selector) (hrollup : call.rollup = call'.rollup) :
    (rollup mode call).text = (rollup mode' call').text := by
  simp only [rollup, Code.text_append, Code.text_parens, hselector.text_sampleTables mode mode',
    hrollup, text_rollupRows call'.rollup call.quantile? call'.quantile?]

/-! ## Groups and joins -/

/-- Partitions into the same kind of groups, by equally many keys. -/
inductive Partition.Alike : Partition → Partition → Prop
  | all : Alike .all .all
  | labelString : Alike .labelString .labelString
  | canonical {labels labels' : List LabelName} (hlength : labels.length = labels'.length) :
      Alike (.canonical labels) (.canonical labels')

theorem text_latestGroups (kind : Aggregate) {tables tables' : Code} {p p' : Partition}
    (htables : tables.text = tables'.text) (hp : p.Alike p') :
    (latestGroups kind tables p).text = (latestGroups kind tables' p').text := by
  cases hp with
  | all | labelString => simp [latestGroups, htables]
  | @canonical labels labels' hlength =>
    have hkey : (Term.groupByTables labels).code.text = (Term.groupByTables labels').code.text :=
      Term.text_groupKey (fun _ _ => rfl) hlength
    simp [latestGroups, groupedSamples, htables, hkey]

theorem text_timedGroups (kind : Aggregate) {operand operand' : Code} {p p' : Partition}
    (hoperand : operand.text = operand'.text) (hp : p.Alike p') :
    (timedGroups kind operand p).text = (timedGroups kind operand' p').text := by
  cases hp with
  | all | labelString => simp [timedGroups, hoperand]
  | @canonical labels labels' hlength =>
    have hkey : (Term.groupByString labels).code.text = (Term.groupByString labels').code.text :=
      Term.text_groupKey Term.text_extract hlength
    simp [timedGroups, groupedSamples, hoperand, hkey]

/-- Compiled expressions of the same shape with the same text. -/
structure Compiled.Alike (c c' : Compiled) : Prop where
  text : c.code.text = c'.code.text
  shape : c.shape = c'.shape

theorem text_setOperation (op : SetOperator) {left left' right right' : Compiled}
    (hleft : left.Alike left') (hright : right.Alike right') :
    (setOperation op left.code right.code).text =
      (setOperation op left'.code right'.code).text := by
  simp [setOperation, vectorTables, twoTables, hleft.text, hright.text]

theorem text_joinValues (op : BinaryOperator) (mode : ComparisonMode)
    {left left' right right' : Compiled} (hleft : left.Alike left') (hright : right.Alike right') :
    (joinValues op mode left right).text = (joinValues op mode left' right').text := by
  unfold joinValues
  rw [hleft.shape, hright.shape]
  split <;>
    simp [scalarScalar, vectorScalar, vectorVector, vectorTables, twoTables, hleft.text,
      hright.text]

theorem Compiled.Alike.binary {op : BinaryOperator} {mode : ComparisonMode}
    {left left' right right' c c' : Compiled} (hleft : left.Alike left')
    (hright : right.Alike right') (h : Compile.binary op mode left right = .ok c)
    (h' : Compile.binary op mode left' right' = .ok c') : c.Alike c' := by
  rcases binary_cases h with ⟨s, rfl, -, -, rfl⟩ | ⟨sign, hsign, rfl⟩ <;>
    rcases binary_cases h' with ⟨s', hs', -, -, rfl⟩ | ⟨sign', hsign', rfl⟩
  · cases hs'
    exact ⟨text_setOperation s hleft hright, rfl⟩
  · cases hsign'
  · subst hs'
    cases hsign
  · refine ⟨text_joinValues op mode hleft hright, ?_⟩
    simp only [joinShape, hleft.shape, hright.shape]

/-! ## Label functions -/

/-- Stages with the same columns are numbered alike. -/
theorem text_stageTables (n : Nat) {stages stages' : List Stage}
    (hcolumns : stages.map (·.columns.text) = stages'.map (·.columns.text)) :
    (stageTables n stages).1.text = (stageTables n stages').1.text ∧
      (stageTables n stages).2 = (stageTables n stages').2 := by
  induction stages generalizing n stages' with
  | nil =>
    cases stages' with
    | nil => exact ⟨rfl, rfl⟩
    | cons stage' rest' => cases hcolumns
  | cons stage rest ih =>
    cases stages' with
    | nil => cases hcolumns
    | cons stage' rest' =>
      obtain ⟨hstage, hrest⟩ := List.cons.inj hcolumns
      obtain ⟨htables, hlast⟩ := ih (n + 1) hrest
      exact ⟨by simp [stageTables, hstage, htables], hlast⟩

/-- Relabelings whose stages and filters have the same text. -/
structure Relabeling.Alike (r r' : Relabeling) : Prop where
  stages : r.stages.map (·.columns.text) = r'.stages.map (·.columns.text)
  filter : r.filter.map (·.code.text) = r'.filter.map (·.code.text)

theorem Relabeling.Alike.text {r r' : Relabeling} {input input' : Code} (h : r.Alike r')
    (hinput : input.text = input'.text) : (r.code input).text = (r'.code input').text := by
  obtain ⟨htables, hlast⟩ := text_stageTables 0 h.stages
  have hfilter := h.filter
  unfold Relabeling.code Relabeling.rest
  cases hr : r.filter <;> cases hr' : r'.filter <;> simp only [hr, hr', Option.map] at hfilter
  · simp [hinput, htables, hlast]
  · cases hfilter
  · cases hfilter
  · simp [hinput, htables, hlast, Option.some.inj hfilter]

/-- Edits by the same function with equally many keys.  The keys that `keep` writes are the distinct
ones, and a label that is moved onto itself leaves no stage. -/
inductive LabelEdit.Alike : LabelEdit → LabelEdit → Prop
  | set {key value key' value' : String} : Alike (.set key value) (.set key' value')
  | del {keys keys' : List String} (hlength : keys.length = keys'.length) :
      Alike (.del keys) (.del keys')
  | keep {keys keys' : List String} (hdistinct : keys.dedup.length = keys'.dedup.length) :
      Alike (.keep keys) (.keep keys')
  | copy {source target source' target' : String} :
      Alike (.copy source target) (.copy source' target')
  | move {source target source' target' : String} (hsame : source = target ↔ source' = target') :
      Alike (.move source target) (.move source' target')
  | replace {target replacement source pattern target' replacement' source' pattern' : String} :
      Alike (.replace target replacement source pattern)
        (.replace target' replacement' source' pattern')

theorem text_copyStages (source target source' target' : LabelName) :
    (copyStages source target).map (·.columns.text) =
      (copyStages source' target').map (·.columns.text) := by
  have hset : (Term.setValue target (.column .copiedValue)).code.text =
      (Term.setValue target' (.column .copiedValue)).code.text := Term.text_setValue _ _ rfl
  simp [copyStages, Stage.columns, Term.code, Term.text_extract source source', hset]

theorem text_replaceStages (target source : LabelName) (pattern replacement : String)
    (target' source' : LabelName) (pattern' replacement' : String) :
    (replaceStages target source pattern replacement).map (·.columns.text) =
      (replaceStages target' source' pattern' replacement').map (·.columns.text) := by
  have hvalue :
      (Term.replace (.column .sourceValue) (.bound pattern) (.bound replacement)).code.text =
        (Term.replace (.column .sourceValue) (.bound pattern') (.bound replacement')).code.text := by
    simp [Term.code]
  simp [replaceStages, Stage.columns, Term.code, Term.text_extract source source',
    Term.text_setValue target target' hvalue]

theorem text_noneOf {keys keys' : List LabelName} (hlength : keys.length = keys'.length) :
    (noneOf keys).code.text = (noneOf keys').code.text := by
  have hor : ∀ a a' b b' : Term, a.code.text = a'.code.text → b.code.text = b'.code.text →
      (Term.or a b).code.text = (Term.or a' b').code.text := by
    intro a a' b b' ha hb
    simp [Term.code, ha, hb]
  have hkeys := Term.text_concatAll hor Term.text_hasKey hlength
  simp [noneOf, Term.code, hkeys]

theorem text_removeStages {keys keys' : List LabelName} (hlength : keys.length = keys'.length) :
    (keys.map fun key => Stage.relabel (.removeKey key)).map (·.columns.text) =
      (keys'.map fun key => Stage.relabel (.removeKey key)).map (·.columns.text) := by
  refine List.ext_getElem (by simpa using hlength) ?_
  intro i hi hi'
  simp only [List.length_map] at hi hi'
  simp [Stage.columns, Term.text_removeKey keys[i] keys'[i]]

/-- Edits of the same form make stages of the same form. -/
theorem LabelEdit.Alike.relabels {mode : LabelMode} {edit edit' : LabelEdit} {r r' : Relabeling}
    (halike : edit.Alike edit') (h : edit.Relabels mode r) (h' : edit'.Relabels mode r') :
    r.Alike r' := by
  cases halike with
  | @set _ value _ value' =>
    cases h with
    | @set key =>
      cases h' with
      | @set key' =>
        have hset : (Term.setValue key (.bound value)).code.text =
            (Term.setValue key' (.bound value')).code.text := Term.text_setValue key key' rfl
        exact ⟨by simp [Stage.columns, hset], rfl⟩
  | del hlength =>
    cases h with
    | del hkeys hmode =>
      cases h' with
      | del => exact ⟨text_removeStages (by simpa using hlength), rfl⟩
      | reject hkeys' hmode' => cases hmode.symm.trans hmode'
    | reject hkeys hmode =>
      cases h' with
      | del hkeys' hmode' => cases hmode.symm.trans hmode'
      | reject => exact ⟨rfl, by simpa using text_noneOf (by simpa using hlength)⟩
  | keep hdistinct =>
    cases h with
    | keep hkeys hmode =>
      cases h' with
      | keep =>
        rw [← LabelName.length_sorted, ← LabelName.length_sorted] at hdistinct
        exact ⟨by simp [Stage.columns, Term.text_keepKeys hdistinct], rfl⟩
      | keepAll hkeys' hmode' => cases hmode.symm.trans hmode'
    | keepAll hkeys hmode =>
      cases h' with
      | keep hkeys' hmode' => cases hmode.symm.trans hmode'
      | keepAll => exact ⟨rfl, rfl⟩
  | copy =>
    cases h
    cases h'
    exact ⟨text_copyStages _ _ _ _, rfl⟩
  | move hsame =>
    cases h with
    | @move source target hne =>
      cases h' with
      | @move source' target' hne' =>
        refine ⟨?_, rfl⟩
        simp only [List.map_append, text_copyStages source target source' target']
        simp [Stage.columns, Term.text_removeKey source source']
      | stay => exact absurd (LabelName.text_injective (hsame.mpr rfl)) hne
    | stay =>
      cases h' with
      | move hne' => exact absurd (LabelName.text_injective (hsame.mp rfl)) hne'
      | stay => exact ⟨rfl, rfl⟩
  | replace =>
    cases h
    cases h'
    exact ⟨text_replaceStages _ _ _ _ _ _ _ _, rfl⟩

end Compile

end SeriesSql
