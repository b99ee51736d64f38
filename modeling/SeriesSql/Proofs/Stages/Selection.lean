import SeriesSql.Proofs.Stages.Calls

/-!
# Deleting and keeping labels

`rows_del` says what the rows of `label_del` are in both modes, and `rows_keep` what those of
`label_keep` are.

There are two groups.

* Deleting, by stages that remove one label each, or by a filter.
* Keeping.
-/

namespace SeriesSql

open Sql Labels Compile Stages

/-! ## Deleting -/

namespace Labels.Term

variable {s : Scope} {cs : List Char} (hlabels : s.column .labels = .text cs)

include hlabels

theorem eval_hasPair (key : LabelName) :
    (hasKey key).eval s = some (.ofBool (pairAt? key cs).isSome) := by
  rw [eval_hasKey hlabels, pairAt?, Option.isSome_map]

theorem eval_foldl_or (keys : List LabelName) {a : Term} {b : Bool}
    (ha : a.eval s = some (.ofBool b)) :
    ((keys.map hasKey).foldl or a).eval s =
      some (.ofBool (b || keys.any fun key => (pairAt? key cs).isSome)) := by
  induction keys generalizing a b with
  | nil => simpa using ha
  | cons key keys ih =>
    have hor : (or a (hasKey key)).eval s = some (.ofBool (b || (pairAt? key cs).isSome)) := by
      rw [eval, ha, eval_hasPair hlabels]
      exact Datum.or_ofBool _ _
    rw [List.any_cons, ← Bool.or_assoc]
    exact ih hor

/-- The filter holds where no name is found. -/
theorem eval_noneOf {keys : List LabelName} (hkeys : keys ≠ []) :
    (noneOf keys).eval s = some (.ofBool (keys.all fun key => (pairAt? key cs).isNone)) := by
  cases keys with
  | nil => exact absurd rfl hkeys
  | cons key keys =>
    have hany := eval_foldl_or hlabels keys (eval_hasPair hlabels key)
    have hnone : (!((pairAt? key cs).isSome || keys.any fun key => (pairAt? key cs).isSome)) =
        (key :: keys).all fun key => (pairAt? key cs).isNone := by
      rw [Bool.not_or, List.not_any_eq_all_not, List.all_cons]
      simp
    show (((keys.map hasKey).foldl or (hasKey key)).eval s).bind Datum.not = _
    rw [hany, ← hnone]
    exact Datum.not_ofBool _

end Labels.Term

namespace Stages.Engine

variable (engine : Engine) (s : Sample)

theorem run_removeKeys (keys : List LabelName) :
    engine.run (keys.map fun key => .relabel (.removeKey key)) s.row =
      some (s.relabel (cutAll keys)).row := by
  induction keys generalizing s with
  | nil => rfl
  | cons key keys ih =>
    have hfirst := engine.run_relabel (engine.value?_removeKey s key [])
      (keys.map fun key => .relabel (.removeKey key))
    rw [List.append_nil] at hfirst
    rw [List.map_cons, hfirst, ih]
    rfl

theorem passes_noneOf {keys : List LabelName} (hkeys : keys ≠ []) :
    engine.passes s.row (some (noneOf keys)) = some (decide (cutAll keys s.labels = s.labels)) := by
  have hvalue := engine.value?_labels s (fun _ h => Term.fits_noneOf h keys) []
  rw [Term.eval_noneOf (engine.column_labels s []) hkeys, List.append_nil] at hvalue
  have hsame : (keys.all fun key => (pairAt? key s.labels).isNone) =
      decide (cutAll keys s.labels = s.labels) := by
    rw [Bool.eq_iff_iff, decide_eq_true_iff, cutAll_eq_self_iff, List.all_eq_true]
    simp
  rw [passes, hvalue, ← hsame]
  exact Datum.passes_ofBool _

end Stages.Engine

/-- In edit mode each row keeps the pairs of other names in their order, and in legacy mode those
rows are kept that this would not change. -/
theorem Stages.rows_del (engine : Engine) (input : Code) (hinput : input.fragment.Whole)
    (samples : List Sample) (hrows : engine.query input.fragment = some (samples.map Sample.row))
    (operand : Expr) (keys : List LabelName) (hkeys : keys ≠ []) :
    (∃ code out,
      Expr.compileLabelCall .edit .del (operand :: (keys.map LabelName.text).map .text)
          ⟨input, .vector⟩ = .ok code ∧
        engine.rows? code.fragment = some out ∧
        out.Perm (samples.map fun s => (s.relabel (cutAll keys)).row)) ∧
      (∃ code out,
        Expr.compileLabelCall .legacy .del (operand :: (keys.map LabelName.text).map .text)
            ⟨input, .vector⟩ = .ok code ∧
          engine.rows? code.fragment = some out ∧
          out.Perm ((samples.filter fun s => cutAll keys s.labels = s.labels).map Sample.row)) ∧
      ∀ L : LabelSet,
        cutAll keys (pairsText L.pairs) = pairsText (L.pairs.filter (·.1 ∉ keys)) ∧
          (∀ others : List LabelName, (∀ key, key ∈ others ↔ key ∈ keys) →
            cutAll others (pairsText L.pairs) = cutAll keys (pairsText L.pairs)) ∧
          cutAll keys (cutAll keys (pairsText L.pairs)) = cutAll keys (pairsText L.pairs) := by
  have hedit : LabelFunction.del.edit? (keys.map LabelName.text) =
      some (.del (keys.map LabelName.text)) := rfl
  refine ⟨?_, ?_, fun L => ⟨L.cutAll_pairsText keys, ?_, ?_⟩⟩
  · have hrelabels : LabelEdit.Relabels .edit (.del (keys.map LabelName.text)) _ := .del hkeys rfl
    exact hrelabels.exists_relabeled hedit operand hinput hrows
      fun s => engine.run_removeKeys s keys
  · have hrelabels : LabelEdit.Relabels .legacy (.del (keys.map LabelName.text)) _ :=
      .reject hkeys rfl
    have hrun : ∀ s : Sample, engine.run [] s.row = some (id s).row := fun _ => rfl
    exact hrelabels.exists_rows hedit operand hinput hrows hrun
      fun s => engine.passes_noneOf s hkeys
  · intro others hothers
    rw [L.cutAll_pairsText, L.cutAll_pairsText, L.pairs_without, L.pairs_without]
    simp only [hothers]
  · rw [L.cutAll_pairsText, LabelSet.cutAll_pairsText]
    simp [LabelSet.pairs_without]

namespace Stages

def tierSelector : Selector :=
  ⟨⟨"tier_requests", by decide⟩, [], none⟩

def tierCode : Code :=
  Compile.selector .search tierSelector

def tierSample (labels : String) : Sample :=
  ⟨.datum (.integer 60), .real 1.5, labels.toList⟩

/-- One label string that all names are in, one that none is in, and a text that is no label
string. -/
def tierSamples : List Sample :=
  [tierSample "tier_id=x=1,tier=,sub_tier=tier=9", tierSample "", tierSample "zone=eu,,tier=1"]

def tierEngine : Engine where
  query _ := some (tierSamples.map Sample.row)
  isMatch _ _ := false
  replace text _ _ := text
  inOrder _ _ := true

theorem whole_tierCode : tierCode.fragment.Whole :=
  (apart_selector .search tierSelector).whole

theorem map_relabel_tierSamples {f : List Char → List Char} {a b c : String}
    (ha : f "tier_id=x=1,tier=,sub_tier=tier=9".toList = a.toList) (hb : f "".toList = b.toList)
    (hc : f "zone=eu,,tier=1".toList = c.toList) :
    (tierSamples.map fun s => (s.relabel f).row) =
      [tierSample a, tierSample b, tierSample c].map Sample.row := by
  simp only [tierSamples, tierSample, List.map_cons, List.map_nil, Sample.relabel, ha, hb, hc]

end Stages

theorem Stages.rows_del_tier :
    (∃ code out,
      Expr.compileLabelCall .edit .del
          [.selector tierSelector, .text "tier", .text "sub_tier", .text "tier"]
          ⟨tierCode, .vector⟩ = .ok code ∧
        tierEngine.rows? code.fragment = some out ∧
        out.Perm ([tierSample "tier_id=x=1", tierSample "", tierSample "zone=eu"].map Sample.row)) ∧
      ∃ code out,
        Expr.compileLabelCall .legacy .del
            [.selector tierSelector, .text "tier", .text "sub_tier", .text "tier"]
            ⟨tierCode, .vector⟩ = .ok code ∧
          tierEngine.rows? code.fragment = some out ∧ out.Perm [(tierSample "").row] := by
  have hall : cutAll [tier, subTier, tier] "tier_id=x=1,tier=,sub_tier=tier=9".toList =
      "tier_id=x=1".toList := by decide +kernel
  have hnone : cutAll [tier, subTier, tier] "".toList = "".toList := by decide +kernel
  have hother : cutAll [tier, subTier, tier] "zone=eu,,tier=1".toList = "zone=eu".toList := by
    decide +kernel
  have hkept : (tierSamples.filter fun s => cutAll [tier, subTier, tier] s.labels = s.labels) =
      [tierSample ""] := by
    simp only [tierSamples, tierSample, List.filter_cons, hall, hnone, hother]
    rfl
  obtain ⟨⟨code, out, hcode, hout, hperm⟩, ⟨legacy, kept, hlegacy, hkeptRows, hkeptPerm⟩, -⟩ :=
    rows_del tierEngine tierCode whole_tierCode tierSamples rfl (.selector tierSelector)
      [tier, subTier, tier] (by simp)
  rw [map_relabel_tierSamples hall hnone hother] at hperm
  rw [hkept] at hkeptPerm
  exact ⟨⟨code, out, hcode, hout, hperm⟩, legacy, kept, hlegacy, hkeptRows, hkeptPerm⟩

/-! ## Keeping -/

theorem Stages.Engine.run_keepKeys (engine : Engine) (keys : List LabelName) (s : Sample) :
    engine.run [.relabel (.keepKeys keys)] s.row = some (s.relabel (keptText keys)).row := by
  have hvalue : engine.value? (s.row ++ []) (.keepKeys keys) =
      some (.text (keptText keys s.labels)) := by
    rw [engine.value?_labels s (fun _ h => Term.fits_keepKeys h keys),
      Term.eval_keepKeys (engine.column_labels s [])]
  exact engine.run_relabel hvalue []

/-- Only which names there are matters, in both modes.  In edit mode each row keeps the pairs of
these names, sorted, and has no labels if there are none. -/
theorem Stages.rows_keep (engine : Engine) (input : Code) (hinput : input.fragment.Whole)
    (samples : List Sample) (hrows : engine.query input.fragment = some (samples.map Sample.row))
    (operand : Expr) (keys : List LabelName) (hkeys : keys ≠ []) :
    (∀ (mode : LabelMode) (source : Code) (others : List LabelName),
      (∀ key, key ∈ others ↔ key ∈ keys) →
      ∃ code,
        Expr.compileLabelCall mode .keep (operand :: (keys.map LabelName.text).map .text)
            ⟨source, .vector⟩ = .ok code ∧
          Expr.compileLabelCall mode .keep (operand :: (others.map LabelName.text).map .text)
            ⟨source, .vector⟩ = .ok code) ∧
      (∃ code out,
        Expr.compileLabelCall .edit .keep (operand :: (keys.map LabelName.text).map .text)
            ⟨input, .vector⟩ = .ok code ∧
          engine.rows? code.fragment = some out ∧
          out.Perm (samples.map fun s => (s.relabel (keptText (LabelName.sorted keys))).row)) ∧
      ∀ L : LabelSet,
        keptText (LabelName.sorted keys) (pairsText L.pairs) = (L.only keys).text ∧
          ((∀ key ∈ keys, L.value? key = none) →
            keptText (LabelName.sorted keys) (pairsText L.pairs) = []) := by
  have hedit (names : List LabelName) : LabelFunction.keep.edit? (names.map LabelName.text) =
      some (.keep (names.map LabelName.text)) := rfl
  refine ⟨?_, ?_, fun L => ⟨L.keptText_pairsText keys, ?_⟩⟩
  · intro mode source others hothers
    have hne : others ≠ [] := by
      rintro rfl
      obtain ⟨key, hkey⟩ := List.exists_mem_of_ne_nil keys hkeys
      exact absurd ((hothers key).mpr hkey) (by simp)
    cases mode with
    | edit =>
      have hrelabels : LabelEdit.Relabels .edit (.keep (others.map LabelName.text)) _ :=
        .keep hne rfl
      rw [LabelName.sorted_eq_of_mem_iff hothers] at hrelabels
      exact ⟨_, (compileLabelCall_eq_ok_iff (hedit keys)).mpr ⟨_, .keep hkeys rfl, rfl⟩,
        (compileLabelCall_eq_ok_iff (hedit others)).mpr ⟨_, hrelabels, rfl⟩⟩
    | legacy =>
      exact ⟨_, (compileLabelCall_eq_ok_iff (hedit keys)).mpr ⟨_, .keepAll hkeys rfl, rfl⟩,
        (compileLabelCall_eq_ok_iff (hedit others)).mpr ⟨_, .keepAll hne rfl, rfl⟩⟩
  · have hrelabels : LabelEdit.Relabels .edit (.keep (keys.map LabelName.text)) _ := .keep hkeys rfl
    exact hrelabels.exists_relabeled (hedit keys) operand hinput hrows
      (engine.run_keepKeys (LabelName.sorted keys))
  · intro habsent
    rw [L.keptText_pairsText, L.text_only_of_absent habsent]

theorem Stages.rows_keep_tier :
    (∃ code,
      Expr.compileLabelCall .legacy .keep [.selector tierSelector, .text "tier", .text "floor"]
          ⟨tierCode, .vector⟩ = .ok code ∧
        Expr.compileLabelCall .legacy .keep
          [.selector tierSelector, .text "floor", .text "tier", .text "floor"]
          ⟨tierCode, .vector⟩ = .ok code) ∧
      ∃ code out,
        Expr.compileLabelCall .edit .keep
            [.selector tierSelector, .text "tier_id", .text "tier", .text "tier_id"]
            ⟨tierCode, .vector⟩ = .ok code ∧
          tierEngine.rows? code.fragment = some out ∧
          out.Perm ([tierSample "tier=,tier_id=x=1", tierSample "", tierSample "tier=1"].map
            Sample.row) := by
  have hsorted : [tier, tierId] = LabelName.sorted [tierId, tier, tierId] :=
    LabelName.eq_sorted (by simpa using show tier.text < tierId.text by decide +kernel)
      (by simp [or_comm])
  have hall : keptText [tier, tierId] "tier_id=x=1,tier=,sub_tier=tier=9".toList =
      "tier=,tier_id=x=1".toList := by decide +kernel
  have hnone : keptText [tier, tierId] "".toList = "".toList := by decide +kernel
  have hother : keptText [tier, tierId] "zone=eu,,tier=1".toList = "tier=1".toList := by
    decide +kernel
  obtain ⟨hsame, -⟩ := rows_keep tierEngine tierCode whole_tierCode tierSamples rfl
    (.selector tierSelector) [tier, floor] (by simp)
  obtain ⟨-, ⟨code, out, hcode, hout, hperm⟩, -⟩ := rows_keep tierEngine tierCode whole_tierCode
    tierSamples rfl (.selector tierSelector) [tierId, tier, tierId] (by simp)
  rw [← hsorted, map_relabel_tierSamples hall hnone hother] at hperm
  exact ⟨hsame .legacy tierCode [floor, tier, floor] (by simp [or_comm]), code, out, hcode, hout,
    hperm⟩

end SeriesSql
