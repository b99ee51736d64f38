import SeriesSql.Proofs.Stages.Selection

/-!
# Copying, moving and replacing labels

A stage puts the value of one label into a column, and the next stage sets another label to it.
`rows_copy_move` says what this does to the rows of `label_copy` and `label_move`, and
`rows_replace` what the rows of `label_replace` are, whatever the engine's regular expressions do.

There are four groups.

* Copies and moves of label sets.
* The stages that copy and move.
* The stages that replace.
* The rows of the calls.
-/

namespace SeriesSql

open Sql Labels Compile Stages

/-! ## Label sets -/

namespace Labels

/-- A text with the value of `source` for `target`, or as it is if `source` is not found. -/
def copyText (source target : LabelName) (cs : List Char) : List Char :=
  (textValue? source cs).elim cs fun value => setText target value cs

/-- A text with the value of `source` under the name of `target`. -/
def moveText (source target : LabelName) (cs : List Char) : List Char :=
  if source = target then cs else cutText source (copyText source target cs)

section SetPair

variable {key : LabelName} {value : String} {ps : List Pair}

/-- Setting a label to the value that it has changes nothing. -/
theorem setPair_eq_self (h : (ps.find? (·.1 = key)).map Prod.snd = some value) :
    setPair key value ps = ps := by
  obtain ⟨p, hp, rfl⟩ := Option.map_eq_some_iff.mp h
  obtain ⟨hkey, first, last, rfl, hfirst⟩ := List.find?_eq_some_iff_append.mp hp
  obtain ⟨name, value⟩ := p
  obtain rfl : name = key := by simpa using hkey
  exact setPair_append_cons (by simpa using hfirst) value

/-- Pairs of other names stay as they are, in their order. -/
theorem filter_setPair {p : LabelName → Bool} (h : p key = false) :
    (setPair key value ps).filter (fun pair => p pair.1) = ps.filter fun pair => p pair.1 := by
  fun_induction setPair key value ps with
  | case1 => simp [h]
  | case2 q ps hq => simp [h, hq]
  | case3 q ps hq ih => rw [List.filter_cons, List.filter_cons, ih]

end SetPair

namespace LabelSet

variable (L : LabelSet) (source target : LabelName)

theorem comma_not_mem_of_value? {L : LabelSet} {key : LabelName} {value : String}
    (h : L.value? key = some value) : ',' ∉ value.toList :=
  L.plain _ ((find?_key_eq_some_iff L.distinct).mp h)

/-- The label set with the value of `source` for `target`. -/
def copy : LabelSet :=
  match h : L.value? source with
  | none => L
  | some value => L.set target value (comma_not_mem_of_value? h)

theorem copy_of_none (h : L.value? source = none) : L.copy source target = L := by
  unfold copy
  split
  · rfl
  · rename_i hvalue
    rw [h] at hvalue
    cases hvalue

theorem pairs_copy_of_some {value : String} (h : L.value? source = some value) :
    (L.copy source target).pairs = setPair target value L.pairs := by
  unfold copy
  split
  · rename_i hvalue
    rw [h] at hvalue
    cases hvalue
  · rename_i found hvalue
    rw [h] at hvalue
    cases hvalue
    rfl

theorem pairs_copy_self (key : LabelName) : (L.copy key key).pairs = L.pairs := by
  cases h : L.value? key with
  | none => rw [L.copy_of_none key key h]
  | some value => rw [L.pairs_copy_of_some key key h, setPair_eq_self h]

theorem copyText_pairsText :
    copyText source target (pairsText L.pairs) = pairsText (L.copy source target).pairs := by
  rw [copyText, L.textValue?_eq]
  cases h : L.value? source with
  | none =>
    rw [L.copy_of_none source target h]
    rfl
  | some value =>
    rw [L.pairs_copy_of_some source target h]
    exact setText_pairsText L.plain target (comma_not_mem_of_value? h)

theorem value?_without (key : LabelName) (keys : List LabelName) :
    (L.without keys).value? key = if key ∈ keys then none else L.value? key := by
  split
  · rename_i hkey
    rw [value?_eq_none_iff]
    intro hmem
    obtain ⟨p, hp, rfl⟩ := List.mem_map.mp hmem
    simp [pairs_without, hkey] at hp
  · rename_i hkey
    ext value
    have hwithout : (L.without keys).value? key = some value ↔
        (key, value) ∈ (L.without keys).pairs :=
      find?_key_eq_some_iff (L.without keys).distinct
    rw [hwithout, value?, find?_key_eq_some_iff L.distinct, pairs_without, List.mem_filter]
    simp [hkey]

/-- The label set with the value of `source` under the name of `target`. -/
def move : LabelSet :=
  if source = target then L else (L.copy source target).without [source]

theorem moveText_pairsText :
    moveText source target (pairsText L.pairs) = pairsText (L.move source target).pairs := by
  unfold moveText move
  split
  · rfl
  · rw [L.copyText_pairsText, cutText_pairsText]

theorem move_self (key : LabelName) : L.move key key = L :=
  if_pos rfl

section

variable {L source target} (h : source ≠ target)

include h

theorem move_of_ne : L.move source target = (L.copy source target).without [source] :=
  if_neg h

theorem value?_move_source : (L.move source target).value? source = none := by
  rw [move_of_ne h, value?_without, if_pos (by simp)]

theorem value?_move_target {value : String} (hvalue : L.value? source = some value) :
    (L.move source target).value? target = some value := by
  have hcopy : (L.copy source target).value? target = some value := by
    rw [value?, L.pairs_copy_of_some source target hvalue]
    exact find?_setPair_self
  rw [move_of_ne h, value?_without, if_neg (by simpa using h.symm), hcopy]

/-- A move changes the pairs of the two names only. -/
theorem filter_move :
    (L.move source target).pairs.filter (fun p => p.1 ∉ [source, target]) =
      L.pairs.filter fun p => p.1 ∉ [source, target] := by
  have hcopy : (L.copy source target).pairs.filter (fun p => p.1 ∉ [source, target]) =
      L.pairs.filter fun p => p.1 ∉ [source, target] := by
    cases hvalue : L.value? source with
    | none => rw [L.copy_of_none source target hvalue]
    | some value =>
      rw [L.pairs_copy_of_some source target hvalue]
      exact filter_setPair (p := fun name => decide (name ∉ [source, target])) (by simp)
  rw [move_of_ne h, pairs_without, List.filter_filter, ← hcopy]
  refine List.filter_congr fun p _ => ?_
  simp +contextual

end

end LabelSet

end Labels

/-! ## Copying and moving -/

namespace Labels.Term

variable {s : Scope} {cs : List Char} (hlabels : s.column .labels = .text cs)

include hlabels

theorem eval_copied {source : LabelName} (target : LabelName)
    (hcopied : s.column .copiedValue = (textValue? source cs).elim .null .text) :
    (cond (isNull (column .copiedValue)) labels (setValue target (column .copiedValue))).eval s =
      some (.text (copyText source target cs)) := by
  have htest : (isNull (column .copiedValue)).eval s =
      some (.ofBool (textValue? source cs).isNone) := by
    rw [eval, eval, hcopied]
    cases textValue? source cs <;> rfl
  rw [eval_cond htest, copyText]
  cases hvalue : textValue? source cs with
  | none => exact congrArg some hlabels
  | some value =>
    rw [hvalue] at hcopied
    exact eval_setText hlabels target (congrArg some hcopied)

/-- A value that matches is replaced and set. -/
theorem eval_replaced {v w : List Char} {b : Bool} (target : LabelName)
    {pattern replacement : String} (hsource : s.column .sourceValue = .text v)
    (hmatch : s.isMatch (.text v) (.text pattern.toList) = some (.ofBool b))
    (hreplace : s.replace (.text v) (.text pattern.toList) (.text replacement.toList) =
      some (.text w)) :
    (cond (regexp (column .sourceValue) (bound pattern))
      (setValue target (replace (column .sourceValue) (bound pattern) (bound replacement)))
      labels).eval s = some (.text (if b then setText target w cs else cs)) := by
  have htest : (regexp (column .sourceValue) (bound pattern)).eval s = some (.ofBool b) := by
    rw [eval, eval, eval, hsource]
    exact hmatch
  have hvalue : (replace (column .sourceValue) (bound pattern) (bound replacement)).eval s =
      some (.text w) := by
    rw [eval, eval, eval, eval, hsource]
    exact hreplace
  rw [eval_cond htest]
  cases b with
  | true => exact eval_setText hlabels target hvalue
  | false => exact congrArg some hlabels

end Labels.Term

namespace Stages.Engine

variable (engine : Engine) (s : Sample)

/-- The value of `source` goes through a column of the first stage. -/
theorem run_copyStages (source target : LabelName) :
    engine.run (copyStages source target) s.row =
      some (s.relabel (copyText source target)).row := by
  have hderived : Column.copiedValue ≠ .labels := by decide
  have hlabels := engine.column_labels s
    [(Column.copiedValue.name, .datum ((textValue? source s.labels).elim .null .text))]
  have hcopied := engine.column_derived s hderived ((textValue? source s.labels).elim .null .text)
  have hvalue := engine.value?_derived s hderived ((textValue? source s.labels).elim .null .text)
    (t := .cond (.isNull (.column .copiedValue)) .labels (.setValue target (.column .copiedValue)))
    (by
      intro has hhas hcolumn
      simp [Term.fits, Term.labels, hhas, hcolumn, Term.fits_setValue hhas target])
  rw [Term.eval_copied hlabels target hcopied] at hvalue
  rw [copyStages, engine.run_derive (engine.value?_extract s source []), engine.run_relabel hvalue]
  rfl

theorem run_moveStages {source target : LabelName} (h : source ≠ target) :
    engine.run (copyStages source target ++ [.relabel (.removeKey source)]) s.row =
      some (s.relabel (moveText source target)).row := by
  have hmove : moveText source target = fun cs => cutText source (copyText source target cs) :=
    funext fun cs => if_neg h
  have hremove := engine.run_relabel
    (engine.value?_removeKey (s.relabel (copyText source target)) source []) []
  rw [List.append_nil] at hremove
  rw [engine.run_append, engine.run_copyStages, hmove]
  exact hremove

/-- A label that is moved to itself needs no stage. -/
theorem run_stay (key : LabelName) :
    engine.run [] s.row = some (s.relabel (moveText key key)).row := by
  have hmove : moveText key key = id := funext fun cs => if_pos rfl
  rw [hmove]
  rfl

/-! ## Replacing -/

/-- A text with a replacement for `target`, where the value of `source`, empty if it is not found,
matches a pattern. -/
def replaceText (target source : LabelName) (pattern replacement : String) (cs : List Char) :
    List Char :=
  let value := String.ofList ((textValue? source cs).getD [])
  if engine.isMatch value pattern then
    setText target (engine.replace value pattern replacement).toList cs
  else cs

theorem isMatch_scope (row : Row) (cs : List Char) (pattern : String) :
    (engine.scope row).isMatch (.text cs) (.text pattern.toList) =
      some (.ofBool (engine.isMatch (String.ofList cs) pattern)) := by
  show some (Datum.ofBool (engine.isMatch _ (String.ofList pattern.toList))) = _
  rw [String.ofList_toList]

theorem replace_scope (row : Row) (cs : List Char) (pattern replacement : String) :
    (engine.scope row).replace (.text cs) (.text pattern.toList) (.text replacement.toList) =
      some (.text (engine.replace (String.ofList cs) pattern replacement).toList) := by
  show some (Datum.text (engine.replace _ (String.ofList pattern.toList)
    (String.ofList replacement.toList)).toList) = _
  rw [String.ofList_toList, String.ofList_toList]

theorem value?_orEmpty (key : LabelName) :
    engine.value? (s.row ++ []) (.coalesce (.extract key) (.text "")) =
      some (.text ((textValue? key s.labels).getD [])) := by
  have hfits : ∀ has : Column → Bool, has .labels = true →
      (Term.coalesce (.extract key) (.text "")).fits has = true := by
    intro has hhas
    simp [Term.fits, Term.fits_extract hhas key]
  rw [engine.value?_labels s hfits, Term.eval, Term.eval_extractText (engine.column_labels s [])]
  cases textValue? key s.labels <;> rfl

theorem run_replaceStages (target source : LabelName) (pattern replacement : String) :
    engine.run (replaceStages target source pattern replacement) s.row =
      some (s.relabel (engine.replaceText target source pattern replacement)).row := by
  have hderived : Column.sourceValue ≠ .labels := by decide
  have hlabels := engine.column_labels s
    [(Column.sourceValue.name, .datum (.text ((textValue? source s.labels).getD [])))]
  have hcolumn := engine.column_derived s hderived (.text ((textValue? source s.labels).getD []))
  have hvalue := engine.value?_derived s hderived (.text ((textValue? source s.labels).getD []))
    (t := .cond (.regexp (.column .sourceValue) (.bound pattern))
      (.setValue target (.replace (.column .sourceValue) (.bound pattern) (.bound replacement)))
      .labels)
    (by
      intro has hhas hcolumn
      simp [Term.fits, Term.labels, hhas, hcolumn, Term.fits_setValue hhas target])
  rw [Term.eval_replaced hlabels target hcolumn (engine.isMatch_scope _ _ pattern)
    (engine.replace_scope _ _ pattern replacement)] at hvalue
  have hreplaced := engine.run_relabel (f := engine.replaceText target source pattern replacement)
    hvalue []
  unfold replaceStages
  rw [engine.run_derive (engine.value?_orEmpty s source), hreplaced]
  rfl

end Stages.Engine

/-! ## Rows -/

/-- A label is copied only where it is present, and a move removes it after that.  Nothing happens
if both names are the same. -/
theorem Stages.rows_copy_move (engine : Engine) (input : Code) (hinput : input.fragment.Whole)
    (samples : List Sample) (hrows : engine.query input.fragment = some (samples.map Sample.row))
    (operand : Expr) (mode : LabelMode) (source target : LabelName) :
    (∃ code out,
      Expr.compileLabelCall mode .copy [operand, .text source.text, .text target.text]
          ⟨input, .vector⟩ = .ok code ∧
        engine.rows? code.fragment = some out ∧
        out.Perm (samples.map fun s => (s.relabel (copyText source target)).row)) ∧
      (∃ code out,
        Expr.compileLabelCall mode .move [operand, .text source.text, .text target.text]
            ⟨input, .vector⟩ = .ok code ∧
          engine.rows? code.fragment = some out ∧
          out.Perm (samples.map fun s => (s.relabel (moveText source target)).row)) ∧
      ∀ L : LabelSet, ∃ C M : LabelSet,
        copyText source target (pairsText L.pairs) = pairsText C.pairs ∧
          moveText source target (pairsText L.pairs) = pairsText M.pairs ∧
          (L.value? source = none → C.pairs = L.pairs) ∧
          (∀ value, L.value? source = some value → C.pairs = setPair target value L.pairs) ∧
          (source = target → C.pairs = L.pairs ∧ M.pairs = L.pairs) ∧
          (source ≠ target →
            M.pairs = C.pairs.filter (·.1 ≠ source) ∧
              M.value? source = none ∧
              (∀ value, L.value? source = some value → M.value? target = some value) ∧
              M.pairs.filter (fun p => p.1 ∉ [source, target]) =
                L.pairs.filter fun p => p.1 ∉ [source, target]) := by
  refine ⟨?_, ?_, ?_⟩
  · have hedit : LabelFunction.copy.edit? [source.text, target.text] =
        some (.copy source.text target.text) := rfl
    have hrelabels : LabelEdit.Relabels mode (.copy source.text target.text) _ := .copy
    exact hrelabels.exists_relabeled hedit operand hinput hrows
      fun s => engine.run_copyStages s source target
  · have hedit : LabelFunction.move.edit? [source.text, target.text] =
        some (.move source.text target.text) := rfl
    by_cases hsame : source = target
    · subst hsame
      have hrelabels : LabelEdit.Relabels mode (.move source.text source.text) _ := .stay
      exact hrelabels.exists_relabeled hedit operand hinput hrows fun s => engine.run_stay s source
    · have hrelabels : LabelEdit.Relabels mode (.move source.text target.text) _ := .move hsame
      exact hrelabels.exists_relabeled hedit operand hinput hrows
        fun s => engine.run_moveStages s hsame
  · intro L
    refine ⟨L.copy source target, L.move source target, L.copyText_pairsText source target,
      L.moveText_pairsText source target, ?_, ?_, ?_, ?_⟩
    · intro hnone
      rw [L.copy_of_none source target hnone]
    · intro value hvalue
      exact L.pairs_copy_of_some source target hvalue
    · intro hsame
      subst hsame
      exact ⟨L.pairs_copy_self source, by rw [L.move_self]⟩
    · intro hne
      refine ⟨?_, LabelSet.value?_move_source hne, fun value => LabelSet.value?_move_target hne,
        LabelSet.filter_move hne⟩
      rw [LabelSet.move_of_ne hne, LabelSet.pairs_without]
      simp

theorem Stages.rows_copy_move_tier :
    (∃ code out,
      Expr.compileLabelCall .edit .copy [.selector tierSelector, .text "sub_tier", .text "tier_id"]
          ⟨tierCode, .vector⟩ = .ok code ∧
        tierEngine.rows? code.fragment = some out ∧
        out.Perm ([tierSample "tier_id=tier=9,tier=,sub_tier=tier=9", tierSample "",
          tierSample "zone=eu,,tier=1"].map Sample.row)) ∧
      ∃ code out,
        Expr.compileLabelCall .edit .move
            [.selector tierSelector, .text "sub_tier", .text "tier_id"] ⟨tierCode, .vector⟩ =
          .ok code ∧
          tierEngine.rows? code.fragment = some out ∧
          out.Perm ([tierSample "tier_id=tier=9,tier=", tierSample "",
            tierSample "zone=eu,,tier=1"].map Sample.row) := by
  have hcopied : copyText subTier tierId "tier_id=x=1,tier=,sub_tier=tier=9".toList =
      "tier_id=tier=9,tier=,sub_tier=tier=9".toList := by decide +kernel
  have hmoved : moveText subTier tierId "tier_id=x=1,tier=,sub_tier=tier=9".toList =
      "tier_id=tier=9,tier=".toList := by decide +kernel
  have hempty : copyText subTier tierId "".toList = "".toList ∧
      moveText subTier tierId "".toList = "".toList := by decide +kernel
  have hother : copyText subTier tierId "zone=eu,,tier=1".toList = "zone=eu,,tier=1".toList ∧
      moveText subTier tierId "zone=eu,,tier=1".toList = "zone=eu,,tier=1".toList := by
    decide +kernel
  obtain ⟨⟨code, out, hcode, hout, hperm⟩, ⟨moved, rows, hmovedCode, hrows, hmovedPerm⟩, -⟩ :=
    rows_copy_move tierEngine tierCode whole_tierCode tierSamples rfl (.selector tierSelector) .edit
      subTier tierId
  rw [map_relabel_tierSamples hcopied hempty.1 hother.1] at hperm
  rw [map_relabel_tierSamples hmoved hempty.2 hother.2] at hmovedPerm
  exact ⟨⟨code, out, hcode, hout, hperm⟩, moved, rows, hmovedCode, hrows, hmovedPerm⟩

namespace Labels.LabelSet

/-- What `label_replace` does to a label set. -/
theorem replaceText_pairsText (L : LabelSet) (engine : Engine) (target source : LabelName)
    (pattern replacement : String)
    (hplain : ',' ∉ (engine.replace ((L.value? source).getD "") pattern replacement).toList) :
    engine.replaceText target source pattern replacement (pairsText L.pairs) =
      if engine.isMatch ((L.value? source).getD "") pattern then
        pairsText (L.set target _ hplain).pairs
      else pairsText L.pairs := by
  have hvalue : String.ofList ((textValue? source (pairsText L.pairs)).getD []) =
      (L.value? source).getD "" := by
    rw [L.textValue?_eq]
    cases L.value? source with
    | none => rfl
    | some value => exact String.ofList_toList
  unfold Engine.replaceText
  simp only [hvalue]
  split
  · exact setText_pairsText L.plain target hplain
  · rfl

end Labels.LabelSet

/-- Names that are texts of a call are the names of its stages. -/
theorem Compile.LabelEdit.Relabels.eq_replaceStages {mode : LabelMode} {target source : LabelName}
    {replacement pattern : String} {r : Relabeling}
    (h : LabelEdit.Relabels mode (.replace target.text replacement source.text pattern) r) :
    ',' ∉ replacement.toList ∧
      r = ⟨replaceStages target source (Regex.anchored pattern) replacement, none⟩ := by
  generalize hedit : LabelEdit.replace target.text replacement source.text pattern = edit at h
  cases h with
  | replace hreplacement hpattern =>
    obtain ⟨htarget, rfl, hsource, rfl⟩ := LabelEdit.replace.inj hedit
    obtain rfl := LabelName.text_injective htarget
    obtain rfl := LabelName.text_injective hsource
    exact ⟨hreplacement, rfl⟩
  | _ => cases hedit

/-- A label is replaced where the value of `source`, empty if it is absent, matches the pattern as a
whole. -/
theorem Stages.rows_replace (engine : Engine)
    (hplain : ∀ text pattern replacement : String, ',' ∉ text.toList → ',' ∉ replacement.toList →
      ',' ∉ (engine.replace text pattern replacement).toList)
    (input : Code) (hinput : input.fragment.Whole) (samples : List Sample)
    (hrows : engine.query input.fragment = some (samples.map Sample.row)) (operand : Expr)
    (mode : LabelMode) (target source : LabelName) (replacement pattern : String) (code : Code)
    (hcode : Expr.compileLabelCall mode .replace
      [operand, .text target.text, .text replacement, .text source.text, .text pattern]
      ⟨input, .vector⟩ = .ok code) :
    (∃ out, engine.rows? code.fragment = some out ∧
      out.Perm (samples.map fun s =>
        (s.relabel
          (engine.replaceText target source ("^(?:" ++ pattern ++ ")$") replacement)).row)) ∧
      ∀ L : LabelSet,
        let value := (L.value? source).getD ""
        let new := engine.replace value ("^(?:" ++ pattern ++ ")$") replacement
        ∃ M : LabelSet,
          engine.replaceText target source ("^(?:" ++ pattern ++ ")$") replacement
                (pairsText L.pairs) =
              pairsText M.pairs ∧
            (engine.isMatch value ("^(?:" ++ pattern ++ ")$") = false → M.pairs = L.pairs) ∧
            (engine.isMatch value ("^(?:" ++ pattern ++ ")$") = true →
              M.pairs = setPair target new L.pairs ∧ M.value? target = some new ∧
                ∀ other ≠ target, M.value? other = L.value? other) := by
  have hedit : LabelFunction.replace.edit? [target.text, replacement, source.text, pattern] =
      some (.replace target.text replacement source.text pattern) := rfl
  obtain ⟨r, hrelabels, rfl⟩ := (compileLabelCall_eq_ok_iff hedit).mp hcode
  obtain ⟨hreplacement, rfl⟩ := hrelabels.eq_replaceStages
  constructor
  · have hout := hrelabels.written.rows?_code hinput hrows
      (fun s => engine.run_replaceStages s target source (Regex.anchored pattern) replacement)
      (p := fun _ => true) (fun _ => rfl)
    rwa [List.filter_true] at hout
  · intro L value new
    have hnew : ',' ∉ new.toList := hplain _ _ _ L.comma_not_mem_value hreplacement
    have htext := L.replaceText_pairsText engine target source _ replacement hnew
    cases hmatch : engine.isMatch value ("^(?:" ++ pattern ++ ")$") with
    | false =>
      rw [if_neg (by simpa using hmatch)] at htext
      exact ⟨L, htext, fun _ => rfl, by simp⟩
    | true =>
      rw [if_pos hmatch] at htext
      refine ⟨L.set target new hnew, htext, by simp, fun _ => ⟨rfl, find?_setPair_self, ?_⟩⟩
      intro other hother
      rw [LabelSet.value?, L.pairs_set, find?_setPair_of_ne hother]
      rfl

/-- Matches and replaces whole texts, with a replacement that refers to no group. -/
def Stages.wholeEngine : Engine :=
  { tierEngine with
    isMatch := fun text pattern => (Regex.parse? pattern).any (·.isMatch text)
    replace := fun text pattern replacement =>
      if (Regex.parse? pattern).any (·.isMatch text) then replacement else text }

theorem Stages.rows_replace_tier :
    ∃ code out,
      Expr.compileLabelCall .edit .replace
          [.selector tierSelector, .text "tier", .text "gold", .text "tier_id", .text "x.*"]
          ⟨tierCode, .vector⟩ = .ok code ∧
        wholeEngine.rows? code.fragment = some out ∧
        out.Perm ([tierSample "tier_id=x=1,tier=gold,sub_tier=tier=9", tierSample "",
          tierSample "zone=eu,,tier=1"].map Sample.row) := by
  have hmatching : wholeEngine.replaceText tier tierId ("^(?:" ++ "x.*" ++ ")$") "gold"
      "tier_id=x=1,tier=,sub_tier=tier=9".toList =
        "tier_id=x=1,tier=gold,sub_tier=tier=9".toList := by decide +kernel
  have hempty : wholeEngine.replaceText tier tierId ("^(?:" ++ "x.*" ++ ")$") "gold" "".toList =
      "".toList := by decide +kernel
  have hother : wholeEngine.replaceText tier tierId ("^(?:" ++ "x.*" ++ ")$") "gold"
      "zone=eu,,tier=1".toList = "zone=eu,,tier=1".toList := by decide +kernel
  have hplain : ∀ text pattern replacement : String, ',' ∉ text.toList → ',' ∉ replacement.toList →
      ',' ∉ (wholeEngine.replace text pattern replacement).toList := by
    intro text pattern replacement htext hreplacement
    show ',' ∉ (if _ then replacement else text).toList
    split
    · exact hreplacement
    · exact htext
  have hedit : LabelFunction.replace.edit? [tier.text, "gold", tierId.text, "x.*"] =
      some (.replace tier.text "gold" tierId.text "x.*") := rfl
  have hcode : Expr.compileLabelCall .edit .replace
      [.selector tierSelector, .text "tier", .text "gold", .text "tier_id", .text "x.*"]
      ⟨tierCode, .vector⟩ = .ok _ :=
    (compileLabelCall_eq_ok_iff hedit).mpr ⟨_, .replace (by decide) (by decide +kernel), rfl⟩
  obtain ⟨⟨out, hout, hperm⟩, -⟩ :=
    rows_replace wholeEngine hplain tierCode whole_tierCode tierSamples rfl
      (.selector tierSelector) .edit tier tierId "gold" "x.*" _ hcode
  rw [map_relabel_tierSamples hmatching hempty hother] at hperm
  exact ⟨_, out, hcode, hout, hperm⟩

end SeriesSql
