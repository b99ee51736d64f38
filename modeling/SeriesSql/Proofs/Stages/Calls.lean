import SeriesSql.Proofs.Labels.Removal
import SeriesSql.Proofs.Stages.Rows

/-!
# Calls of label functions

A call with valid arguments is compiled to the stages of its label function, which are read back and
evaluated row by row: `LabelEdit.Relabels.exists_rows`.  For each label function there remains what
its stages do to one row.  The input may be any code that can stand between parentheses, as the code
of every expression can by `Expr.apart_of_compiles` and `Code.Apart.whole`.

There are two groups.

* The columns of the terms that stages are made of.  They need the labels and no other column, but
  for a value that is set.
* Stages that are written right, and the rows of a call.
-/

namespace SeriesSql

open Sql Labels

/-! ## Columns of terms -/

namespace Labels.Term

section Fits

variable {has : Column → Bool}

/-- Terms one after the other, whatever stands between them. -/
theorem fits_concatAll {separator : Term → Term → Term}
    (hseparator : ∀ a b, (separator a b).fits has = (a.fits has && b.fits has))
    {piece : LabelName → Term} (hpiece : ∀ key, (piece key).fits has = true)
    (keys : List LabelName) :
    (concatAll separator (keys.map piece)).fits has = true := by
  have hfold (keys : List LabelName) {a : Term} (ha : a.fits has = true) :
      ((keys.map piece).foldl separator a).fits has = true := by
    induction keys generalizing a with
    | nil => exact ha
    | cons key keys ih => exact ih (by rw [hseparator, ha, hpiece]; rfl)
  cases keys with
  | nil => rfl
  | cons key keys => exact hfold keys (hpiece key)

variable (h : has .labels = true)

include h

theorem fits_extract (key : LabelName) : (extract key).fits has = true := by
  simp [extract, valueStart, keyPosition, padded, labels, fits, h]

theorem fits_hasKey (key : LabelName) : (hasKey key).fits has = true := by
  simp [hasKey, keyPosition, padded, labels, fits, h]

theorem fits_removeKey (key : LabelName) : (removeKey key).fits has = true := by
  simp [removeKey, pairStop, keyPosition, padded, labels, fits, h]

theorem fits_setValue (key : LabelName) {value : Term} (hvalue : value.fits has = true) :
    (setValue key value).fits has = true := by
  simp [setValue, pairStop, keyPosition, padded, labels, fits, h, hvalue]

theorem fits_keepKeys (keys : List LabelName) : (keepKeys keys).fits has = true := by
  have hconcat : ∀ a b : Term, (concat a b).fits has = (a.fits has && b.fits has) := fun _ _ => rfl
  refine fits_concatAll hconcat ?_ keys
  intro key
  simp [fits, fits_extract h key]

theorem fits_noneOf (keys : List LabelName) : (Compile.noneOf keys).fits has = true := by
  have hor : ∀ a b : Term, (or a b).fits has = (a.fits has && b.fits has) := fun _ _ => rfl
  exact fits_concatAll hor (fits_hasKey h) keys

end Fits

end Labels.Term

namespace Stages.Engine

variable (engine : Engine) (s : Sample)

/-- A term that reads only the labels. -/
theorem value?_labels {t : Term}
    (hfits : ∀ has : Column → Bool, has .labels = true → t.fits has = true) (extra : Row) :
    engine.value? (s.row ++ extra) t = t.eval (engine.scope (s.row ++ extra)) := by
  refine engine.value?_eq_eval (hfits _ ?_)
  show ((s.row ++ extra).datum? "labels").isSome = true
  rw [s.datum?_labels]
  rfl

/-- A term that reads the labels and a column that a stage has added. -/
theorem value?_derived {column : Column} (h : column ≠ .labels) (d : Datum) {t : Term}
    (hfits : ∀ has : Column → Bool, has .labels = true → has column = true → t.fits has = true) :
    engine.value? (s.row ++ [(column.name, .datum d)]) t =
      t.eval (engine.scope (s.row ++ [(column.name, .datum d)])) := by
  refine engine.value?_eq_eval (hfits _ ?_ ?_)
  · show ((s.row ++ [(column.name, Cell.datum d)]).datum? "labels").isSome = true
    rw [s.datum?_labels]
    rfl
  · rw [s.datum?_derived h]
    rfl

theorem value?_extract (key : LabelName) (extra : Row) :
    engine.value? (s.row ++ extra) (.extract key) =
      some ((textValue? key s.labels).elim .null .text) := by
  rw [engine.value?_labels s (fun _ h => Term.fits_extract h key),
    Term.eval_extractText (engine.column_labels s extra)]

theorem value?_removeKey (key : LabelName) (extra : Row) :
    engine.value? (s.row ++ extra) (.removeKey key) = some (.text (cutText key s.labels)) := by
  rw [engine.value?_labels s (fun _ h => Term.fits_removeKey h key),
    Term.eval_removeKey (engine.column_labels s extra)]

end Stages.Engine

namespace Compile

open Stages

/-! ## Calls -/

theorem written_noneOf (keys : List LabelName) : (noneOf keys).Written := by
  have hfold (keys : List LabelName) {a : Term} (ha : a.Written) :
      ((keys.map Term.hasKey).foldl .or a).Written := by
    induction keys generalizing a with
    | nil => exact ha
    | cons key keys ih =>
      have hbetween : Reader.Operator.or.Between a (Term.hasKey key) := by
        simp [Reader.Operator.Between, Reader.Operator.rank, Term.rank, Term.hasKey]
      exact ih ⟨hbetween, ha, Term.written_hasKey key⟩
  refine ⟨by simp [Term.rank, Reader.notRank], ?_⟩
  cases keys with
  | nil => trivial
  | cons key keys => exact hfold keys (Term.written_hasKey key)

/-- Stages that are written right, and no filter. -/
theorem Relabeling.written_of_stages {stages : List Stage}
    (h : ∀ stage ∈ stages, stage.Written) : (⟨stages, none⟩ : Relabeling).Written :=
  ⟨h, by simp⟩

theorem written_copyStages (source target : LabelName) :
    ∀ stage ∈ copyStages source target, stage.Written := by
  have hvalue : (Term.column .copiedValue).Written := trivial
  have hset := Term.written_setValue target rfl hvalue
  have hcond : (Term.cond (.isNull (.column .copiedValue)) .labels
      (.setValue target (.column .copiedValue))).Written :=
    ⟨⟨by simp [Reader.Operator.rank, Term.rank], trivial⟩, trivial, hset⟩
  simpa [copyStages, Stage.Written] using ⟨Term.written_extract source, hcond⟩

theorem written_replaceStages (target source : LabelName) (pattern replacement : String) :
    ∀ stage ∈ replaceStages target source pattern replacement, stage.Written := by
  have hsource : (Term.coalesce (.extract source) (.text "")).Written :=
    ⟨Term.written_extract source, trivial⟩
  have htest : (Term.regexp (.column .sourceValue) (.bound pattern)).Written :=
    ⟨by simp [Reader.Operator.Between, Reader.Operator.rank, Term.rank], trivial, trivial⟩
  have hvalue :
      (Term.replace (.column .sourceValue) (.bound pattern) (.bound replacement)).Written :=
    ⟨trivial, trivial, trivial⟩
  have hcond : (Term.cond (.regexp (.column .sourceValue) (.bound pattern))
      (.setValue target (.replace (.column .sourceValue) (.bound pattern) (.bound replacement)))
      .labels).Written :=
    ⟨htest, Term.written_setValue target rfl hvalue, trivial⟩
  simpa [replaceStages, Stage.Written] using ⟨hsource, hcond⟩

theorem LabelEdit.Relabels.written {mode : LabelMode} {edit : LabelEdit} {r : Relabeling}
    (h : edit.Relabels mode r) : r.Written := by
  cases h with
  | @set key value hvalue =>
    have hbound : (Term.bound value).Written := trivial
    refine Relabeling.written_of_stages ?_
    simpa [Stage.Written] using Term.written_setValue key rfl hbound
  | del hkeys hmode =>
    refine Relabeling.written_of_stages ?_
    simpa [Stage.Written] using fun key _ => Term.written_removeKey key
  | reject hkeys hmode => exact ⟨by simp, by simpa using written_noneOf _⟩
  | keep hkeys hmode =>
    refine Relabeling.written_of_stages ?_
    simpa [Stage.Written] using Term.written_keepKeys _
  | keepAll hkeys hmode | stay => exact Relabeling.written_of_stages (by simp)
  | copy => exact Relabeling.written_of_stages (written_copyStages _ _)
  | move hne =>
    refine Relabeling.written_of_stages (List.forall_mem_append.mpr ⟨written_copyStages _ _, ?_⟩)
    simpa [Stage.Written] using Term.written_removeKey _
  | replace hreplacement hpattern =>
    exact Relabeling.written_of_stages (written_replaceStages _ _ _ _)

/-- A call is compiled exactly if its arguments are valid. -/
theorem compileLabelCall_eq_ok_iff {mode : LabelMode} {edit : LabelEdit} {f : LabelFunction}
    {texts : List String} (hedit : f.edit? texts = some edit) {operand : Expr} {input code : Code} :
    Expr.compileLabelCall mode f (operand :: texts.map .text) ⟨input, .vector⟩ = .ok code ↔
      ∃ r, edit.Relabels mode r ∧ r.code input = code := by
  have htexts : (texts.map Expr.text).mapM (Expr.textArg f.name) = .ok texts :=
    Expr.textArgs_eq_ok_iff.mpr (by simp [Expr.stripParens])
  have hcall : Expr.compileLabelCall mode f (operand :: texts.map .text) ⟨input, .vector⟩ =
      edit.relabeling mode >>= fun r => pure (r.code input) := by
    have hvector : Expr.vectorCode f.name ⟨input, .vector⟩ = .ok input := rfl
    unfold Expr.compileLabelCall
    rw [hvector, List.tail_cons, htexts]
    simp only [bind, Except.bind, hedit]
  rw [hcall, bind_eq_ok]
  simp only [pure_eq_ok]
  constructor
  · rintro ⟨r, hr, hcode⟩
    exact ⟨r, LabelEdit.relabels_of_relabeling hr, hcode⟩
  · rintro ⟨r, hr, hcode⟩
    exact ⟨r, LabelEdit.relabeling_of_relabels hr, hcode⟩

/-- Valid arguments are accepted, and the rows of the call are those of the input, each on its
own. -/
theorem LabelEdit.Relabels.exists_rows {mode : LabelMode} {edit : LabelEdit} {r : Relabeling}
    (h : edit.Relabels mode r) {f : LabelFunction} {texts : List String}
    (hedit : f.edit? texts = some edit) (operand : Expr) {engine : Engine} {input : Code}
    (hinput : input.fragment.Whole) {samples : List Sample}
    (hrows : engine.query input.fragment = some (samples.map Sample.row)) {change : Sample → Sample}
    (hrun : ∀ s, engine.run r.stages s.row = some (change s).row) {p : Sample → Bool}
    (hpasses : ∀ s, engine.passes (change s).row r.filter = some (p s)) :
    ∃ code out,
      Expr.compileLabelCall mode f (operand :: texts.map .text) ⟨input, .vector⟩ = .ok code ∧
      engine.rows? code.fragment = some out ∧
      out.Perm ((samples.filter p).map fun s => (change s).row) := by
  obtain ⟨out, hout, hperm⟩ := h.written.rows?_code hinput hrows hrun hpasses
  exact ⟨r.code input, out, (compileLabelCall_eq_ok_iff hedit).mpr ⟨r, h, rfl⟩, hout, hperm⟩

/-- Without a filter, each row has new labels. -/
theorem LabelEdit.Relabels.exists_relabeled {mode : LabelMode} {edit : LabelEdit}
    {stages : List Stage} (h : edit.Relabels mode ⟨stages, none⟩) {f : LabelFunction}
    {texts : List String} (hedit : f.edit? texts = some edit) (operand : Expr) {engine : Engine}
    {input : Code} (hinput : input.fragment.Whole) {samples : List Sample}
    (hrows : engine.query input.fragment = some (samples.map Sample.row))
    {change : List Char → List Char}
    (hrun : ∀ s : Sample, engine.run stages s.row = some (s.relabel change).row) :
    ∃ code out,
      Expr.compileLabelCall mode f (operand :: texts.map .text) ⟨input, .vector⟩ = .ok code ∧
      engine.rows? code.fragment = some out ∧
      out.Perm (samples.map fun s => (s.relabel change).row) := by
  have hall := h.exists_rows hedit operand hinput hrows hrun (p := fun _ => true) (fun _ => rfl)
  rwa [List.filter_true] at hall

end Compile

end SeriesSql
