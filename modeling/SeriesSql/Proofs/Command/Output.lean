import SeriesSql.Command.Run
import SeriesSql.Proofs.Compile.OneLine
import SeriesSql.Proofs.Decimal.Characters
import SeriesSql.Proofs.Text.Lines

/-!
# The output of `translate`

A statement is printed on one line, and each of its values in a comment on a line of its own.  A
comment ends with its line, so this form holds together only if no value has a line feed.

There are three groups.

* Values: only a text can have a line feed (`lineFeed_mem_literal_iff`).
* `Commented`, the form of the output.  `commented_lineText_iff` says that a printed statement has
  it exactly if no text among its values has a line feed.
* The command, from its arguments to its output: `run_translate_commented_iff`.  A line feed in a
  query is kept in the text that it stands in, so there are queries whose output does not have the
  form: `run_translate_spilled`.
-/

namespace SeriesSql

open Sql

/-! ## Values -/

theorem Decimal.lineFeed_not_mem {cs : List Char} (h : ∀ c ∈ cs, IsNumeric c) : '\n' ∉ cs := by
  intro hin
  exact absurd (h _ hin) (by decide)

/-- Doubling quotes neither adds a line feed nor takes one away. -/
theorem Sql.lineFeed_mem_doubleQuotes_iff (cs : List Char) :
    '\n' ∈ doubleQuotes cs ↔ '\n' ∈ cs := by
  constructor
  · intro hin
    by_contra hnot
    exact Code.lineFeed_not_mem_doubleQuotes hnot hin
  · intro hin
    exact List.mem_flatMap.mpr ⟨'\n', hin, by decide⟩

/-- A value that is printed on one line: a number, or a text without a line feed. -/
def Sql.Value.OneLine : Value → Prop
  | text s => '\n' ∉ s.toList
  | integer _ | real _ => True

instance (v : Value) : Decidable v.OneLine :=
  match v with
  | .text s => inferInstanceAs (Decidable ('\n' ∉ s.toList))
  | .integer _ | .real _ => inferInstanceAs (Decidable True)

theorem Sql.Value.lineFeed_mem_literal_iff (v : Value) : '\n' ∈ v.literal ↔ ¬ v.OneLine := by
  cases v with
  | text s =>
    have hquoted : '\n' ∈ quoteChars s ↔ '\n' ∈ doubleQuotes s.toList := by simp [quoteChars]
    simp [literal, OneLine, hquoted, lineFeed_mem_doubleQuotes_iff]
  | integer n =>
    have hnot := Decimal.lineFeed_not_mem (Decimal.numeric_toString_int n.toInt)
    simpa [literal, OneLine] using hnot
  | real x =>
    have hnot := Decimal.lineFeed_not_mem (Decimal.numeric_render x)
    simpa [literal, OneLine] using hnot

/-! ## The printed statement -/

namespace Command

theorem toList_lineText_cons (line : String) (lines : List String) :
    (lineText (line :: lines)).toList = line.toList ++ '\n' :: (lineText lines).toList := by
  simp [lineText, String.toList_join]

/-- Every line gives a line feed. -/
theorem length_le_count_lineText (lines : List String) :
    lines.length ≤ (lineText lines).toList.count '\n' := by
  induction lines with
  | nil => exact Nat.zero_le _
  | cons line lines ih =>
    rw [toList_lineText_cons, List.count_append, List.count_cons_self, List.length_cons]
    omega

/-- A line feed inside a line is one too many. -/
theorem lineFeed_not_mem_of_count {lines : List String}
    (h : (lineText lines).toList.count '\n' = lines.length) :
    ∀ line ∈ lines, '\n' ∉ line.toList := by
  induction lines with
  | nil => exact fun _ hline => absurd hline List.not_mem_nil
  | cons line lines ih =>
    rw [toList_lineText_cons, List.count_append, List.count_cons_self, List.length_cons] at h
    have hle := length_le_count_lineText lines
    exact List.forall_mem_cons.mpr ⟨List.count_eq_zero.mp (by omega), ih (by omega)⟩

theorem splitLines_lineText {lines : List String} (h : ∀ line ∈ lines, '\n' ∉ line.toList) :
    Text.splitLines (lineText lines).toList = lines.map String.toList ++ [[]] := by
  induction lines with
  | nil => rfl
  | cons line lines ih =>
    rw [List.forall_mem_cons] at h
    rw [toList_lineText_cons, Text.splitLines_line h.1, ih h.2]
    rfl

/-- What stands before the value with number `n`. -/
def commentMark (n : Nat) : String :=
  "-- ?" ++ toString n ++ " = "

theorem lineFeed_not_mem_commentMark (n : Nat) : '\n' ∉ (commentMark n).toList := by
  have hnumber := Decimal.lineFeed_not_mem (Decimal.numeric_toString_nat n)
  simpa [commentMark] using hnumber

@[simp] theorem length_parameterLines (n : Nat) (params : List Value) :
    (parameterLines n params).length = params.length := by
  induction params generalizing n with
  | nil => rfl
  | cons v params ih => rw [parameterLines, List.length_cons, List.length_cons, ih]

theorem getElem?_parameterLines (n i : Nat) (params : List Value) :
    (parameterLines n params)[i]? =
      params[i]?.map fun v => commentMark (n + i) ++ String.ofList v.literal := by
  induction params generalizing n i with
  | nil => simp [parameterLines]
  | cons v params ih =>
    cases i with
    | zero => rfl
    | succ i =>
      rw [parameterLines, List.getElem?_cons_succ, List.getElem?_cons_succ, ih,
        show n + 1 + i = n + (i + 1) by omega]

/-- A line of a value has the line feeds of the value. -/
theorem lineFeed_not_mem_parameterLines_iff (n : Nat) (params : List Value) :
    (∀ line ∈ parameterLines n params, '\n' ∉ line.toList) ↔ ∀ v ∈ params, v.OneLine := by
  induction params generalizing n with
  | nil => simp [parameterLines]
  | cons v params ih =>
    have hline : '\n' ∈ (commentMark n ++ String.ofList v.literal).toList ↔ ¬ v.OneLine := by
      simp [lineFeed_not_mem_commentMark n, v.lineFeed_mem_literal_iff]
    rw [show parameterLines n (v :: params) =
        (commentMark n ++ String.ofList v.literal) :: parameterLines (n + 1) params from rfl,
      List.forall_mem_cons, List.forall_mem_cons, ih, hline, not_not]

/-- The lines of the output are the text of the statement and, for each of its values, a comment
with the number of the value. -/
def Commented (f : Fragment) (output : String) : Prop :=
  ∃ comments : List (List Char),
    Text.splitLines output.toList = f.text.toList :: comments ++ [[]] ∧
      comments.length = f.params.length ∧
        ∀ i comment, comments[i]? = some comment → (commentMark (i + 1)).toList <+: comment

theorem commented_of_oneLine {f : Fragment} (htext : '\n' ∉ f.text.toList)
    (hparams : ∀ v ∈ f.params, v.OneLine) :
    Commented f (lineText (statementLines false false f)) := by
  have hlines := (lineFeed_not_mem_parameterLines_iff 1 f.params).mpr hparams
  refine ⟨(parameterLines 1 f.params).map String.toList, ?_, by simp, ?_⟩
  · exact splitLines_lineText (List.forall_mem_cons.mpr ⟨htext, hlines⟩)
  · intro i comment hcomment
    rw [List.getElem?_map, getElem?_parameterLines, Option.map_map] at hcomment
    obtain ⟨v, -, rfl⟩ := Option.map_eq_some_iff.mp hcomment
    rw [Function.comp_apply, String.toList_append, Nat.add_comm 1 i]
    exact List.prefix_append ..

/-- There is a line for each line feed, so one inside a value is one too many. -/
theorem oneLine_of_commented {f : Fragment}
    (h : Commented f (lineText (statementLines false false f))) : ∀ v ∈ f.params, v.OneLine := by
  obtain ⟨comments, hlines, hlength, -⟩ := h
  have hcount := Text.length_splitLines (lineText (statementLines false false f)).toList
  have htotal : (lineText (statementLines false false f)).toList.count '\n' =
      (statementLines false false f).length := by
    have hstatement : (statementLines false false f).length = f.params.length + 1 :=
      congrArg (· + 1) (length_parameterLines 1 f.params)
    rw [hlines, List.length_append, List.length_cons, List.length_singleton] at hcount
    omega
  have hall := lineFeed_not_mem_of_count htotal
  exact (lineFeed_not_mem_parameterLines_iff 1 f.params).mp (List.forall_mem_cons.mp hall).2

theorem commented_lineText_iff {f : Fragment} (htext : '\n' ∉ f.text.toList) :
    Commented f (lineText (statementLines false false f)) ↔ ∀ v ∈ f.params, v.OneLine :=
  ⟨oneLine_of_commented, commented_of_oneLine htext⟩

/-! ## The command -/

/-- The statement of a query is that of its expression. -/
theorem translate_eq_ok_iff {o : Options} {query : String} {f : Fragment} :
    translate o query = .ok f ↔
      query.utf8ByteSize ≤ o.maxQueryBytes ∧
        ∃ e, Expr.parse query = .ok e ∧ e.statement o = .ok f := by
  unfold translate
  split
  · rename_i hsize
    simp only [reduceCtorEq, false_iff, not_and]
    omega
  · rename_i hsize
    cases hparse : Expr.parse query with
    | error fault => simp [bind, Except.bind]
    | ok e =>
      cases hstatement : e.statement o with
      | error fault => simp [bind, Except.bind, Except.mapError, hstatement]
      | ok g =>
        simp [bind, Except.bind, Except.mapError, hstatement]
        omega

theorem lineFeed_not_mem_of_translate {o : Options} {query : String} {f : Fragment}
    (h : translate o query = .ok f) : '\n' ∉ f.text.toList := by
  obtain ⟨-, e, -, hstatement⟩ := translate_eq_ok_iff.mp h
  exact Expr.lineFeed_not_mem_statement hstatement

/-- A test of what a query translates to, if it does. -/
theorem exists_ok_of_any {o : Options} {query : String} {p : Fragment → Bool}
    (h : (translate o query).toOption.any p = true) : ∃ f, translate o query = .ok f ∧ p f := by
  cases htranslate : translate o query with
  | error fault => simp [htranslate, Except.toOption] at h
  | ok f => exact ⟨f, rfl, by simpa [htranslate, Except.toOption] using h⟩

section Run

variable {args : List String} {file : String → Option String} {vars : List (String × String)}
  {config : Option String} {query : String}

/-- With settings that load and are sound, the statement of the query is printed. -/
theorem run_translate_of_ok {json inline : Bool} {settings : Config.Settings} {f : Fragment}
    (hargs : parseArgs? args = some (.act config (.translate query json inline)))
    (hload : Config.Settings.load (file (config.getD defaultConfigPath)) vars = .ok settings)
    (hfault : settings.fault? = none) (htranslate : translate settings.options query = .ok f) :
    run args file vars = .success (statementLines json inline f) := by
  simp only [run, hargs, runRequest, hload, runAction, runTranslate, hfault, htranslate]

/-- A translation succeeds only that way. -/
theorem exists_of_run_translate {json inline : Bool}
    (hargs : parseArgs? args = some (.act config (.translate query json inline)))
    (hcode : (run args file vars).code = 0) :
    ∃ settings f,
      Config.Settings.load (file (config.getD defaultConfigPath)) vars = .ok settings ∧
        settings.fault? = none ∧ translate settings.options query = .ok f := by
  simp only [run, hargs, runRequest] at hcode
  split at hcode
  · cases hcode
  · rename_i settings hload
    simp only [runAction, runTranslate] at hcode
    split at hcode
    · cases hcode
    · rename_i hfault
      split at hcode
      · cases hcode
      · rename_i f htranslate
        exact ⟨settings, f, hload, hfault, htranslate⟩

/-- Without a file and without variables, the settings are the defaults. -/
theorem run_translate_defaults {f : Fragment}
    (hargs : parseArgs? args = some (.act config (.translate query false false)))
    (hf : translate Config.Settings.defaults.options query = .ok f) :
    run args (fun _ => none) [] = .success (statementLines false false f) :=
  run_translate_of_ok hargs rfl rfl hf

/-- The output of a translation begins with the statement, all of it on the first line.  The values
follow as comments, one on each line, exactly if no text among them has a line feed. -/
theorem run_translate_commented_iff
    (hargs : parseArgs? args = some (.act config (.translate query false false)))
    (hcode : (run args file vars).code = 0) :
    ∃ settings f,
      Config.Settings.load (file (config.getD defaultConfigPath)) vars = .ok settings ∧
        translate settings.options query = .ok f ∧
          (Text.splitLines (run args file vars).output.toList).head? = some f.text.toList ∧
            (Commented f (run args file vars).output ↔ ∀ v ∈ f.params, v.OneLine) := by
  obtain ⟨settings, f, hload, hfault, htranslate⟩ := exists_of_run_translate hargs hcode
  have htext := lineFeed_not_mem_of_translate htranslate
  refine ⟨settings, f, hload, htranslate, ?_, ?_⟩
  · rw [run_translate_of_ok hargs hload hfault htranslate]
    show (Text.splitLines (lineText (f.text :: parameterLines 1 f.params)).toList).head? = _
    rw [toList_lineText_cons, Text.splitLines_line htext, List.head?_cons]
  · rw [run_translate_of_ok hargs hload hfault htranslate]
    exact commented_lineText_iff htext

end Run

/-- A value with a quote, which is doubled and stays on its line. -/
theorem run_translate_commented_iff_quoted :
    parseArgs? ["translate", "up\x7ba=\"it's\"\x7d"] =
        some (.act none (.translate "up\x7ba=\"it's\"\x7d" false false)) ∧
      (run ["translate", "up\x7ba=\"it's\"\x7d"] (fun _ => none) []).code = 0 ∧
        ∃ f, translate Config.Settings.defaults.options "up\x7ba=\"it's\"\x7d" = .ok f ∧
          Commented f (run ["translate", "up\x7ba=\"it's\"\x7d"] (fun _ => none) []).output := by
  have hargs : parseArgs? ["translate", "up\x7ba=\"it's\"\x7d"] =
      some (.act none (.translate "up\x7ba=\"it's\"\x7d" false false)) := by decide +kernel
  have hquery : (translate Config.Settings.defaults.options "up\x7ba=\"it's\"\x7d").toOption.any
      (fun f => ∀ v ∈ f.params, v.OneLine) = true := by decide +kernel
  obtain ⟨f, hf, hlines⟩ := exists_ok_of_any hquery
  have hcode : (run ["translate", "up\x7ba=\"it's\"\x7d"] (fun _ => none) []).code = 0 := by
    rw [run_translate_defaults hargs hf]
    rfl
  obtain ⟨settings, g, hload, hg, -, hiff⟩ := run_translate_commented_iff hargs hcode
  obtain rfl : Config.Settings.defaults = settings := Except.ok.inj hload
  obtain rfl : f = g := Except.ok.inj (hf.symm.trans hg)
  exact ⟨hargs, hcode, f, hf, hiff.mpr (of_decide_eq_true hlines)⟩

/-- A line feed inside a label value ends the comment, and the rest of the value stands on a line of
its own. -/
theorem run_translate_spilled :
    ∃ f, translate Config.Settings.defaults.options "up\x7ba=\"x\ny\"\x7d" = .ok f ∧
      (run ["translate", "up\x7ba=\"x\ny\"\x7d"] (fun _ => none) []).code = 0 ∧
        ¬ Commented f (run ["translate", "up\x7ba=\"x\ny\"\x7d"] (fun _ => none) []).output := by
  have hargs : parseArgs? ["translate", "up\x7ba=\"x\ny\"\x7d"] =
      some (.act none (.translate "up\x7ba=\"x\ny\"\x7d" false false)) := by decide +kernel
  have hquery : (translate Config.Settings.defaults.options "up\x7ba=\"x\ny\"\x7d").toOption.any
      (fun f => ¬ ∀ v ∈ f.params, v.OneLine) = true := by decide +kernel
  obtain ⟨f, hf, hspill⟩ := exists_ok_of_any hquery
  have hrun := run_translate_defaults hargs hf
  refine ⟨f, hf, by rw [hrun]; rfl, ?_⟩
  rw [hrun]
  intro hcommented
  exact of_decide_eq_true hspill (oneLine_of_commented hcommented)

end Command

end SeriesSql
