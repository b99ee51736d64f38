import SeriesSql.Proofs.Stages.Reading

/-!
# Rows of staged statements

The stages of a label function change each row on its own.  By `rows?_code` the rows of its
statement are those of the input, each as it comes out of the stages, as far as they pass the
filter, in some order.  So it is enough to know what the stages do to one row.

There are three groups.

* Samples, the rows that label functions are given.
* One stage, for a sample and the columns that the stage before has added.
* All stages.  `exists_addTable` says what one stage adds to the tables before it, and
  `exists_tables` what there is after all of them.
-/

namespace SeriesSql

open Sql Labels Compile

namespace Stages

/-! ## Samples -/

/-- A row of the input.  The labels are any text. -/
structure Sample where
  timestamp : Cell
  value : Cell
  labels : List Char

namespace Sample

def row (s : Sample) : Row :=
  [("timestamp", s.timestamp), ("value", s.value), ("labels", .datum (.text s.labels))]

/-- Changes nothing but the labels. -/
def relabel (s : Sample) (f : List Char → List Char) : Sample :=
  { s with labels := f s.labels }

variable (s : Sample) (extra : Row)

theorem lookup_timestamp : (s.row ++ extra).lookup "timestamp" = some s.timestamp := by
  simp [row]

theorem lookup_value : (s.row ++ extra).lookup "value" = some s.value := by
  simp [row, List.lookup_cons]

theorem lookup_labels : (s.row ++ extra).lookup "labels" = some (.datum (.text s.labels)) := by
  simp [row, List.lookup_cons]

theorem datum?_labels : (s.row ++ extra).datum? "labels" = some (.text s.labels) := by
  rw [Row.datum?, lookup_labels]

/-- A column that a stage has added can be read. -/
theorem datum?_derived {column : Column} (h : column ≠ .labels) (d : Datum) :
    (s.row ++ [(column.name, Cell.datum d)]).datum? column.name = some d := by
  cases column with
  | labels => exact absurd rfl h
  | sourceValue | copiedValue => simp [row, Row.datum?, Column.name, List.lookup_cons]

end Sample

/-! ## One stage -/

namespace Engine

variable (engine : Engine) (s : Sample)

theorem column_labels (extra : Row) :
    (engine.scope (s.row ++ extra)).column .labels = .text s.labels := by
  show ((s.row ++ extra).datum? "labels").getD .null = _
  rw [s.datum?_labels]
  rfl

theorem column_derived {column : Column} (h : column ≠ .labels) (d : Datum) :
    (engine.scope (s.row ++ [(column.name, Cell.datum d)])).column column = d := by
  show ((s.row ++ [(column.name, Cell.datum d)]).datum? column.name).getD .null = _
  rw [s.datum?_derived h]
  rfl

theorem value?_eq_eval {row : Row} {t : Term}
    (h : (t.fits fun c => (row.datum? c.name).isSome) = true) :
    engine.value? row t = t.eval (engine.scope row) :=
  if_pos h

theorem cell?_timestamp (extra : Row) :
    engine.cell? (s.row ++ extra) (.column "timestamp") = some ("timestamp", s.timestamp) := by
  rw [cell?, s.lookup_timestamp]
  rfl

theorem cell?_value (extra : Row) :
    engine.cell? (s.row ++ extra) (.column "value") = some ("value", s.value) := by
  rw [cell?, s.lookup_value]
  rfl

theorem cell?_labels (extra : Row) :
    engine.cell? (s.row ++ extra) (.column "labels") =
      some ("labels", .datum (.text s.labels)) := by
  rw [cell?, s.lookup_labels]
  rfl

theorem cell?_term {row : Row} {t : Term} {d : Datum} (h : engine.value? row t = some d)
    (name : String) : engine.cell? row (.term t name) = some (name, .datum d) := by
  rw [cell?, h]
  rfl

variable {s}

theorem project_relabel {extra : Row} {labels : Term} {f : List Char → List Char}
    (h : engine.value? (s.row ++ extra) labels = some (.text (f s.labels))) :
    engine.project (Stage.relabel labels).items (s.row ++ extra) = some (s.relabel f).row := by
  simp only [project, Stage.items, List.mapM_cons, List.mapM_nil, engine.cell?_timestamp,
    engine.cell?_value, engine.cell?_term h]
  rfl

theorem project_derive {column : Column} {value : Term} {d : Datum}
    (h : engine.value? (s.row ++ []) value = some d) :
    engine.project (Stage.derive column value).items s.row =
      some (s.row ++ [(column.name, .datum d)]) := by
  rw [← List.append_nil s.row]
  simp only [project, Stage.items, List.mapM_cons, List.mapM_nil, engine.cell?_timestamp,
    engine.cell?_value, engine.cell?_labels, engine.cell?_term h]
  rfl

theorem project_sample (s : Sample) :
    engine.project [.column "timestamp", .column "value", .column "labels"] s.row = some s.row := by
  rw [← List.append_nil s.row]
  simp only [project, List.mapM_cons, List.mapM_nil, engine.cell?_timestamp, engine.cell?_value,
    engine.cell?_labels]
  rfl

/-! ## All stages -/

/-- A row after several stages. -/
def run (stages : List Stage) (row : Row) : Option Row :=
  stages.foldlM (fun row stage => engine.project stage.items row) row

theorem run_cons_eq_some_iff {stage : Stage} {stages : List Stage} {row out : Row} :
    engine.run (stage :: stages) row = some out ↔
      ∃ next, engine.project stage.items row = some next ∧ engine.run stages next = some out :=
  Option.bind_eq_some_iff

theorem run_relabel {extra : Row} {labels : Term} {f : List Char → List Char}
    (h : engine.value? (s.row ++ extra) labels = some (.text (f s.labels))) (stages : List Stage) :
    engine.run (.relabel labels :: stages) (s.row ++ extra) =
      engine.run stages (s.relabel f).row := by
  rw [run, List.foldlM_cons, engine.project_relabel h]
  rfl

theorem run_derive {column : Column} {value : Term} {d : Datum}
    (h : engine.value? (s.row ++ []) value = some d) (stages : List Stage) :
    engine.run (.derive column value :: stages) s.row =
      engine.run stages (s.row ++ [(column.name, .datum d)]) := by
  rw [run, List.foldlM_cons, engine.project_derive h]
  rfl

theorem run_append (stages more : List Stage) (row : Row) :
    engine.run (stages ++ more) row = (engine.run stages row).bind (engine.run more) :=
  List.foldlM_append

theorem keep_map {α : Type} {xs : List α} {a : α → Row} {p : α → Bool} {filter : Option Term}
    (h : ∀ x ∈ xs, engine.passes (a x) filter = some (p x)) :
    engine.keep filter (xs.map a) = some ((xs.filter p).map a) := by
  induction xs with
  | nil => rfl
  | cons x xs ih =>
    obtain ⟨hx, hxs⟩ := List.forall_mem_cons.mp h
    rw [List.map_cons, keep, hx, ih hxs, List.filter_cons]
    cases p x <;> rfl

theorem sort_perm (names : List String) (rows : List Row) : (engine.sort names rows).Perm rows := by
  unfold sort
  split
  · exact List.Perm.refl rows
  · exact List.mergeSort_perm rows _

theorem select_eq {tables : Tables} {s : Select} {α : Type} {xs : List α} {a b : α → Row}
    {p : α → Bool} (hsource : tables.lookup s.source = some (xs.map a))
    (hpasses : ∀ x ∈ xs, engine.passes (a x) s.filter = some (p x))
    (hproject : ∀ x ∈ xs, engine.project s.items (a x) = some (b x))
    (horder : ∀ name ∈ s.order, name ∈ s.items.map Item.name) :
    engine.select tables s = some (engine.sort s.order ((xs.filter p).map b)) := by
  have hrows : ((xs.filter p).map a).mapM (engine.project s.items) = some ((xs.filter p).map b) :=
    mapM_map_eq_some fun x hx => hproject x (List.mem_of_mem_filter hx)
  have hknown : s.order.all (· ∈ s.items.map Item.name) = true :=
    List.all_eq_true.mpr fun name hname => decide_eq_true (horder name hname)
  simp only [select, hsource, Option.bind_eq_bind, Option.bind_some, engine.keep_map hpasses, hrows,
    hknown]
  rfl

end Engine

end Stages

namespace Compile

open Stages

theorem stageText_injective : Function.Injective stageText := by
  have hinput (n : Nat) : stageText (n + 1) ≠ "label_input" := by
    intro h
    have hchars := congrArg String.toList h
    rw [stageText_succ, String.toList_ofList] at hchars
    simp at hchars
  intro m n h
  cases m with
  | zero =>
    cases n with
    | zero => rfl
    | succ n => exact absurd h.symm (hinput n)
  | succ m =>
    cases n with
    | zero => exact absurd h (hinput m)
    | succ n =>
      rw [stageText_succ, stageText_succ, String.ofList_inj] at h
      have hdigits := congrArg (Nat.ofDigitChars 10 · 0) (List.append_cancel_left h)
      simpa [Nat.ofDigitChars_ten_toDigits] using hdigits

/-- The tables hold the rows of stage `n`, and those of no later stage. -/
structure Reaches (tables : Engine.Tables) (n : Nat) (rows : List Row) : Prop where
  rows : tables.lookup (stageText n) = some rows
  fresh : ∀ m, n < m → tables.lookup (stageText m) = none

/-- A stage has a name of its own. -/
theorem reaches_cons {tables : Engine.Tables} {n : Nat}
    (hfresh : ∀ m, n < m → tables.lookup (stageText m) = none) (rows : List Row) :
    Reaches ((stageText n, rows) :: tables) n rows where
  rows := List.lookup_cons_self
  fresh := by
    intro m hm
    have hother : stageText m ≠ stageText n := by
      intro hname
      have := stageText_injective hname
      omega
    rw [List.lookup_cons, beq_false_of_ne hother]
    exact hfresh m hm

section

variable (engine : Engine) {α : Type} {xs : List α} {n : Nat} {tables : Engine.Tables}
  {a b : α → Row}

/-- One stage selects from the one before it. -/
theorem exists_addTable (h : Reaches tables n (xs.map a)) {stage : Stage}
    (hproject : ∀ x ∈ xs, engine.project stage.items (a x) = some (b x)) :
    ∃ next, engine.addTable tables ⟨stageText (n + 1), ⟨stage.items, stageText n, none, []⟩⟩ =
      some next ∧ Reaches next (n + 1) (xs.map b) := by
  have hselect := engine.select_eq (s := ⟨stage.items, stageText n, none, []⟩) (p := fun _ => true)
    h.rows (fun _ _ => rfl) hproject (by simp)
  rw [List.filter_true] at hselect
  refine ⟨(stageText (n + 1), xs.map b) :: tables, ?_, reaches_cons ?_ _⟩
  · rw [Engine.addTable, h.fresh (n + 1) (by omega), hselect]
    rfl
  · intro m hm
    exact h.fresh m (by omega)

/-- All stages, by induction on them, from the rows that the first one reads. -/
theorem exists_tables (h : Reaches tables n (xs.map a)) {stages : List Stage}
    (hrun : ∀ x ∈ xs, engine.run stages (a x) = some (b x)) :
    ∃ all, (stageList n stages).foldlM engine.addTable tables = some all ∧
      Reaches all (n + stages.length) (xs.map b) := by
  induction stages generalizing n tables a with
  | nil =>
    have hsame : xs.map a = xs.map b :=
      List.map_congr_left fun x hx => Option.some.inj (hrun x hx)
    exact ⟨tables, rfl, hsame ▸ h⟩
  | cons stage stages ih =>
    let next (x : α) : Row := (engine.project stage.items (a x)).getD []
    have hnext : ∀ x ∈ xs, engine.project stage.items (a x) = some (next x) ∧
        engine.run stages (next x) = some (b x) := by
      intro x hx
      obtain ⟨row, hrow, hrest⟩ := engine.run_cons_eq_some_iff.mp (hrun x hx)
      have hsame : next x = row := by
        show (engine.project stage.items (a x)).getD [] = row
        rw [hrow]
        rfl
      exact hsame ▸ ⟨hrow, hrest⟩
    obtain ⟨first, hfirst, hreaches⟩ := exists_addTable engine h fun x hx => (hnext x hx).1
    obtain ⟨all, hall, hlast⟩ := ih hreaches fun x hx => (hnext x hx).2
    refine ⟨all, ?_, ?_⟩
    · rw [stageList, List.foldlM_cons, hfirst]
      exact hall
    · rw [List.length_cons, Nat.add_comm stages.length, ← Nat.add_assoc]
      exact hlast

end

/-- The rows of a label function. -/
theorem Relabeling.Written.rows?_code {r : Relabeling} (hr : r.Written) {engine : Engine}
    {input : Code} (hinput : input.fragment.Whole) {samples : List Sample}
    (hrows : engine.query input.fragment = some (samples.map Sample.row)) {f : Sample → Sample}
    (hrun : ∀ s, engine.run r.stages s.row = some (f s).row) {p : Sample → Bool}
    (hpasses : ∀ s, engine.passes (f s).row r.filter = some (p s)) :
    ∃ out, engine.rows? (r.code input).fragment = some out ∧
      out.Perm ((samples.filter p).map fun s => (f s).row) := by
  have hinputRows : Reaches [(stageText 0, samples.map Sample.row)] 0 (samples.map Sample.row) :=
    reaches_cons (fun _ _ => rfl) _
  obtain ⟨tables, htables, hlast⟩ := exists_tables engine hinputRows fun s _ => hrun s
  rw [Nat.zero_add] at hlast
  have hselect := engine.select_eq (s := r.body) hlast.rows (fun s _ => hpasses s)
    (fun s _ => engine.project_sample (f s)) (by simp [Relabeling.body, Item.name])
  refine ⟨_, ?_, engine.sort_perm r.body.order _⟩
  rw [Engine.rows?, hr.readStatement_code hinput]
  show (engine.query input.fragment).bind _ = _
  rw [hrows]
  show ((stageList 0 r.stages).foldlM engine.addTable
    [(stageText 0, samples.map Sample.row)]).bind _ = _
  rw [htables]
  exact hselect

end Compile

end SeriesSql
