import Mathlib.Data.List.DropRight
import SeriesSql.Text.Blank

/-!
# Lines and trimmed texts

`Text.lines` cuts a text in one pass and mends the parts afterwards.  `LinesOf` says without a pass
which lines a text has, with one rule for each way in which a line can end, and `linesOf_iff` says
that the two agree.  `Trims` says in the same way what trimming leaves of a line.

There are three groups.

* The parts of a text between its line feeds.
* Lines.  Those without a carriage return at their end are read back when they are joined with line
  feeds: `linesOf_intercalate`.
* Trimming.
-/

namespace SeriesSql.Text

/-! ## Parts between line feeds -/

theorem splitLines_ne_nil (cs : List Char) : splitLines cs ≠ [] := by
  cases cs with
  | nil => simp [splitLines]
  | cons c cs =>
    unfold splitLines
    split
    · simp
    · split <;> simp

theorem length_splitLines (cs : List Char) :
    (splitLines cs).length = cs.count '\n' + 1 := by
  induction cs with
  | nil => rfl
  | cons c cs ih =>
    unfold splitLines
    by_cases hfeed : c = '\n'
    · rw [if_pos hfeed, hfeed, List.count_cons_self, List.length_cons, ih]
    · rw [if_neg hfeed, List.count_cons_of_ne hfeed, ← ih]
      split
      · rename_i hnil
        exact absurd hnil (splitLines_ne_nil cs)
      · rename_i line rest hlines
        rw [hlines]
        rfl

/-- A line feed ends a line. -/
theorem splitLines_line {line : List Char} (h : '\n' ∉ line) (rest : List Char) :
    splitLines (line ++ '\n' :: rest) = line :: splitLines rest := by
  induction line with
  | nil => simp [splitLines]
  | cons c line ih =>
    rw [List.mem_cons, not_or] at h
    rw [List.cons_append, splitLines, if_neg (Ne.symm h.1), ih h.2]

theorem splitLines_of_not_mem {line : List Char} (h : '\n' ∉ line) : splitLines line = [line] := by
  induction line with
  | nil => rfl
  | cons c line ih =>
    rw [List.mem_cons, not_or] at h
    rw [splitLines, if_neg (Ne.symm h.1), ih h.2]

/-! ## Lines -/

/-- The lines of a text.  A line feed ends a line, and so does a carriage return with a line feed;
what follows the last line feed is a line if it is not empty. -/
inductive LinesOf : List Char → List (List Char) → Prop
  | nil : LinesOf [] []
  | last {line : List Char} (hne : line ≠ []) (hline : '\n' ∉ line) : LinesOf line [line]
  | feed {line rest : List Char} {others : List (List Char)} (hline : '\n' ∉ line)
      (hreturn : line.getLast? ≠ some '\r') (hrest : LinesOf rest others) :
      LinesOf (line ++ '\n' :: rest) (line :: others)
  | returnFeed {line rest : List Char} {others : List (List Char)} (hline : '\n' ∉ line)
      (hrest : LinesOf rest others) :
      LinesOf (line ++ '\r' :: '\n' :: rest) (line :: others)

theorem dropReturn_concat (line : List Char) : dropReturn (line ++ ['\r']) = line := by
  simp [dropReturn]

theorem dropReturn_eq_self {line : List Char} (h : line.getLast? ≠ some '\r') :
    dropReturn line = line := by
  unfold dropReturn
  split
  · rename_i hlast
    exact absurd hlast h
  · rfl

theorem lines_last {line : List Char} (hne : line ≠ []) (hline : '\n' ∉ line) :
    lines line = [line] := by
  simp [lines, splitLines_of_not_mem hline, hne]

theorem lines_feed {line : List Char} (hline : '\n' ∉ line) (rest : List Char) :
    lines (line ++ '\n' :: rest) = dropReturn line :: lines rest := by
  have hne := splitLines_ne_nil rest
  simp only [lines]
  rw [splitLines_line hline, List.dropLast_cons_of_ne_nil hne, List.getLast?_cons_of_ne_nil hne]
  rfl

theorem lines_eq_of_linesOf {cs : List Char} {found : List (List Char)} (h : LinesOf cs found) :
    lines cs = found := by
  induction h with
  | nil => rfl
  | last hne hline => exact lines_last hne hline
  | feed hline hreturn hrest ih => rw [lines_feed hline, dropReturn_eq_self hreturn, ih]
  | @returnFeed line rest others hline hrest ih =>
    have hreturn : '\n' ∉ line ++ ['\r'] := by simpa using hline
    rw [List.append_cons, lines_feed hreturn, dropReturn_concat, ih]

theorem linesOf_lines (cs : List Char) : LinesOf cs (lines cs) := by
  by_cases hfeed : '\n' ∈ cs
  · obtain ⟨line, rest, rfl, hline⟩ := List.eq_append_cons_of_mem hfeed
    have hrest : LinesOf rest (lines rest) := linesOf_lines rest
    rw [lines_feed hline]
    by_cases hreturn : line.getLast? = some '\r'
    · obtain ⟨init, rfl⟩ := List.getLast?_eq_some_iff.mp hreturn
      rw [dropReturn_concat, ← List.append_cons]
      exact .returnFeed (fun hinit => hline (List.mem_append_left _ hinit)) hrest
    · rw [dropReturn_eq_self hreturn]
      exact .feed hline hreturn hrest
  · by_cases hne : cs = []
    · subst hne
      exact .nil
    · rw [lines_last hne hfeed]
      exact .last hne hfeed
termination_by cs.length
decreasing_by
  subst_vars
  simp only [List.length_append, List.length_cons]
  omega

theorem linesOf_iff {cs : List Char} {found : List (List Char)} :
    LinesOf cs found ↔ found = lines cs := by
  constructor
  · intro h
    exact (lines_eq_of_linesOf h).symm
  · rintro rfl
    exact linesOf_lines cs

theorem LinesOf.lineFeed_not_mem {cs : List Char} {found : List (List Char)}
    (h : LinesOf cs found) :
    ∀ line ∈ found, '\n' ∉ line := by
  induction h with
  | nil => exact fun _ hline => absurd hline List.not_mem_nil
  | last hne hline => exact List.forall_mem_singleton.mpr hline
  | feed hline hreturn hrest ih => exact List.forall_mem_cons.mpr ⟨hline, ih⟩
  | returnFeed hline hrest ih => exact List.forall_mem_cons.mpr ⟨hline, ih⟩

/-- Lines joined with line feeds are the lines of the text, unless one is empty or would lose a
carriage return. -/
theorem linesOf_intercalate {found : List (List Char)}
    (h : ∀ line ∈ found, line ≠ [] ∧ '\n' ∉ line ∧ line.getLast? ≠ some '\r') :
    LinesOf (['\n'].intercalate found) found := by
  induction found with
  | nil => exact .nil
  | cons line others ih =>
    obtain ⟨⟨hne, hline, hreturn⟩, hothers⟩ := List.forall_mem_cons.mp h
    cases others with
    | nil =>
      rw [List.intercalate_singleton]
      exact .last hne hline
    | cons next others =>
      rw [List.intercalate_cons_cons, List.append_assoc]
      exact .feed hline hreturn (ih hothers)

/-! ## Trimming -/

/-- No blank character at either end. -/
def IsTrimmed (cs : List Char) : Prop :=
  (∀ c ∈ cs.head?, isBlank c = false) ∧ ∀ c ∈ cs.getLast?, isBlank c = false

/-- `core` is `line` without the blank characters around it. -/
structure Trims (line core : List Char) : Prop where
  around : ∃ before after, line = before ++ core ++ after ∧ ∀ c ∈ before ++ after, isBlank c = true
  trimmed : IsTrimmed core

def BlankLine (line : List Char) : Prop :=
  ∀ c ∈ line, isBlank c = true

instance (line : List Char) : Decidable (BlankLine line) :=
  inferInstanceAs (Decidable (∀ c ∈ line, isBlank c = true))

theorem trimChars_eq_rdropWhile (cs : List Char) :
    trimChars cs = (cs.dropWhile isBlank).rdropWhile isBlank :=
  rfl

theorem trimChars_eq_nil_iff {cs : List Char} : trimChars cs = [] ↔ BlankLine cs := by
  rw [trimChars_eq_rdropWhile, List.rdropWhile_eq_nil_iff, ← List.dropWhile_eq_nil_iff,
    List.dropWhile_idempotent, List.dropWhile_eq_nil_iff, BlankLine]

theorem trimChars_eq_self {cs : List Char} (h : IsTrimmed cs) : trimChars cs = cs := by
  obtain ⟨hfirst, hlast⟩ := h
  cases cs with
  | nil => rfl
  | cons c cs =>
    have hc : isBlank c = false := hfirst c rfl
    rw [trimChars_eq_rdropWhile, List.dropWhile_cons_of_neg (by simp [hc]),
      List.rdropWhile_eq_self_iff]
    intro hne
    rw [hlast _ (List.getLast?_eq_some_getLast hne)]
    decide

theorem isTrimmed_trimChars (cs : List Char) : IsTrimmed (trimChars cs) := by
  rw [trimChars_eq_rdropWhile]
  constructor
  · intro c hc
    -- The end of the line may be dropped as a whole, but else its start stays.
    obtain ⟨after, hafter⟩ := List.rdropWhile_prefix isBlank (cs.dropWhile isBlank)
    have hstart : (cs.dropWhile isBlank).head? = some c := by
      rw [← hafter, List.head?_append, Option.mem_def.mp hc]
      rfl
    have hnot := List.head?_dropWhile_not isBlank cs
    rw [hstart] at hnot
    exact hnot
  · intro c hc
    obtain ⟨hne, rfl⟩ := List.mem_getLast?_eq_getLast hc
    exact Bool.eq_false_iff.mpr (List.rdropWhile_last_not isBlank _ hne)

theorem trims_trimChars (cs : List Char) : Trims cs (trimChars cs) := by
  refine ⟨⟨cs.takeWhile isBlank, (cs.dropWhile isBlank).rtakeWhile isBlank, ?_, ?_⟩,
    isTrimmed_trimChars cs⟩
  · rw [trimChars_eq_rdropWhile, List.append_assoc, List.rdropWhile_append_rtakeWhile,
      List.takeWhile_append_dropWhile]
  · intro c hc
    rcases List.mem_append.mp hc with hc | hc
    · exact List.mem_takeWhile_imp hc
    · exact List.mem_rtakeWhile_imp hc

end SeriesSql.Text
