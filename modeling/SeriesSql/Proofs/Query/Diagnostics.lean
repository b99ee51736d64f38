import Mathlib.Data.List.Forall2
import SeriesSql.Error
import SeriesSql.Proofs.Text.Lines

/-!
# Diagnostics of a parser's message

A message is kept as its lines, trimmed and without the blank ones, and never as nothing at all.
`ofMessage_lines_stable` says this with the relations `LinesOf` and `Trims`, and that a message made
of diagnostics is read as these diagnostics.

There are three groups.

* `IsDiagnostic`, what a single diagnostic looks like.
* The diagnostics of a message: those of its lines that are not blank, or the placeholder.
* Messages made of diagnostics, and the theorem.
-/

namespace SeriesSql

open Text

/-- A text on one line, without blank characters around it, that is not empty. -/
structure IsDiagnostic (d : String) : Prop where
  ne_empty : d ≠ ""
  oneLine : '\n' ∉ d.toList
  trimmed : IsTrimmed d.toList

theorem isDiagnostic_placeholder : IsDiagnostic "unknown parse error" where
  ne_empty := by decide
  oneLine := by decide
  trimmed := by
    constructor <;>
    · intro c hc
      cases hc
      rfl

/-- A line that is not blank gives a diagnostic. -/
theorem isDiagnostic_trimChars {line : List Char} (hline : '\n' ∉ line) (h : ¬BlankLine line) :
    IsDiagnostic (String.ofList (trimChars line)) where
  ne_empty := by
    rw [ne_eq, String.ofList_eq_empty_iff, trimChars_eq_nil_iff]
    exact h
  oneLine := by
    obtain ⟨before, after, hparts, -⟩ := (trims_trimChars line).around
    intro hfeed
    rw [String.toList_ofList] at hfeed
    rw [hparts] at hline
    exact hline (List.mem_append_left _ (List.mem_append_right _ hfeed))
  trimmed := by
    rw [String.toList_ofList]
    exact isTrimmed_trimChars line

/-! ## Diagnostics of a message -/

/-- The lines that are not blank. -/
def filledLines (lines : List (List Char)) : List (List Char) :=
  lines.filter fun line => ¬BlankLine line

theorem filter_map_trimChars (lines : List (List Char)) :
    (lines.map trimChars).filter (fun line => !line.isEmpty) =
      (filledLines lines).map trimChars := by
  rw [List.filter_map, filledLines]
  refine congrArg (List.map trimChars) (List.filter_congr fun line _ => ?_)
  rw [Function.comp_apply, Bool.eq_iff_iff]
  simp [← trimChars_eq_nil_iff]

theorem diagnostics_eq (message : String) :
    diagnostics message =
      if filledLines (lines message.toList) = [] then ["unknown parse error"]
      else (filledLines (lines message.toList)).map fun line => String.ofList (trimChars line) := by
  simp only [diagnostics, filter_map_trimChars, List.isEmpty_iff, List.map_eq_nil_iff, List.map_map]
  rfl

/-- Either all lines are blank, or the diagnostics are the others, trimmed. -/
theorem diagnostics_cases (message : String) :
    (∀ line ∈ lines message.toList, BlankLine line) ∧
        diagnostics message = ["unknown parse error"] ∨
      (∃ line ∈ lines message.toList, ¬BlankLine line) ∧
        diagnostics message =
          (filledLines (lines message.toList)).map fun line => String.ofList (trimChars line) := by
  rw [diagnostics_eq]
  by_cases hblank : ∀ line ∈ lines message.toList, BlankLine line
  · exact .inl ⟨hblank, if_pos (by simpa [filledLines] using hblank)⟩
  · refine .inr ⟨by simpa using hblank, if_neg ?_⟩
    simpa [filledLines] using hblank

theorem diagnostics_ne_nil (message : String) : diagnostics message ≠ [] := by
  rw [diagnostics_eq]
  split
  · simp
  · rename_i hfilled
    simpa using hfilled

theorem isDiagnostic_of_mem {message d : String} (h : d ∈ diagnostics message) :
    IsDiagnostic d := by
  rcases diagnostics_cases message with ⟨-, hfound⟩ | ⟨-, hfound⟩
  · rw [hfound, List.mem_singleton] at h
    rw [h]
    exact isDiagnostic_placeholder
  · rw [hfound, List.mem_map] at h
    obtain ⟨line, hline, rfl⟩ := h
    obtain ⟨hmem, hfilled⟩ := List.mem_filter.mp hline
    exact isDiagnostic_trimChars ((linesOf_lines message.toList).lineFeed_not_mem line hmem)
      (of_decide_eq_true hfilled)

/-! ## Messages made of diagnostics -/

namespace IsDiagnostic

variable {d : String} (h : IsDiagnostic d)

include h

theorem toList_ne_nil : d.toList ≠ [] := by
  rw [ne_eq, String.toList_eq_nil_iff]
  exact h.ne_empty

/-- A carriage return is blank, so none stands at the end. -/
theorem getLast?_ne_return : d.toList.getLast? ≠ some '\r' := by
  intro hlast
  exact absurd (h.trimmed.2 '\r' hlast) (by decide)

theorem not_blankLine : ¬BlankLine d.toList := by
  rw [← trimChars_eq_nil_iff, trimChars_eq_self h.trimmed]
  exact h.toList_ne_nil

end IsDiagnostic

/-- Diagnostics are read back from the message that has one on each line. -/
theorem diagnostics_intercalate {found : List String} (hne : found ≠ [])
    (h : ∀ d ∈ found, IsDiagnostic d) : diagnostics ("\n".intercalate found) = found := by
  have hlines : lines ("\n".intercalate found).toList = found.map String.toList := by
    rw [String.toList_intercalate]
    apply lines_eq_of_linesOf
    apply linesOf_intercalate
    intro line hline
    obtain ⟨d, hd, rfl⟩ := List.mem_map.mp hline
    exact ⟨(h d hd).toList_ne_nil, (h d hd).oneLine, (h d hd).getLast?_ne_return⟩
  have hfilled : filledLines (found.map String.toList) = found.map String.toList := by
    rw [filledLines, List.filter_eq_self]
    intro line hline
    obtain ⟨d, hd, rfl⟩ := List.mem_map.mp hline
    exact decide_eq_true (h d hd).not_blankLine
  have hkept : ∀ d ∈ found, String.ofList (trimChars d.toList) = d := by
    intro d hd
    rw [trimChars_eq_self (h d hd).trimmed, String.ofList_toList]
  rw [diagnostics_eq, hlines, hfilled, if_neg (by simpa using hne), List.map_map]
  exact (List.map_congr_left hkept).trans (List.map_id' found)

/-- The diagnostics of a message are its lines that are not blank, trimmed and in order, or the
placeholder if there are none.  So there is at least one, and each is a trimmed text on one line.
Joined with line feeds they are a message with the same diagnostics. -/
theorem QueryError.ofMessage_lines_stable (message : String) :
    ∃ (lines : List (List Char)) (found : List String),
      (∀ other, LinesOf message.toList other ↔ other = lines) ∧
      ofMessage message = .parse found ∧
      found ≠ [] ∧ (∀ d ∈ found, IsDiagnostic d) ∧
      ((∀ line ∈ lines, BlankLine line) ∧ found = ["unknown parse error"] ∨
        (∃ line ∈ lines, ¬BlankLine line) ∧
          List.Forall₂ (fun line d => Trims line d.toList) (filledLines lines) found) ∧
      ofMessage ("\n".intercalate found) = .parse found := by
  have hdiagnostics : ∀ d ∈ diagnostics message, IsDiagnostic d := fun _ => isDiagnostic_of_mem
  refine ⟨lines message.toList, diagnostics message, fun _ => linesOf_iff, rfl,
    diagnostics_ne_nil message, hdiagnostics, ?_, ?_⟩
  · refine (diagnostics_cases message).imp_right (And.imp_right fun hfound => ?_)
    rw [hfound, List.forall₂_map_right_iff, List.forall₂_same]
    intro line _
    rw [String.toList_ofList]
    exact trims_trimChars line
  · exact congrArg QueryError.parse
      (diagnostics_intercalate (diagnostics_ne_nil message) hdiagnostics)

/-- A carriage return ends the first line together with its line feed, stays inside the third, and
is trimmed like any blank character from the last. -/
theorem QueryError.ofMessage_lines_stable_returns :
    ofMessage "no '='\r\n\n\u2003a\rb \n\t\r" = .parse ["no '='", "a\rb"] ∧
    IsDiagnostic "no '='" ∧ IsDiagnostic "a\rb" ∧
    ofMessage ("\n".intercalate ["no '='", "a\rb"]) = .parse ["no '='", "a\rb"] := by
  have hmessage : ofMessage "no '='\r\n\n\u2003a\rb \n\t\r" = .parse ["no '='", "a\rb"] := rfl
  obtain ⟨lines, found, -, hfound, -, hdiagnostics, -, hstable⟩ :=
    ofMessage_lines_stable "no '='\r\n\n\u2003a\rb \n\t\r"
  cases hfound.symm.trans hmessage
  exact ⟨hmessage, hdiagnostics _ (by simp), hdiagnostics _ (by simp), hstable⟩

end SeriesSql
