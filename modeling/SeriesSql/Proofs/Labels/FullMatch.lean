import SeriesSql.Proofs.Compile.Steps
import SeriesSql.Proofs.Regex.Anchoring

/-!
# Patterns match whole values

The pattern of a matcher is applied between `^(?:` and `)$`.  A matcher exists only if this text is
read as the pattern's own expression between the two anchors (`isPattern_iff`), so nothing in a
pattern reaches beyond the group, and the values that pass are those that the expression spans
(`accepts_iff_spans`).
-/

namespace SeriesSql

open Regex

theorem isPattern_iff {pattern : String} :
    isPattern pattern = true ↔
      ∃ node, parse? pattern = some node ∧ parse? (anchored pattern) = some node.wrapped := by
  rw [isPattern, Bool.and_eq_true, Option.isSome_iff_exists, Option.isSome_iff_exists]
  constructor
  · rintro ⟨⟨node, hnode⟩, full, hfull⟩
    refine ⟨node, hnode, ?_⟩
    rcases parse?_anchored hnode with hnone | hwrapped
    · rw [hnone] at hfull
      cases hfull
    · exact hwrapped
  · rintro ⟨node, hnode, hfull⟩
    exact ⟨⟨node, hnode⟩, node.wrapped, hfull⟩

namespace Matcher

/-- The matcher of three parts is the one that has them. -/
theorem ofParts_eq_ok_iff {name value : String} {kind : MatchKind} {m : Matcher} :
    ofParts name kind value = .ok m ↔ m.name.text = name ∧ m.kind = kind ∧ m.value = value := by
  simp only [ofParts, bind_eq_ok, LabelName.ofString_eq_ok_iff]
  constructor
  · rintro ⟨key, rfl, h⟩
    split at h
    · rw [bind_eq_ok] at h
      obtain ⟨_, -, h⟩ := h
      cases h
      exact ⟨rfl, rfl, rfl⟩
    · cases h
      exact ⟨rfl, rfl, rfl⟩
  · rintro ⟨rfl, rfl, rfl⟩
    refine ⟨m.name, rfl, ?_⟩
    split
    · rename_i hregex
      obtain ⟨hread, hcheck⟩ := Compile.exists_checkPattern_iff.mpr (m.readable hregex)
      exact bind_eq_ok.mpr ⟨hread, hcheck, rfl⟩
    · rfl

theorem exists_ofParts_iff {name value : String} {kind : MatchKind} :
    (∃ m, ofParts name kind value = .ok m) ↔
      isLabelName name = true ∧ (kind.isRegex = true → isPattern value = true) := by
  simp only [ofParts_eq_ok_iff]
  constructor
  · rintro ⟨m, rfl, rfl, rfl⟩
    exact ⟨m.name.valid, m.readable⟩
  · rintro ⟨hname, hread⟩
    exact ⟨⟨⟨name, hname⟩, kind, value, hread⟩, rfl, rfl, rfl⟩

/-- A pattern accepts the values that its own expression spans. -/
theorem accepts_iff_spans (m : Matcher) (hkind : m.kind.isRegex = true) :
    ∃ node, parse? m.value = some node ∧ ∀ value, m.accepts value = true ↔ node.Spans value := by
  obtain ⟨node, hnode, hfull⟩ := isPattern_iff.mp (m.readable hkind)
  refine ⟨node, hnode, fun value => ?_⟩
  rw [accepts, if_pos hkind, hfull]
  exact Node.isMatch_wrapped_iff (parse?_ordered hnode) value

/-- A matcher with a pattern is made exactly if the pattern is read alone and, between the anchors,
as the same expression between the anchors.  It then holds of a value exactly if the expression
spans the value, or exactly if it does not. -/
theorem holds_iff_spans (name pattern : String) (kind : MatchKind) (hkind : kind.isRegex = true) :
    ((∃ m, ofParts name kind pattern = .ok m) ↔
      isLabelName name = true ∧
        ∃ node, parse? pattern = some node ∧ parse? (anchored pattern) = some node.wrapped) ∧
    ∀ m, ofParts name kind pattern = .ok m →
      ∃ node, parse? pattern = some node ∧ ∀ value,
        (kind = .regex → (m.holds (some value) = true ↔ node.Spans value)) ∧
        (kind = .notRegex → (m.holds (some value) = true ↔ ¬ node.Spans value)) := by
  constructor
  · rw [exists_ofParts_iff, isPattern_iff]
    simp only [hkind, forall_const]
  · intro m hm
    obtain ⟨rfl, rfl, rfl⟩ := ofParts_eq_ok_iff.mp hm
    obtain ⟨node, hnode, haccepts⟩ := m.accepts_iff_spans hkind
    refine ⟨node, hnode, fun value => ⟨fun hregex => ?_, fun hnotRegex => ?_⟩⟩
    · rw [← haccepts value, holds, hregex]
      simp [MatchKind.isNegated]
    · rw [← haccepts value, holds, hnotRegex]
      simp [MatchKind.isNegated]

/-- The bar stays in the group and the comment ends with its line; without the end of the line the
comment would take in the closing anchor, and the pattern is refused. -/
theorem holds_iff_spans_comment :
    MatchKind.isRegex .notRegex = true ∧
      (∃ m node, ofParts "host" .notRegex "(?x) a | b+ # or more\n" = .ok m ∧
        parse? "(?x) a | b+ # or more\n" = some node ∧
        node.Spans "bb" ∧ m.holds (some "bb") = false ∧
        ¬ node.Spans "ab" ∧ m.holds (some "ab") = true) ∧
      ¬ ∃ m, ofParts "host" .notRegex "(?x) a | b+ # or more" = .ok m := by
  refine ⟨rfl, ?_, fun hmade => ?_⟩
  · obtain ⟨m, hm⟩ : ∃ m, ofParts "host" .notRegex "(?x) a | b+ # or more\n" = .ok m :=
      exists_ofParts_iff.mpr ⟨by decide, fun _ => by decide +kernel⟩
    obtain ⟨node, hnode, hholds⟩ := (holds_iff_spans _ _ .notRegex rfl).2 m hm
    obtain ⟨-, hkind, hvalue⟩ := ofParts_eq_ok_iff.mp hm
    have hbb : m.holds (some "bb") = false := by
      rw [holds, accepts, hkind, hvalue]
      decide +kernel
    have hab : m.holds (some "ab") = true := by
      rw [holds, accepts, hkind, hvalue]
      decide +kernel
    refine ⟨m, node, hm, hnode, ?_, hbb, ((hholds "ab").2 rfl).mp hab, hab⟩
    by_contra hspans
    rw [((hholds "bb").2 rfl).mpr hspans] at hbb
    cases hbb
  · obtain ⟨-, node, -, hfull⟩ := (holds_iff_spans _ _ .notRegex rfl).1.mp hmade
    have hnone : (parse? (anchored "(?x) a | b+ # or more")).isNone = true := by decide +kernel
    rw [hfull] at hnone
    cases hnone

end Matcher

end SeriesSql
