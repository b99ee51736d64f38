import Mathlib.Data.List.Nodup
import SeriesSql.Labels.Edit
import SeriesSql.Proofs.Labels.Evaluation
import SeriesSql.Proofs.Name

/-!
# Label sets and the label string

A label set is a finite map from label names to values without commas.  Its string has the pairs
`name=value` with commas between them, sorted by name.

A term finds a pair in the padded string, between commas, by its comma, its name and `=`.  A comma
stands only before a pair and at the end, and a name has no `=`, so this is found only where the
pair of the name starts.

There are four groups.

* Label sets.
* Padded strings, which have a comma before each pair.
* Where a pair is found: `indexOf?_pairStart` and `indexOf?_pairStart_eq_none`.
* The terms that read the label string: `eval_extract`.
-/

namespace SeriesSql

/-! ## Label sets -/

namespace LabelName

variable (name : LabelName)

theorem isNameChar_of_mem {c : Char} (h : c ∈ name.text.toList) :
    (c.isAlphanum || c == '_') = true := by
  have hvalid := name.valid
  unfold isLabelName at hvalid
  split at hvalid
  · cases hvalid
  · rename_i first rest htext
    rw [Bool.and_eq_true, List.all_eq_true] at hvalid
    rw [htext, List.mem_cons] at h
    rcases h with rfl | h
    · have hfirst : c.isAlpha = true ∨ c = '_' := by simpa using hvalid.1
      simpa [Char.isAlphanum] using hfirst.imp_left Or.inl
    · exact hvalid.2 c h

theorem comma_not_mem : ',' ∉ name.text.toList :=
  fun h => absurd (name.isNameChar_of_mem h) (by decide)

theorem equals_not_mem : '=' ∉ name.text.toList :=
  fun h => absurd (name.isNameChar_of_mem h) (by decide)

end LabelName

namespace Labels

abbrev Pair := LabelName × String

/-- A finite map from names to values that the label string can hold. -/
structure LabelSet where
  pairs : List Pair
  distinct : (pairs.map Prod.fst).Nodup
  plain : ∀ p ∈ pairs, ',' ∉ p.2.toList

def pairText (p : Pair) : List Char :=
  p.1.text.toList ++ '=' :: p.2.toList

/-- Pairs with commas between them. -/
def pairsText (ps : List Pair) : List Char :=
  [','].intercalate (ps.map pairText)

theorem comma_not_mem_pairText {p : Pair} (h : ',' ∉ p.2.toList) : ',' ∉ pairText p := by
  simpa [pairText, p.1.comma_not_mem] using h

namespace LabelSet

def value? (L : LabelSet) (key : LabelName) : Option String :=
  (L.pairs.find? (·.1 = key)).map Prod.snd

/-- The pairs in the order of their names. -/
def sorted (L : LabelSet) : List Pair :=
  L.pairs.mergeSort fun p q => decide (p.1.text ≤ q.1.text)

/-- The label string. -/
def text (L : LabelSet) : List Char :=
  pairsText L.sorted

end LabelSet

/-- With distinct keys, the value of a key is that of the pair with the key. -/
theorem find?_key_eq_some_iff {α β : Type} [DecidableEq α] {ps : List (α × β)}
    (h : (ps.map Prod.fst).Nodup) {key : α} {value : β} :
    (ps.find? (·.1 = key)).map Prod.snd = some value ↔ (key, value) ∈ ps := by
  constructor
  · intro hfind
    obtain ⟨p, hp, rfl⟩ := Option.map_eq_some_iff.mp hfind
    have hkey : p.1 = key := by simpa using List.find?_some hp
    rw [← hkey]
    exact List.mem_of_find?_eq_some hp
  · intro hmem
    obtain ⟨p, hp⟩ : ∃ p, ps.find? (·.1 = key) = some p := by
      rw [← Option.isSome_iff_exists, List.find?_isSome]
      exact ⟨_, hmem, by simp⟩
    have hkey : p.1 = key := by simpa using List.find?_some hp
    have hsame : p = (key, value) :=
      List.inj_on_of_nodup_map h (List.mem_of_find?_eq_some hp) hmem hkey
    rw [hp, hsame]
    rfl

namespace LabelSet

variable (L : LabelSet)

theorem comma_not_mem_value {key : LabelName} : ',' ∉ ((L.value? key).getD "").toList := by
  cases hvalue : L.value? key with
  | none => simp
  | some value => exact L.plain _ ((find?_key_eq_some_iff L.distinct).mp hvalue)

theorem sorted_perm : L.sorted.Perm L.pairs :=
  List.mergeSort_perm ..

/-- The order of the pairs does not matter for the value of a key. -/
theorem find?_sorted (key : LabelName) :
    (L.sorted.find? (·.1 = key)).map Prod.snd = L.value? key := by
  have hdistinct : (L.sorted.map Prod.fst).Nodup :=
    (L.sorted_perm.map Prod.fst).nodup_iff.mpr L.distinct
  ext value
  rw [find?_key_eq_some_iff hdistinct, value?, find?_key_eq_some_iff L.distinct,
    L.sorted_perm.mem_iff]

end LabelSet

/-! ## Padded strings -/

def padded (cs : List Char) : List Char :=
  ',' :: (cs ++ [','])

/-- The pairs, each after a comma. -/
def startedPairs (ps : List Pair) : List Char :=
  ps.flatMap fun p => ',' :: pairText p

theorem pairsText_cons (p : Pair) (ps : List Pair) :
    pairsText (p :: ps) = pairText p ++ startedPairs ps := by
  induction ps generalizing p with
  | nil => simp [pairsText, startedPairs]
  | cons q ps ih =>
    calc pairsText (p :: q :: ps)
        = pairText p ++ ',' :: pairsText (q :: ps) := by
          simp [pairsText, List.intercalate_cons_cons]
      _ = pairText p ++ startedPairs (q :: ps) := by
          rw [ih]
          rfl

theorem padded_pairsText {ps : List Pair} (h : ps ≠ []) :
    padded (pairsText ps) = startedPairs ps ++ [','] := by
  cases ps with
  | nil => exact absurd rfl h
  | cons p ps =>
    rw [padded, pairsText_cons]
    rfl

/-- A comma follows every pair. -/
theorem exists_startedPairs_eq (ps : List Pair) :
    ∃ rest, startedPairs ps ++ [','] = ',' :: rest := by
  cases ps with
  | nil => exact ⟨[], rfl⟩
  | cons p ps => exact ⟨_, rfl⟩

/-! ## Where a pair is found -/

/-- What stands before the value of a key. -/
def pairStart (key : LabelName) : List Char :=
  ',' :: (key.text.toList ++ ['='])

/-- A name goes up to the first `=`. -/
theorem takeWhile_name (name : LabelName) (rest : List Char) :
    (name.text.toList ++ '=' :: rest).takeWhile (· != '=') = name.text.toList := by
  have hname : ∀ c ∈ name.text.toList, (c != '=') = true := by
    intro c hc
    rw [bne_iff_ne]
    rintro rfl
    exact name.equals_not_mem hc
  rw [List.takeWhile_append_of_pos hname]
  simp

/-- A name is found only if it is the whole name of the pair. -/
theorem name_eq_of_pairStart {key name : LabelName} {rest : List Char}
    (h : pairStart key <+: ',' :: (name.text.toList ++ '=' :: rest)) : key = name := by
  obtain ⟨tail, htail⟩ := h
  have hnames : key.text.toList ++ '=' :: tail = name.text.toList ++ '=' :: rest := by
    simpa [pairStart] using htail
  have htexts : key.text.toList = name.text.toList := by
    rw [← takeWhile_name key tail, hnames, takeWhile_name]
  exact LabelName.text_injective (String.toList_inj.mp htexts)

theorem indexOf?_pairStart_skip {key : LabelName} {p : Pair} (hkey : p.1 ≠ key)
    (hplain : ',' ∉ p.2.toList) (rest : List Char) :
    indexOf? (pairStart key) (',' :: pairText p ++ rest) =
      (indexOf? (pairStart key) rest).map (· + (',' :: pairText p).length) := by
  have hprefix : ¬ (pairStart key).isPrefixOf (',' :: (pairText p ++ rest)) = true := by
    rw [List.isPrefixOf_iff_prefix]
    intro hprefix
    rw [pairText, List.append_assoc] at hprefix
    exact hkey (name_eq_of_pairStart hprefix).symm
  rw [List.cons_append, indexOf?, if_neg hprefix, pairStart,
    indexOf?_append_of_not_mem (comma_not_mem_pairText hplain), Option.map_map]
  rfl

/-- Pairs with other names are passed. -/
theorem indexOf?_pairStart_startedPairs {key : LabelName} {ps : List Pair}
    (hkey : ∀ p ∈ ps, p.1 ≠ key) (hplain : ∀ p ∈ ps, ',' ∉ p.2.toList) (rest : List Char) :
    indexOf? (pairStart key) (startedPairs ps ++ rest) =
      (indexOf? (pairStart key) rest).map (· + (startedPairs ps).length) := by
  induction ps with
  | nil => simp [startedPairs]
  | cons p ps ih =>
    rw [List.forall_mem_cons] at hkey hplain
    have hsplit : startedPairs (p :: ps) = (',' :: pairText p) ++ startedPairs ps := rfl
    rw [hsplit, List.append_assoc, indexOf?_pairStart_skip hkey.1 hplain.1, ih hkey.2 hplain.2,
      Option.map_map, List.length_append]
    congr 1
    funext n
    rw [Function.comp_apply]
    omega

/-- The pair of a key is found after the pairs before it. -/
theorem indexOf?_pairStart {key : LabelName} {value : String} {first last : List Pair}
    (hkey : ∀ p ∈ first, p.1 ≠ key) (hplain : ∀ p ∈ first, ',' ∉ p.2.toList) :
    padded (pairsText (first ++ (key, value) :: last)) =
        startedPairs first ++ (pairStart key ++ (value.toList ++ (startedPairs last ++ [',']))) ∧
      indexOf? (pairStart key) (padded (pairsText (first ++ (key, value) :: last))) =
        some (startedPairs first).length := by
  have hpadded : padded (pairsText (first ++ (key, value) :: last)) =
      startedPairs first ++ (pairStart key ++ (value.toList ++ (startedPairs last ++ [',']))) := by
    rw [padded_pairsText (by simp)]
    simp [startedPairs, pairText, pairStart]
  refine ⟨hpadded, ?_⟩
  rw [hpadded, indexOf?_pairStart_startedPairs hkey hplain,
    indexOf?_of_prefix (List.prefix_append ..)]
  simp

/-- What is no part of a pair ends a padded string. -/
theorem indexOf?_pairStart_commas (key : LabelName) :
    indexOf? (pairStart key) [','] = none ∧ indexOf? (pairStart key) [',', ','] = none := by
  cases hkey : key.text.toList with
  | nil => simp [pairStart, hkey, indexOf?, List.isPrefixOf]
  | cons c cs => simp [pairStart, hkey, indexOf?, List.isPrefixOf]

theorem indexOf?_pairStart_eq_none {key : LabelName} {ps : List Pair}
    (hkey : ∀ p ∈ ps, p.1 ≠ key) (hplain : ∀ p ∈ ps, ',' ∉ p.2.toList) :
    indexOf? (pairStart key) (padded (pairsText ps)) = none := by
  cases ps with
  | nil => exact (indexOf?_pairStart_commas key).2
  | cons p ps =>
    rw [padded_pairsText (by simp), indexOf?_pairStart_startedPairs hkey hplain,
      (indexOf?_pairStart_commas key).1]
    rfl

/-! ## Reading the label string -/

/-- A label that is absent is null. -/
def Datum.ofText? : Option String → Datum
  | some value => .text value.toList
  | none => .null

namespace Term

section

variable {s : Scope} {cs : List Char} (hlabels : s.column .labels = .text cs)

include hlabels

theorem eval_padded : padded.eval s = some (.text (Labels.padded cs)) := by
  simp [padded, labels, eval, hlabels, Datum.concat, Labels.padded]

theorem eval_keyPosition (key : LabelName) :
    (keyPosition key).eval s = some (.integer (position (pairStart key) (Labels.padded cs))) := by
  simp [keyPosition, eval, eval_padded hlabels, Datum.concat, Datum.instr, pairStart]

theorem eval_valueStart (key : LabelName) :
    (valueStart key).eval s = some (.integer
      (position (pairStart key) (Labels.padded cs) + key.text.toList.length + 2)) := by
  simp [valueStart, eval, eval_keyPosition hlabels, Datum.length, Datum.plus]

theorem eval_extract_of_none {key : LabelName}
    (h : indexOf? (pairStart key) (Labels.padded cs) = none) :
    (extract key).eval s = some .null := by
  have hposition : position (pairStart key) (Labels.padded cs) = 0 := by simp [position, h]
  have htest := eval_equal (eval_keyPosition hlabels key) (b := int 0) rfl
  rw [hposition] at htest
  exact eval_cond htest

/-- The value goes from its start to the next comma. -/
theorem eval_extract_of_some {key : LabelName} {before value rest : List Char}
    (hpadded : Labels.padded cs = before ++ (pairStart key ++ (value ++ ',' :: rest)))
    (h : indexOf? (pairStart key) (Labels.padded cs) = some before.length) (hvalue : ',' ∉ value) :
    (extract key).eval s = some (.text value) := by
  have hposition : position (pairStart key) (Labels.padded cs) = before.length + 1 := by
    simp [position, h]
  have hfront : ((before ++ pairStart key).length : Int) + 1 =
      before.length + 1 + key.text.toList.length + 2 := by
    simp [pairStart]
    omega
  have hsplit : Labels.padded cs = (before ++ pairStart key) ++ (value ++ ',' :: rest) := by
    rw [hpadded, List.append_assoc]
  have hsuffix : charsFrom (Labels.padded cs) (before.length + 1 + key.text.toList.length + 2) =
      value ++ ',' :: rest := by
    rw [← hfront, hsplit, charsFrom_append]
  have hcomma : position [','] (value ++ ',' :: rest) = value.length + 1 := by
    have hindex : indexOf? [','] (',' :: rest) = some 0 := indexOf?_of_prefix ⟨rest, rfl⟩
    rw [position, indexOf?_append_of_not_mem hvalue, hindex]
    simp
  have hslice : charsAt (Labels.padded cs) (before.length + 1 + key.text.toList.length + 2)
      value.length = value := by
    rw [← hfront, hsplit, charsAt_append]
  have htest : (equal (keyPosition key) (int 0)).eval s = some (.ofBool false) := by
    have hne : (before.length : Int) + 1 ≠ 0 := by omega
    rw [eval_equal (eval_keyPosition hlabels key) rfl, hposition]
    exact congrArg (fun b => some (Datum.ofBool b)) (decide_eq_false hne)
  have hcount : (minus (instr (suffix padded (valueStart key)) (text ",")) (int 1)).eval s =
      some (.integer value.length) := by
    simp [eval, eval_padded hlabels, eval_valueStart hlabels, hposition, hsuffix, hcomma,
      Datum.suffix, Datum.instr, Datum.minus]
  calc (extract key).eval s
      = (slice padded (valueStart key)
          (minus (instr (suffix padded (valueStart key)) (text ",")) (int 1))).eval s :=
        eval_cond htest
    _ = some (.text value) := by
        rw [eval, hcount]
        simp [eval_padded hlabels, eval_valueStart hlabels, hposition, hslice, Datum.slice]

end

/-- A value is extracted from the string of any pairs with distinct names, in any order. -/
theorem eval_extract {s : Scope} {ps : List Pair}
    (hlabels : s.column .labels = .text (pairsText ps)) (hplain : ∀ p ∈ ps, ',' ∉ p.2.toList)
    (key : LabelName) :
    (extract key).eval s = some (.ofText? ((ps.find? (·.1 = key)).map Prod.snd)) := by
  cases hfind : ps.find? (·.1 = key) with
  | none =>
    have hkey : ∀ p ∈ ps, p.1 ≠ key := by simpa using hfind
    exact eval_extract_of_none hlabels (indexOf?_pairStart_eq_none hkey hplain)
  | some p =>
    obtain ⟨hp, first, last, rfl, hfirst⟩ := List.find?_eq_some_iff_append.mp hfind
    obtain ⟨name, value⟩ := p
    obtain rfl : name = key := by simpa using hp
    have hkey : ∀ p ∈ first, p.1 ≠ name := by simpa using hfirst
    rw [List.forall_mem_append, List.forall_mem_cons] at hplain
    obtain ⟨hpadded, hindex⟩ := @indexOf?_pairStart name value first last hkey hplain.1
    obtain ⟨rest, hrest⟩ := exists_startedPairs_eq last
    rw [hrest] at hpadded
    exact eval_extract_of_some hlabels hpadded hindex hplain.2.1

end Term

end Labels

end SeriesSql
