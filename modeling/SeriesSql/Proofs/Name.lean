import Mathlib.Data.List.Dedup
import Mathlib.Data.List.Sort
import Mathlib.Data.String.Basic
import SeriesSql.Name

/-!
# Sorted names

`LabelName.sorted` sorts its names and drops repetitions.  By `sorted_spec` the result is strictly
increasing and has the same names, which by `eq_sorted` determines it: `map_text_sorted` says that
it is the sorted list of the distinct texts, and `length_sorted` counts them.
-/

namespace SeriesSql

/-- What is sorted by a text is in the order of the texts. -/
theorem pairwise_mergeSort_text {α : Type} (text : α → String) (xs : List α) :
    (xs.mergeSort fun a b => decide (text a ≤ text b)).Pairwise fun a b => text a ≤ text b := by
  have htrans : ∀ a b c : α, decide (text a ≤ text b) = true → decide (text b ≤ text c) = true →
      decide (text a ≤ text c) = true := by
    intro a b c hab hbc
    rw [decide_eq_true_eq] at hab hbc ⊢
    exact le_trans hab hbc
  have htotal : ∀ a b : α, (decide (text a ≤ text b) || decide (text b ≤ text a)) = true := by
    intro a b
    simpa using le_total (text a) (text b)
  exact (List.pairwise_mergeSort htrans htotal xs).imp of_decide_eq_true

namespace LabelName

theorem text_injective : Function.Injective LabelName.text := by
  rintro ⟨a, ha⟩ ⟨b, hb⟩ h
  cases h
  rfl

/-- The loop that drops repetitions, on names in order.  `kept` is what it adds to the names it has
passed. -/
theorem eraseReps_loop (first : LabelName) (rest passed : List LabelName)
    (hsorted : (first :: rest).Pairwise fun a b => a.text ≤ b.text) :
    ∃ kept, List.eraseRepsBy.loop (· == ·) first rest passed = passed.reverse ++ kept ∧
      kept.Pairwise (fun a b => a.text < b.text) ∧ ∀ key, key ∈ kept ↔ key ∈ first :: rest := by
  induction rest generalizing first passed with
  | nil => exact ⟨[first], by simp [List.eraseRepsBy.loop], by simp, by simp⟩
  | cons next rest ih =>
    obtain ⟨hfirst, hrest⟩ := List.pairwise_cons.mp hsorted
    by_cases hsame : first = next
    · subst hsame
      obtain ⟨kept, hkept, hpairwise, hmem⟩ := ih first passed hrest
      refine ⟨kept, ?_, hpairwise, ?_⟩
      · simpa [List.eraseRepsBy.loop] using hkept
      · intro key
        rw [hmem]
        simp
    · obtain ⟨kept, hkept, hpairwise, hmem⟩ := ih next (first :: passed) hrest
      refine ⟨first :: kept, ?_, ?_, ?_⟩
      · have hbeq : (first == next) = false := by simpa using hsame
        rw [List.eraseRepsBy.loop, hbeq]
        simpa using hkept
      · refine List.pairwise_cons.mpr ⟨?_, hpairwise⟩
        intro key hkey
        have hlt : first.text < next.text := by
          refine lt_of_le_of_ne (hfirst next (by simp)) ?_
          intro htext
          exact hsame (text_injective htext)
        rcases List.mem_cons.mp ((hmem key).mp hkey) with rfl | hin
        · exact hlt
        · exact lt_of_lt_of_le hlt ((List.pairwise_cons.mp hrest).1 key hin)
      · intro key
        rw [List.mem_cons, List.mem_cons, hmem]

/-- Sorted names are strictly increasing and the same names. -/
theorem sorted_spec (names : List LabelName) :
    (sorted names).Pairwise (fun a b => a.text < b.text) ∧
      ∀ key, key ∈ sorted names ↔ key ∈ names := by
  have hperm := List.mergeSort_perm names fun a b => decide (a.text ≤ b.text)
  have hsorted := pairwise_mergeSort_text LabelName.text names
  unfold sorted
  cases hnames : names.mergeSort fun a b => decide (a.text ≤ b.text) with
  | nil =>
    rw [hnames] at hperm
    simp [List.eraseReps, List.eraseRepsBy, hperm.symm.eq_nil]
  | cons first rest =>
    rw [hnames] at hperm hsorted
    obtain ⟨kept, hkept, hpairwise, hmem⟩ := eraseReps_loop first rest [] hsorted
    rw [List.eraseReps, List.eraseRepsBy, hkept, List.reverse_nil, List.nil_append]
    exact ⟨hpairwise, fun key => (hmem key).trans hperm.mem_iff⟩

/-- Names are sorted in one way only. -/
theorem eq_sorted {names increasing : List LabelName}
    (hincreasing : increasing.Pairwise fun a b => a.text < b.text)
    (hmem : ∀ key, key ∈ increasing ↔ key ∈ names) : increasing = sorted names := by
  obtain ⟨hsorted, hsortedMem⟩ := sorted_spec names
  have hirrefl : ∀ {a b : LabelName}, a.text < b.text → a ≠ b := by
    rintro a b hlt rfl
    exact lt_irrefl _ hlt
  have hperm : increasing.Perm (sorted names) := by
    refine (List.perm_ext_iff_of_nodup (hincreasing.imp hirrefl) (hsorted.imp hirrefl)).mpr ?_
    intro key
    rw [hmem, hsortedMem]
  refine hperm.eq_of_pairwise ?_ (hincreasing.imp le_of_lt) (hsorted.imp le_of_lt)
  intro a b _ _ hab hba
  exact text_injective (le_antisymm hab hba)

/-- Sorted names depend only on which names there are. -/
theorem sorted_eq_of_mem_iff {names others : List LabelName}
    (h : ∀ key, key ∈ others ↔ key ∈ names) : sorted others = sorted names := by
  obtain ⟨hsorted, hmem⟩ := sorted_spec others
  exact eq_sorted hsorted fun key => (hmem key).trans (h key)

/-- The texts of sorted names are the distinct texts in increasing order. -/
theorem map_text_sorted (names : List LabelName) :
    (sorted names).map LabelName.text = (names.map LabelName.text).dedup.mergeSort := by
  obtain ⟨hpairwise, hmem⟩ := sorted_spec names
  have hlt : ((sorted names).map LabelName.text).Pairwise (· < ·) := List.pairwise_map.mpr hpairwise
  have hperm : ((sorted names).map LabelName.text).Perm
      (names.map LabelName.text).dedup.mergeSort := by
    refine List.Perm.trans ?_ (List.mergeSort_perm _ _).symm
    refine (List.perm_ext_iff_of_nodup (hlt.imp ne_of_lt) (List.nodup_dedup _)).mpr ?_
    intro name
    simp [hmem]
  exact hperm.eq_of_pairwise' (hlt.imp le_of_lt) (List.pairwise_mergeSort' (· ≤ ·) _)

theorem length_sorted (names : List LabelName) :
    (sorted names).length = (names.map LabelName.text).dedup.length := by
  rw [← List.length_map, map_text_sorted, List.length_mergeSort]

end LabelName

end SeriesSql
