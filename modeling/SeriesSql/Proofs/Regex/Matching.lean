import Mathlib.Logic.Function.Iterate
import SeriesSql.Regex.Node

/-!
# What a regular expression matches

`Node.Matches` says between which positions of a text an expression matches, by recursion on the
expression alone.  `Node.stops` follows whole sets of positions at once, and cuts a repetition off
after as many rounds as the text has positions.

There are three groups.

* Steps in a row.  `InARow` counts the steps of a relation between positions.  Steps that never go
  back can be made at most as many as there are positions: `InARow.shorten`.
* Sets of positions.  `mem_applyTimes_iff` and `mem_applyUpTo_iff` say which positions the two loops
  reach.  The second follows only new positions, so its invariant is that every step from a position
  that is not followed any more leads to one that has been seen.
* Expressions.  `Node.mem_stops_iff` puts the two together, for expressions whose repetitions do not
  ask for more than they allow, and `Node.isMatch_iff` is the search for a match anywhere.
-/

namespace SeriesSql.Regex

/-! ## Steps in a row -/

/-- `count` steps of `r`, from `start` to `stop`. -/
inductive InARow (r : Nat → Nat → Prop) : (count start stop : Nat) → Prop
  | none {i : Nat} : InARow r 0 i i
  | more {count i j k : Nat} (first : r i j) (rest : InARow r count j k) : InARow r (count + 1) i k

namespace InARow

variable {r : Nat → Nat → Prop} {i j : Nat}

theorem zero_iff : InARow r 0 i j ↔ i = j := by
  constructor
  · rintro ⟨⟩
    rfl
  · rintro rfl
    exact .none

theorem succ_iff {n : Nat} : InARow r (n + 1) i j ↔ ∃ k, r i k ∧ InARow r n k j := by
  constructor
  · rintro (_ | ⟨first, rest⟩)
    exact ⟨_, first, rest⟩
  · rintro ⟨k, first, rest⟩
    exact .more first rest

theorem add_iff {m n : Nat} : InARow r (m + n) i j ↔ ∃ k, InARow r m i k ∧ InARow r n k j := by
  induction m generalizing i with
  | zero => simp [zero_iff]
  | succ m ih =>
    rw [Nat.add_right_comm, succ_iff]
    constructor
    · rintro ⟨k, first, rest⟩
      obtain ⟨l, middle, last⟩ := ih.mp rest
      exact ⟨l, .more first middle, last⟩
    · rintro ⟨l, hfirst, last⟩
      obtain ⟨k, first, middle⟩ := succ_iff.mp hfirst
      exact ⟨k, first, ih.mpr ⟨l, middle, last⟩⟩

/-- What every step keeps, all steps keep. -/
theorem keeps (p : Nat → Prop) (hr : ∀ {i j}, r i j → p i → p j) {n : Nat} (h : InARow r n i j)
    (hi : p i) : p j := by
  induction h with
  | none => exact hi
  | more first _ ih => exact ih (hr first hi)

theorem le (hr : ∀ i j, r i j → i ≤ j) {n : Nat} (h : InARow r n i j) : i ≤ j := by
  induction h with
  | none => exact Nat.le_refl _
  | more first _ ih => exact Nat.le_trans (hr _ _ first) ih

/-- Steps that stay where they are can be left out. -/
theorem shorten (hr : ∀ i j, r i j → i ≤ j) {n : Nat} (h : InARow r n i j) :
    ∃ m ≤ j - i, InARow r m i j := by
  induction h with
  | none => exact ⟨0, Nat.zero_le _, .none⟩
  | @more _ i k j first rest ih =>
    obtain ⟨m, hm, hrest⟩ := ih
    have hik := hr _ _ first
    have hkj := rest.le hr
    by_cases hstay : i = k
    · subst hstay
      exact ⟨m, hm, hrest⟩
    · exact ⟨m + 1, by omega, .more first hrest⟩

end InARow

/-! ## Sets of positions -/

theorem mem_addPositions_iff {seen more : List Nat} {i : Nat} :
    i ∈ addPositions seen more ↔ i ∈ seen ∨ i ∈ more := by
  unfold addPositions
  induction more generalizing seen with
  | nil => simp
  | cons first rest ih =>
    rw [List.foldl_cons, ih]
    by_cases hseen : first ∈ seen
    · simp only [List.contains_iff_mem, hseen, if_true, List.mem_cons]
      constructor
      · rintro (h | h)
        · exact .inl h
        · exact .inr (.inr h)
      · rintro (h | rfl | h)
        · exact .inl h
        · exact .inl hseen
        · exact .inr h
    · simp [hseen, or_assoc]

/-- Along `f` a set of positions up to `size` goes where `r` leads from one of them. -/
structure Follows (size : Nat) (f : List Nat → List Nat) (r : Nat → Nat → Prop) : Prop where
  mem_iff {positions : List Nat} (h : ∀ i ∈ positions, i ≤ size) {j : Nat} :
    j ∈ f positions ↔ ∃ i ∈ positions, r i j
  le_size {i j : Nat} (h : r i j) (hi : i ≤ size) : j ≤ size

namespace Follows

variable {size : Nat} {f : List Nat → List Nat} {r : Nat → Nat → Prop} {positions : List Nat}

theorem le_of_mem (hf : Follows size f r) (h : ∀ i ∈ positions, i ≤ size) :
    ∀ j ∈ f positions, j ≤ size := by
  intro j hj
  obtain ⟨i, hi, hij⟩ := (hf.mem_iff h).mp hj
  exact hf.le_size hij (h i hi)

/-- Stopping at a set that `f` keeps changes nothing. -/
theorem applyTimes_eq (f : List Nat → List Nat) (n : Nat) (positions : List Nat) :
    applyTimes f n positions = f^[n] positions := by
  induction n generalizing positions with
  | zero => rfl
  | succ n ih =>
    rw [applyTimes]
    by_cases hfixed : f positions = positions
    · rw [Function.iterate_fixed hfixed]
      simp [hfixed]
    · have hne : (f positions == positions) = false := by simpa using hfixed
      rw [hne, Function.iterate_succ_apply]
      exact ih _

theorem mem_applyTimes_iff (hf : Follows size f r) (h : ∀ i ∈ positions, i ≤ size) {n j : Nat} :
    j ∈ applyTimes f n positions ↔ ∃ i ∈ positions, InARow r n i j := by
  rw [applyTimes_eq]
  induction n generalizing positions with
  | zero => simp [InARow.zero_iff]
  | succ n ih =>
    rw [Function.iterate_succ_apply, ih (hf.le_of_mem h)]
    simp only [hf.mem_iff h, InARow.succ_iff]
    constructor
    · rintro ⟨k, ⟨i, hi, hik⟩, hkj⟩
      exact ⟨i, hi, k, hik, hkj⟩
    · rintro ⟨i, hi, k, hik, hkj⟩
      exact ⟨k, ⟨i, hi, hik⟩, hkj⟩

/-- From `seen`, where every step leads back to `seen` or starts in `frontier`, the loop reaches
what is at most `n` steps away. -/
theorem mem_applyUpTo_iff (hf : Follows size f r) {n : Nat} {seen frontier : List Nat}
    (hseen : ∀ i ∈ seen, i ≤ size) (hfrontier : ∀ i ∈ frontier, i ∈ seen)
    (hclosed : ∀ i ∈ seen, i ∉ frontier → ∀ j, r i j → j ∈ seen) {j : Nat} :
    j ∈ applyUpTo f n seen frontier ↔ ∃ i ∈ seen, ∃ m ≤ n, InARow r m i j := by
  have hbound : ∀ i ∈ frontier, i ≤ size := fun i hi => hseen i (hfrontier i hi)
  induction n generalizing seen frontier with
  | zero => simp [applyUpTo, InARow.zero_iff]
  | succ n ih =>
    rw [applyUpTo]
    generalize hfresh : (f frontier).filter (fun i => !seen.contains i) = fresh
    have hmem (k : Nat) : k ∈ fresh ↔ (∃ i ∈ frontier, r i k) ∧ k ∉ seen := by
      simp [← hfresh, hf.mem_iff hbound]
    -- One step from what has been seen: it is no new position, or a fresh one.
    have hstep : ∀ i ∈ seen, ∀ k, r i k → k ∈ seen ∨ k ∈ fresh := by
      intro i hi k hik
      by_cases hold : k ∈ seen
      · exact .inl hold
      · by_cases hedge : i ∈ frontier
        · exact .inr ((hmem k).mpr ⟨⟨i, hedge, hik⟩, hold⟩)
        · exact .inl (hclosed i hi hedge k hik)
    by_cases hempty : fresh = []
    · simp only [hempty, List.isEmpty_nil, if_true]
      constructor
      · intro hj
        exact ⟨j, hj, 0, Nat.zero_le _, .none⟩
      · rintro ⟨i, hi, m, -, hij⟩
        refine hij.keeps (· ∈ seen) ?_ hi
        intro i k hik hi
        simpa [hempty] using hstep i hi k hik
    · have hnext : ∀ i ∈ addPositions seen fresh, i ∉ fresh → ∀ k, r i k →
          k ∈ addPositions seen fresh := by
        intro i hi hold k hik
        rw [mem_addPositions_iff] at hi ⊢
        exact hstep i (hi.resolve_right hold) k hik
      have hsize : ∀ i ∈ addPositions seen fresh, i ≤ size := by
        intro i hi
        rcases mem_addPositions_iff.mp hi with hi | hi
        · exact hseen i hi
        · obtain ⟨⟨k, hk, hki⟩, -⟩ := (hmem i).mp hi
          exact hf.le_size hki (hbound k hk)
      have hsub : ∀ i ∈ fresh, i ∈ addPositions seen fresh := fun i hi =>
        mem_addPositions_iff.mpr (.inr hi)
      have hloop := ih hsize hsub hnext fun i hi => hsize i (hsub i hi)
      simp only [List.isEmpty_iff, hempty, if_false, hloop, mem_addPositions_iff]
      constructor
      · rintro ⟨i, hi | hi, m, hm, hij⟩
        · exact ⟨i, hi, m, by omega, hij⟩
        · obtain ⟨⟨k, hk, hki⟩, -⟩ := (hmem i).mp hi
          exact ⟨k, hfrontier k hk, m + 1, by omega, .more hki hij⟩
      · rintro ⟨i, hi, m, hm, hij⟩
        cases hij with
        | none => exact ⟨j, .inl hi, 0, Nat.zero_le _, .none⟩
        | more first rest => exact ⟨_, hstep i hi _ first, _, by omega, rest⟩

end Follows

/-! ## Expressions -/

namespace Node

/-- The expression matches the characters of `text` from one position to another. -/
def Matches (text : Array Char) : Node → Nat → Nat → Prop
  | empty, i, j => i = j
  | one set, i, j => j = i + 1 ∧ ∃ c, text[i]? = some c ∧ set.contains c = true
  | look l, i, j => i = j ∧ l.holds text i = true
  | seq first second, i, j => ∃ k, first.Matches text i k ∧ second.Matches text k j
  | alt first second, i, j => first.Matches text i j ∨ second.Matches text i j
  | rep least most inner, i, j =>
    ∃ count, least ≤ count ∧ (∀ bound, most = some bound → count ≤ bound) ∧
      InARow (inner.Matches text) count i j

/-- The expression matches all of `text`. -/
def Spans (node : Node) (text : String) : Prop :=
  node.Matches text.toList.toArray 0 text.toList.length

/-- No repetition asks for more than it allows. -/
def Ordered : Node → Prop
  | empty | one _ | look _ => True
  | seq first second | alt first second => first.Ordered ∧ second.Ordered
  | rep least most inner => (∀ bound, most = some bound → least ≤ bound) ∧ inner.Ordered

variable {text : Array Char}

theorem Matches.le {node : Node} {i j : Nat} (h : node.Matches text i j) : i ≤ j := by
  induction node generalizing i j with
  | empty => exact Nat.le_of_eq h
  | one set => exact h.1 ▸ Nat.le_succ i
  | look l => exact Nat.le_of_eq h.1
  | seq first second ihFirst ihSecond =>
    obtain ⟨k, hfirst, hsecond⟩ := h
    exact Nat.le_trans (ihFirst hfirst) (ihSecond hsecond)
  | alt first second ihFirst ihSecond => exact h.elim ihFirst ihSecond
  | rep least most inner ih =>
    obtain ⟨count, -, -, hrow⟩ := h
    exact hrow.le fun _ _ => ih

theorem Matches.le_size {node : Node} {i j : Nat} (h : node.Matches text i j)
    (hi : i ≤ text.size) : j ≤ text.size := by
  induction node generalizing i j with
  | empty => exact h ▸ hi
  | one set =>
    obtain ⟨rfl, c, hc, -⟩ := h
    exact (Array.getElem?_eq_some_iff.mp hc).1
  | look l => exact h.1 ▸ hi
  | seq first second ihFirst ihSecond =>
    obtain ⟨k, hfirst, hsecond⟩ := h
    exact ihSecond hsecond (ihFirst hfirst hi)
  | alt first second ihFirst ihSecond =>
    exact h.elim (fun h => ihFirst h hi) fun h => ihSecond h hi
  | rep least most inner ih =>
    obtain ⟨count, -, -, hrow⟩ := h
    exact hrow.keeps (· ≤ text.size) ih hi

/-- The rounds of a repetition that are followed are enough. -/
theorem matches_rep_iff {least : Nat} {most : Option Nat} {inner : Node} {i j : Nat}
    (hordered : ∀ bound, most = some bound → least ≤ bound) (hi : i ≤ text.size) :
    (rep least most inner).Matches text i j ↔
      ∃ k, InARow (inner.Matches text) least i k ∧
        ∃ m ≤ (most.map (· - least)).getD (text.size + 1), InARow (inner.Matches text) m k j := by
  constructor
  · rintro ⟨count, hleast, hmost, hrow⟩
    obtain ⟨m, rfl⟩ := Nat.exists_eq_add_of_le hleast
    obtain ⟨k, hfirst, hrest⟩ := InARow.add_iff.mp hrow
    refine ⟨k, hfirst, ?_⟩
    cases most with
    | none =>
      have hk : k ≤ text.size := hfirst.keeps (· ≤ text.size) Matches.le_size hi
      have hj : j ≤ text.size := hrest.keeps (· ≤ text.size) Matches.le_size hk
      obtain ⟨m', hm', hshort⟩ := hrest.shorten fun _ _ => Matches.le
      exact ⟨m', by simp only [Option.map_none, Option.getD_none]; omega, hshort⟩
    | some bound =>
      have hbound := hmost bound rfl
      exact ⟨m, by simp only [Option.map_some, Option.getD_some]; omega, hrest⟩
  · rintro ⟨k, hfirst, m, hm, hrest⟩
    refine ⟨least + m, by omega, ?_, InARow.add_iff.mpr ⟨k, hfirst, hrest⟩⟩
    rintro bound rfl
    have hbound := hordered bound rfl
    simp only [Option.map_some, Option.getD_some] at hm
    omega

theorem mem_stops_iff {node : Node} (hnode : node.Ordered) {starts : List Nat}
    (hstarts : ∀ i ∈ starts, i ≤ text.size) {j : Nat} :
    j ∈ node.stops text starts ↔ ∃ i ∈ starts, node.Matches text i j := by
  induction node generalizing starts j with
  | empty => simp [stops, Matches]
  | one set =>
    simp only [stops, mem_addPositions_iff, List.not_mem_nil, false_or, List.mem_filterMap, Matches,
      Option.any_eq_true, Option.ite_none_right_eq_some, Option.some.injEq]
    constructor
    · rintro ⟨i, hi, hchar, rfl⟩
      exact ⟨i, hi, rfl, hchar⟩
    · rintro ⟨i, hi, rfl, hchar⟩
      exact ⟨i, hi, hchar, rfl⟩
  | look l =>
    simp only [stops, List.mem_filter, Matches]
    constructor
    · rintro ⟨hj, hlook⟩
      exact ⟨j, hj, rfl, hlook⟩
    · rintro ⟨i, hi, rfl, hlook⟩
      exact ⟨hi, hlook⟩
  | seq first second ihFirst ihSecond =>
    have hmiddle : ∀ k ∈ first.stops text starts, k ≤ text.size := by
      intro k hk
      obtain ⟨i, hi, hik⟩ := (ihFirst hnode.1 hstarts).mp hk
      exact hik.le_size (hstarts i hi)
    simp only [stops, ihSecond hnode.2 hmiddle, ihFirst hnode.1 hstarts, Matches]
    constructor
    · rintro ⟨k, ⟨i, hi, hik⟩, hkj⟩
      exact ⟨i, hi, k, hik, hkj⟩
    · rintro ⟨i, hi, k, hik, hkj⟩
      exact ⟨k, ⟨i, hi, hik⟩, hkj⟩
  | alt first second ihFirst ihSecond =>
    simp only [stops, mem_addPositions_iff, ihFirst hnode.1 hstarts, ihSecond hnode.2 hstarts,
      Matches, and_or_left, exists_or]
  | rep least most inner ih =>
    have hinner : Follows text.size (inner.stops text) (inner.Matches text) :=
      ⟨fun h => ih hnode.2 h, Matches.le_size⟩
    have hreached : ∀ k ∈ applyTimes (inner.stops text) least starts, k ≤ text.size := by
      intro k hk
      obtain ⟨i, hi, hik⟩ := (hinner.mem_applyTimes_iff hstarts).mp hk
      exact hik.keeps (· ≤ text.size) Matches.le_size (hstarts i hi)
    rw [stops, hinner.mem_applyUpTo_iff hreached (fun _ hi => hi) fun _ hi hnot => absurd hi hnot]
    simp only [hinner.mem_applyTimes_iff hstarts]
    constructor
    · rintro ⟨k, ⟨i, hi, hik⟩, hkj⟩
      exact ⟨i, hi, (matches_rep_iff hnode.1 (hstarts i hi)).mpr ⟨k, hik, hkj⟩⟩
    · rintro ⟨i, hi, hij⟩
      obtain ⟨k, hik, hkj⟩ := (matches_rep_iff hnode.1 (hstarts i hi)).mp hij
      exact ⟨k, ⟨i, hi, hik⟩, hkj⟩

/-- The search finds a match exactly if there is one. -/
theorem isMatch_iff {node : Node} (hnode : node.Ordered) (text : String) :
    node.isMatch text = true ↔
      ∃ i ≤ text.toList.length, ∃ j, node.Matches text.toList.toArray i j := by
  have hstarts : ∀ i ∈ List.range (text.toList.toArray.size + 1), i ≤ text.toList.toArray.size := by
    intro i hi
    rw [List.mem_range] at hi
    omega
  rw [isMatch, Bool.not_eq_true', ← Bool.not_eq_true, List.isEmpty_iff]
  constructor
  · intro hne
    obtain ⟨j, hj⟩ := List.exists_mem_of_ne_nil _ hne
    obtain ⟨i, hi, hij⟩ := (mem_stops_iff hnode hstarts).mp hj
    exact ⟨i, by simpa using hstarts i hi, j, hij⟩
  · rintro ⟨i, hi, j, hij⟩
    have hmem : i ∈ List.range (text.toList.toArray.size + 1) := by
      rw [List.mem_range, List.size_toArray]
      omega
    exact List.ne_nil_of_mem ((mem_stops_iff hnode hstarts).mpr ⟨i, hmem, hij⟩)

end Node

end SeriesSql.Regex
