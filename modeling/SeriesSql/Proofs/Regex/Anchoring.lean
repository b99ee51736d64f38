import SeriesSql.Matcher
import SeriesSql.Proofs.Regex.TokenReading

/-!
# Patterns between anchors

`Regex.anchored` puts a pattern between anchors by its text.  This file shows that the text which
results, if it can be read at all, is the expression of the pattern between anchors: no flag, bar,
group, comment or anchor of the pattern reaches beyond it.

There are four groups.

* Runs of the reader, which take one token after another.
* Bounds.  Repetitions in an expression that was read have their bounds in order:
  `parse?_ordered`.
* Reading inside the added group.  `State.within` is a state of the reader with the added group
  around it.  A token has the same effect there (`step_within`), so a whole pattern has
  (`Reads.within`), and what follows is the closing, or nothing if a comment swallowed it.
* The pattern between its anchors.  `parse?_anchored` reads the whole text, and
  `Node.isMatch_wrapped_iff` says that a search with anchors is a match from end to end.
-/

namespace SeriesSql.Regex

/-! ## Runs -/

namespace State

variable {fuel : Nat} {st next stop : State} {cs rest : List Char} {token : Token}

theorem run_done (h : st.flags.skip cs = []) : run fuel st cs = some st := by
  rw [run, h]

theorem run_token (htoken : readToken st.flags (st.flags.skip cs) = some (token, rest))
    (hnext : st.step token = some next) : run (fuel + 1) st cs = run fuel next rest := by
  rw [run]
  split
  · rename_i hnil
    rw [hnil] at htoken
    cases htoken
  · simp [htoken, hnext]

/-- `count` tokens are read from `cs`, after which nothing is left. -/
inductive Reads : (count : Nat) → State → List Char → State → Prop where
  | done {st : State} {cs : List Char} (h : st.flags.skip cs = []) : Reads 0 st cs st
  | token {count : Nat} {st next stop : State} {cs rest : List Char} {token : Token}
      (htoken : readToken st.flags (st.flags.skip cs) = some (token, rest))
      (hnext : st.step token = some next) (h : Reads count next rest stop) :
      Reads (count + 1) st cs stop

theorem reads_of_run (h : run fuel st cs = some stop) : ∃ count ≤ fuel, Reads count st cs stop := by
  induction fuel generalizing st cs with
  | zero =>
    unfold run at h
    split at h
    · rename_i hnil
      cases h
      exact ⟨0, Nat.le_refl _, .done hnil⟩
    · cases h
  | succ fuel ih =>
    unfold run at h
    split at h
    · rename_i hnil
      cases h
      exact ⟨0, Nat.zero_le _, .done hnil⟩
    · simp only [Option.bind_eq_bind, Option.bind_eq_some_iff] at h
      obtain ⟨⟨token, rest⟩, htoken, next, hnext, h⟩ := h
      obtain ⟨count, hcount, hreads⟩ := ih h
      exact ⟨count + 1, Nat.succ_le_succ hcount, .token htoken hnext hreads⟩

end State

theorem parse?_eq_some_iff {pattern : String} {node : Node} :
    parse? pattern = some node ↔
      ∃ st, State.run pattern.toList.length .start pattern.toList = some st ∧ st.outer = [] ∧
        st.level.node = node := by
  simp [parse?, State.finish?, Option.bind_eq_some_iff]

/-! ## Bounds -/

/-- All repetitions of a level have their bounds in order. -/
structure Level.Ordered (l : Level) : Prop where
  alternatives : ∀ node ∈ l.alternatives, node.Ordered
  front : l.front.Ordered
  last : ∀ node, l.last = some node → node.Ordered

namespace Level.Ordered

variable {l : Level}

theorem start : Level.start.Ordered :=
  ⟨by simp [Level.start], trivial, by simp [Level.start]⟩

theorem sequence (h : l.Ordered) : l.sequence.Ordered := by
  unfold Level.sequence
  split
  · exact h.front
  · rename_i node hlast
    exact ⟨h.front, h.last node hlast⟩

theorem node (h : l.Ordered) : l.node.Ordered := by
  unfold Level.node
  have hseq := h.sequence
  have halternatives := h.alternatives
  generalize l.sequence = acc at hseq
  generalize l.alternatives = alternatives at halternatives
  induction alternatives generalizing acc with
  | nil => exact hseq
  | cons earlier rest ih =>
    rw [List.forall_mem_cons] at halternatives
    exact ih _ ⟨halternatives.1, hseq⟩ halternatives.2

theorem push (h : l.Ordered) {node : Node} (hnode : node.Ordered) : (l.push node).Ordered := by
  refine ⟨h.alternatives, h.sequence, ?_⟩
  rintro _ ⟨⟩
  exact hnode

theorem close (h : l.Ordered) : l.sealed.Ordered := by
  refine ⟨h.alternatives, h.sequence, ?_⟩
  rintro _ ⟨⟩

theorem bar (h : l.Ordered) : l.bar.Ordered := by
  refine ⟨List.forall_mem_cons.mpr ⟨h.sequence, h.alternatives⟩, trivial, ?_⟩
  rintro _ ⟨⟩

theorem repeat? (h : l.Ordered) {least : Nat} {most : Option Nat}
    (hbounds : ∀ bound, most = some bound → least ≤ bound) {l' : Level}
    (hl : l.repeat? least most = some l') : l'.Ordered := by
  obtain ⟨node, hlast, rfl⟩ := Option.map_eq_some_iff.mp hl
  refine ⟨h.alternatives, h.front, ?_⟩
  rintro _ ⟨⟩
  exact ⟨hbounds, h.last node hlast⟩

end Level.Ordered

namespace State

/-- All repetitions read so far have their bounds in order. -/
structure Ordered (st : State) : Prop where
  level : st.level.Ordered
  outer : ∀ p ∈ st.outer, p.1.Ordered

theorem step_ordered {st st' : State} {token : Token} (hst : st.Ordered) (htoken : token.Ordered)
    (h : st.step token = some st') : st'.Ordered := by
  cases token with
  | item node =>
    cases h
    exact ⟨hst.level.push htoken, hst.outer⟩
  | repetition least most =>
    obtain ⟨l, hl, rfl⟩ := Option.map_eq_some_iff.mp h
    exact ⟨hst.level.repeat? htoken hl, hst.outer⟩
  | bar =>
    cases h
    exact ⟨hst.level.bar, hst.outer⟩
  | openGroup inner name =>
    simp only [step, Option.ite_none_left_eq_some, Option.some.injEq] at h
    obtain ⟨-, rfl⟩ := h
    exact ⟨.start, List.forall_mem_cons.mpr ⟨hst.level, hst.outer⟩⟩
  | setFlags flags =>
    cases h
    exact ⟨hst.level.close, hst.outer⟩
  | closeGroup =>
    simp only [step] at h
    split at h
    · cases h
    · rename_i parent flags outer houter
      cases h
      have hall := hst.outer
      rw [houter, List.forall_mem_cons] at hall
      exact ⟨hall.1.push hst.level.node, hall.2⟩

theorem Reads.ordered {count : Nat} {st stop : State} {cs : List Char}
    (h : Reads count st cs stop) (hst : st.Ordered) : stop.Ordered := by
  induction h with
  | done => exact hst
  | token htoken hnext _ ih => exact ih (step_ordered hst (readToken_ordered _ htoken) hnext)

end State

theorem parse?_ordered {pattern : String} {node : Node} (h : parse? pattern = some node) :
    node.Ordered := by
  obtain ⟨st, hrun, -, rfl⟩ := parse?_eq_some_iff.mp h
  have hstart : State.start.Ordered := ⟨.start, by simp [State.start]⟩
  obtain ⟨_, -, hreads⟩ := State.reads_of_run hrun
  exact (hreads.ordered hstart).level.node

/-! ## Reading inside the added group -/

theorem dropBlank_dropBlank (comment : Bool) (cs : List Char) :
    dropBlank false (dropBlank comment cs) = dropBlank comment cs := by
  fun_induction dropBlank comment cs with
  | case1 => rfl
  | case2 c cs ih => exact ih
  | case3 c cs _ ih => exact ih
  | case4 c cs _ _ ih => exact ih
  | case5 c cs hblank hmark => simp [dropBlank, hblank, hmark]

theorem Flags.skip_skip (f : Flags) (cs : List Char) : f.skip (f.skip cs) = f.skip cs := by
  unfold Flags.skip
  split
  · exact dropBlank_dropBlank false cs
  · rfl

theorem Flags.skip_of_dropBlank {f : Flags} {cs : List Char} (h : dropBlank false cs = cs) :
    f.skip cs = cs := by
  unfold Flags.skip
  split
  · exact h
  · rfl

namespace State

variable (parent : Level)

/-- The state with a group around it, which no flag was set before. -/
def within (st : State) : State :=
  { st with outer := st.outer ++ [(parent, Flags.none)] }

theorem step_within {st st' : State} {token : Token} (h : st.step token = some st') :
    (st.within parent).step token = some (st'.within parent) := by
  cases token with
  | repetition least most =>
    obtain ⟨l, hl, rfl⟩ := Option.map_eq_some_iff.mp h
    exact Option.map_eq_some_iff.mpr ⟨l, hl, rfl⟩
  | openGroup inner name =>
    simp only [step, Option.ite_none_left_eq_some, Option.some.injEq] at h ⊢
    obtain ⟨hname, rfl⟩ := h
    exact ⟨hname, rfl⟩
  | closeGroup =>
    -- A pattern that can be read alone closes only groups that it has opened.
    simp only [step] at h
    split at h
    · cases h
    · rename_i enclosing flags outer houter
      cases h
      simp [step, within, houter]
  | item | bar | setFlags =>
    cases h
    rfl

theorem run_skip (fuel : Nat) (st : State) (cs : List Char) :
    run fuel st (st.flags.skip cs) = run fuel st cs := by
  unfold run
  rw [Flags.skip_skip]

/-- A pattern that is read alone is read in the same way inside the group, up to its closing. -/
theorem Reads.within {count : Nat} {st stop : State} {cs cs' : List Char}
    (h : Reads count st cs stop) (hcs : Trailed cs cs') :
    ∃ rest, Trailed [] rest ∧
      ∀ fuel, run (fuel + count) (st.within parent) cs' = run fuel (stop.within parent) rest := by
  induction h generalizing cs' with
  | @done st cs hnil =>
    have hskip := st.flags.skip_trailed hcs
    rw [hnil] at hskip
    exact ⟨_, hskip, fun fuel => (run_skip fuel (st.within parent) cs').symm⟩
  | @token count st next stop cs rest token htoken hnext _ ih =>
    obtain ⟨rest', htoken', hrest⟩ := readToken_carries _ (st.flags.skip_trailed hcs) htoken
    obtain ⟨last, hlast, hrun⟩ := ih hrest
    refine ⟨last, hlast, fun fuel => ?_⟩
    rw [← hrun fuel, ← Nat.add_assoc]
    exact run_token htoken' (step_within parent hnext)

end State

/-! ## The pattern between its anchors -/

/-- The expression between the start and the end of the text. -/
def Node.wrapped (node : Node) : Node :=
  .seq (.seq (.seq .empty (.look .textStart)) node) (.look .textStop)

/-- The level around the added group, which holds the first anchor. -/
def outerLevel : Level :=
  Level.start.push (.look .textStart)

theorem run_opening (fuel : Nat) (cs : List Char) :
    State.run (fuel + 2) .start ('^' :: '(' :: '?' :: ':' :: cs) =
      State.run fuel (State.start.within outerLevel) cs := rfl

theorem run_closing (fuel : Nat) {st : State} (hst : st.outer = []) :
    State.run (fuel + 2) (st.within outerLevel) closing =
      some { st with
        flags := .none
        level := (outerLevel.push st.level.node).push (.look .textStop)
        outer := [] } := by
  have hskip : (st.within outerLevel).flags.skip closing = closing := Flags.skip_of_dropBlank rfl
  have hclose : (st.within outerLevel).step .closeGroup =
      some { st with flags := .none, level := outerLevel.push st.level.node, outer := [] } := by
    simp [State.step, State.within, hst]
  have htoken : readToken (st.within outerLevel).flags ((st.within outerLevel).flags.skip closing) =
      some (.closeGroup, ['$']) := by
    rw [hskip]
    rfl
  rw [State.run_token htoken hclose, State.run_token rfl rfl]
  exact State.run_done rfl

/-- A pattern that can be read stands between the anchors as it is, or the text with the anchors
cannot be read. -/
theorem parse?_anchored {pattern : String} {node : Node} (h : parse? pattern = some node) :
    parse? (anchored pattern) = none ∨ parse? (anchored pattern) = some node.wrapped := by
  obtain ⟨st, hrun, houter, rfl⟩ := parse?_eq_some_iff.mp h
  obtain ⟨used, hused, hreads⟩ := State.reads_of_run hrun
  obtain ⟨rest, hrest, hwithin⟩ := hreads.within outerLevel (.kept pattern.toList)
  have htext : (anchored pattern).toList =
      '^' :: '(' :: '?' :: ':' :: (pattern.toList ++ closing) := by
    simp [anchored, closing]
  have hlength : (anchored pattern).toList.length =
      pattern.toList.length - used + 2 + 2 + used + 2 := by
    simp only [htext, List.length_cons, List.length_append, closing, List.length_nil]
    omega
  have hanchored : State.run (anchored pattern).toList.length .start (anchored pattern).toList =
      State.run (pattern.toList.length - used + 2 + 2) (st.within outerLevel) rest := by
    rw [hlength, htext, run_opening, hwithin]
  cases hrest with
  | kept =>
    exact .inr (parse?_eq_some_iff.mpr ⟨_, hanchored.trans (run_closing _ houter), rfl, rfl⟩)
  | swallowed =>
    -- The added group is still open at the end.
    refine .inl (Option.eq_none_iff_forall_ne_some.mpr fun node hnode => ?_)
    obtain ⟨stop, hstop, hempty, -⟩ := parse?_eq_some_iff.mp hnode
    rw [hanchored, State.run_done (Flags.skip_of_dropBlank rfl)] at hstop
    cases hstop
    simp [State.within] at hempty

namespace Node

theorem matches_wrapped_iff {node : Node} {text : Array Char} {i j : Nat} :
    node.wrapped.Matches text i j ↔ i = 0 ∧ j = text.size ∧ node.Matches text i j := by
  simp only [wrapped, Matches, Look.holds, beq_iff_eq]
  constructor
  · rintro ⟨k, ⟨k', ⟨k'', rfl, rfl, hstart⟩, hnode⟩, rfl, hstop⟩
    exact ⟨hstart, hstop, hnode⟩
  · rintro ⟨hstart, hstop, hnode⟩
    exact ⟨j, ⟨i, ⟨i, rfl, rfl, hstart⟩, hnode⟩, rfl, hstop⟩

/-- A search with anchors is a match from end to end. -/
theorem isMatch_wrapped_iff {node : Node} (hnode : node.Ordered) (text : String) :
    node.wrapped.isMatch text = true ↔ node.Spans text := by
  have hwrapped : node.wrapped.Ordered := ⟨⟨⟨trivial, trivial⟩, hnode⟩, trivial⟩
  rw [isMatch_iff hwrapped]
  simp only [matches_wrapped_iff, Spans, List.size_toArray]
  constructor
  · rintro ⟨i, -, j, rfl, rfl, hmatch⟩
    exact hmatch
  · intro hmatch
    exact ⟨0, Nat.zero_le _, _, rfl, rfl, hmatch⟩

end Node

end SeriesSql.Regex
