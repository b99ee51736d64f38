import SeriesSql.Proofs.Compile.Steps
import SeriesSql.Proofs.Labels.Grouping

/-!
# Reading and setting labels

A label string of any pairs with distinct names, in any order, is read and changed by terms that
work with positions in the padded string.  `value?_extract_hasKey` says that the value of a name is
read back, and `value?_setValue` that setting a label replaces its pair in place or adds a pair at
the end.

There are five groups.

* Commas at the ends of a text, which are cut off.
* Pairs with a new value for a name.
* Positions: the pair of a name with what stands before and after it, in any text.
* The term that sets a label, in any text and in the string of pairs.
* What is read from the string of a label set, and after a label is set.
-/

namespace SeriesSql.Labels

/-! ## Commas at the ends -/

theorem dropWhile_commas {front rest : List Char} (hfront : ∀ c ∈ front, c = ',')
    (hrest : rest.head? ≠ some ',') : (front ++ rest).dropWhile (· == ',') = rest := by
  rw [List.dropWhile_append_of_pos (by simpa using hfront)]
  cases rest with
  | nil => rfl
  | cons c rest => exact List.dropWhile_cons_of_neg (by simpa using hrest)

/-- Commas are cut off from both ends of a text that neither starts nor ends with one. -/
theorem withoutCommas_append {front cs back : List Char} (hfront : ∀ c ∈ front, c = ',')
    (hback : ∀ c ∈ back, c = ',') (hhead : cs.head? ≠ some ',') (hlast : cs.getLast? ≠ some ',') :
    withoutCommas (front ++ (cs ++ back)) = cs := by
  cases cs with
  | nil =>
    have hall : (front ++ back ++ []).dropWhile (· == ',') = [] :=
      dropWhile_commas (List.forall_mem_append.mpr ⟨hfront, hback⟩) (by simp)
    rw [List.append_nil] at hall
    rw [withoutCommas, List.nil_append, hall]
    rfl
  | cons c cs =>
    have hstart : (c :: cs ++ back).head? ≠ some ',' := hhead
    have hstop : (back.reverse ++ (c :: cs).reverse).dropWhile (· == ',') = (c :: cs).reverse :=
      dropWhile_commas (by simpa using hback) (by rwa [List.head?_reverse])
    rw [withoutCommas, dropWhile_commas hfront hstart, Text.dropEndWhile, List.reverse_append,
      hstop, List.reverse_reverse]

theorem pairText_ne_nil (p : Pair) : pairText p ≠ [] := by
  simp [pairText]

/-- A text of pairs ends with its last pair. -/
theorem exists_pairsText_concat (ps : List Pair) (p : Pair) :
    ∃ before, pairsText (ps ++ [p]) = before ++ pairText p := by
  cases ps with
  | nil => exact ⟨[], by simp [pairsText]⟩
  | cons first rest =>
    refine ⟨pairText first ++ startedPairs rest ++ [','], ?_⟩
    rw [List.cons_append, pairsText_cons]
    simp [startedPairs]

section

variable {ps : List Pair} (hplain : ∀ p ∈ ps, ',' ∉ p.2.toList)

include hplain

theorem head?_pairsText_ne_comma : (pairsText ps).head? ≠ some ',' := by
  cases ps with
  | nil => simp [pairsText]
  | cons p ps =>
    rw [pairsText_cons, List.head?_append_of_ne_nil _ (pairText_ne_nil p)]
    exact fun h => comma_not_mem_pairText (hplain p (by simp)) (List.mem_of_head? h)

theorem getLast?_pairsText_ne_comma : (pairsText ps).getLast? ≠ some ',' := by
  rcases ps.eq_nil_or_concat' with rfl | ⟨init, p, rfl⟩
  · simp [pairsText]
  · obtain ⟨before, hbefore⟩ := exists_pairsText_concat init p
    rw [hbefore, List.getLast?_append_of_ne_nil _ (pairText_ne_nil p)]
    exact fun h => comma_not_mem_pairText (hplain p (by simp)) (List.mem_of_getLast? h)

theorem withoutCommas_pairsText {front back : List Char} (hfront : ∀ c ∈ front, c = ',')
    (hback : ∀ c ∈ back, c = ',') :
    withoutCommas (front ++ (pairsText ps ++ back)) = pairsText ps :=
  withoutCommas_append hfront hback (head?_pairsText_ne_comma hplain)
    (getLast?_pairsText_ne_comma hplain)

end

/-! ## Pairs with a new value -/

/-- The pairs with a value for a name: in place of its old value, or at the end if it has none. -/
def setPair (key : LabelName) (value : String) : List Pair → List Pair
  | [] => [(key, value)]
  | p :: ps => if p.1 = key then (key, value) :: ps else p :: setPair key value ps

section SetPair

variable {key : LabelName} {value : String} {ps : List Pair}

theorem setPair_of_not_mem (h : ∀ p ∈ ps, p.1 ≠ key) :
    setPair key value ps = ps ++ [(key, value)] := by
  induction ps with
  | nil => rfl
  | cons p ps ih =>
    rw [List.forall_mem_cons] at h
    rw [setPair, if_neg h.1, ih h.2, List.cons_append]

theorem setPair_append_cons {first last : List Pair} (h : ∀ p ∈ first, p.1 ≠ key) (old : String) :
    setPair key value (first ++ (key, old) :: last) = first ++ (key, value) :: last := by
  induction first with
  | nil => exact if_pos rfl
  | cons p first ih =>
    rw [List.forall_mem_cons] at h
    rw [List.cons_append, setPair, if_neg h.1, ih h.2, List.cons_append]

theorem mem_setPair_of {p : Pair} (h : p ∈ setPair key value ps) : p = (key, value) ∨ p ∈ ps := by
  fun_induction setPair key value ps with
  | case1 => exact .inl (by simpa using h)
  | case2 q ps hq => exact (List.mem_cons.mp h).imp_right (List.mem_cons_of_mem q)
  | case3 q ps hq ih =>
    rcases List.mem_cons.mp h with rfl | h
    · exact .inr List.mem_cons_self
    · exact (ih h).imp_right (List.mem_cons_of_mem q)

theorem nodup_setPair (h : (ps.map Prod.fst).Nodup) :
    ((setPair key value ps).map Prod.fst).Nodup := by
  fun_induction setPair key value ps with
  | case1 => simp
  | case2 p ps hp =>
    rw [List.map_cons, hp] at h
    exact h
  | case3 p ps hp ih =>
    rw [List.map_cons, List.nodup_cons] at h ⊢
    refine ⟨fun hmem => ?_, ih h.2⟩
    obtain ⟨q, hq, hname⟩ := List.mem_map.mp hmem
    rcases mem_setPair_of hq with rfl | hq
    · exact hp hname.symm
    · exact h.1 (List.mem_map.mpr ⟨q, hq, hname⟩)

theorem find?_setPair_self :
    ((setPair key value ps).find? (·.1 = key)).map Prod.snd = some value := by
  fun_induction setPair key value ps with
  | case1 => simp
  | case2 p ps hp => simp
  | case3 p ps hp ih => rwa [List.find?_cons_of_neg (by simpa using hp)]

theorem find?_setPair_of_ne {other : LabelName} (h : other ≠ key) :
    (setPair key value ps).find? (·.1 = other) = ps.find? (·.1 = other) := by
  fun_induction setPair key value ps with
  | case1 => simp [h.symm]
  | case2 p ps hp => simp [h.symm, hp]
  | case3 p ps hp ih => rw [List.find?_cons, List.find?_cons, ih]

theorem setPair_setPair (new : String) :
    setPair key new (setPair key value ps) = setPair key new ps := by
  fun_induction setPair key value ps with
  | case1 => simp [setPair]
  | case2 p ps hp => simp [setPair, hp]
  | case3 p ps hp ih => simp [setPair, hp, ih]

end SetPair

/-- The label set with a value for a name, in place of its old value or at the end. -/
def LabelSet.set (L : LabelSet) (key : LabelName) (value : String) (h : ',' ∉ value.toList) :
    LabelSet where
  pairs := setPair key value L.pairs
  distinct := nodup_setPair L.distinct
  plain := by
    intro p hp
    rcases mem_setPair_of hp with rfl | hp
    · exact h
    · exact L.plain p hp

theorem LabelSet.pairs_set (L : LabelSet) (key : LabelName) {value : String}
    (h : ',' ∉ value.toList) : (L.set key value h).pairs = setPair key value L.pairs :=
  rfl

/-! ## Positions -/

theorem decide_position_pos (needle cs : List Char) :
    decide (0 < position needle cs) = (indexOf? needle cs).isSome := by
  rw [position]
  cases indexOf? needle cs with
  | none => rfl
  | some n =>
    have hpos : (0 : Int) < n + 1 := by omega
    exact decide_eq_true hpos

theorem decide_position_eq_zero (needle cs : List Char) :
    decide (position needle cs = 0) = (indexOf? needle cs).isNone := by
  rw [position]
  cases indexOf? needle cs with
  | none => rfl
  | some n =>
    have hne : (n : Int) + 1 ≠ 0 := by omega
    exact decide_eq_false hne

theorem forall_name_ne_iff {key : LabelName} {ps : List Pair} :
    (∀ p ∈ ps, p.1 ≠ key) ↔ key ∉ ps.map Prod.fst := by
  simp only [List.mem_map, not_exists, not_and, ne_eq]

/-- A name has no pair, or there is a first one. -/
theorem pairs_cases (key : LabelName) (ps : List Pair) :
    (∀ p ∈ ps, p.1 ≠ key) ∨
      ∃ first value last, ps = first ++ (key, value) :: last ∧ ∀ p ∈ first, p.1 ≠ key := by
  cases hfind : ps.find? (·.1 = key) with
  | none => exact .inl (by simpa using hfind)
  | some p =>
    obtain ⟨hp, first, last, rfl, hfirst⟩ := List.find?_eq_some_iff_append.mp hfind
    obtain ⟨name, value⟩ := p
    obtain rfl : name = key := by simpa using hp
    exact .inr ⟨first, value, last, rfl, by simpa using hfirst⟩

/-- The pair of a name in a label string: what stands before its comma in the padded string, its
value, and what follows the comma at its end. -/
structure PairAt (key : LabelName) (cs before value rest : List Char) : Prop where
  padded_eq : padded cs = before ++ (pairStart key ++ (value ++ ',' :: rest))
  found : indexOf? (pairStart key) (padded cs) = some before.length
  plain : ',' ∉ value

theorem exists_pairAt {key : LabelName} {value : String} {first last : List Pair}
    (hkey : ∀ p ∈ first, p.1 ≠ key)
    (hplain : ∀ p ∈ first ++ (key, value) :: last, ',' ∉ p.2.toList) :
    ∃ rest, startedPairs last ++ [','] = ',' :: rest ∧
      PairAt key (pairsText (first ++ (key, value) :: last)) (startedPairs first)
        value.toList rest := by
  rw [List.forall_mem_append, List.forall_mem_cons] at hplain
  obtain ⟨hpadded, hfound⟩ := @indexOf?_pairStart key value first last hkey hplain.1
  obtain ⟨rest, hrest⟩ := exists_startedPairs_eq last
  rw [hrest] at hpadded
  exact ⟨rest, hrest, hpadded, hfound, hplain.2.1⟩

/-- A text stands where it is found. -/
theorem exists_of_indexOf? {needle cs : List Char} {n : Nat} (h : indexOf? needle cs = some n) :
    ∃ before rest, cs = before ++ (needle ++ rest) ∧ before.length = n := by
  induction cs generalizing n with
  | nil =>
    rw [indexOf?] at h
    split at h
    case isTrue hempty =>
      exact ⟨[], [], by simpa using hempty, by simpa using h⟩
    case isFalse => cases h
  | cons c cs ih =>
    rw [indexOf?] at h
    split at h
    case isTrue hprefix =>
      obtain ⟨rest, hrest⟩ := List.isPrefixOf_iff_prefix.mp hprefix
      exact ⟨[], rest, hrest.symm, by simpa using h⟩
    case isFalse =>
      obtain ⟨m, hm, rfl⟩ := Option.map_eq_some_iff.mp h
      obtain ⟨before, rest, hcs, rfl⟩ := ih hm
      exact ⟨c :: before, rest, congrArg (c :: ·) hcs, rfl⟩

/-- What `PairAt` says of a pair. -/
structure Place where
  before : List Char
  value : List Char
  rest : List Char
deriving Repr, DecidableEq

/-- The place of the pair of a name in any text. -/
def pairAt? (key : LabelName) (cs : List Char) : Option Place :=
  (indexOf? (pairStart key) (padded cs)).map fun n =>
    let after := (padded cs).drop (n + (pairStart key).length)
    ⟨(padded cs).take n, after.takeWhile (· != ','), (after.dropWhile (· != ',')).tail⟩

section

variable {key : LabelName} {cs : List Char}

theorem pairAt?_eq_none_iff :
    pairAt? key cs = none ↔ indexOf? (pairStart key) (padded cs) = none :=
  Option.map_eq_none_iff

theorem PairAt.pairAt?_eq {before value rest : List Char} (h : PairAt key cs before value rest) :
    pairAt? key cs = some ⟨before, value, rest⟩ := by
  have hvalue : ∀ c ∈ value, (c != ',') = true := by
    intro c hc
    rw [bne_iff_ne]
    rintro rfl
    exact h.plain hc
  have hsplit : padded cs = (before ++ pairStart key) ++ (value ++ ',' :: rest) := by
    rw [h.padded_eq, List.append_assoc]
  have hafter : (padded cs).drop (before.length + (pairStart key).length) =
      value ++ ',' :: rest := by
    rw [hsplit, ← List.length_append, List.drop_left]
  have hbefore : (padded cs).take before.length = before := by
    rw [h.padded_eq, List.take_left]
  have htake : (value ++ ',' :: rest).takeWhile (· != ',') = value := by
    rw [List.takeWhile_append_of_pos hvalue]
    simp
  have hdrop : (value ++ ',' :: rest).dropWhile (· != ',') = ',' :: rest := by
    rw [List.dropWhile_append_of_pos hvalue]
    simp
  simp only [pairAt?, h.found, Option.map_some, hafter, hbefore, htake, hdrop, List.tail_cons]

/-- Where a name is found, its value ends with a comma, as the padded text does. -/
theorem pairAt_of_pairAt? {p : Place} (h : pairAt? key cs = some p) :
    PairAt key cs p.before p.value p.rest := by
  obtain ⟨n, hfound, -⟩ := Option.map_eq_some_iff.mp h
  obtain ⟨before, after, hpadded, rfl⟩ := exists_of_indexOf? hfound
  have hcomma : ',' ∈ after := by
    have hlast : (padded cs).getLast? = some ',' := @List.getLast?_concat _ (',' :: cs) _
    rw [hpadded, ← List.append_assoc] at hlast
    by_cases hafter : after = []
    · have hequals : (pairStart key).getLast? = some '=' :=
        @List.getLast?_concat _ (',' :: key.text.toList) _
      simp [hafter, hequals] at hlast
    · rw [List.getLast?_append_of_ne_nil _ hafter] at hlast
      exact List.mem_of_getLast? hlast
  obtain ⟨value, rest, rfl, hvalue⟩ := List.eq_append_cons_of_mem hcomma
  have hpair : PairAt key cs before value rest := ⟨hpadded, hfound, hvalue⟩
  obtain rfl : ⟨before, value, rest⟩ = p := by
    rw [hpair.pairAt?_eq] at h
    exact Option.some.inj h
  exact hpair

end

namespace Term

section

variable {s : Scope} {cs : List Char} (hlabels : s.column .labels = .text cs)

include hlabels

theorem eval_hasKey (key : LabelName) :
    (hasKey key).eval s =
      some (.ofBool (indexOf? (pairStart key) (Labels.padded cs)).isSome) := by
  rw [← decide_position_pos]
  simp [hasKey, eval, eval_keyPosition hlabels, Datum.greater]

/-- The test for a missing pair. -/
theorem eval_isAbsent (key : LabelName) :
    (equal (keyPosition key) (int 0)).eval s =
      some (.ofBool (indexOf? (pairStart key) (Labels.padded cs)).isNone) := by
  rw [← decide_position_eq_zero]
  exact eval_equal (eval_keyPosition hlabels key) rfl

variable {key : LabelName} {before value rest : List Char} (hpair : PairAt key cs before value rest)

include hpair

theorem eval_keyPosition_of_pairAt :
    (keyPosition key).eval s = some (.integer (before.length + 1)) := by
  rw [eval_keyPosition hlabels, position, hpair.found]

/-- The string up to the comma before the pair. -/
theorem eval_beforePair :
    (slice padded (int 1) (keyPosition key)).eval s = some (.text (before ++ [','])) := by
  have hsplit : Labels.padded cs =
      [] ++ ((before ++ [',']) ++ (key.text.toList ++ '=' :: (value ++ ',' :: rest))) := by
    rw [hpair.padded_eq]
    simp [pairStart]
  have hslice : charsAt (Labels.padded cs) 1 (before.length + 1) = before ++ [','] := by
    have hcut := charsAt_append [] (before ++ [','])
      (key.text.toList ++ '=' :: (value ++ ',' :: rest))
    rw [← hsplit] at hcut
    simpa using hcut
  simp [eval, eval_padded hlabels, eval_keyPosition_of_pairAt hlabels hpair, Datum.slice, hslice]

theorem eval_pairStop :
    (pairStop key).eval s =
      some (.integer ((before ++ pairStart key ++ value).length + 1)) := by
  have hsplit : Labels.padded cs =
      (before ++ [',']) ++ ((key.text.toList ++ '=' :: value) ++ ',' :: rest) := by
    rw [hpair.padded_eq]
    simp [pairStart]
  have hsuffix : charsFrom (Labels.padded cs) (before.length + 1 + 1) =
      (key.text.toList ++ '=' :: value) ++ ',' :: rest := by
    have hcut := charsFrom_append (before ++ [','])
      ((key.text.toList ++ '=' :: value) ++ ',' :: rest)
    rw [← hsplit] at hcut
    simpa using hcut
  have hcomma : position [','] ((key.text.toList ++ '=' :: value) ++ ',' :: rest) =
      (key.text.toList ++ '=' :: value).length + 1 := by
    have hnot : ',' ∉ key.text.toList ++ '=' :: value := by
      simpa [key.comma_not_mem] using hpair.plain
    have hindex : indexOf? [','] (',' :: rest) = some 0 := indexOf?_of_prefix ⟨rest, rfl⟩
    rw [position, indexOf?_append_of_not_mem hnot, hindex]
    simp
  have hsum : (before.length : Int) + 1 + ((key.text.toList ++ '=' :: value).length + 1) =
      (before ++ pairStart key ++ value).length + 1 := by
    simp [pairStart]
    omega
  simp only [pairStop, eval, eval_padded hlabels, eval_keyPosition_of_pairAt hlabels hpair,
    Option.bind_eq_bind, Option.bind_some, Datum.plus, Datum.suffix, Datum.instr]
  rw [← hsum, ← hcomma, ← hsuffix]
  rfl

/-- The string from the comma after the pair on. -/
theorem eval_afterPair :
    (suffix padded (pairStop key)).eval s = some (.text (',' :: rest)) := by
  have hsplit : Labels.padded cs = (before ++ pairStart key ++ value) ++ ',' :: rest := by
    rw [hpair.padded_eq]
    simp
  rw [eval, eval_padded hlabels, eval_pairStop hlabels hpair]
  show some (Datum.text (charsFrom (Labels.padded cs) _)) = _
  rw [hsplit, charsFrom_append]

end

end Term

/-! ## Setting a label -/

/-- A pair that is put behind the padded string follows a comma.  The string of no pairs has two,
which both go. -/
theorem withoutCommas_addPair {ps : List Pair} {p : Pair}
    (hplain : ∀ q ∈ ps ++ [p], ',' ∉ q.2.toList) :
    withoutCommas (padded (pairsText ps) ++ pairText p) = pairsText (ps ++ [p]) := by
  have hfront : ∃ front, (∀ c ∈ front, c = ',') ∧
      padded (pairsText ps) ++ pairText p = front ++ (pairsText (ps ++ [p]) ++ []) := by
    cases ps with
    | nil => exact ⟨[',', ','], by simp, by simp [padded, pairsText]⟩
    | cons first rest =>
      have hstarted : startedPairs (first :: rest ++ [p]) =
          [','] ++ (pairsText (first :: rest ++ [p]) ++ []) := by
        rw [List.append_nil, List.cons_append, pairsText_cons]
        rfl
      refine ⟨[','], by simp, ?_⟩
      rw [padded_pairsText (by simp), ← hstarted]
      simp [startedPairs]
  obtain ⟨front, hcommas, hsplit⟩ := hfront
  rw [hsplit]
  exact withoutCommas_pairsText hplain hcommas (by simp)

/-- A pair that is put between the parts around an old one. -/
theorem withoutCommas_replacePair {first last : List Pair} {p : Pair}
    (hplain : ∀ q ∈ first ++ p :: last, ',' ∉ q.2.toList) :
    withoutCommas (startedPairs first ++ [','] ++ pairText p ++ (startedPairs last ++ [','])) =
      pairsText (first ++ p :: last) := by
  have hsplit : startedPairs first ++ [','] ++ pairText p ++ (startedPairs last ++ [',']) =
      padded (pairsText (first ++ p :: last)) := by
    rw [padded_pairsText (by simp)]
    simp [startedPairs]
  have hcommas : padded (pairsText (first ++ p :: last)) =
      [','] ++ (pairsText (first ++ p :: last) ++ [',']) := rfl
  rw [hsplit, hcommas]
  exact withoutCommas_pairsText hplain (by simp) (by simp)

/-- A text with a value for a name: in place of its old value, or at the end if it has none. -/
def setText (key : LabelName) (value cs : List Char) : List Char :=
  match pairAt? key cs with
  | none => withoutCommas (padded cs ++ (key.text.toList ++ '=' :: value))
  | some p => withoutCommas (p.before ++ (pairStart key ++ (value ++ ',' :: p.rest)))

/-- The first pair of a name is replaced, also if names are repeated. -/
theorem setText_pairsText {ps : List Pair} (hplain : ∀ p ∈ ps, ',' ∉ p.2.toList) (key : LabelName)
    {v : String} (hv : ',' ∉ v.toList) :
    setText key v.toList (pairsText ps) = pairsText (setPair key v ps) := by
  rcases pairs_cases key ps with hkey | ⟨first, old, last, rfl, hkey⟩
  · have hnew : ∀ p ∈ ps ++ [(key, v)], ',' ∉ p.2.toList :=
      List.forall_mem_append.mpr ⟨hplain, by simpa using hv⟩
    rw [setText, pairAt?_eq_none_iff.mpr (indexOf?_pairStart_eq_none hkey hplain),
      setPair_of_not_mem hkey, ← withoutCommas_addPair hnew]
    rfl
  · obtain ⟨rest, hrest, hpair⟩ := exists_pairAt hkey hplain
    have hnew : ∀ p ∈ first ++ (key, v) :: last, ',' ∉ p.2.toList := by
      rw [List.forall_mem_append, List.forall_mem_cons] at hplain ⊢
      exact ⟨hplain.1, hv, hplain.2.2⟩
    rw [setText, hpair.pairAt?_eq, setPair_append_cons hkey,
      ← withoutCommas_replacePair hnew, hrest]
    simp [pairStart, pairText]

namespace Term

/-- Setting a label works for any term with a text as its value. -/
theorem eval_setText {s : Scope} {cs : List Char} (hlabels : s.column .labels = .text cs)
    (key : LabelName) {value : Term} {v : List Char} (hvalue : value.eval s = some (.text v)) :
    (setValue key value).eval s = some (.text (setText key v cs)) := by
  rw [setValue, eval_cond (eval_isAbsent hlabels key), setText]
  cases hplace : pairAt? key cs with
  | none =>
    rw [pairAt?_eq_none_iff.mp hplace]
    simp [eval, eval_padded hlabels, hvalue, Datum.concat, Datum.trimCommas]
  | some p =>
    have hpair := pairAt_of_pairAt? hplace
    have hbefore := eval_beforePair hlabels hpair
    have hafter := eval_afterPair hlabels hpair
    rw [hpair.found]
    show (trimCommas _).eval s = _
    rw [eval, eval_concat (eval_concat (eval_concat (eval_concat hbefore rfl) rfl) hvalue) hafter]
    simp [Datum.trimCommas, pairStart]

theorem eval_setValue {s : Scope} {ps : List Pair}
    (hlabels : s.column .labels = .text (pairsText ps)) (hplain : ∀ p ∈ ps, ',' ∉ p.2.toList)
    (key : LabelName) {value : Term} {v : String} (hvalue : value.eval s = some (.text v.toList))
    (hv : ',' ∉ v.toList) :
    (setValue key value).eval s = some (.text (pairsText (setPair key v ps))) := by
  rw [eval_setText hlabels key hvalue, setText_pairsText hplain key hv]

end Term

/-! ## Label strings -/

namespace Term

theorem written_hasKey (key : LabelName) : (hasKey key).Written := by
  simp [hasKey, keyPosition, padded, labels, Written, Reader.Operator.Between, rank,
    Reader.Operator.rank]

theorem written_setValue (key : LabelName) {value : Term} (hrank : value.rank = 6)
    (hvalue : value.Written) : (setValue key value).Written := by
  simp only [setValue, pairStop, keyPosition, padded, labels, Written, Reader.Operator.Between,
    hrank, hvalue]
  simp [rank, Reader.Operator.rank]

theorem value?_code (s : Scope) {t : Term} (h : t.Written) :
    s.value? t.code.fragment = t.eval s := by
  rw [Scope.value?, termOf?_code h]
  rfl

end Term

namespace LabelSet

variable (s : Scope) (L : LabelSet)

theorem column_ofLabels (labels : List Char) :
    (s.ofLabels labels).column .labels = .text labels := by
  simp [Scope.ofLabels]

theorem value?_extract (key : LabelName) :
    (s.ofLabels (pairsText L.pairs)).value? (Term.extract key).code.fragment =
      some (.ofText? (L.value? key)) := by
  rw [Term.value?_code _ (Term.written_extract key)]
  exact Term.eval_extract (column_ofLabels s _) L.plain key

theorem value?_eq_none_iff {key : LabelName} :
    L.value? key = none ↔ key ∉ L.pairs.map Prod.fst := by
  rw [← forall_name_ne_iff, value?, Option.map_eq_none_iff, List.find?_eq_none]
  simp only [decide_eq_true_eq, ne_eq]

theorem value?_hasKey (key : LabelName) :
    (s.ofLabels (pairsText L.pairs)).value? (Term.hasKey key).code.fragment =
      some (.ofBool (decide (key ∈ L.pairs.map Prod.fst))) := by
  rw [Term.value?_code _ (Term.written_hasKey key), Term.eval_hasKey (column_ofLabels s _)]
  rcases pairs_cases key L.pairs with hkey | ⟨first, value, last, hpairs, hkey⟩
  · rw [indexOf?_pairStart_eq_none hkey L.plain, decide_eq_false (forall_name_ne_iff.mp hkey)]
    rfl
  · have hmem : key ∈ L.pairs.map Prod.fst := by simp [hpairs]
    have hplain := L.plain
    rw [hpairs] at hplain
    obtain ⟨rest, -, hpair⟩ := exists_pairAt hkey hplain
    rw [decide_eq_true hmem, hpairs, hpair.found]
    rfl

theorem value?_setBound (key : LabelName) {value : String} (h : ',' ∉ value.toList) :
    (s.ofLabels (pairsText L.pairs)).value? (Term.setValue key (.bound value)).code.fragment =
      some (.text (pairsText (L.set key value h).pairs)) := by
  have hwritten : (Term.bound value).Written := trivial
  rw [Term.value?_code _ (Term.written_setValue key rfl hwritten)]
  exact Term.eval_setValue (column_ofLabels s _) L.plain key rfl h

end LabelSet

/-- Every value is read back from a label string, and null for a name that has none. -/
theorem value?_extract_hasKey (s : Scope) (L : LabelSet) (key : LabelName) :
    (∀ value, (key, value) ∈ L.pairs →
      (s.ofLabels (pairsText L.pairs)).value? (Term.extract key).code.fragment =
        some (.text value.toList)) ∧
      (key ∉ L.pairs.map Prod.fst →
        (s.ofLabels (pairsText L.pairs)).value? (Term.extract key).code.fragment = some .null) ∧
      (s.ofLabels (pairsText L.pairs)).value? (Term.hasKey key).code.fragment =
        some (.ofBool (decide (key ∈ L.pairs.map Prod.fst))) := by
  refine ⟨?_, ?_, L.value?_hasKey s key⟩
  · intro value hvalue
    have hfind : L.value? key = some value := (find?_key_eq_some_iff L.distinct).mpr hvalue
    rw [L.value?_extract, hfind]
    rfl
  · intro hkey
    rw [L.value?_extract, L.value?_eq_none_iff.mpr hkey]
    rfl

def tierId : LabelName := ⟨"tier_id", by decide⟩

def tier : LabelName := ⟨"tier", by decide⟩

def subTier : LabelName := ⟨"sub_tier", by decide⟩

def floor : LabelName := ⟨"floor", by decide⟩

/-- Names stand inside others and in a value, and one value is empty. -/
def tierLabels : LabelSet where
  pairs := [(tierId, "x=1"), (tier, ""), (subTier, "tier=9")]
  distinct := by decide
  plain := by decide

/-- A row of which only the labels are known. -/
def bareScope : Scope where
  column _ := .null
  select _ := none
  isMatch _ _ := none
  replace _ _ _ := none

def tierRow : Scope :=
  bareScope.ofLabels "tier_id=x=1,tier=,sub_tier=tier=9".toList

theorem pairsText_tierLabels :
    pairsText tierLabels.pairs = "tier_id=x=1,tier=,sub_tier=tier=9".toList := by
  decide +kernel

theorem value?_extract_hasKey_tier :
    tierRow.value? (Term.extract tier).code.fragment = some (.text []) ∧
      tierRow.value? (Term.extract subTier).code.fragment = some (.text "tier=9".toList) ∧
      tierRow.value? (Term.extract floor).code.fragment = some .null ∧
      tierRow.value? (Term.hasKey tier).code.fragment = some (.integer 1) ∧
      tierRow.value? (Term.hasKey floor).code.fragment = some (.integer 0) := by
  have htier := value?_extract_hasKey bareScope tierLabels tier
  have hsubTier := value?_extract_hasKey bareScope tierLabels subTier
  have hfloor := value?_extract_hasKey bareScope tierLabels floor
  rw [pairsText_tierLabels] at htier hsubTier hfloor
  exact ⟨htier.1 "" (by decide), hsubTier.1 "tier=9" (by decide), hfloor.2.1 (by decide), htier.2.2,
    hfloor.2.2⟩

/-- Setting a label replaces its pair in place, or adds a pair at the end.  The label is read back
then, other labels stay what they were, and setting it again leaves nothing of the first value. -/
theorem value?_setValue (s : Scope) (L : LabelSet) (key : LabelName) (value : String)
    (hvalue : checkValue value = .ok ()) :
    ∃ M : LabelSet,
      (∀ first old last, L.pairs = first ++ (key, old) :: last →
        M.pairs = first ++ (key, value) :: last) ∧
      (key ∉ L.pairs.map Prod.fst → M.pairs = L.pairs ++ [(key, value)]) ∧
      (s.ofLabels (pairsText L.pairs)).value? (Term.setValue key (.bound value)).code.fragment =
        some (.text (pairsText M.pairs)) ∧
      (s.ofLabels (pairsText M.pairs)).value? (Term.extract key).code.fragment =
        some (.text value.toList) ∧
      (∀ other ≠ key,
        (s.ofLabels (pairsText M.pairs)).value? (Term.extract other).code.fragment =
          (s.ofLabels (pairsText L.pairs)).value? (Term.extract other).code.fragment) ∧
      ∀ new, checkValue new = .ok () →
        (s.ofLabels (pairsText M.pairs)).value? (Term.setValue key (.bound new)).code.fragment =
          (s.ofLabels (pairsText L.pairs)).value?
            (Term.setValue key (.bound new)).code.fragment := by
  have hplain : ',' ∉ value.toList := Compile.checkValue_eq_ok_iff.mp hvalue
  refine ⟨L.set key value hplain, ?_, ?_, L.value?_setBound s key hplain, ?_, ?_, ?_⟩
  · intro first old last hpairs
    have hdistinct := L.distinct
    rw [hpairs, List.map_append, List.map_cons, List.nodup_append] at hdistinct
    have hkey : key ∉ first.map Prod.fst := fun hmem => hdistinct.2.2 key hmem key (by simp) rfl
    rw [LabelSet.pairs_set, hpairs, setPair_append_cons (forall_name_ne_iff.mpr hkey)]
  · intro hkey
    exact setPair_of_not_mem (forall_name_ne_iff.mpr hkey)
  · rw [LabelSet.value?_extract, LabelSet.value?, LabelSet.pairs_set, find?_setPair_self]
    rfl
  · intro other hother
    rw [LabelSet.value?_extract, LabelSet.value?_extract, LabelSet.value?, LabelSet.pairs_set,
      find?_setPair_of_ne hother, LabelSet.value?]
  · intro new hnew
    have hplain' : ',' ∉ new.toList := Compile.checkValue_eq_ok_iff.mp hnew
    rw [LabelSet.value?_setBound s _ key hplain', LabelSet.value?_setBound s _ key hplain']
    simp only [LabelSet.pairs_set, setPair_setPair]

theorem value?_setValue_tier :
    tierRow.value? (Term.setValue tier (.bound "gold")).code.fragment =
        some (.text "tier_id=x=1,tier=gold,sub_tier=tier=9".toList) ∧
      tierRow.value? (Term.setValue subTier (.bound "")).code.fragment =
        some (.text "tier_id=x=1,tier=,sub_tier=".toList) ∧
      tierRow.value? (Term.setValue floor (.bound "")).code.fragment =
        some (.text "tier_id=x=1,tier=,sub_tier=tier=9,floor=".toList) := by
  obtain ⟨gold, hgold, -, hsetGold, -⟩ := value?_setValue bareScope tierLabels tier "gold" rfl
  obtain ⟨blank, hblank, -, hsetBlank, -⟩ := value?_setValue bareScope tierLabels subTier "" rfl
  obtain ⟨more, -, hmore, hsetMore, -⟩ := value?_setValue bareScope tierLabels floor "" rfl
  rw [pairsText_tierLabels] at hsetGold hsetBlank hsetMore
  rw [hgold [(tierId, "x=1")] "" [(subTier, "tier=9")] rfl] at hsetGold
  rw [hblank [(tierId, "x=1"), (tier, "")] "tier=9" [] rfl] at hsetBlank
  rw [hmore (by decide)] at hsetMore
  refine ⟨hsetGold.trans ?_, hsetBlank.trans ?_, hsetMore.trans ?_⟩ <;> decide +kernel

end SeriesSql.Labels
