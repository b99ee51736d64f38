import SeriesSql.Proofs.Labels.Assignment

/-!
# Removing and keeping labels

A label is removed by cutting its pair out of the padded text, and labels are kept by putting those
that are found behind one another, each after a comma.  What the terms do is first said for any
text, as rows may have other texts than strings of pairs.  For the string of a label set,
`cutAll_pairsText` says that removing names one by one leaves the pairs of other names in their
order, and `keptText_pairsText` that keeping names gives their pairs in the order of the names.

There are four groups.

* The value of a name in any text.
* Cutting pairs out.  A name that is found makes the text shorter, so a text stays what it is only
  if no name is found: `cutAll_eq_self_iff`.
* Keeping pairs.
* The terms.
-/

namespace SeriesSql.Labels

/-! ## Values in any text -/

/-- What stands after a name, up to the next comma. -/
def textValue? (key : LabelName) (cs : List Char) : Option (List Char) :=
  (pairAt? key cs).map Place.value

theorem LabelSet.textValue?_eq (L : LabelSet) (key : LabelName) :
    textValue? key (pairsText L.pairs) = (L.value? key).map String.toList := by
  rcases pairs_cases key L.pairs with hkey | ⟨first, value, last, hpairs, hkey⟩
  · rw [L.value?_eq_none_iff.mpr (forall_name_ne_iff.mp hkey), textValue?,
      pairAt?_eq_none_iff.mpr (indexOf?_pairStart_eq_none hkey L.plain)]
    rfl
  · have hvalue : L.value? key = some value :=
      (find?_key_eq_some_iff L.distinct).mpr (by simp [hpairs])
    have hplain := L.plain
    rw [hpairs] at hplain
    obtain ⟨rest, -, hpair⟩ := exists_pairAt hkey hplain
    rw [hvalue, hpairs, textValue?, hpair.pairAt?_eq]
    rfl

/-! ## Cutting pairs out -/

/-- Pairs that stand after commas, without these. -/
theorem withoutCommas_startedPairs {ps : List Pair} (hplain : ∀ p ∈ ps, ',' ∉ p.2.toList)
    {back : List Char} (hback : ∀ c ∈ back, c = ',') :
    withoutCommas (startedPairs ps ++ back) = pairsText ps := by
  cases ps with
  | nil => exact @withoutCommas_pairsText [] hplain [] back (by simp) hback
  | cons p ps =>
    have hcomma : startedPairs (p :: ps) ++ back = [','] ++ (pairsText (p :: ps) ++ back) := by
      rw [pairsText_cons]
      rfl
    rw [hcomma]
    exact withoutCommas_pairsText hplain (by simp) hback

/-- A text without the pair of a name. -/
def cutText (key : LabelName) (cs : List Char) : List Char :=
  match pairAt? key cs with
  | none => cs
  | some p => withoutCommas (p.before ++ ',' :: p.rest)

/-- A text without the pairs of several names, one by one. -/
def cutAll (keys : List LabelName) (cs : List Char) : List Char :=
  keys.foldl (fun cs key => cutText key cs) cs

theorem length_withoutCommas_le (cs : List Char) : (withoutCommas cs).length ≤ cs.length := by
  have hend (ds : List Char) : (Text.dropEndWhile (· == ',') ds).length ≤ ds.length := by
    rw [Text.dropEndWhile, List.length_reverse]
    exact (List.dropWhile_sublist _).length_le.trans_eq List.length_reverse
  exact (hend _).trans (List.dropWhile_sublist _).length_le

theorem length_cutText_lt {key : LabelName} {cs : List Char} {p : Place}
    (h : pairAt? key cs = some p) : (cutText key cs).length < cs.length := by
  have hlength := congrArg List.length (pairAt_of_pairAt? h).padded_eq
  have hname : key.text.toList ≠ [] := by
    intro hempty
    have hvalid := key.valid
    rw [isLabelName, hempty] at hvalid
    cases hvalid
  have hpos : 0 < key.text.toList.length := List.length_pos_iff.mpr hname
  have hle := length_withoutCommas_le (p.before ++ ',' :: p.rest)
  simp only [padded, pairStart, List.length_cons, List.length_append, List.length_nil]
    at hlength hle
  rw [cutText, h]
  show (withoutCommas _).length < _
  omega

theorem length_cutText_le (key : LabelName) (cs : List Char) :
    (cutText key cs).length ≤ cs.length := by
  cases h : pairAt? key cs with
  | none => rw [cutText, h]
  | some p => exact (length_cutText_lt h).le

theorem length_cutAll_le (keys : List LabelName) (cs : List Char) :
    (cutAll keys cs).length ≤ cs.length := by
  induction keys generalizing cs with
  | nil => exact le_rfl
  | cons key keys ih => exact (ih (cutText key cs)).trans (length_cutText_le key cs)

theorem cutAll_eq_self_iff (keys : List LabelName) (cs : List Char) :
    cutAll keys cs = cs ↔ ∀ key ∈ keys, pairAt? key cs = none := by
  induction keys with
  | nil => simp [cutAll]
  | cons key keys ih =>
    rw [List.forall_mem_cons, ← ih]
    cases h : pairAt? key cs with
    | none =>
      have hcut : cutText key cs = cs := by rw [cutText, h]
      simp [cutAll, hcut]
    | some p =>
      have hshort : (cutAll (key :: keys) cs).length < cs.length :=
        (length_cutAll_le keys (cutText key cs)).trans_lt (length_cutText_lt h)
      have hne : cutAll (key :: keys) cs ≠ cs := fun hsame =>
        (congrArg List.length hsame).not_lt hshort
      simp [hne]

namespace LabelSet

variable (L : LabelSet) (keys : List LabelName)

/-- The pairs of some names, in their order. -/
def filter (p : LabelName → Bool) : LabelSet where
  pairs := L.pairs.filter fun pair => p pair.1
  distinct := L.distinct.sublist (List.filter_sublist.map Prod.fst)
  plain := fun pair hpair => L.plain pair (List.mem_of_mem_filter hpair)

def without : LabelSet :=
  L.filter (· ∉ keys)

def only : LabelSet :=
  L.filter (· ∈ keys)

theorem pairs_without : (L.without keys).pairs = L.pairs.filter (·.1 ∉ keys) :=
  rfl

theorem cutText_pairsText (key : LabelName) :
    cutText key (pairsText L.pairs) = pairsText (L.without [key]).pairs := by
  rcases pairs_cases key L.pairs with hkey | ⟨first, value, last, hpairs, hkey⟩
  · have hsame : (L.without [key]).pairs = L.pairs :=
      List.filter_eq_self.mpr fun p hp => by simpa using hkey p hp
    rw [hsame, cutText, pairAt?_eq_none_iff.mpr (indexOf?_pairStart_eq_none hkey L.plain)]
  · have hlast : ∀ p ∈ last, p.1 ≠ key := by
      have hdistinct := L.distinct
      rw [hpairs, List.map_append, List.map_cons, List.nodup_append, List.nodup_cons] at hdistinct
      exact forall_name_ne_iff.mpr hdistinct.2.1.1
    have hothers : ∀ p ∈ first ++ last, p.1 ≠ key := List.forall_mem_append.mpr ⟨hkey, hlast⟩
    have hrest : (L.without [key]).pairs = first ++ last := by
      have hsame : (first ++ last).filter (·.1 ∉ [key]) = first ++ last :=
        List.filter_eq_self.mpr fun p hp => by simpa using hothers p hp
      rw [pairs_without, hpairs, ← hsame]
      simp
    have hplain := L.plain
    rw [hpairs] at hplain
    obtain ⟨rest, hcomma, hpair⟩ := exists_pairAt hkey hplain
    have hstarted : startedPairs first ++ ',' :: rest = startedPairs (first ++ last) ++ [','] := by
      rw [← hcomma]
      simp [startedPairs]
    rw [hpairs, hrest, cutText, hpair.pairAt?_eq]
    show withoutCommas (startedPairs first ++ ',' :: rest) = _
    rw [hstarted]
    refine withoutCommas_startedPairs ?_ (by simp)
    rw [List.forall_mem_append, List.forall_mem_cons] at hplain
    exact List.forall_mem_append.mpr ⟨hplain.1, hplain.2.2⟩

theorem cutAll_pairsText :
    cutAll keys (pairsText L.pairs) = pairsText (L.without keys).pairs := by
  induction keys generalizing L with
  | nil => simp [cutAll, pairs_without]
  | cons key keys ih =>
    have hstep : ((L.without [key]).without keys).pairs = (L.without (key :: keys)).pairs := by
      simp only [pairs_without, List.filter_filter]
      refine List.filter_congr fun p _ => ?_
      simp [Bool.and_comm]
    show cutAll keys (cutText key (pairsText L.pairs)) = _
    rw [L.cutText_pairsText, ih, hstep]

end LabelSet

/-! ## Keeping pairs -/

/-- The pairs of several names that are found in a text. -/
def keptText (keys : List LabelName) (cs : List Char) : List Char :=
  withoutCommas (keys.flatMap fun key => (textValue? key cs).elim [] (pairStart key ++ ·))

namespace LabelSet

variable (L : LabelSet) (names : List LabelName)

/-- The pairs of some names, in the order of these. -/
def pairsOf (keys : List LabelName) : List Pair :=
  keys.filterMap fun key => (L.value? key).map (key, ·)

theorem mem_pairsOf {keys : List LabelName} {p : Pair} :
    p ∈ L.pairsOf keys ↔ p.1 ∈ keys ∧ p ∈ L.pairs := by
  rw [pairsOf, List.mem_filterMap]
  constructor
  · rintro ⟨key, hkey, hp⟩
    obtain ⟨value, hvalue, rfl⟩ := Option.map_eq_some_iff.mp hp
    exact ⟨hkey, (find?_key_eq_some_iff L.distinct).mp hvalue⟩
  · rintro ⟨hkey, hp⟩
    exact ⟨p.1, hkey, by rw [value?, (find?_key_eq_some_iff L.distinct).mpr hp]; rfl⟩

theorem pairsOf_sorted : L.pairsOf (LabelName.sorted names) = (L.only names).sorted := by
  obtain ⟨hincreasing, hnames⟩ := LabelName.sorted_spec names
  have hpairs : (L.pairsOf (LabelName.sorted names)).Pairwise fun p q => p.1.text < q.1.text := by
    refine List.pairwise_filterMap.mpr (hincreasing.imp fun hlt p hp q hq => ?_)
    obtain ⟨_, -, rfl⟩ := Option.map_eq_some_iff.mp hp
    obtain ⟨_, -, rfl⟩ := Option.map_eq_some_iff.mp hq
    exact hlt
  have hsorted : (L.only names).sorted.Pairwise fun p q => p.1.text ≤ q.1.text :=
    pairwise_mergeSort_text (fun p : Pair => p.1.text) _
  have hperm : (L.pairsOf (LabelName.sorted names)).Perm (L.only names).sorted := by
    refine List.Perm.trans ?_ (L.only names).sorted_perm.symm
    refine (List.perm_ext_iff_of_nodup (hpairs.imp ?_) (L.only names).distinct.of_map).mpr ?_
    · rintro p q hlt rfl
      exact lt_irrefl _ hlt
    · intro p
      rw [mem_pairsOf, hnames]
      simp [only, filter, and_comm]
  refine hperm.eq_of_pairwise ?_ (hpairs.imp le_of_lt) hsorted
  intro p q hp hq hpq hqp
  have hname : p.1 = q.1 := LabelName.text_injective (le_antisymm hpq hqp)
  exact List.inj_on_of_nodup_map L.distinct (L.mem_pairsOf.mp hp).2
    (L.mem_pairsOf.mp (hperm.mem_iff.mpr hq)).2 hname

theorem startedPairs_pairsOf (keys : List LabelName) :
    startedPairs (L.pairsOf keys) = keys.flatMap fun key =>
      (textValue? key (pairsText L.pairs)).elim [] (pairStart key ++ ·) := by
  induction keys with
  | nil => rfl
  | cons key keys ih =>
    rw [List.flatMap_cons, ← ih, L.textValue?_eq]
    cases hvalue : L.value? key with
    | none => simp [pairsOf, hvalue]
    | some value => simp [pairsOf, hvalue, startedPairs, pairText, pairStart]

theorem keptText_pairsText :
    keptText (LabelName.sorted names) (pairsText L.pairs) = (L.only names).text := by
  have hplain : ∀ p ∈ L.pairsOf (LabelName.sorted names), ',' ∉ p.2.toList := fun p hp =>
    L.plain p (L.mem_pairsOf.mp hp).2
  have hcommas := withoutCommas_startedPairs hplain (show ∀ c ∈ [], c = ',' by simp)
  rw [List.append_nil, startedPairs_pairsOf, pairsOf_sorted] at hcommas
  exact hcommas

/-- Nothing is left of names that are all absent. -/
theorem text_only_of_absent {names : List LabelName} (h : ∀ key ∈ names, L.value? key = none) :
    (L.only names).text = [] := by
  have hnone : (L.only names).pairs = [] := by
    refine List.filter_eq_nil_iff.mpr fun p hp hname => ?_
    have habsent := L.value?_eq_none_iff.mp (h p.1 (by simpa using hname))
    exact habsent (List.mem_map_of_mem hp)
  rw [text, sorted, hnone, List.mergeSort_nil]
  rfl

end LabelSet

/-! ## Terms -/

namespace Term

section

variable {s : Scope} {piece : LabelName → Term} {cs : LabelName → List Char}
  (hpiece : ∀ key, (piece key).eval s = some (.text (cs key)))

include hpiece

theorem eval_foldl_concat (keys : List LabelName) {a : Term} {front : List Char}
    (ha : a.eval s = some (.text front)) :
    ((keys.map piece).foldl concat a).eval s = some (.text (front ++ keys.flatMap cs)) := by
  induction keys generalizing a front with
  | nil => simpa using ha
  | cons key keys ih =>
    rw [List.flatMap_cons, ← List.append_assoc]
    exact ih (eval_concat ha (hpiece key))

theorem eval_concatAll (keys : List LabelName) :
    (concatAll concat (keys.map piece)).eval s = some (.text (keys.flatMap cs)) := by
  cases keys with
  | nil => rfl
  | cons key keys => exact eval_foldl_concat hpiece keys (hpiece key)

end

section

variable {s : Scope} {cs : List Char} (hlabels : s.column .labels = .text cs)

include hlabels

theorem eval_extractText (key : LabelName) :
    (extract key).eval s = some ((textValue? key cs).elim .null .text) := by
  cases hplace : pairAt? key cs with
  | none =>
    rw [eval_extract_of_none hlabels (pairAt?_eq_none_iff.mp hplace), textValue?, hplace]
    rfl
  | some p =>
    obtain ⟨hpadded, hfound, hplain⟩ := pairAt_of_pairAt? hplace
    rw [eval_extract_of_some hlabels hpadded hfound hplain, textValue?, hplace]
    rfl

theorem eval_removeKey (key : LabelName) :
    (removeKey key).eval s = some (.text (cutText key cs)) := by
  rw [removeKey, eval_cond (eval_isAbsent hlabels key), cutText]
  cases hplace : pairAt? key cs with
  | none =>
    rw [pairAt?_eq_none_iff.mp hplace]
    exact congrArg some hlabels
  | some p =>
    have hpair := pairAt_of_pairAt? hplace
    have hbefore : (slice padded (int 1) (minus (keyPosition key) (int 1))).eval s =
        some (.text p.before) := by
      have hslice : charsAt (Labels.padded cs) 1 p.before.length = p.before := by
        have hcut := charsAt_append [] p.before (pairStart key ++ (p.value ++ ',' :: p.rest))
        rw [← hpair.padded_eq] at hcut
        exact hcut
      simp [eval, eval_padded hlabels, eval_keyPosition_of_pairAt hlabels hpair, Datum.slice,
        Datum.minus, hslice]
    rw [hpair.found]
    show (trimCommas _).eval s = _
    rw [eval, eval_concat hbefore (eval_afterPair hlabels hpair)]
    rfl

/-- The pair of a name after a comma, or nothing if it is not found. -/
theorem eval_keptPair (key : LabelName) :
    (coalesce (concat (concat (concat (text ",") (bound key.text)) (text "=")) (extract key))
      (text "")).eval s = some (.text ((textValue? key cs).elim [] (pairStart key ++ ·))) := by
  have hstart : (concat (concat (text ",") (bound key.text)) (text "=")).eval s =
      some (.text (pairStart key)) := by
    simp [eval, Datum.concat, pairStart]
  have hpair :
      (concat (concat (concat (text ",") (bound key.text)) (text "=")) (extract key)).eval s =
        some ((textValue? key cs).elim .null fun value => .text (pairStart key ++ value)) := by
    rw [eval, hstart, eval_extractText hlabels]
    cases textValue? key cs <;> rfl
  rw [eval, hpair]
  cases textValue? key cs <;> rfl

theorem eval_keepKeys (keys : List LabelName) :
    (keepKeys keys).eval s = some (.text (keptText keys cs)) := by
  unfold keepKeys
  rw [eval, eval_concatAll (eval_keptPair hlabels)]
  rfl

end

theorem written_removeKey (key : LabelName) : (removeKey key).Written := by
  simp [removeKey, pairStop, keyPosition, padded, labels, Written, Reader.Operator.Between, rank,
    Reader.Operator.rank]

theorem chain_foldl_concat {piece : LabelName → Term} (hrank : ∀ key, (piece key).rank = 6)
    (hpiece : ∀ key, (piece key).Written) (keys : List LabelName) {a : Term} (ha : a.Chain) :
    ((keys.map piece).foldl concat a).Chain := by
  induction keys generalizing a with
  | nil => exact ha
  | cons key keys ih => exact ih (ha.concat (by simp [hrank, Reader.Operator.rank]) (hpiece key))

theorem written_keepKeys (keys : List LabelName) : (keepKeys keys).Written := by
  have htight : Reader.Operator.concat.rank < 6 := by decide
  have hpiece (key : LabelName) : (coalesce (concat (concat (concat (text ",") (bound key.text))
      (text "=")) (extract key)) (text "")).Written := by
    have hcomma : Chain (text ",") := ⟨htight.le, trivial⟩
    have hstart :=
      (hcomma.concat (b := bound key.text) htight trivial).concat (b := text "=") htight trivial
    exact ⟨(hstart.concat (b := extract key) htight (written_extract key)).written, trivial⟩
  cases keys with
  | nil => trivial
  | cons key keys =>
    have hfirst : Chain (coalesce _ (text "")) := ⟨htight.le, hpiece key⟩
    exact (chain_foldl_concat (fun _ => rfl) hpiece keys hfirst).written

end Term

end SeriesSql.Labels
