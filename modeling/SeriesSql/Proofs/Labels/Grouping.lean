import SeriesSql.Proofs.Labels.Joins
import SeriesSql.Proofs.Labels.ReadBack

/-!
# Groups of label sets

A row is put into the group of the values that it has for some keys.  The group is a text, the pairs
of the keys with an absent label as empty.  One term finds the values in the label tables and the
other one in the label string, and by `groupKeys_agree` both give the text of the label set, which
is the same for two label sets exactly if they agree on the keys.

There are four groups.

* Terms that are read as texts.  Operands of `||` may be grouped otherwise when they are read, which
  does not matter for texts: `HasText.concat`.
* The term for a group: `hasText_groupKey`.
* The text of a group, which gives the values back: `groupText_eq_iff`.
* The scopes of the two terms, and that both have this text.
-/

namespace SeriesSql.Labels

open Sql Reader

/-! ## Terms that are read as texts -/

/-- The value of the term that a fragment stands for. -/
def Scope.value? (s : Scope) (f : Fragment) : Option Datum := do
  (← termOf? f).eval s

namespace Term

/-- A term that may stand on the left side of `||`. -/
structure Chain (t : Term) : Prop where
  rank_le : Operator.concat.rank ≤ t.rank
  written : t.Written

theorem Chain.concat {a b : Term} (ha : a.Chain) (hrank : Operator.concat.rank < b.rank)
    (hb : b.Written) : (concat a b).Chain :=
  ⟨le_rfl, ⟨ha.rank_le, hrank⟩, ha.written, hb⟩

theorem Chain.append {a b : Term} (ha : a.Chain) (hb : b.Chain) : (append a b).Chain := by
  induction b with
  | concat b c ihb _ =>
    obtain ⟨hbetween, hbwritten, hcwritten⟩ := hb.written
    exact (ihb ⟨hbetween.1, hbwritten⟩).concat hbetween.2 hcwritten
  | _ =>
    -- no other operator is as tight as `||`
    exact ha.concat (hb.rank_le.lt_of_ne (by simp [rank, Operator.rank, notRank])) hb.written

/-- The code of a term is read as a term whose value is a text.  That term may be grouped
otherwise. -/
def HasText (s : Scope) (t : Term) (cs : List Char) : Prop :=
  ∃ u : Term, u.code.fragment = t.code.fragment ∧ u.Chain ∧ u.eval s = some (.text cs)

variable {s : Scope}

/-- A term that is no operator is read as it is. -/
theorem hasText_of_rank {t : Term} {cs : List Char} (hrank : t.rank = 6) (hwritten : t.Written)
    (ht : t.eval s = some (.text cs)) : HasText s t cs :=
  ⟨t, rfl, ⟨by simp [hrank, Operator.rank], hwritten⟩, ht⟩

theorem HasText.concat {a b : Term} {x y : List Char} (ha : HasText s a x) (hb : HasText s b y) :
    HasText s (concat a b) (x ++ y) := by
  obtain ⟨u, hu, huchain, hutext⟩ := ha
  obtain ⟨v, hv, hvchain, hvtext⟩ := hb
  refine ⟨append u v, ?_, huchain.append hvchain, eval_append hutext hvtext⟩
  rw [fragment_append]
  exact fragment_concat_congr hu hv

theorem HasText.value?_code {t : Term} {cs : List Char} (h : HasText s t cs) :
    s.value? t.code.fragment = some (.text cs) := by
  obtain ⟨u, hu, hchain, htext⟩ := h
  rw [Scope.value?, ← hu, termOf?_code hchain.written]
  exact htext

end Term

/-! ## The term for a group -/

namespace LabelSet

variable (L : LabelSet) (keys : List LabelName)

/-- The pairs of the keys, with an absent label as empty. -/
def groupPairs : List Pair :=
  keys.map fun key => (key, (L.value? key).getD "")

def groupText : List Char :=
  pairsText (L.groupPairs keys)

theorem plain_groupPairs : ∀ p ∈ L.groupPairs keys, ',' ∉ p.2.toList := by
  intro p hp
  obtain ⟨key, -, rfl⟩ := List.mem_map.mp hp
  exact L.comma_not_mem_value

end LabelSet

namespace Term

variable {s : Scope} {L : LabelSet} {value : LabelName → Term}

theorem hasText_orEmpty {t : Term} {v? : Option String} (hwritten : t.Written)
    (h : t.eval s = some (.ofText? v?)) :
    HasText s (coalesce t (text "")) (v?.getD "").toList := by
  refine hasText_of_rank rfl ⟨hwritten, trivial⟩ ?_
  rw [eval, h]
  cases v? <;> rfl

/-- What the separator of a group adds to a text. -/
theorem hasText_foldl {piece : LabelName → Term} {pair : LabelName → Pair}
    (hpiece : ∀ key, HasText s (piece key) (pairText (pair key))) (keys : List LabelName)
    {a : Term} {cs : List Char} (ha : HasText s a cs) :
    HasText s ((keys.map piece).foldl (fun a b => concat (concat a (text ",")) b) a)
      (cs ++ startedPairs (keys.map pair)) := by
  have hcomma : HasText s (text ",") [','] := hasText_of_rank rfl trivial rfl
  induction keys generalizing a cs with
  | nil => simpa [startedPairs] using ha
  | cons key keys ih =>
    have hnext := ih ((ha.concat hcomma).concat (hpiece key))
    simpa [startedPairs] using hnext

theorem hasText_groupKey (hwritten : ∀ key, (value key).Written)
    (heval : ∀ key, (value key).eval s = some (.ofText? (L.value? key))) (keys : List LabelName) :
    HasText s (groupKey value keys) (L.groupText keys) := by
  have hpiece (key : LabelName) :
      HasText s (concat (concat (bound key.text) (text "=")) (coalesce (value key) (text "")))
        (pairText (key, (L.value? key).getD "")) := by
    have hname : HasText s (bound key.text) key.text.toList := hasText_of_rank rfl trivial rfl
    have hequals : HasText s (text "=") ['='] := hasText_of_rank rfl trivial rfl
    have hpair := (hname.concat hequals).concat (hasText_orEmpty (hwritten key) (heval key))
    rwa [List.append_assoc] at hpair
  cases keys with
  | nil => exact hasText_of_rank rfl trivial rfl
  | cons first rest =>
    rw [LabelSet.groupText, LabelSet.groupPairs, List.map_cons, pairsText_cons]
    exact hasText_foldl hpiece rest (hpiece first)

theorem written_extract (key : LabelName) : (extract key).Written := by
  simp [extract, valueStart, keyPosition, padded, labels, Written, Operator.Between, rank,
    Operator.rank]

end Term

/-! ## The text of a group -/

theorem pairText_injective : Function.Injective pairText := by
  intro p q h
  have hnames : p.1.text.toList = q.1.text.toList := by
    rw [← takeWhile_name p.1 p.2.toList, ← takeWhile_name q.1 q.2.toList]
    exact congrArg _ h
  have hvalues : p.2.toList = q.2.toList := by
    rw [pairText, pairText, hnames] at h
    exact (List.cons.inj (List.append_cancel_left h)).2
  exact Prod.ext (LabelName.text_injective (String.toList_inj.mp hnames))
    (String.toList_inj.mp hvalues)

/-- A text gives its pairs back, as there is a comma only between them. -/
theorem splitOn_pairsText {ps : List Pair} (hne : ps ≠ []) (hplain : ∀ p ∈ ps, ',' ∉ p.2.toList) :
    (pairsText ps).splitOn ',' = ps.map pairText := by
  refine List.splitOn_intercalate ',' ?_ (by simpa using hne)
  intro cs hcs
  obtain ⟨p, hp, rfl⟩ := List.mem_map.mp hcs
  exact comma_not_mem_pairText (hplain p hp)

namespace LabelSet

theorem groupText_eq_iff (keys : List LabelName) (L L' : LabelSet) :
    L.groupText keys = L'.groupText keys ↔
      ∀ key ∈ keys, (L.value? key).getD "" = (L'.value? key).getD "" := by
  have hpairs : L.groupPairs keys = L'.groupPairs keys ↔
      ∀ key ∈ keys, (L.value? key).getD "" = (L'.value? key).getD "" := by
    simp [groupPairs, List.map_inj_left]
  rw [← hpairs]
  refine ⟨fun h => ?_, congrArg pairsText⟩
  cases keys with
  | nil => rfl
  | cons key keys =>
    have hsplit (M : LabelSet) :
        (M.groupText (key :: keys)).splitOn ',' = (M.groupPairs (key :: keys)).map pairText :=
      splitOn_pairsText (by simp [groupPairs]) (M.plain_groupPairs _)
    refine pairText_injective.list_map ?_
    rw [← hsplit L, h, hsplit L']

end LabelSet

/-! ## Both terms -/

/-- The scope of a row that refers to a label set of the tables. -/
def Scope.ofSet (s : Scope) (tables : LabelTables) (set : Int) : Scope :=
  { s with
    select := fun query =>
      query.first tables.database [("labeled_samples.label_set_id", .integer set)] }

/-- The scope of a row with a label string. -/
def Scope.ofLabels (s : Scope) (labels : List Char) : Scope :=
  { s with column := Function.update s.column .labels (.text labels) }

/-- The value that the label tables give to a group. -/
theorem value?_groupByTables (s : Scope) {tables : LabelTables} {set : Int}
    (h : tables.Encodable set) (keys : List LabelName) :
    (s.ofSet tables set).value? (Term.groupByTables keys).code.fragment =
      some (.text ((tables.labelSet set h).groupText keys)) := by
  have hwritten : ∀ key : LabelName, (Term.lookup key.text).Written := fun _ => trivial
  refine (Term.hasText_groupKey hwritten ?_ keys).value?_code
  intro key
  rw [← tables.lookup_eq_value? h]
  exact first_valueQuery rfl tables key.text

theorem value?_groupByString (s : Scope) (L : LabelSet) (keys : List LabelName) :
    (s.ofLabels L.text).value? (Term.groupByString keys).code.fragment =
      some (.text (L.groupText keys)) := by
  refine (Term.hasText_groupKey Term.written_extract ?_ keys).value?_code
  intro key
  have hlabels : (s.ofLabels L.text).column .labels = .text (pairsText L.sorted) := by
    simp [Scope.ofLabels, LabelSet.text]
  have hplain : ∀ p ∈ L.sorted, ',' ∉ p.2.toList := fun p hp =>
    L.plain p (L.sorted_perm.mem_iff.mp hp)
  rw [Term.eval_extract hlabels hplain, L.find?_sorted]

/-- The label tables and the label string put a label set into the same group, and two label sets
into one group exactly if they agree on the keys. -/
theorem groupKeys_agree (keys : List LabelName) :
    (∀ (tables : LabelTables) (set : Int) (h : tables.Encodable set) (s s' : Scope),
      let L := tables.labelSet set h
      (s.ofSet tables set).value? (Term.groupByTables keys).code.fragment =
          some (.text (L.groupText keys)) ∧
        (s'.ofLabels L.text).value? (Term.groupByString keys).code.fragment =
          some (.text (L.groupText keys))) ∧
      (∀ L : LabelSet, ∃ (tables : LabelTables) (set : Int) (h : tables.Encodable set),
        tables.labelSet set h = L) ∧
      ∀ L L' : LabelSet, L.groupText keys = L'.groupText keys ↔
        ∀ key ∈ keys, (L.value? key).getD "" = (L'.value? key).getD "" := by
  refine ⟨?_, exists_labelSet_eq, LabelSet.groupText_eq_iff keys⟩
  intro tables set h s s'
  exact ⟨value?_groupByTables s h keys, value?_groupByString s' _ keys⟩

/-- Two label sets: `old_job=web,job=api=v2` and `job=api=v2,zone=`. -/
def serviceTables : LabelTables where
  names := [⟨1, "job"⟩, ⟨2, "old_job"⟩, ⟨3, "zone"⟩]
  values := [⟨1, "api=v2"⟩, ⟨2, ""⟩, ⟨3, "web"⟩]
  memberships := [⟨1, 2, 3⟩, ⟨1, 1, 1⟩, ⟨2, 1, 1⟩, ⟨2, 3, 2⟩]
  nodup_nameIds := by decide
  nodup_nameTexts := by decide
  nodup_valueIds := by decide
  nodup_members := by decide

def serviceKeys : List LabelName :=
  [⟨"job", by decide⟩, ⟨"zone", by decide⟩, ⟨"job", by decide⟩]

theorem encodable_service : serviceTables.Encodable 1 ∧ serviceTables.Encodable 2 := by
  unfold LabelTables.Encodable
  decide +kernel

theorem groupKeys_agree_service :
    let L := serviceTables.labelSet 1 encodable_service.1
    let L' := serviceTables.labelSet 2 encodable_service.2
    (∀ s : Scope,
      (s.ofSet serviceTables 1).value? (Term.groupByTables serviceKeys).code.fragment =
          some (.text "job=api=v2,zone=,job=api=v2".toList) ∧
        (s.ofLabels L.text).value? (Term.groupByString serviceKeys).code.fragment =
          some (.text "job=api=v2,zone=,job=api=v2".toList)) ∧
      L.groupText serviceKeys = L'.groupText serviceKeys := by
  intro L L'
  have htext : L.groupText serviceKeys = "job=api=v2,zone=,job=api=v2".toList := by decide +kernel
  obtain ⟨hvalues, -, hsame⟩ := groupKeys_agree serviceKeys
  refine ⟨?_, (hsame L L').mpr (by decide +kernel)⟩
  intro s
  rw [← htext]
  exact hvalues serviceTables 1 encodable_service.1 s s

end SeriesSql.Labels
