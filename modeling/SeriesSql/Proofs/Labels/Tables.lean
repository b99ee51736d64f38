import SeriesSql.Proofs.Labels.Encoding

/-!
# The label tables

A label set has a number.  Its pairs stand in three tables: the names and the values of labels, each
with a number, and the memberships, which give a name and a value to a set.  The keys of the schema
make names, values and memberships unique, and so no set has a name twice: `nodup_names`.

`LabelTables.labelSet` is the label set with a number, and every label set is one of some tables:
`exists_labelSet_eq`.
-/

namespace SeriesSql.Labels

/-- A row of the names or of the values. -/
structure Entry where
  id : Int
  text : String

/-- A pair of a label set, by the numbers of the set, the name and the value. -/
structure Membership where
  set : Int
  name : Int
  value : Int

structure LabelTables where
  names : List Entry
  values : List Entry
  memberships : List Membership
  nodup_nameIds : (names.map Entry.id).Nodup
  nodup_nameTexts : (names.map Entry.text).Nodup
  nodup_valueIds : (values.map Entry.id).Nodup
  nodup_members : (memberships.map fun m => (m.set, m.name)).Nodup

/-- At most one entry has a number. -/
theorem filter_id_eq {entries : List Entry} (h : (entries.map Entry.id).Nodup) {e : Entry}
    (he : e ∈ entries) : entries.filter (·.id = e.id) = [e] := by
  induction entries with
  | nil => cases he
  | cons first rest ih =>
    rw [List.map_cons, List.nodup_cons] at h
    rcases List.mem_cons.mp he with rfl | he
    · have hrest : rest.filter (·.id = e.id) = [] := by
        rw [List.filter_eq_nil_iff]
        intro other hother hid
        exact h.1 (List.mem_map.mpr ⟨other, hother, by simpa using hid⟩)
      rw [List.filter_cons_of_pos (by simp), hrest]
    · have hfirst : first.id ≠ e.id := by
        intro hid
        exact h.1 (hid ▸ List.mem_map_of_mem he)
      rw [List.filter_cons_of_neg (by simpa using hfirst), ih h.2 he]

namespace LabelTables

variable (tables : LabelTables)

/-- The names and values of one membership. -/
def entries (m : Membership) : List (String × String) :=
  (tables.names.filter (·.id = m.name)).flatMap fun name =>
    (tables.values.filter (·.id = m.value)).map fun value => (name.text, value.text)

/-- The names and values of a set, as the three tables are joined. -/
def join (set : Int) : List (String × String) :=
  (tables.memberships.filter (·.set = set)).flatMap tables.entries

/-- The value that a set gives to a name. -/
def lookup (set : Int) (name : String) : Option String :=
  ((tables.join set).find? (·.1 = name)).map Prod.snd

variable {tables}

/-- One membership has at most one pair, with the text of its name. -/
theorem entries_cases (m : Membership) :
    tables.entries m = [] ∨ ∃ name ∈ tables.names, ∃ value ∈ tables.values,
      name.id = m.name ∧ value.id = m.value ∧ tables.entries m = [(name.text, value.text)] := by
  by_cases hname : ∃ name ∈ tables.names, name.id = m.name
  · obtain ⟨name, hname, hnameId⟩ := hname
    by_cases hvalue : ∃ value ∈ tables.values, value.id = m.value
    · obtain ⟨value, hvalue, hvalueId⟩ := hvalue
      refine .inr ⟨name, hname, value, hvalue, hnameId, hvalueId, ?_⟩
      rw [entries, ← hnameId, ← hvalueId, filter_id_eq tables.nodup_nameIds hname,
        filter_id_eq tables.nodup_valueIds hvalue]
      rfl
    · have hnone : tables.values.filter (·.id = m.value) = [] := by
        simpa using hvalue
      exact .inl (by simp [entries, hnone])
  · have hnone : tables.names.filter (·.id = m.name) = [] := by
      simpa using hname
    exact .inl (by simp [entries, hnone])

/-- A text is that of one name only. -/
theorem id_eq_of_text_eq {first second : Entry} (hfirst : first ∈ tables.names)
    (hsecond : second ∈ tables.names) (h : first.text = second.text) : first.id = second.id := by
  rw [List.inj_on_of_nodup_map tables.nodup_nameTexts hfirst hsecond h]

/-- No set has a name twice. -/
theorem nodup_names (set : Int) : ((tables.join set).map Prod.fst).Nodup := by
  rw [join, List.map_flatMap, List.nodup_flatMap]
  constructor
  · intro m _
    rcases tables.entries_cases m with hnone | ⟨name, _, value, _, _, _, hentries⟩
    · simp [hnone]
    · simp [hentries]
  · have hmembers : (tables.memberships.filter (·.set = set)).Pairwise
        fun m n => (m.set, m.name) ≠ (n.set, n.name) :=
      (List.pairwise_map.mp tables.nodup_members).filter _
    refine hmembers.imp_of_mem ?_
    intro m n hm hn hne text hmtext hntext
    have hset : m.set = n.set := by
      have hm := (List.mem_filter.mp hm).2
      have hn := (List.mem_filter.mp hn).2
      simp only [decide_eq_true_eq] at hm hn
      rw [hm, hn]
    rcases tables.entries_cases m with hnone | ⟨name, hname, _, _, hid, _, hentries⟩
    · simp [hnone] at hmtext
    rcases tables.entries_cases n with hnone | ⟨name', hname', _, _, hid', _, hentries'⟩
    · simp [hnone] at hntext
    have htext : text = name.text := by simpa [hentries] using hmtext
    have htext' : text = name'.text := by simpa [hentries'] using hntext
    have hids := id_eq_of_text_eq hname hname' (htext.symm.trans htext')
    exact hne (by rw [hset, ← hid, ← hid', hids])

variable (tables)

/-- The label string can hold the pairs of a set. -/
def Encodable (set : Int) : Prop :=
  ∀ p ∈ tables.join set, isLabelName p.1 = true ∧ ',' ∉ p.2.toList

/-- The pairs of a set with their names checked. -/
def pairs (set : Int) (h : tables.Encodable set) : List Pair :=
  (tables.join set).attach.map fun p => (⟨p.1.1, (h p.1 p.2).1⟩, p.1.2)

theorem map_pairs {set : Int} (h : tables.Encodable set) :
    (tables.pairs set h).map (fun p => (p.1.text, p.2)) = tables.join set := by
  rw [pairs, List.map_map]
  exact List.attach_map_subtype_val _

/-- The label set with a number. -/
def labelSet (set : Int) (h : tables.Encodable set) : LabelSet where
  pairs := tables.pairs set h
  distinct := by
    have hnames := tables.nodup_names set
    rw [← tables.map_pairs h, List.map_map] at hnames
    refine List.Nodup.of_map LabelName.text ?_
    rwa [List.map_map]
  plain := by
    intro p hp
    obtain ⟨q, -, rfl⟩ := List.mem_map.mp hp
    exact (h q.1 q.2).2

/-- The tables and the label set give the same value. -/
theorem lookup_eq_value? {set : Int} (h : tables.Encodable set) (key : LabelName) :
    tables.lookup set key.text = (tables.labelSet set h).value? key := by
  have hkey : ∀ p : Pair, (p.1.text = key.text) = (p.1 = key) := fun p =>
    propext LabelName.text_injective.eq_iff
  rw [lookup, ← tables.map_pairs h, List.find?_map, Option.map_map, LabelSet.value?]
  simp only [Function.comp_def, hkey]
  rfl

end LabelTables

/-! ## Storing a label set -/

namespace LabelSet

variable (L : LabelSet)

/-- The pairs with their places. -/
theorem nodup_places : (L.pairs.zipIdx.map fun p => (p.2 : Int)).Nodup := by
  have hplaces : (L.pairs.zipIdx.map fun p => (p.2 : Int)) =
      (List.range' 0 L.pairs.length).map Int.ofNat := by
    rw [← List.zipIdx_map_snd, List.map_map]
    rfl
  rw [hplaces]
  exact (List.nodup_range').map fun _ _ => Int.ofNat.inj

/-- Tables with one set, whose pairs are numbered by their places. -/
def tables : LabelTables where
  names := L.pairs.zipIdx.map fun p => ⟨p.2, p.1.1.text⟩
  values := L.pairs.zipIdx.map fun p => ⟨p.2, p.1.2⟩
  memberships := L.pairs.zipIdx.map fun p => ⟨0, p.2, p.2⟩
  nodup_nameIds := by
    rw [List.map_map]
    exact L.nodup_places
  nodup_nameTexts := by
    have hdistinct := L.distinct.map LabelName.text_injective
    rw [List.map_map, ← List.zipIdx_map_fst 0 L.pairs, List.map_map] at hdistinct
    rw [List.map_map]
    exact hdistinct
  nodup_valueIds := by
    rw [List.map_map]
    exact L.nodup_places
  nodup_members := by
    refine List.Nodup.of_map Prod.snd ?_
    rw [List.map_map, List.map_map]
    exact L.nodup_places

theorem join_tables : L.tables.join 0 = L.pairs.map fun p => (p.1.text, p.2) := by
  have hentries : ∀ p ∈ L.pairs.zipIdx, L.tables.entries ⟨0, p.2, p.2⟩ = [(p.1.1.text, p.1.2)] := by
    intro p hp
    have hname : (⟨p.2, p.1.1.text⟩ : Entry) ∈ L.tables.names := List.mem_map_of_mem hp
    have hvalue : (⟨p.2, p.1.2⟩ : Entry) ∈ L.tables.values := List.mem_map_of_mem hp
    have hnames := filter_id_eq L.tables.nodup_nameIds hname
    have hvalues := filter_id_eq L.tables.nodup_valueIds hvalue
    simp only at hnames hvalues
    rw [LabelTables.entries]
    simp only [hnames, hvalues]
    rfl
  have hall : L.tables.memberships.filter (·.set = 0) = L.tables.memberships := by
    rw [List.filter_eq_self]
    intro m hm
    obtain ⟨p, -, rfl⟩ := List.mem_map.mp hm
    rfl
  calc L.tables.join 0
      = L.pairs.zipIdx.flatMap fun p => L.tables.entries ⟨0, p.2, p.2⟩ := by
        rw [LabelTables.join, hall, tables, List.flatMap_map]
    _ = L.pairs.zipIdx.flatMap fun p => [(p.1.1.text, p.1.2)] := List.flatMap_congr hentries
    _ = L.pairs.map fun p => (p.1.text, p.2) := by
        rw [← List.map_eq_flatMap]
        conv_rhs => rw [← List.zipIdx_map_fst 0 L.pairs, List.map_map]
        rfl

theorem encodable_tables : L.tables.Encodable 0 := by
  intro p hp
  rw [join_tables] at hp
  obtain ⟨q, hq, rfl⟩ := List.mem_map.mp hp
  exact ⟨q.1.valid, L.plain q hq⟩

end LabelSet

/-- Every label set is one of some tables. -/
theorem exists_labelSet_eq (L : LabelSet) :
    ∃ (tables : LabelTables) (set : Int) (h : tables.Encodable set), tables.labelSet set h = L := by
  refine ⟨L.tables, 0, L.encodable_tables, ?_⟩
  have hpairs := L.tables.map_pairs L.encodable_tables
  rw [L.join_tables] at hpairs
  have hinjective : Function.Injective fun p : Pair => (p.1.text, p.2) := by
    intro p q hpq
    rw [Prod.mk.injEq] at hpq
    exact Prod.ext (LabelName.text_injective hpq.1) hpq.2
  have hsame : L.tables.pairs 0 L.encodable_tables = L.pairs := hinjective.list_map hpairs
  cases L
  exact LabelSet.mk.injEq .. |>.mpr hsame

end SeriesSql.Labels
