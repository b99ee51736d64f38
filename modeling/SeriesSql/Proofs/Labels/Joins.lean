import SeriesSql.Proofs.Labels.Query
import SeriesSql.Proofs.Labels.Tables

/-!
# Queries of the label tables

The queries of the label tables join the memberships with their names and values, and each keeps
some of the joined rows.  By `first_valueQuery` the query for the value of a key finds the value
that the label set of the row at hand gives to the key.

There are three groups.

* The label tables as a database.
* The rows of the joins, which are the same at every place but for the names of the tables.
* The query for a value.
-/

namespace SeriesSql.Labels

open Labels.Query

/-! ## The database -/

def Entry.columns (column : String) (e : Entry) : Row :=
  [("id", .integer e.id), (column, .text e.text.toList)]

def Membership.columns (m : Membership) : Row :=
  [("label_set_id", .integer m.set), ("label_key_id", .integer m.name),
    ("label_value_id", .integer m.value)]

namespace LabelTables

variable (tables : LabelTables)

def database : Database
  | "label_key" => some (tables.names.map (Entry.columns "name"))
  | "label_value" => some (tables.values.map (Entry.columns "value"))
  | "label_set_membership" => some (tables.memberships.map Membership.columns)
  | _ => none

variable {tables}

/-- The memberships with their names and values, in the order of a nested loop. -/
def joined (tables : LabelTables) : List ((Membership × Entry) × Entry) :=
  (((tables.memberships.product tables.names).filter fun x => x.2.id == x.1.name).product
    tables.values).filter fun x => x.2.id == x.1.1.value

theorem mem_joined_iff {m : Membership} {n v : Entry} :
    ((m, n), v) ∈ tables.joined ↔
      (m ∈ tables.memberships ∧ n ∈ tables.names ∧ n.id = m.name) ∧
        v ∈ tables.values ∧ v.id = m.value := by
  simp [joined, List.pair_mem_product, and_assoc]

theorem mem_join_iff {set : Int} {name value : String} :
    (name, value) ∈ tables.join set ↔
      ∃ m ∈ tables.memberships, m.set = set ∧ ∃ n ∈ tables.names, n.id = m.name ∧
        ∃ v ∈ tables.values, v.id = m.value ∧ n.text = name ∧ v.text = value := by
  simp [join, entries, and_assoc]

/-- A set gives a value to a name if the joined tables do. -/
theorem lookup_eq_some_iff {set : Int} {name value : String} :
    tables.lookup set name = some value ↔
      ∃ x ∈ tables.joined, x.1.1.set = set ∧ x.1.2.text = name ∧ x.2.text = value := by
  have hlookup : tables.lookup set name = some value ↔ (name, value) ∈ tables.join set :=
    find?_key_eq_some_iff (tables.nodup_names set)
  rw [hlookup, mem_join_iff]
  constructor
  · rintro ⟨m, hm, hset, n, hn, hname, v, hv, hvalue, hkey, htext⟩
    exact ⟨((m, n), v), mem_joined_iff.mpr ⟨⟨hm, hn, hname⟩, hv, hvalue⟩, hset, hkey, htext⟩
  · rintro ⟨⟨⟨m, n⟩, v⟩, hjoined, hset, hkey, htext⟩
    obtain ⟨⟨hm, hn, hname⟩, hv, hvalue⟩ := mem_joined_iff.mp hjoined
    exact ⟨m, hm, hset, n, hn, hname, v, hv, hvalue, hkey, htext⟩

end LabelTables

/-! ## The joined rows -/

namespace Query.Place

variable (p : Place) (row : Row)

/-- The row of a membership and a name that are joined, before the row around the query. -/
def namedRow (x : Membership × Entry) : Row :=
  named p.nameJoin.source.name (x.2.columns "name") ++ (named p.source.name x.1.columns ++ row)

/-- The row of a membership, a name and a value that are joined. -/
def joinedRow (x : (Membership × Entry) × Entry) : Row :=
  named p.valueJoin.source.name (x.2.columns "value") ++ p.namedRow row x.1

theorem lookup_setColumn (x : (Membership × Entry) × Entry) :
    (p.joinedRow row x).lookup p.setColumn = some (.integer x.1.1.set) := by
  cases p <;>
    simp [joinedRow, namedRow, nameJoin, valueJoin, source, setColumn, named, Entry.columns,
      Membership.columns, List.lookup_cons]

theorem lookup_nameColumn (x : (Membership × Entry) × Entry) :
    (p.joinedRow row x).lookup p.nameColumn = some (.text x.1.2.text.toList) := by
  cases p <;>
    simp [joinedRow, namedRow, nameJoin, valueJoin, nameColumn, named, Entry.columns,
      List.lookup_cons]

theorem lookup_valueColumn (x : (Membership × Entry) × Entry) :
    (p.joinedRow row x).lookup p.valueColumn = some (.text x.2.text.toList) := by
  cases p <;>
    simp [joinedRow, valueJoin, valueColumn, named, Entry.columns, List.lookup_cons]

theorem holds_nameJoin (x : Membership × Entry) :
    p.nameJoin.on.holds (p.namedRow row x) = some (x.2.id == x.1.name) := by
  refine Condition.holds_of_apply (x := .integer x.2.id) (y := .integer x.1.name) ?_ ?_ ?_
  · cases p <;> rfl
  · cases p <;>
      simp [nameJoin, Operand.eval, namedRow, source, named, Entry.columns, Membership.columns,
        List.lookup_cons]
  · cases p <;> rfl

theorem holds_valueJoin (x : (Membership × Entry) × Entry) :
    p.valueJoin.on.holds (p.joinedRow row x) = some (x.2.id == x.1.1.value) := by
  refine Condition.holds_of_apply (x := .integer x.2.id) (y := .integer x.1.1.value) ?_ ?_ ?_
  · cases p <;> rfl
  · cases p <;>
      simp [valueJoin, nameJoin, Operand.eval, joinedRow, namedRow, source, named, Entry.columns,
        Membership.columns, List.lookup_cons]
  · cases p <;> rfl

variable (tables : LabelTables)

theorem rows_joins :
    [p.nameJoin, p.valueJoin].foldlM (Join.rows tables.database)
        (tables.memberships.map fun m => named p.source.name m.columns ++ row) =
      some (tables.joined.map (p.joinedRow row)) := by
  have hnames : tables.database p.nameJoin.source.table =
      some (tables.names.map (Entry.columns "name")) := by cases p <;> rfl
  have hvalues : tables.database p.valueJoin.source.table =
      some (tables.values.map (Entry.columns "value")) := by cases p <;> rfl
  have hnameRows := p.nameJoin.rows_map (fun m : Membership => named p.source.name m.columns ++ row)
    (Entry.columns "name") hnames (p.holds_nameJoin row) tables.memberships
  have hvalueRows := p.valueJoin.rows_map (p.namedRow row) (Entry.columns "value") hvalues
    (p.holds_valueJoin row)
    ((tables.memberships.product tables.names).filter fun x => x.2.id == x.1.name)
  rw [List.foldlM_cons, hnameRows]
  exact (List.foldlM_cons ..).trans (congrArg (· >>= _) hvalueRows)

/-- What a query of the label tables yields, if its conditions keep the rows of `xs`. -/
theorem values_select {conditions : List Condition} {column : String}
    {xs : List ((Membership × Entry) × Entry)} {value : (Membership × Entry) × Entry → Datum}
    (hkeep : conditions.foldlM (fun rows c => keep c rows) (tables.joined.map (p.joinedRow row)) =
      some (xs.map (p.joinedRow row)))
    (hcolumn : ∀ x, (p.joinedRow row x).lookup column = some (value x)) :
    (p.select column conditions).values tables.database row = some (xs.map value) := by
  have hmemberships : tables.database p.source.table =
      some (tables.memberships.map Membership.columns) := by cases p <;> rfl
  have hsource : p.source.extend (tables.memberships.map Membership.columns) row =
      tables.memberships.map fun m => named p.source.name m.columns ++ row := List.map_map
  simp only [Select.values, select, hmemberships, hsource, p.rows_joins, hkeep,
    Option.bind_eq_bind, Option.bind_some]
  exact mapM_lookup_map hcolumn xs

theorem keep_hasName (key : String) (xs : List ((Membership × Entry) × Entry)) :
    keep (p.hasName key) (xs.map (p.joinedRow row)) =
      some ((xs.filter fun x => x.1.2.text.toList == key.toList).map (p.joinedRow row)) := by
  refine keep_map (fun x => ?_) xs
  exact Condition.holds_of_apply (p.lookup_nameColumn row x) rfl rfl

end Query.Place

/-! ## The query for a value -/

section Value

variable {row : Row} {set : Int}
  (hrow : row.lookup "labeled_samples.label_set_id" = some (.integer set))

include hrow

/-- The names of the tables are not those of the row around the query. -/
theorem lookup_set_joinedRow (x : (Membership × Entry) × Entry) :
    (Place.group.joinedRow row x).lookup "labeled_samples.label_set_id" = some (.integer set) := by
  simp [Place.joinedRow, Place.namedRow, Place.nameJoin, Place.valueJoin, Place.source, named,
    Entry.columns, Membership.columns, List.lookup_cons, hrow]

theorem keep_sameSet (xs : List ((Membership × Entry) × Entry)) :
    keep ⟨.column Place.group.setColumn, .equal, .column "labeled_samples.label_set_id"⟩
        (xs.map (Place.group.joinedRow row)) =
      some ((xs.filter fun x => x.1.1.set == set).map (Place.group.joinedRow row)) := by
  refine keep_map (fun x => ?_) xs
  exact Condition.holds_of_apply (Place.group.lookup_setColumn row x) (lookup_set_joinedRow hrow x)
    rfl

/-- The query finds what the set gives to the key, as no set has a name twice. -/
theorem first_valueQuery (tables : LabelTables) (key : String) :
    (valueQuery key).first tables.database row = some (.ofText? (tables.lookup set key)) := by
  let found := (tables.joined.filter fun x => x.1.1.set == set).filter fun x =>
    x.1.2.text.toList == key.toList
  have hfound {x : (Membership × Entry) × Entry} :
      x ∈ found ↔ x ∈ tables.joined ∧ x.1.1.set = set ∧ x.1.2.text = key := by
    simp only [found, List.mem_filter, beq_iff_eq, String.toList_inj, and_assoc]
  have hvalues : (valueQuery key).values tables.database row =
      some (found.map fun x => .text x.2.text.toList) := by
    refine Place.group.values_select row tables ?_ (Place.group.lookup_valueColumn row)
    simp only [List.foldlM_cons, List.foldlM_nil, keep_sameSet hrow, Place.keep_hasName,
      Option.bind_eq_bind, Option.bind_some, Option.pure_def, found]
  rw [Select.first, hvalues]
  cases hrows : found with
  | nil =>
    have hnone : tables.lookup set key = none := by
      rw [Option.eq_none_iff_forall_ne_some]
      intro value hvalue
      obtain ⟨x, hx, hset, hkey, -⟩ := LabelTables.lookup_eq_some_iff.mp hvalue
      have hmem := hfound.mpr ⟨hx, hset, hkey⟩
      rw [hrows] at hmem
      cases hmem
    rw [hnone]
    rfl
  | cons x rest =>
    obtain ⟨hx, hset, hkey⟩ := hfound.mp (hrows ▸ List.mem_cons_self)
    rw [LabelTables.lookup_eq_some_iff.mpr ⟨x, hx, hset, hkey, rfl⟩]
    rfl

end Value

end SeriesSql.Labels
