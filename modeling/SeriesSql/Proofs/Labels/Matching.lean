import SeriesSql.Matcher
import SeriesSql.Proofs.Labels.Joins

/-!
# Matchers and their filters

A matcher is evaluated on the value of a label, and its filter is a query in the label tables.  By
`passes?_filter` a row passes the filter exactly if the matcher holds of the value that the label
set of the row gives to the label, or of none if the set has no such label.

There are three groups.

* The filter as it is read.
* What the query finds: the sets that have the key with a value that passes (`mem_sets_iff`).
* Matchers, which compare values as their filters do.
-/

namespace SeriesSql

open Sql Labels

/-! ## Reading the filter -/

namespace MembershipFilter

variable (f : MembershipFilter)

def valueCondition : Query.Condition :=
  ⟨.column Query.Place.filter.valueColumn, if f.pattern then .regexp else .equal, .value f.operand⟩

def query : Query.Filter where
  column := "mi.label_set_id"
  negated := f.negated
  query := Query.Place.filter.select Query.Place.filter.setColumn
    [Query.Place.filter.hasName f.key, f.valueCondition]

def selectTokens : List Token :=
  [.word "SELECT", .word "m_lsm.label_set_id", .word "FROM", .word "label_set_membership",
    .word "m_lsm", .word "JOIN", .word "label_key", .word "m_lk", .word "ON", .word "m_lk.id",
    .word "=", .word "m_lsm.label_key_id", .word "JOIN", .word "label_value", .word "m_lv",
    .word "ON", .word "m_lv.id", .word "=", .word "m_lsm.label_value_id", .word "WHERE",
    .word "m_lk.name", .word "=", .value f.key, .word "AND", .word "m_lv.value",
    .word (if f.pattern then "REGEXP" else "="), .value f.operand]

def columnTokens : List Token :=
  if f.negated then [.word "mi.label_set_id", .word "NOT", .word "IN"]
  else [.word "mi.label_set_id", .word "IN"]

def tokens : List Token :=
  f.columnTokens ++ .word "(" :: (f.selectTokens ++ [.word ")"])

theorem readFilter_tokens : Query.readFilter f.tokens = some f.query := by
  obtain ⟨negated, pattern, key, operand⟩ := f
  cases negated <;> cases pattern <;> rfl

theorem readAs_select :
    (w "SELECT m_lsm.label_set_id FROM label_set_membership m_lsm" ++
      w " JOIN label_key m_lk ON m_lk.id = m_lsm.label_key_id" ++
      w " JOIN label_value m_lv ON m_lv.id = m_lsm.label_value_id" ++
      w " WHERE m_lk.name = " ++ .bound (.text f.key) ++
      (if f.pattern then w " AND m_lv.value REGEXP " else w " AND m_lv.value = ") ++
      .bound (.text f.operand)).ReadAs f.selectTokens := by
  have hfrom : (w "SELECT m_lsm.label_set_id FROM label_set_membership m_lsm").ReadAs
      [.word "SELECT", .word "m_lsm.label_set_id", .word "FROM", .word "label_set_membership",
        .word "m_lsm"] := Code.readAs_w rfl (by decide +kernel)
  have hkeys : (w " JOIN label_key m_lk ON m_lk.id = m_lsm.label_key_id").ReadAs
      [.word "JOIN", .word "label_key", .word "m_lk", .word "ON", .word "m_lk.id", .word "=",
        .word "m_lsm.label_key_id"] := Code.readAs_w rfl (by decide +kernel)
  have hvalues : (w " JOIN label_value m_lv ON m_lv.id = m_lsm.label_value_id").ReadAs
      [.word "JOIN", .word "label_value", .word "m_lv", .word "ON", .word "m_lv.id", .word "=",
        .word "m_lsm.label_value_id"] := Code.readAs_w rfl (by decide +kernel)
  have hwhere : (w " WHERE m_lk.name = ").ClosedAs
      [.word "WHERE", .word "m_lk.name", .word "="] := Code.closedAs_w rfl (by decide +kernel)
  have hand : (if f.pattern then w " AND m_lv.value REGEXP " else w " AND m_lv.value = ").ClosedAs
      [.word "AND", .word "m_lv.value", .word (if f.pattern then "REGEXP" else "=")] := by
    split <;> exact Code.closedAs_w rfl (by decide +kernel)
  have hoff :
      (if f.pattern then w " AND m_lv.value REGEXP " else w " AND m_lv.value = ").SetOff := by
    split <;> exact Code.setOff_w rfl (by decide)
  have htables := (hfrom.append hkeys (Code.setOff_w rfl (by decide))).append hvalues
    (Code.setOff_w rfl (by decide))
  have hname := (htables.append_closed hwhere (Code.setOff_w rfl (by decide))).append
    (Code.closedAs_bound f.key).readAs
  exact (hname.append_closed hand hoff).append (Code.closedAs_bound f.operand).readAs

theorem readAs_code : f.code.ReadAs f.tokens := by
  have hcolumn :
      (if f.negated then w "mi.label_set_id NOT IN " else w "mi.label_set_id IN ").ClosedAs
        f.columnTokens := by
    unfold columnTokens
    split <;> exact Code.closedAs_w rfl (by decide +kernel)
  exact hcolumn.append f.readAs_select.parens.readAs

theorem apart_code : f.code.Apart false := by
  unfold code
  split <;> split <;> simp

/-- The code of a filter is read as its query. -/
theorem passes?_code (db : Query.Database) (row : Query.Row) :
    passes? db row f.code.fragment = f.query.passes db row := by
  rw [passes?, f.readAs_code.tokens_fragment f.apart_code]
  change (Query.readFilter f.tokens).bind _ = _
  rw [f.readFilter_tokens]
  rfl

/-! ## What the query finds -/

section Rows

open Query

variable (row : Row) (tables : LabelTables)

/-- What the filter compares a value by. -/
def Tests (test : String → Bool) : Prop :=
  ∀ value : String,
    f.valueCondition.comparison.apply (.text value.toList) (.text f.operand.toList) =
      some (.ofBool (test value))

/-- The members of the join that the filter keeps. -/
def found (test : String → Bool) : List ((Membership × Entry) × Entry) :=
  (tables.joined.filter fun x => x.1.2.text.toList == f.key.toList).filter fun x => test x.2.text

variable {f} {test : String → Bool}

theorem Tests.keep_valueCondition (h : f.Tests test) (xs : List ((Membership × Entry) × Entry)) :
    keep f.valueCondition (xs.map (Place.filter.joinedRow row)) =
      some ((xs.filter fun x => test x.2.text).map (Place.filter.joinedRow row)) := by
  refine keep_map (fun x => ?_) xs
  exact Condition.holds_of_apply (Place.filter.lookup_valueColumn row x) rfl (h x.2.text)

theorem Tests.values_query (h : f.Tests test) :
    f.query.query.values tables.database row =
      some (((f.found tables test).map fun x => x.1.1.set).map .integer) := by
  rw [List.map_map]
  refine Place.filter.values_select row tables ?_ (Place.filter.lookup_setColumn row)
  simp only [List.foldlM_cons, List.foldlM_nil, Place.keep_hasName, h.keep_valueCondition,
    Option.bind_eq_bind, Option.bind_some, Option.pure_def, found]

variable {tables}

theorem mem_found_iff {x : (Membership × Entry) × Entry} :
    x ∈ f.found tables test ↔ x ∈ tables.joined ∧ x.1.2.text = f.key ∧ test x.2.text = true := by
  simp only [found, List.mem_filter, beq_iff_eq, String.toList_inj, and_assoc]

/-- The query finds the sets that have the key with a value that passes. -/
theorem mem_sets_iff {set : Int} :
    set ∈ (f.found tables test).map (fun x => x.1.1.set) ↔
      ∃ value, tables.lookup set f.key = some value ∧ test value = true := by
  simp only [LabelTables.lookup_eq_some_iff]
  constructor
  · intro hmem
    obtain ⟨x, hfound, rfl⟩ := List.mem_map.mp hmem
    obtain ⟨hjoined, hkey, hpasses⟩ := mem_found_iff.mp hfound
    exact ⟨x.2.text, ⟨x, hjoined, rfl, hkey, rfl⟩, hpasses⟩
  · rintro ⟨value, ⟨x, hjoined, rfl, hkey, rfl⟩, hpasses⟩
    exact List.mem_map.mpr ⟨x, mem_found_iff.mpr ⟨hjoined, hkey, hpasses⟩, rfl⟩

variable {row}

/-- A row passes the filter if its set has the key with a value that passes, and if it has not in
case of a negation. -/
theorem Tests.passes_query (h : f.Tests test) {set : Int}
    (hrow : row.lookup "mi.label_set_id" = some (.integer set)) :
    f.query.passes tables.database row =
      some ((tables.lookup set f.key).any test != f.negated) := by
  have hfound : decide (set ∈ (f.found tables test).map fun x => x.1.1.set) =
      (tables.lookup set f.key).any test := by
    rw [Bool.eq_iff_iff, decide_eq_true_iff, mem_sets_iff, Option.any_eq_true]
  have hcolumn : f.query.column = "mi.label_set_id" := rfl
  have hnegated : f.query.negated = f.negated := rfl
  rw [Filter.passes, hcolumn, hrow, h.values_query, hnegated]
  simp only [Option.bind_eq_bind, Option.bind_some, Datum.isIn_integers, hfound, Datum.not_ofBool,
    Datum.passes_ofBool]
  cases f.negated <;> simp

end Rows

end MembershipFilter

/-! ## Matchers -/

namespace Matcher

variable (m : Matcher)

theorem holds_eq (value? : Option String) :
    m.holds value? = (value?.any m.accepts != m.kind.isNegated) := by
  cases value? with
  | none => simp [holds]
  | some value => rfl

/-- The filter compares values as the matcher does, if a pattern is bound between anchors. -/
theorem tests_filter {mode : PatternMode} (hmode : m.kind.isRegex = true → mode = .fullMatch) :
    (m.filter mode).Tests m.accepts := by
  intro value
  cases hregex : m.kind.isRegex with
  | true =>
    obtain rfl := hmode hregex
    obtain ⟨node, hnode⟩ : ∃ node, Regex.parse? (Regex.anchored m.value) = some node := by
      have hreadable := m.readable hregex
      rw [isPattern, Bool.and_eq_true] at hreadable
      exact Option.isSome_iff_exists.mp hreadable.2
    simp [filter, MembershipFilter.valueCondition, hregex, Query.Comparison.apply, Datum.search,
      accepts, hnode]
  | false =>
    have hsame : (value.toList == m.value.toList) = (value == m.value) := by
      rw [Bool.eq_iff_iff, beq_iff_eq, beq_iff_eq, String.toList_inj]
    simp [filter, MembershipFilter.valueCondition, hregex, Query.Comparison.apply, Datum.equal,
      accepts, hsame]

/-- A row passes the filter of a matcher exactly if the matcher holds of the label set of the row,
also if the label is absent.  A pattern has to be bound between anchors. -/
theorem passes?_filter (tables : LabelTables) {set : Int} {row : Query.Row}
    (hrow : row.lookup "mi.label_set_id" = some (.integer set)) :
    passes? tables.database row (m.filter .fullMatch).code.fragment =
        some (m.holds (tables.lookup set m.name.text)) ∧
      (m.kind.isRegex = false →
        passes? tables.database row (m.filter .search).code.fragment =
          some (m.holds (tables.lookup set m.name.text))) := by
  have hpasses {mode : PatternMode} (hmode : m.kind.isRegex = true → mode = .fullMatch) :
      passes? tables.database row (m.filter mode).code.fragment =
        some (m.holds (tables.lookup set m.name.text)) := by
    rw [MembershipFilter.passes?_code, holds_eq]
    exact (m.tests_filter hmode).passes_query hrow
  refine ⟨hpasses fun _ => rfl, fun hplain => hpasses fun hregex => ?_⟩
  rw [hplain] at hregex
  cases hregex

/-- One set has the region `eu-1` and the other one has none. -/
def regionTables : LabelTables where
  names := [⟨1, "job"⟩, ⟨2, "region"⟩]
  values := [⟨1, "api"⟩, ⟨2, "eu-1"⟩]
  memberships := [⟨1, 1, 1⟩, ⟨1, 2, 2⟩, ⟨2, 1, 1⟩]
  nodup_nameIds := by decide
  nodup_nameTexts := by decide
  nodup_valueIds := by decide
  nodup_members := by decide

def regionMatcher (kind : MatchKind) : Matcher :=
  ⟨⟨"region", by decide⟩, kind, "eu-.", fun _ => by decide +kernel⟩

/-- The pattern matches the region of the first set, and the second set has no region; the text is
not that of the region. -/
theorem passes?_filter_region :
    (passes? regionTables.database [("mi.label_set_id", .integer 1)]
          ((regionMatcher .notRegex).filter .fullMatch).code.fragment = some false ∧
        passes? regionTables.database [("mi.label_set_id", .integer 2)]
          ((regionMatcher .notRegex).filter .fullMatch).code.fragment = some true) ∧
      passes? regionTables.database [("mi.label_set_id", .integer 1)]
          ((regionMatcher .notEqual).filter .search).code.fragment = some true := by
  have hrow (set : Int) :
      List.lookup "mi.label_set_id" [("mi.label_set_id", Datum.integer set)] =
        some (.integer set) := rfl
  have hpresent : (regionMatcher .notRegex).holds (regionTables.lookup 1 "region") = false := by
    decide +kernel
  have habsent : (regionMatcher .notRegex).holds (regionTables.lookup 2 "region") = true := by
    decide +kernel
  have hother : (regionMatcher .notEqual).holds (regionTables.lookup 1 "region") = true := by
    decide +kernel
  exact ⟨⟨hpresent ▸ (passes?_filter _ regionTables (hrow 1)).1,
    habsent ▸ (passes?_filter _ regionTables (hrow 2)).1⟩,
    hother ▸ (passes?_filter _ regionTables (hrow 1)).2 rfl⟩

end Matcher

end SeriesSql
