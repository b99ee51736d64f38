import SeriesSql.Proofs.Compile.SameCode

/-!
# What a statement does not depend on

Parentheses leave no trace in a statement: `compile_withoutParens`.  Each option acts on its own
construct only, and none of them on success: `statement_options`.  Both come from the congruence
`SameCode`, by one induction over expressions for each thing that may be changed.

There are four groups.

* The expressions inside an expression.
* Parentheses.
* The labels of groups, which are not read unless grouping is canonical.
* Options.
-/

namespace SeriesSql

open Sql Compile

namespace Expr

/-! ## Expressions inside an expression -/

mutual

/-- An expression and all expressions inside it. -/
def nodes : Expr → List Expr
  | call function args => call function args :: nodesList args
  | aggregate operator grouping operand => aggregate operator grouping operand :: operand.nodes
  | binary operator mode left right =>
    binary operator mode left right :: (left.nodes ++ right.nodes)
  | paren inner => paren inner :: inner.nodes
  | selector s => [selector s]
  | number x => [number x]
  | text s => [text s]

def nodesList : List Expr → List Expr
  | [] => []
  | e :: rest => e.nodes ++ nodesList rest

end

theorem nodesList_eq (args : List Expr) : nodesList args = args.flatMap nodes := by
  induction args with
  | nil => rw [nodesList, List.flatMap_nil]
  | cons arg args ih => rw [nodesList, ih, List.flatMap_cons]

theorem nodes_subset_call {arg : Expr} {args : List Expr} (h : arg ∈ args) (function : String) :
    arg.nodes ⊆ (call function args).nodes := by
  intro node hnode
  rw [nodes, nodesList_eq]
  exact List.mem_cons_of_mem _ (List.mem_flatMap.mpr ⟨arg, h, hnode⟩)

/-! ## Parentheses -/

mutual

/-- The expression without any parentheses. -/
def withoutParens : Expr → Expr
  | selector s => selector s
  | call function args => call function (withoutParensList args)
  | aggregate operator grouping operand => aggregate operator grouping operand.withoutParens
  | binary operator mode left right => binary operator mode left.withoutParens right.withoutParens
  | paren inner => inner.withoutParens
  | number x => number x
  | text s => text s

def withoutParensList : List Expr → List Expr
  | [] => []
  | e :: rest => e.withoutParens :: withoutParensList rest

end

theorem withoutParensList_eq (args : List Expr) :
    withoutParensList args = args.map withoutParens := by
  induction args with
  | nil => rw [withoutParensList, List.map_nil]
  | cons arg args ih => rw [withoutParensList, ih, List.map_cons]

theorem paren_not_mem_withoutParens (e inner : Expr) : .paren inner ∉ e.withoutParens.nodes := by
  induction e using Expr.inductionOn with
  | call function args ih =>
    rw [withoutParens, nodes, nodesList_eq, withoutParensList_eq]
    simpa using ih
  | aggregate operator grouping operand ih =>
    rw [withoutParens, nodes]
    simpa using ih
  | binary operator mode left right ihLeft ihRight =>
    rw [withoutParens, nodes]
    simpa using ⟨ihLeft, ihRight⟩
  | paren inner ih =>
    rw [withoutParens]
    exact ih
  | selector | number | text => simp [withoutParens, nodes]

theorem sameCode_withoutParens (o : Options) (e : Expr) : SameCode o o e.withoutParens e := by
  induction e using Expr.inductionOn with
  | selector s => exact .selector rfl s
  | call function args ih =>
    rw [withoutParens, withoutParensList_eq]
    exact .call (List.forall₂_map_left_iff.mpr (List.forall₂_same.mpr ih)) rfl fun _ => rfl
  | aggregate operator grouping operand ih =>
    rw [withoutParens]
    exact ih.aggregate rfl (.refl _ _) operator
  | binary operator mode left right ihLeft ihRight =>
    rw [withoutParens]
    exact ihLeft.binary ihRight operator mode
  | paren inner ih =>
    rw [withoutParens]
    exact ih.paren_right
  | number x => exact .number x
  | text s => exact .text s

/-- Without its parentheses an expression compiles to the same code, and so it has the same
statement, or it fails with the same error.  Only an argument that the error shows is written
without its parentheses then. -/
theorem compile_withoutParens (o : Options) (e : Expr) :
    (∀ inner, .paren inner ∉ e.withoutParens.nodes) ∧
      (∀ c, e.withoutParens.compile o = .ok c ↔ e.compile o = .ok c) ∧
      (∀ f, e.withoutParens.statement o = .ok f ↔ e.statement o = .ok f) ∧
      ∀ cause cause', e.withoutParens.compile o = .error cause → e.compile o = .error cause' →
        cause.hideArgument = cause'.hideArgument := by
  have hsame := sameCode_withoutParens o e
  refine ⟨paren_not_mem_withoutParens e, fun c => hsame.compile_eq_ok_iff,
    fun f => hsame.statement_eq_ok_iff, ?_⟩
  intro cause cause' hcause hcause'
  have herrors := hsame.compile
  rw [hcause, hcause'] at herrors
  exact Except.error.inj herrors

/-- A sum of a relabeled rate and an aggregation, where every construct that looks for something
inside parentheses finds it there. -/
def parenthesizedSum : Expr :=
  .binary "+" .filter
    (.paren (.call "label_set"
      [.paren (.call "rate"
        [.paren (.paren (.selector
          ⟨⟨"node_load", by decide⟩, [], some ⟨60000, none, by decide, by decide⟩⟩))]),
        .paren (.text "env"), .paren (.paren (.text "prod"))]))
    (.aggregate "sum" (.by [⟨"rack", by decide⟩])
      (.paren (.selector ⟨⟨"disk_free", by decide⟩, [], none⟩)))

/-- A label function whose second argument is no text. -/
def parenthesizedKey : Expr :=
  .call "label_set"
    [.selector ⟨⟨"disk_free", by decide⟩, [], none⟩,
      .binary "+" .filter (.selector ⟨⟨"node_load", by decide⟩, [], none⟩)
        (.paren (.selector ⟨⟨"disk_free", by decide⟩, [], none⟩)),
      .text "prod"]

theorem compile_withoutParens_nested :
    (∃ c, parenthesizedSum.compile ⟨true, .edit, .fullMatch, 100⟩ = .ok c ∧
      parenthesizedSum.withoutParens.compile ⟨true, .edit, .fullMatch, 100⟩ = .ok c) ∧
      ∃ cause cause',
        parenthesizedKey.withoutParens.compile ⟨true, .edit, .fullMatch, 100⟩ = .error cause ∧
          parenthesizedKey.compile ⟨true, .edit, .fullMatch, 100⟩ = .error cause' ∧
          cause.message ≠ cause'.message ∧ cause.hideArgument = cause'.hideArgument := by
  obtain ⟨-, hcode, -, -⟩ := compile_withoutParens ⟨true, .edit, .fullMatch, 100⟩ parenthesizedSum
  obtain ⟨-, -, -, herror⟩ := compile_withoutParens ⟨true, .edit, .fullMatch, 100⟩ parenthesizedKey
  refine ⟨⟨_, rfl, (hcode _).mpr rfl⟩, _, _, rfl, rfl, ?_, herror _ _ rfl rfl⟩
  decide +kernel

/-! ## Labels of groups -/

end Expr

/-- Other labels for a clause that groups by some. -/
def Grouping.withLabels (labels : List LabelName) : Grouping → Grouping
  | .by (_ :: _) => .by labels
  | grouping => grouping

theorem Grouping.exchangeable_withLabels {labels : List LabelName} (h : labels ≠ [])
    (grouping : Grouping) : (grouping.withLabels labels).Exchangeable false false grouping := by
  obtain ⟨label, rest, rfl⟩ := List.exists_cons_of_ne_nil h
  intro kind
  match grouping with
  | .by [] | .without [] => exact .error _
  | .by (_ :: _) | .all | .without (_ :: _) => exact .ok ⟨rfl, rfl⟩

namespace Expr

mutual

/-- The expression with other labels in all clauses that group by some. -/
def regroup (labels : List LabelName) : Expr → Expr
  | selector s => selector s
  | call function args => call function (regroupList labels args)
  | aggregate operator grouping operand =>
    aggregate operator (grouping.withLabels labels) (operand.regroup labels)
  | binary operator mode left right =>
    binary operator mode (left.regroup labels) (right.regroup labels)
  | paren inner => paren (inner.regroup labels)
  | number x => number x
  | text s => text s

def regroupList (labels : List LabelName) : List Expr → List Expr
  | [] => []
  | e :: rest => e.regroup labels :: regroupList labels rest

end

theorem regroupList_eq (labels : List LabelName) (args : List Expr) :
    regroupList labels args = args.map (regroup labels) := by
  induction args with
  | nil => rw [regroupList, List.map_nil]
  | cons arg args ih => rw [regroupList, ih, List.map_cons]

theorem sameCode_regroup {o : Options} (ho : o.canonicalGrouping = false) {labels : List LabelName}
    (hlabels : labels ≠ []) (e : Expr) : SameCode o o (e.regroup labels) e := by
  induction e using Expr.inductionOn with
  | selector s => exact .selector rfl s
  | call function args ih =>
    rw [regroup, regroupList_eq]
    exact .call (List.forall₂_map_left_iff.mpr (List.forall₂_same.mpr ih)) rfl fun _ => rfl
  | aggregate operator grouping operand ih =>
    rw [regroup]
    refine ih.aggregate rfl ?_ operator
    rw [ho]
    exact grouping.exchangeable_withLabels hlabels
  | binary operator mode left right ihLeft ihRight =>
    rw [regroup]
    exact ihLeft.binary ihRight operator mode
  | paren inner ih =>
    rw [regroup]
    exact ih.paren_left.paren_right
  | number x => exact .number x
  | text s => exact .text s

/-! ## Options -/

/-- Some aggregation has a clause for the labels that it groups by. -/
def GroupsBy (e : Expr) : Prop :=
  ∃ operator labels operand, .aggregate operator (.by labels) operand ∈ e.nodes

/-- Some labels are deleted, or all but some. -/
def PrunesLabels (e : Expr) : Prop :=
  ∃ args, .call "label_del" args ∈ e.nodes ∨ .call "label_keep" args ∈ e.nodes

end Expr

/-- Canonical grouping matters for a clause with labels only. -/
theorem Grouping.exchangeable_of_by {canonical canonical' : Bool} {grouping : Grouping}
    (h : ∀ labels, grouping = .by labels → canonical = canonical') :
    grouping.Exchangeable canonical canonical' grouping := by
  match grouping with
  | .by labels =>
    rw [h labels rfl]
    exact .refl _ _
  | .all | .without (_ :: _) => exact fun _ => .ok ⟨rfl, rfl⟩
  | .without [] => exact fun _ => .error _

namespace Expr

/-- The induction over `e` keeps `whole` fixed, of which `e` is a part. -/
theorem sameCode_options (o o' : Options) (hpattern : o.patternMode = o'.patternMode)
    {whole : Expr} (hgroups : whole.GroupsBy → o.canonicalGrouping = o'.canonicalGrouping)
    (hmode : whole.PrunesLabels → o.labelMode = o'.labelMode) {e : Expr}
    (he : e.nodes ⊆ whole.nodes) : SameCode o o' e e := by
  induction e using Expr.inductionOn with
  | selector s => exact .selector hpattern s
  | call function args ih =>
    have hcall : .call function args ∈ whole.nodes := he (by simp [nodes])
    refine .call (List.forall₂_same.mpr fun arg harg => ?_) hpattern ?_
    · exact ih arg harg (List.Subset.trans (nodes_subset_call harg function) he)
    · rintro (rfl | rfl)
      · exact hmode ⟨args, .inl hcall⟩
      · exact hmode ⟨args, .inr hcall⟩
  | aggregate operator grouping operand ih =>
    rw [nodes, List.cons_subset] at he
    refine (ih he.2).aggregate hpattern (Grouping.exchangeable_of_by ?_) operator
    rintro labels rfl
    exact hgroups ⟨operator, labels, operand, he.1⟩
  | binary operator mode left right ihLeft ihRight =>
    rw [nodes, List.cons_subset, List.append_subset] at he
    exact (ihLeft he.2.1).binary (ihRight he.2.2) operator mode
  | paren inner ih =>
    rw [nodes, List.cons_subset] at he
    exact (ih he.2).paren_left.paren_right
  | number x => exact .number x
  | text s => exact .text s

theorem agree_statement (o o' : Options) (e : Expr) :
    Agree AnyResults (e.statement o) (e.statement o') :=
  (agree_compile o o' e).bind fun _ _ _ => .ok trivial

/-- Options with which an expression compiles to the same code give it the same statement, since
they do not decide its error. -/
theorem SameCode.statement_eq {o o' : Options} {e : Expr} (h : SameCode o o' e e) :
    e.statement o = e.statement o' := by
  cases hstatement : e.statement o' with
  | error cause => exact (agree_statement o o' e).error_iff.mpr hstatement
  | ok f => exact h.statement_eq_ok_iff.mpr hstatement

/-- Options decide neither success nor the error, and each of them acts on its own construct
only. -/
theorem statement_options (e : Expr) :
    (∀ o o' cause, e.statement o = .error cause ↔ e.statement o' = .error cause) ∧
      (¬ e.GroupsBy → ∀ o canonical,
        e.statement { o with canonicalGrouping := canonical } = e.statement o) ∧
      (¬ e.PrunesLabels → ∀ o mode, e.statement { o with labelMode := mode } = e.statement o) ∧
      (∀ o limit, e.statement { o with maxQueryBytes := limit } = e.statement o) ∧
      ∀ (o : Options) (e' : Expr) labels, o.canonicalGrouping = false → labels ≠ [] →
        e.regroup labels = e'.regroup labels →
          ∀ f, e.statement o = .ok f ↔ e'.statement o = .ok f := by
  refine ⟨fun o o' _ => (agree_statement o o' e).error_iff, ?_, ?_, ?_, ?_⟩
  · intro hgroups o canonical
    exact (sameCode_options { o with canonicalGrouping := canonical } o rfl
      (fun h => absurd h hgroups) (fun _ => rfl) (List.Subset.refl e.nodes)).statement_eq
  · intro hprunes o mode
    exact (sameCode_options { o with labelMode := mode } o rfl
      (fun _ => rfl) (fun h => absurd h hprunes) (List.Subset.refl e.nodes)).statement_eq
  · intro o limit
    exact (sameCode_options { o with maxQueryBytes := limit } o rfl
      (fun _ => rfl) (fun _ => rfl) (List.Subset.refl e.nodes)).statement_eq
  · intro o e' labels ho hlabels hregroup f
    rw [← (sameCode_regroup ho hlabels e).statement_eq_ok_iff, hregroup,
      (sameCode_regroup ho hlabels e').statement_eq_ok_iff]

/-- The free space of disks by the given labels. -/
def freeSpace (labels : List LabelName) : Expr :=
  .aggregate "sum" (.by labels) (.selector ⟨⟨"disk_free", by decide⟩, [], none⟩)

/-- The free space of all disks, without a label. -/
def freeSpaceWithout (label : String) : Expr :=
  .call "label_del"
    [.aggregate "sum" .all (.selector ⟨⟨"disk_free", by decide⟩, [], none⟩), .text label]

def rackLabels : List LabelName := [⟨"rack", by decide⟩]

def shelfLabels : List LabelName := [⟨"shelf", by decide⟩, ⟨"rack", by decide⟩]

theorem statement_options_freeSpace :
    (¬ (freeSpaceWithout "shelf").GroupsBy ∧
      ∃ f, (freeSpaceWithout "shelf").statement ⟨true, .edit, .fullMatch, 100⟩ = .ok f ∧
        (freeSpaceWithout "shelf").statement ⟨false, .edit, .fullMatch, 100⟩ = .ok f) ∧
      (¬ (freeSpace rackLabels).PrunesLabels ∧
        ∃ f, (freeSpace rackLabels).statement ⟨true, .edit, .fullMatch, 100⟩ = .ok f ∧
          (freeSpace rackLabels).statement ⟨true, .legacy, .fullMatch, 100⟩ = .ok f) ∧
      ∃ f, (freeSpace rackLabels).statement ⟨false, .edit, .fullMatch, 100⟩ = .ok f ∧
        (freeSpace shelfLabels).statement ⟨false, .edit, .fullMatch, 100⟩ = .ok f := by
  have hgroups : ¬ (freeSpaceWithout "shelf").GroupsBy := by
    simp [GroupsBy, freeSpaceWithout, nodes, nodesList]
  have hprunes : ¬ (freeSpace rackLabels).PrunesLabels := by
    simp [PrunesLabels, freeSpace, nodes]
  obtain ⟨-, hcanonical, -, -, -⟩ := statement_options (freeSpaceWithout "shelf")
  obtain ⟨-, -, hmode, -, hlabels⟩ := statement_options (freeSpace rackLabels)
  have hracks : rackLabels ≠ [] := List.cons_ne_nil _ _
  refine ⟨⟨hgroups, _, rfl, ?_⟩, ⟨hprunes, _, rfl, ?_⟩, _, rfl, ?_⟩
  · exact hcanonical hgroups ⟨true, .edit, .fullMatch, 100⟩ false
  · exact hmode hprunes ⟨true, .edit, .fullMatch, 100⟩ .legacy
  · exact (hlabels ⟨false, .edit, .fullMatch, 100⟩ (freeSpace shelfLabels) rackLabels rfl hracks
      rfl _).mp rfl

end Expr

end SeriesSql
