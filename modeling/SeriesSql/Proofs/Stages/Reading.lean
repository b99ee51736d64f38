import SeriesSql.Proofs.Stages.Cutting

/-!
# Reading staged statements back

The statement of a label function is read as its stages: `readStatement_code`.  Each stage selects
from the one before it, under a name of its own, and the input is the query that the function was
given.

There are three groups.

* Queries that are written right, which are read back from their tokens: `readSelect_tokens`.
* Tables and the query that they are for: `readTables_tokens`.
* The code of a label function.
-/

namespace SeriesSql

open Sql Labels

/-! ## Queries -/

namespace Stages

/-- A word that is no mark and that nothing is split at. -/
def IsPlainWord (name : String) : Prop :=
  name ∉ "(" :: ")" :: stops

instance (name : String) : Decidable (IsPlainWord name) :=
  inferInstanceAs (Decidable (name ∉ "(" :: ")" :: stops))

def Item.tokens : Item → List Token
  | column name => [.word name]
  | term t name => t.tokens ++ [.word "AS", .word name]

def Item.Written : Item → Prop
  | column name => IsPlainWord name
  | term t name => t.Written ∧ IsPlainWord name

def columnTokens (items : List Item) : List Token :=
  [.word ","].intercalate (items.map Item.tokens)

def filterTokens : Option Term → List Token
  | none => []
  | some t => .word "WHERE" :: t.tokens

def nameTokens (names : List String) : List Token :=
  [.word ","].intercalate (names.map fun name => [.word name])

def orderTokens : List String → List Token
  | [] => []
  | names => .word "ORDER" :: .word "BY" :: nameTokens names

namespace Select

/-- What follows the first word of a query. -/
def bodyTokens (s : Select) : List Token :=
  columnTokens s.items ++ .word "FROM" :: .word s.source ::
    (filterTokens s.filter ++ orderTokens s.order)

def tokens (s : Select) : List Token :=
  .word "SELECT" :: s.bodyTokens

structure Written (s : Select) : Prop where
  items_ne_nil : s.items ≠ []
  items : ∀ item ∈ s.items, item.Written
  source : IsPlainWord s.source
  filter : ∀ t ∈ s.filter, t.Written
  order : ∀ name ∈ s.order, IsPlainWord name

end Select

section Passes

variable {stop : String} (hstop : stop ∈ stops) {low : Nat}

include hstop

theorem passes_item {item : Item} (h : item.Written) : Passes (.word stop) 0 item.tokens := by
  cases item with
  | column name => exact passes_word hstop h
  | term t name =>
    have hname := (passes_word hstop (show "AS" ∉ _ by decide)).append (passes_word hstop h.2)
    exact (t.passes_tokens hstop).append hname

theorem passes_columnTokens {items : List Item} (h : ∀ item ∈ items, item.Written)
    (hcomma : low = 0 → stop ≠ ",") : Passes (.word stop) low (columnTokens items) := by
  have hmark : Passes (.word stop) low [.word ","] := by
    refine passes_token (by decide) (by decide) fun hlow hsame => hcomma hlow ?_
    simpa using hsame.symm
  refine passes_intercalate hmark fun part hpart => ?_
  obtain ⟨item, hitem, rfl⟩ := List.mem_map.mp hpart
  exact (passes_item hstop (h item hitem)).mono low

theorem passes_filterTokens (filter : Option Term) :
    Passes (.word stop) 0 (filterTokens filter) := by
  cases filter with
  | none => exact passes_nil
  | some t => exact (passes_word hstop (by decide)).append (t.passes_tokens hstop)

theorem passes_nameTokens {names : List String} (h : ∀ name ∈ names, IsPlainWord name)
    (hcomma : low = 0 → stop ≠ ",") : Passes (.word stop) low (nameTokens names) := by
  have hcolumns := @passes_columnTokens stop hstop low (names.map .column)
    (by simpa [Item.Written] using h) hcomma
  simpa [columnTokens, nameTokens, Function.comp_def, Item.tokens] using hcolumns

theorem passes_orderTokens {names : List String} (h : ∀ name ∈ names, IsPlainWord name)
    (hlow : low = 0 → stop ≠ "," ∧ stop ≠ "ORDER") :
    Passes (.word stop) low (orderTokens names) := by
  cases names with
  | nil => exact passes_nil
  | cons name names =>
    have horder : Passes (.word stop) low [.word "ORDER"] := by
      refine passes_token (by decide) (by decide) fun hzero hsame => (hlow hzero).2 ?_
      simpa using hsame.symm
    have hby : Passes (.word stop) low [.word "BY"] := (passes_word hstop (by decide)).mono low
    exact (horder.append hby).append (passes_nameTokens hstop h fun hzero => (hlow hzero).1)

/-- The words of a query stop a split, except at `SELECT` after the first word. -/
theorem Select.Written.passes_bodyTokens {s : Select} (h : s.Written)
    (hlow : low = 0 → stop = "SELECT") : Passes (.word stop) low s.bodyTokens := by
  have hother {word : String} (hword : word ≠ "SELECT") : low = 0 → stop ≠ word := by
    rintro hzero rfl
    exact hword (hlow hzero)
  have hfrom : Passes (.word stop) low [.word "FROM"] := by
    refine passes_token (by decide) (by decide) fun hzero hsame => ?_
    exact hother (show "FROM" ≠ _ by decide) hzero (by simpa using hsame.symm)
  have hsource : Passes (.word stop) low [.word s.source] := (passes_word hstop h.source).mono low
  have hrest := ((passes_filterTokens hstop s.filter).mono low).append
    (passes_orderTokens hstop h.order fun hzero =>
      ⟨hother (by decide) hzero, hother (by decide) hzero⟩)
  exact (passes_columnTokens hstop h.items (hother (by decide))).append
    (hfrom.append (hsource.append hrest))

end Passes

/-- A `mapM` over what is made of the members of a list. -/
theorem mapM_map_eq_some {α β γ : Type} {f : α → β} {g : β → Option γ} {h : α → γ} {xs : List α}
    (hxs : ∀ x ∈ xs, g (f x) = some (h x)) : (xs.map f).mapM g = some (xs.map h) := by
  induction xs with
  | nil => rfl
  | cons x xs ih =>
    obtain ⟨hx, hxs⟩ := List.forall_mem_cons.mp hxs
    rw [List.map_cons, List.mapM_cons, hx, ih hxs]
    rfl

/-- What is read of each member gives the list back. -/
theorem mapM_map_eq_self {α β : Type} {f : α → β} {g : β → Option α} {xs : List α}
    (hxs : ∀ x ∈ xs, g (f x) = some x) : (xs.map f).mapM g = some xs := by
  have hmap : (xs.map f).mapM g = some (xs.map id) := mapM_map_eq_some hxs
  rwa [List.map_id] at hmap

theorem readItem_tokens {item : Item} (h : item.Written) : readItem item.tokens = some item := by
  cases item with
  | column name => rfl
  | term t name =>
    have hreverse : (Item.term t name).tokens.reverse =
        .word name :: .word "AS" :: t.tokens.reverse := by simp [Item.tokens]
    simp only [readItem, hreverse, List.reverse_reverse]
    rw [Term.readTerm_tokens h.1]
    rfl

theorem readItems_tokens {items : List Item} (hne : items ≠ []) (h : ∀ item ∈ items, item.Written) :
    (splitOutside (.word ",") 0 (columnTokens items)).mapM readItem = some items := by
  rw [columnTokens, splitOutside_intercalate (by simpa using hne)]
  · exact mapM_map_eq_self fun item hitem => readItem_tokens (h item hitem)
  · intro part hpart
    obtain ⟨item, hitem, rfl⟩ := List.mem_map.mp hpart
    exact passes_item (by decide) (h item hitem)

theorem readNames_tokens {names : List String} (hne : names ≠ [])
    (h : ∀ name ∈ names, IsPlainWord name) :
    (splitOutside (.word ",") 0 (nameTokens names)).mapM readName = some names := by
  rw [nameTokens, splitOutside_intercalate (by simpa using hne)]
  · exact mapM_map_eq_self fun _ _ => rfl
  · intro part hpart
    obtain ⟨name, hname, rfl⟩ := List.mem_map.mp hpart
    exact passes_word (by decide) (h name hname)

theorem readFilter_filterTokens {filter : Option Term} (h : ∀ t ∈ filter, t.Written) :
    readFilter (filterTokens filter) = some filter := by
  cases filter with
  | none => rfl
  | some t =>
    show (readTerm t.tokens).map some = _
    rw [Term.readTerm_tokens (h t rfl)]
    rfl

theorem readTail_tokens {filter : Option Term} {order : List String}
    (hfilter : ∀ t ∈ filter, t.Written) (horder : ∀ name ∈ order, IsPlainWord name) :
    readTail (filterTokens filter ++ orderTokens order) = some (filter, order) := by
  have hpasses : Passes (.word "ORDER") 0 (filterTokens filter) :=
    passes_filterTokens (by decide) filter
  cases order with
  | nil =>
    have hsplit : splitOutside (.word "ORDER") 0 (filterTokens filter ++ orderTokens []) =
        [filterTokens filter] := by
      rw [orderTokens, List.append_nil, hpasses.split_end]
    simp only [readTail, hsplit, readFilter_filterTokens hfilter]
    rfl
  | cons first order =>
    have hby : Passes (.word "ORDER") 0 [.word "BY"] := passes_word (by decide) (by decide)
    have hnames : Passes (.word "ORDER") 0 (.word "BY" :: nameTokens (first :: order)) :=
      hby.append (passes_nameTokens (by decide) horder fun _ => by decide)
    have hsplit : splitOutside (.word "ORDER") 0
        (filterTokens filter ++ orderTokens (first :: order)) =
          [filterTokens filter, .word "BY" :: nameTokens (first :: order)] := by
      rw [orderTokens, hpasses.split_stop, hnames.split_end]
      simp
    simp only [readTail, hsplit, readFilter_filterTokens hfilter,
      readNames_tokens (List.cons_ne_nil first order) horder]
    rfl

theorem readSelect_tokens {s : Select} (h : s.Written) : readSelect s.tokens = some s := by
  have hcolumns : Passes (.word "FROM") 0 (columnTokens s.items) :=
    passes_columnTokens (by decide) h.items fun _ => by decide
  have hsource : Passes (.word "FROM") 0 [.word s.source] := passes_word (by decide) h.source
  have hrest : Passes (.word "FROM") 0 (.word s.source ::
      (filterTokens s.filter ++ orderTokens s.order)) :=
    hsource.append ((passes_filterTokens (by decide) s.filter).append
      (passes_orderTokens (by decide) h.order fun _ => by decide))
  have hsplit : splitOutside (.word "FROM") 0 s.bodyTokens =
      [columnTokens s.items, .word s.source :: (filterTokens s.filter ++ orderTokens s.order)] := by
    rw [Select.bodyTokens, hcolumns.split_stop, hrest.split_end]
  simp only [Select.tokens, readSelect, hsplit, readItems_tokens h.items_ne_nil h.items,
    readTail_tokens h.filter h.order]
  rfl

/-! ## Tables -/

namespace Table

def tokens (t : Table) : List Token :=
  .word t.name :: .word "AS" :: .word "(" :: (t.select.tokens ++ [.word ")"])

structure Written (t : Table) : Prop where
  name : IsPlainWord t.name
  select : t.select.Written

/-- A table keeps its query inside parentheses. -/
theorem Written.passes_tokens {t : Table} (h : t.Written) {stop : String} (hstop : stop ∈ stops) :
    Passes (.word stop) 0 t.tokens := by
  have hname := (passes_word hstop h.name).append (passes_word hstop (show "AS" ∉ _ by decide))
  have hfirst : Passes (.word stop) 1 [.word "SELECT"] :=
    passes_token (by decide) (by decide) (by simp)
  have hselect : Passes (.word stop) 1 t.select.tokens :=
    hfirst.append (h.select.passes_bodyTokens hstop (by simp))
  exact hname.append (hselect.call hstop)

theorem Written.readTable_tokens {t : Table} (h : t.Written) : readTable t.tokens = some t := by
  have hlast : (t.select.tokens ++ [Token.word ")"]).getLast? = some (.word ")") := by simp
  have hinner : (t.select.tokens ++ [Token.word ")"]).dropLast = t.select.tokens := by simp
  simp only [tokens, readTable, hlast, hinner, readSelect_tokens h.select]
  rfl

end Table

/-- Tables, each after a comma. -/
def tableTokens (tables : List Table) : List Token :=
  tables.flatMap fun t => .word "," :: t.tokens

theorem passes_tableTokens {tables : List Table} (h : ∀ t ∈ tables, t.Written) :
    Passes (.word "SELECT") 0 (tableTokens tables) := by
  have hcomma : Passes (.word "SELECT") 0 [.word ","] :=
    passes_token (by decide) (by decide) (by decide)
  induction tables with
  | nil => exact passes_nil
  | cons t tables ih =>
    obtain ⟨ht, htables⟩ := List.forall_mem_cons.mp h
    exact (hcomma.append (ht.passes_tokens (by decide))).append (ih htables)

theorem split_tableTokens {tables : List Table} (h : ∀ t ∈ tables, t.Written) :
    splitOutside (.word ",") 0 (tableTokens tables) = [] :: tables.map Table.tokens := by
  induction tables with
  | nil => rfl
  | cons t tables ih =>
    obtain ⟨ht, htables⟩ := List.forall_mem_cons.mp h
    have hsplit := ht.passes_tokens (show "," ∈ stops by decide) 0 le_rfl (tableTokens tables)
    rw [ih htables] at hsplit
    have hcons : tableTokens (t :: tables) = .word "," :: (t.tokens ++ tableTokens tables) := rfl
    rw [hcons, splitOutside, if_pos ⟨rfl, rfl⟩, hsplit]
    simp

theorem readTables_tokens {tables : List Table} (htables : ∀ t ∈ tables, t.Written) {body : Select}
    (hbody : body.Written) :
    readTables (tableTokens tables ++ body.tokens) = some (tables, body) := by
  have hrest : Passes (.word "SELECT") 0 body.bodyTokens :=
    hbody.passes_bodyTokens (by decide) fun _ => rfl
  have hsplit : splitOutside (.word "SELECT") 0 (tableTokens tables ++ body.tokens) =
      [tableTokens tables, body.bodyTokens] := by
    rw [Select.tokens, (passes_tableTokens htables).split_stop, hrest.split_end]
  have hread : (tables.map Table.tokens).mapM readTable = some tables :=
    mapM_map_eq_self fun t ht => (htables t ht).readTable_tokens
  have hselect : readSelect (.word "SELECT" :: body.bodyTokens) = some body :=
    readSelect_tokens hbody
  simp only [readTables, hsplit, split_tableTokens htables, hread, hselect]
  rfl

end Stages

/-! ## The code of a label function -/

theorem Sql.Code.ClosedAs.append_closed {first second : Code} {ts us : List Token}
    (hfirst : first.ClosedAs ts) (hsecond : second.ClosedAs us) :
    (first ++ second).ClosedAs (ts ++ us) := by
  intro done params rest
  rw [Code.params_append, Code.lexemes_append, List.append_assoc, List.append_assoc, hfirst,
    hsecond, List.append_assoc]

namespace Compile

open Stages

def stageText : Nat → String
  | 0 => "label_input"
  | n + 1 => "label_stage_" ++ toString (n + 1)

theorem stageText_succ (n : Nat) :
    stageText (n + 1) = String.ofList ("label_stage_".toList ++ Nat.toDigits 10 (n + 1)) := by
  rw [← String.toList_inj]
  simp [stageText, toString, Nat.repr]

theorem isPlainWord_stageText (n : Nat) : IsPlainWord (stageText n) := by
  cases n with
  | zero => decide
  | succ n =>
    have hhead : ∀ word ∈ "(" :: ")" :: stops, word.toList.head? ≠ some 'l' := by decide
    intro hmem
    refine hhead _ hmem ?_
    rw [stageText_succ, String.toList_ofList]
    rfl

theorem readAs_stageName (n : Nat) : (stageName n).ReadAs [.word (stageText n)] := by
  cases n with
  | zero => exact Code.readAs_w rfl (by decide +kernel)
  | succ n =>
    have hdigits : ∀ c ∈ Nat.toDigits 10 (n + 1), c.isDigit = true := fun c hc =>
      Nat.isDigit_of_mem_toDigits (by decide) (by decide) hc
    have hword : ∀ c ∈ "label_stage_".toList, CharKind.of c = .name := by
      have hall : ("label_stage_".toList.all fun c => decide (CharKind.of c = .name)) = true := by
        decide
      exact fun c hc => of_decide_eq_true (List.all_eq_true.mp hall c hc)
    have hname : ∀ c ∈ "label_stage_".toList ++ Nat.toDigits 10 (n + 1), CharKind.of c = .name := by
      rw [List.forall_mem_append]
      exact ⟨hword, fun c hc => Code.kind_of_isDigit (hdigits c hc)⟩
    have hcalm : ∀ c ∈ "label_stage_".toList ++ Nat.toDigits 10 (n + 1), IsCalm c := by
      rw [List.forall_mem_append]
      exact ⟨by simp [IsCalm], fun c hc => isCalm_of_isDigit (hdigits c hc)⟩
    have hlexemes : (stageName (n + 1)).lexemes =
        ("label_stage_".toList ++ Nat.toDigits 10 (n + 1)).map .char := by
      rw [stageName, Code.lexemes_append, Code.lexemes_number,
        Code.lexemes_w (show "label_stage_" = String.ofList _ from rfl), List.map_append]
      rfl
    have hparams : (stageName (n + 1)).params = [] := by simp [stageName]
    have hscan : ("label_stage_".toList ++ Nat.toDigits 10 (n + 1)).foldl Scan.next ⟨[], []⟩ =
        ⟨[], "label_stage_".toList ++ Nat.toDigits 10 (n + 1)⟩ :=
      Scan.foldl_next_name hname (by simp)
    have hread := Code.readAs_of_chars hparams hlexemes hcalm
    rw [hscan] at hread
    have htokens : (⟨[], "label_stage_".toList ++ Nat.toDigits 10 (n + 1)⟩ : Scan).tokens =
        [Token.word (stageText (n + 1))] := by
      rw [stageText_succ]
      rfl
    rw [htokens] at hread
    exact hread hname

/-- The columns that a stage selects. -/
def Stage.items : Stage → List Item
  | relabel labels => [.column "timestamp", .column "value", .term labels "labels"]
  | derive column value =>
    [.column "timestamp", .column "value", .column "labels", .term value column.name]

theorem Stage.readAs_columns (stage : Stage) :
    stage.columns.ReadAs (columnTokens stage.items) := by
  cases stage with
  | relabel labels =>
    have hfirst : (w "timestamp, value, ").ClosedAs
        [.word "timestamp", .word ",", .word "value", .word ","] :=
      Code.closedAs_w rfl (by decide +kernel)
    have hname : (w " AS labels").ReadAs [.word "AS", .word "labels"] :=
      Code.readAs_w rfl (by decide +kernel)
    have htokens : columnTokens (relabel labels).items =
        [Token.word "timestamp", Token.word ",", Token.word "value", Token.word ","] ++
          labels.tokens ++ [Token.word "AS", Token.word "labels"] := by
      simp [columnTokens, Stage.items, Item.tokens, List.intercalate_cons_cons]
    rw [htokens]
    exact (hfirst.append labels.readAs_tokens).append hname (Code.setOff_w rfl (by decide))
  | derive column value =>
    have hfirst : (w "timestamp, value, labels, ").ClosedAs
        [.word "timestamp", .word ",", .word "value", .word ",", .word "labels", .word ","] :=
      Code.closedAs_w rfl (by decide +kernel)
    have has : (w " AS ").ClosedAs [.word "AS"] := Code.closedAs_w rfl (by decide +kernel)
    have hname : column.code.ReadAs [.word column.name] := by
      cases column <;> exact Code.readAs_w rfl (by decide +kernel)
    have htokens : columnTokens (derive column value).items =
        [Token.word "timestamp", Token.word ",", Token.word "value", Token.word ",",
            Token.word "labels", Token.word ","] ++
          value.tokens ++ [Token.word "AS"] ++ [Token.word column.name] := by
      simp [columnTokens, Stage.items, Item.tokens, List.intercalate_cons_cons]
    rw [htokens]
    exact ((hfirst.append value.readAs_tokens).append_closed has
      (Code.setOff_w rfl (by decide))).append hname

def Stage.Written : Stage → Prop
  | relabel t | derive _ t => t.Written

/-- The tables of stages from number `n + 1` on. -/
def stageList (n : Nat) : List Stage → List Table
  | [] => []
  | stage :: rest =>
    ⟨stageText (n + 1), ⟨stage.items, stageText n, none, []⟩⟩ :: stageList (n + 1) rest

theorem written_stageList {stages : List Stage} (h : ∀ stage ∈ stages, stage.Written) (n : Nat) :
    ∀ t ∈ stageList n stages, t.Written := by
  induction stages generalizing n with
  | nil => simp [stageList]
  | cons stage stages ih =>
    obtain ⟨hstage, hstages⟩ := List.forall_mem_cons.mp h
    refine List.forall_mem_cons.mpr ⟨⟨isPlainWord_stageText (n + 1), ?_⟩, ih hstages (n + 1)⟩
    have hcolumns : ∀ item ∈ stage.items, item.Written := by
      have hnames : IsPlainWord "timestamp" ∧ IsPlainWord "value" ∧ IsPlainWord "labels" := by
        decide
      cases stage with
      | relabel labels =>
        have hlabels : labels.Written := hstage
        simp [Stage.items, Item.Written, hnames, hlabels]
      | derive column value =>
        have hcolumn : IsPlainWord column.name := by cases column <;> decide
        have hvalue : value.Written := hstage
        simp [Stage.items, Item.Written, hnames, hcolumn, hvalue]
    exact {
      items_ne_nil := by cases stage <;> simp [Stage.items]
      items := hcolumns
      source := isPlainWord_stageText n
      filter := by simp
      order := by simp }

theorem closedAs_stageTables (n : Nat) (stages : List Stage) :
    (stageTables n stages).1.ClosedAs (tableTokens (stageList n stages)) := by
  induction stages generalizing n with
  | nil =>
    have hempty : (w "").ClosedAs [] := Code.closedAs_w rfl (by decide)
    exact hempty
  | cons stage stages ih =>
    have hcomma : (w ", ").ClosedAs [.word ","] := Code.closedAs_w rfl (by decide +kernel)
    have has : (w " AS ").ClosedAs [.word "AS"] := Code.closedAs_w rfl (by decide +kernel)
    have hselect : (w "SELECT ").ClosedAs [.word "SELECT"] :=
      Code.closedAs_w rfl (by decide +kernel)
    have hfrom : (w " FROM ").ClosedAs [.word "FROM"] := Code.closedAs_w rfl (by decide +kernel)
    have hquery := ((hselect.append stage.readAs_columns).append_closed hfrom
      (Code.setOff_w rfl (by decide))).append (readAs_stageName n)
    have hname := (hcomma.append (readAs_stageName (n + 1))).append_closed has
      (Code.setOff_w rfl (by decide))
    have htokens : tableTokens (stageList n (stage :: stages)) =
        [Token.word ","] ++ [Token.word (stageText (n + 1))] ++ [Token.word "AS"] ++
          (Token.word "(" :: ([Token.word "SELECT"] ++ columnTokens stage.items ++
            [Token.word "FROM"] ++ [Token.word (stageText n)] ++ [Token.word ")"])) ++
          tableTokens (stageList (n + 1) stages) := by
      simp [stageList, tableTokens, Table.tokens, Select.tokens, Select.bodyTokens, filterTokens,
        orderTokens]
    rw [htokens]
    exact (hname.append_closed hquery.parens).append_closed (ih (n + 1))

theorem snd_stageTables (n : Nat) (stages : List Stage) :
    (stageTables n stages).2 = n + stages.length := by
  induction stages generalizing n with
  | nil => rfl
  | cons stage stages ih =>
    show (stageTables (n + 1) stages).2 = _
    rw [ih, List.length_cons]
    omega

namespace Relabeling

variable (r : Relabeling)

structure Written : Prop where
  stages : ∀ stage ∈ r.stages, stage.Written
  filter : ∀ t ∈ r.filter, t.Written

/-- The query for the rows of the last stage. -/
def body : Select :=
  ⟨[.column "timestamp", .column "value", .column "labels"], stageText r.stages.length, r.filter,
    ["timestamp", "labels"]⟩

def statement (input : Fragment) : Statement :=
  ⟨"label_input", input, stageList 0 r.stages, r.body⟩

theorem readAs_rest : r.rest.ReadAs (tableTokens (stageList 0 r.stages) ++ r.body.tokens) := by
  have hselect : (w " SELECT timestamp, value, labels FROM ").ClosedAs
      [.word "SELECT", .word "timestamp", .word ",", .word "value", .word ",", .word "labels",
        .word "FROM"] := Code.closedAs_w rfl (by decide +kernel)
  have hname := readAs_stageName (stageTables 0 r.stages).2
  rw [snd_stageTables, Nat.zero_add] at hname
  have hfrom := ((closedAs_stageTables 0 r.stages).append_closed hselect).append hname
  have horder : (w " ORDER BY timestamp, labels").ReadAs
      [.word "ORDER", .word "BY", .word "timestamp", .word ",", .word "labels"] :=
    Code.readAs_w rfl (by decide +kernel)
  have htokens : tableTokens (stageList 0 r.stages) ++ r.body.tokens =
      tableTokens (stageList 0 r.stages) ++
        [Token.word "SELECT", Token.word "timestamp", Token.word ",", Token.word "value",
          Token.word ",", Token.word "labels", Token.word "FROM"] ++
        [Token.word (stageText r.stages.length)] ++ filterTokens r.filter ++
        [Token.word "ORDER", Token.word "BY", Token.word "timestamp", Token.word ",",
          Token.word "labels"] := by
    simp [body, Select.tokens, Select.bodyTokens, columnTokens, Item.tokens, orderTokens,
      nameTokens, List.intercalate_cons_cons]
  rw [htokens, rest, snd_stageTables, Nat.zero_add]
  refine Code.ReadAs.append ?_ horder (Code.setOff_w rfl (by decide))
  cases r.filter with
  | none =>
    -- the empty word is no separator, but adds nothing either
    intro done params rest hrest
    simpa [filterTokens, Code.lexemes_w (show "" = String.ofList [] from rfl)] using
      hfrom done params rest hrest
  | some filter =>
    have hwhere : (w " WHERE ").ClosedAs [.word "WHERE"] := Code.closedAs_w rfl (by decide +kernel)
    exact hfrom.append (hwhere.append filter.readAs_tokens) (Code.setOff_of_head rfl (by decide))

theorem code_eq (input : Code) :
    (r.code input).fragment =
      ⟨(w "WITH label_input AS ").text ++ "(" ++ input.fragment.text ++ ")" ++ r.rest.text,
        input.fragment.params ++ r.rest.params⟩ := by
  simp [code, Code.fragment, String.append_assoc, -String.reduceAppend]

variable {r}

theorem Written.body (h : r.Written) : r.body.Written where
  items_ne_nil := by simp [Relabeling.body]
  items := by
    have hnames : IsPlainWord "timestamp" ∧ IsPlainWord "value" ∧ IsPlainWord "labels" := by decide
    simpa [Relabeling.body, Item.Written] using hnames
  source := isPlainWord_stageText _
  filter := h.filter
  order := by
    have hnames : IsPlainWord "timestamp" ∧ IsPlainWord "labels" := by decide
    simpa [Relabeling.body] using hnames

/-- The statement of a label function selects from its stages, and its input is the query that it
was given. -/
theorem Written.readStatement_code (h : r.Written) {input : Code} (hinput : input.fragment.Whole) :
    readStatement (r.code input).fragment = some (r.statement input.fragment) := by
  have hfirst : (w "WITH label_input AS ").ReadAs
      [.word "WITH", .word "label_input", .word "AS"] := Code.readAs_w rfl (by decide +kernel)
  have hparen : Lexeme.char '(' ∉ (w "WITH label_input AS ").lexemes := by
    rw [Code.lexemes_w (show "WITH label_input AS " = String.ofList _ from rfl)]
    decide
  have hcut := hinput.cut?_between (Code.apart_w _ _ _) hfirst (Code.params_w _ _) hparen
    (apart_rest r) r.readAs_rest
  simp only [readStatement, code_eq, hcut, Option.bind_eq_bind, Option.bind_some,
    readTables_tokens (written_stageList h.stages 0) h.body]
  rfl

end Relabeling

end Compile

end SeriesSql
