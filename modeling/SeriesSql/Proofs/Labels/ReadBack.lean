import SeriesSql.Proofs.Compile.Spacing
import SeriesSql.Proofs.Labels.Reader

/-!
# Reading terms back

The fragment of a term is read as that term: `termOf?_code`.  Code has no parentheses around
operands, so this holds for the terms whose operands bind tight enough.

There are three groups.

* The tokens of a term, and that its code is read as them.
* Terms that are written right: an operand binds tighter than the operator beside it.
* `readTerm_tokens`: a term that is written right is read back.  `Reads` is what carries the
  induction: the reader may be left with operators to apply, but these give the term.
-/

namespace SeriesSql.Labels

open Sql

/-! ## The tokens of a term -/

namespace Reader

/-- Operands with an operator between them. -/
def Operator.tokens (op : Operator) (left right : List Token) : List Token :=
  left ++ [(Symbol.operator op).token] ++ right

/-- A function and the tokens between its parentheses. -/
def Function.tokens (f : Function) (args : List Token) : List Token :=
  [(Symbol.function f).token] ++ Symbol.opening.token :: (args ++ [Symbol.closing.token])

def comma (left right : List Token) : List Token :=
  left ++ [Symbol.comma.token] ++ right

/-- The tokens of the query for the value of a key in the label tables. -/
def selection (key : String) : List Token :=
  [.word "g_lv.value", .word "FROM", .word "label_set_membership", .word "g_lsm", .word "JOIN",
    .word "label_key", .word "g_lk", .word "ON", .word "g_lk.id", .word "=",
    .word "g_lsm.label_key_id", .word "JOIN", .word "label_value", .word "g_lv", .word "ON",
    .word "g_lv.id", .word "=", .word "g_lsm.label_value_id", .word "WHERE",
    .word "g_lsm.label_set_id", .word "=", .word "labeled_samples.label_set_id", .word "AND",
    .word "g_lk.name", .word "=", .value key, .word "LIMIT", .number 1]

end Reader

namespace Term

open Reader

def tokens : Term → List Token
  | null => [Symbol.null.token]
  | int n => [.number n]
  | text s => [.literal s]
  | column c => [(Symbol.column c).token]
  | bound s => [.value s]
  | concat a b => Operator.concat.tokens a.tokens b.tokens
  | plus a b => Operator.plus.tokens a.tokens b.tokens
  | minus a b => Operator.minus.tokens a.tokens b.tokens
  | group t => Symbol.opening.token :: (t.tokens ++ [Symbol.closing.token])
  | instr t n => Function.instr.tokens (comma t.tokens n.tokens)
  | suffix t i => Function.substr.tokens (comma t.tokens i.tokens)
  | slice t i n => Function.substr.tokens (comma (comma t.tokens i.tokens) n.tokens)
  | length t => Function.length.tokens t.tokens
  | trimCommas t => Function.trim.tokens (comma t.tokens [.literal ","])
  | coalesce a b => Function.coalesce.tokens (comma a.tokens b.tokens)
  | lookup key =>
    Symbol.opening.token :: (Symbol.select.token :: selection key ++ [Symbol.closing.token])
  | replace t p r => Function.regexpReplace.tokens (comma (comma t.tokens p.tokens) r.tokens)
  | equal a b => Operator.equal.tokens a.tokens b.tokens
  | greater a b => Operator.greater.tokens a.tokens b.tokens
  | isNull t => Operator.is.tokens t.tokens [Symbol.null.token]
  | regexp t p => Operator.regexp.tokens t.tokens p.tokens
  | or a b => Operator.or.tokens a.tokens b.tokens
  | not t => [Symbol.not.token] ++ t.tokens
  | cond test yes no =>
    [Symbol.caseStart.token, Symbol.caseTest.token] ++ test.tokens ++ [Symbol.caseYes.token] ++
      yes.tokens ++ [Symbol.caseNo.token] ++ no.tokens ++ [Symbol.caseEnd.token]

section Parts

variable {a b m : Code} {ts us vs : List Token}

theorem readAs_between (ha : a.ReadAs ts) (hm : m.ClosedAs vs) (hoff : m.SetOff)
    (hb : b.ReadAs us) : (a ++ m ++ b).ReadAs (ts ++ vs ++ us) :=
  (ha.append_closed hm hoff).append hb

theorem readAs_comma (ha : a.ReadAs ts) (hb : b.ReadAs us) :
    (a ++ w ", " ++ b).ReadAs (comma ts us) :=
  readAs_between ha (Code.closedAs_w rfl (by decide +kernel)) (Code.setOff_w rfl (by decide)) hb

theorem readAs_call (f : Function) (plain : Plain f.text) (hargs : a.ReadAs ts) :
    (w f.text plain ++ .parens a).ReadAs (f.tokens ts) := by
  have hname : (w f.text plain).ReadAs [(Symbol.function f).token] := by
    cases f <;> exact Code.readAs_w rfl (by decide +kernel)
  exact (hname.append_closed hargs.parens (Code.setOff_parens a)).readAs

end Parts

theorem readAs_selection (key : String) :
    (w "SELECT g_lv.value FROM label_set_membership g_lsm" ++
      w " JOIN label_key g_lk ON g_lk.id = g_lsm.label_key_id" ++
      w " JOIN label_value g_lv ON g_lv.id = g_lsm.label_value_id" ++
      w " WHERE g_lsm.label_set_id = labeled_samples.label_set_id AND g_lk.name = " ++
      .bound (.text key) ++ w " LIMIT 1").ReadAs (Symbol.select.token :: selection key) := by
  have hfrom : (w "SELECT g_lv.value FROM label_set_membership g_lsm").ReadAs
      [.word "SELECT", .word "g_lv.value", .word "FROM", .word "label_set_membership",
        .word "g_lsm"] := Code.readAs_w rfl (by decide +kernel)
  have hkeys : (w " JOIN label_key g_lk ON g_lk.id = g_lsm.label_key_id").ReadAs
      [.word "JOIN", .word "label_key", .word "g_lk", .word "ON", .word "g_lk.id", .word "=",
        .word "g_lsm.label_key_id"] := Code.readAs_w rfl (by decide +kernel)
  have hvalues : (w " JOIN label_value g_lv ON g_lv.id = g_lsm.label_value_id").ReadAs
      [.word "JOIN", .word "label_value", .word "g_lv", .word "ON", .word "g_lv.id", .word "=",
        .word "g_lsm.label_value_id"] := Code.readAs_w rfl (by decide +kernel)
  have hwhere :
      (w " WHERE g_lsm.label_set_id = labeled_samples.label_set_id AND g_lk.name = ").ClosedAs
        [.word "WHERE", .word "g_lsm.label_set_id", .word "=",
          .word "labeled_samples.label_set_id", .word "AND", .word "g_lk.name", .word "="] :=
    Code.closedAs_w rfl (by decide +kernel)
  have hlimit : (w " LIMIT 1").ReadAs [.word "LIMIT", .number 1] :=
    Code.readAs_w rfl (by decide +kernel)
  have htables := (hfrom.append hkeys (Code.setOff_w rfl (by decide))).append hvalues
    (Code.setOff_w rfl (by decide))
  have hfilter := (htables.append_closed hwhere (Code.setOff_w rfl (by decide))).append
    (Code.closedAs_bound key).readAs
  exact hfilter.append hlimit (Code.setOff_w rfl (by decide))

theorem readAs_tokens (t : Term) : t.code.ReadAs t.tokens := by
  induction t with
  | null => exact Code.readAs_w rfl (by decide +kernel)
  | int n => exact Code.readAs_number n
  | text s => exact (Code.closedAs_quoted s).readAs
  | bound s => exact (Code.closedAs_bound s).readAs
  | column c => cases c <;> exact Code.readAs_w rfl (by decide +kernel)
  | group t ih => exact ih.parens.readAs
  | concat a b iha ihb | regexp a b iha ihb | or a b iha ihb =>
    exact readAs_between iha (Code.closedAs_w rfl (by decide +kernel))
      (Code.setOff_w rfl (by decide)) ihb
  | plus a b iha ihb | minus a b iha ihb | equal a b iha ihb | greater a b iha ihb =>
    exact readAs_between iha (Code.closedAs_sign _) (Code.setOff_sign _) ihb
  | instr a b iha ihb => exact readAs_call .instr _ (readAs_comma iha ihb)
  | suffix a b iha ihb => exact readAs_call .substr _ (readAs_comma iha ihb)
  | slice a b c iha ihb ihc => exact readAs_call .substr _ (readAs_comma (readAs_comma iha ihb) ihc)
  | length a ih => exact readAs_call .length _ ih
  | trimCommas a ih => exact readAs_call .trim _ (readAs_comma ih (Code.closedAs_quoted ",").readAs)
  | coalesce a b iha ihb => exact readAs_call .coalesce _ (readAs_comma iha ihb)
  | replace a b c iha ihb ihc =>
    exact readAs_call .regexpReplace _ (readAs_comma (readAs_comma iha ihb) ihc)
  | lookup key => exact (readAs_selection key).parens.readAs
  | isNull a ih =>
    have hword : (w " IS NULL").ReadAs [(Symbol.operator .is).token, Symbol.null.token] :=
      Code.readAs_w rfl (by decide +kernel)
    rw [tokens, Operator.tokens, List.append_assoc]
    exact ih.append hword (Code.setOff_w rfl (by decide))
  | not a ih =>
    have hword : (w "NOT ").ClosedAs [Symbol.not.token] := Code.closedAs_w rfl (by decide +kernel)
    exact hword.append ih
  | cond a b c iha ihb ihc =>
    have hcase : (w "CASE WHEN ").ClosedAs [Symbol.caseStart.token, Symbol.caseTest.token] :=
      Code.closedAs_w rfl (by decide +kernel)
    have hthen : (w " THEN ").ClosedAs [Symbol.caseYes.token] :=
      Code.closedAs_w rfl (by decide +kernel)
    have helse : (w " ELSE ").ClosedAs [Symbol.caseNo.token] :=
      Code.closedAs_w rfl (by decide +kernel)
    have hend : (w " END").ReadAs [Symbol.caseEnd.token] := Code.readAs_w rfl (by decide +kernel)
    have htest := (hcase.append iha).append_closed hthen (Code.setOff_w rfl (by decide))
    have hyes := (htest.append ihb).append_closed helse (Code.setOff_w rfl (by decide))
    exact (hyes.append ihc).append hend (Code.setOff_w rfl (by decide))

end Term

/-! ## Terms that are written right -/

namespace Term

open Reader

/-- How tight the outermost operator of a term binds. -/
def rank : Term → Nat
  | concat _ _ => Operator.concat.rank
  | plus _ _ => Operator.plus.rank
  | minus _ _ => Operator.minus.rank
  | greater _ _ => Operator.greater.rank
  | equal _ _ => Operator.equal.rank
  | isNull _ => Operator.is.rank
  | regexp _ _ => Operator.regexp.rank
  | not _ => notRank
  | or _ _ => Operator.or.rank
  | _ => 6

end Term

/-- The operands bind tighter than the operator, where as tight is enough on the left side. -/
def Reader.Operator.Between (op : Operator) (a b : Term) : Prop :=
  op.rank ≤ a.rank ∧ op.rank < b.rank

namespace Term

open Reader

/-- Every operand binds tight enough for its operator. -/
def Written : Term → Prop
  | null | int _ | text _ | column _ | bound _ | lookup _ => True
  | concat a b => Operator.concat.Between a b ∧ a.Written ∧ b.Written
  | plus a b => Operator.plus.Between a b ∧ a.Written ∧ b.Written
  | minus a b => Operator.minus.Between a b ∧ a.Written ∧ b.Written
  | greater a b => Operator.greater.Between a b ∧ a.Written ∧ b.Written
  | equal a b => Operator.equal.Between a b ∧ a.Written ∧ b.Written
  | isNull t => Operator.is.rank ≤ t.rank ∧ t.Written
  | regexp a b => Operator.regexp.Between a b ∧ a.Written ∧ b.Written
  | or a b => Operator.or.Between a b ∧ a.Written ∧ b.Written
  | not t => notRank < t.rank ∧ t.Written
  | group t | length t | trimCommas t => t.Written
  | instr a b | suffix a b | coalesce a b => a.Written ∧ b.Written
  | slice a b c | replace a b c | cond a b c => a.Written ∧ b.Written ∧ c.Written

end Term

/-! ## Reading back -/

namespace Reader

/-- The frame does not take a term that binds as tight as `rank` before that term is whole. -/
def Frame.Waits (rank : Nat) : Frame → Prop
  | operand _ op => op.rank < rank
  | not => notRank < rank
  | group | call _ _ | test | yes _ | no _ _ => True
  | name _ | case | select _ => False

/-- A term that binds as tight as `rank` may come. -/
def Open (rank : Nat) (frames : List Frame) : Prop :=
  ∀ frame rest, frames = frame :: rest → frame.Waits rank

theorem open_cons {rank : Nat} {frame : Frame} (h : frame.Waits rank) (frames : List Frame) :
    Open rank (frame :: frames) := by
  intro first rest hcons
  obtain ⟨rfl, -⟩ := List.cons.inj hcons
  exact h

theorem Frame.Waits.mono {low high : Nat} (hle : low ≤ high) {frame : Frame} (h : frame.Waits low) :
    frame.Waits high := by
  cases frame with
  | operand left op =>
    have hrank : op.rank < low := h
    show op.rank < high
    omega
  | not =>
    have hrank : notRank < low := h
    show notRank < high
    omega
  | group | call f args | test | yes test | no test yes => trivial
  | name f | case | select read => exact h

theorem Open.mono {low high : Nat} (hle : low ≤ high) {frames : List Frame} (h : Open low frames) :
    Open high frames :=
  fun frame rest hcons => (h frame rest hcons).mono hle

theorem reduce_of_open {rank : Nat} {frames : List Frame} (h : Open rank frames) (t : Term) :
    reduce rank frames t = some (frames, t) := by
  cases frames with
  | nil => rfl
  | cons frame frames =>
    have hwaits := h frame frames rfl
    cases frame with
    | operand left op =>
      have hrank : op.rank < rank := hwaits
      exact if_neg (by omega)
    | not =>
      have hrank : notRank < rank := hwaits
      exact if_neg (by omega)
    | group | call f args | test | yes test | no test yes => rfl
    | name f | case | select read => exact hwaits.elim

/-- Where a term may come, its first token begins it. -/
theorem step_of_open {rank : Nat} {frames : List Frame} (h : Open rank frames) (token : Token) :
    step ⟨frames, none⟩ token = begin frames token := by
  cases frames with
  | nil => rfl
  | cons frame frames =>
    cases frame with
    | select read => exact (h _ _ rfl).elim
    | _ => rfl

theorem openParen_of_open {rank : Nat} {frames : List Frame} (h : Open rank frames) :
    openParen frames = .group :: frames := by
  cases frames with
  | nil => rfl
  | cons frame frames =>
    cases frame with
    | name f => exact (h _ _ rfl).elim
    | _ => rfl

theorem run_append (ts us : List Token) (s : State) :
    run (ts ++ us) s = (run ts s).bind (run us) := by
  rw [run, List.foldlM_append]
  rfl

theorem run_cons (token : Token) (ts : List Token) (s : State) :
    run (token :: ts) s = (step s token).bind (run ts) := by
  rw [run, List.foldlM_cons]
  rfl

theorem begin_symbol (frames : List Frame) (symbol : Symbol) :
    begin frames symbol.token = start frames symbol := by
  show (Symbol.ofText? symbol.text).bind _ = _
  rw [symbol.ofText?_text]
  rfl

theorem step_symbol (frames : List Frame) (t : Term) (symbol : Symbol) :
    step ⟨frames, some t⟩ symbol.token = follow frames t symbol := by
  show (Symbol.ofText? symbol.text).bind _ = _
  rw [symbol.ofText?_text]
  rfl

/-- Where a term may come, a symbol begins it. -/
theorem run_symbol_cons {rank : Nat} {frames : List Frame} (h : Open rank frames) (symbol : Symbol)
    (ts : List Token) :
    run (symbol.token :: ts) ⟨frames, none⟩ = (start frames symbol).bind (run ts) := by
  rw [run_cons, step_of_open h, begin_symbol]

/-- The tokens are read as the term wherever a term may come that binds as tight.  Operators may be
left to apply, and applying them gives the term. -/
def Reads (ts : List Token) (t : Term) : Prop :=
  ∀ rank frames, rank ≤ t.rank → Open rank frames →
    ∃ frames' u, run ts ⟨frames, none⟩ = some ⟨frames', some u⟩ ∧
      ∀ low ≤ rank, reduce low frames' u = reduce low frames t

/-- Reading that ends in the term itself. -/
theorem reads_of_run {ts : List Token} {t : Term}
    (h : ∀ rank frames, Open rank frames → run ts ⟨frames, none⟩ = some ⟨frames, some t⟩) :
    Reads ts t :=
  fun rank frames _ hopen => ⟨frames, t, h rank frames hopen, fun _ _ => rfl⟩

theorem reads_of_begin {token : Token} {t : Term}
    (h : ∀ frames, begin frames token = some ⟨frames, some t⟩) : Reads [token] t := by
  refine reads_of_run fun rank frames hopen => ?_
  rw [run_cons, step_of_open hopen, h]
  rfl

theorem reads_null : Reads [Symbol.null.token] .null :=
  reads_of_begin fun frames => begin_symbol frames .null

section Parts

variable {ts us vs : List Token} {a b t : Term}

theorem Reads.binary (op : Operator) (ha : Reads ts a) (hb : Reads us b) (hbetween : op.Between a b)
    (happly : op.apply a b = some t) (hrank : t.rank = op.rank) : Reads (op.tokens ts us) t := by
  intro rank frames hle hopen
  have hle : rank ≤ op.rank := hrank ▸ hle
  obtain ⟨left, u, hleft, hreduce⟩ := ha op.rank frames hbetween.1 (hopen.mono hle)
  have hfollow : follow left u (.operator op) = some ⟨.operand a op :: frames, none⟩ := by
    rw [follow, hreduce op.rank le_rfl, reduce_of_open (hopen.mono hle)]
    rfl
  have hwaits : (Frame.operand a op).Waits (op.rank + 1) := Nat.lt_succ_self _
  obtain ⟨right, v, hright, hreduce⟩ :=
    hb (op.rank + 1) (.operand a op :: frames) hbetween.2 (open_cons hwaits frames)
  refine ⟨right, v, ?_, ?_⟩
  · rw [Operator.tokens, List.append_assoc, List.singleton_append, run_append, hleft]
    show run ((Symbol.operator op).token :: us) ⟨left, some u⟩ = _
    rw [run_cons, step_symbol, hfollow]
    exact hright
  · intro low hlow
    rw [hreduce low (by omega), reduce, if_pos (by omega), happly]
    rfl

theorem Reads.not (h : Reads ts t) (hrank : notRank < t.rank) :
    Reads ([Symbol.not.token] ++ ts) (.not t) := by
  intro rank frames hle hopen
  have hle : rank ≤ notRank := hle
  have hwaits : Frame.not.Waits (notRank + 1) := Nat.lt_succ_self _
  obtain ⟨frames', u, hread, hreduce⟩ :=
    h (notRank + 1) (.not :: frames) hrank (open_cons hwaits frames)
  refine ⟨frames', u, ?_, ?_⟩
  · rw [List.singleton_append, run_symbol_cons hopen]
    exact hread
  · intro low hlow
    rw [hreduce low (by omega), reduce, if_pos (by omega)]

/-- A symbol that ends a part of a frame finds the whole term. -/
theorem Reads.run_close (h : Reads ts t) {frame : Frame} (hwaits : frame.Waits 0)
    (frames : List Frame) {symbol : Symbol} (hsymbol : ∀ op, symbol ≠ .operator op) :
    run (ts ++ [symbol.token]) ⟨frame :: frames, none⟩ = close (frame :: frames) t symbol := by
  have hopen : Open 0 (frame :: frames) := open_cons hwaits frames
  obtain ⟨frames', u, hread, hreduce⟩ := h 0 (frame :: frames) (Nat.zero_le _) hopen
  have hfollow : follow frames' u symbol = close (frame :: frames) t symbol := by
    unfold follow
    split
    · exact absurd rfl (hsymbol _)
    · rw [hreduce 0 le_rfl, reduce_of_open hopen]
      rfl
  rw [run_append, hread]
  show run [symbol.token] ⟨frames', some u⟩ = _
  rw [run_cons, step_symbol, hfollow]
  cases close (frame :: frames) t symbol <;> rfl

theorem Reads.group (h : Reads ts t) :
    Reads (Symbol.opening.token :: (ts ++ [Symbol.closing.token])) (.group t) := by
  refine reads_of_run fun rank frames hopen => ?_
  have hwaits : Frame.group.Waits 0 := trivial
  rw [run_symbol_cons hopen]
  show run (ts ++ [Symbol.closing.token]) ⟨openParen frames, none⟩ = _
  rw [openParen_of_open hopen, h.run_close hwaits frames (by simp)]
  rfl

/-- The tokens are read as arguments, the last of which is not added to the call before a symbol
ends it. -/
def ReadsArgs (ts : List Token) (args : List Term) : Prop :=
  ∀ f frames (symbol : Symbol), (∀ op, symbol ≠ .operator op) →
    ∃ first last, args = first ++ [last] ∧
      run (ts ++ [symbol.token]) ⟨.call f [] :: frames, none⟩ =
        close (.call f first :: frames) last symbol

theorem Reads.single (h : Reads ts a) : ReadsArgs ts [a] :=
  fun f frames _ hsymbol =>
    ⟨[], a, rfl, h.run_close (show (Frame.call f []).Waits 0 from trivial) frames hsymbol⟩

theorem ReadsArgs.snoc {args : List Term} (hargs : ReadsArgs ts args) (ha : Reads us a) :
    ReadsArgs (comma ts us) (args ++ [a]) := by
  intro f frames symbol hsymbol
  obtain ⟨first, last, rfl, hrun⟩ := hargs f frames .comma (by simp)
  have hwaits : (Frame.call f (first ++ [last])).Waits 0 := trivial
  refine ⟨first ++ [last], a, rfl, ?_⟩
  rw [comma, List.append_assoc, run_append, hrun]
  exact ha.run_close hwaits frames hsymbol

theorem ReadsArgs.call {args : List Term} (h : ReadsArgs ts args) {f : Function}
    (hcall : f.apply args = some t) : Reads (f.tokens ts) t := by
  refine reads_of_run fun rank frames hopen => ?_
  obtain ⟨first, last, rfl, hrun⟩ := h f frames .closing (by simp)
  rw [Function.tokens, List.singleton_append, run_symbol_cons hopen]
  show run (Symbol.opening.token :: (ts ++ [Symbol.closing.token])) ⟨.name f :: frames, none⟩ = _
  rw [run_cons]
  show (begin (.name f :: frames) Symbol.opening.token).bind _ = _
  rw [begin_symbol]
  show run (ts ++ [Symbol.closing.token]) ⟨.call f [] :: frames, none⟩ = _
  rw [hrun]
  show (f.apply (first ++ [last])).map _ = _
  rw [hcall]
  rfl

theorem Reads.cond {test yes no : Term} (htest : Reads ts test) (hyes : Reads us yes)
    (hno : Reads vs no) :
    Reads ([Symbol.caseStart.token, Symbol.caseTest.token] ++ ts ++ [Symbol.caseYes.token] ++ us ++
      [Symbol.caseNo.token] ++ vs ++ [Symbol.caseEnd.token]) (.cond test yes no) := by
  refine reads_of_run fun rank frames hopen => ?_
  have htest' := htest.run_close (show Frame.test.Waits 0 from trivial) frames
    (show ∀ op, Symbol.caseYes ≠ .operator op by simp)
  have hyes' := hyes.run_close (show (Frame.yes test).Waits 0 from trivial) frames
    (show ∀ op, Symbol.caseNo ≠ .operator op by simp)
  have hno' := hno.run_close (show (Frame.no test yes).Waits 0 from trivial) frames
    (show ∀ op, Symbol.caseEnd ≠ .operator op by simp)
  have hparts : [Symbol.caseStart.token, Symbol.caseTest.token] ++ ts ++ [Symbol.caseYes.token] ++
      us ++ [Symbol.caseNo.token] ++ vs ++ [Symbol.caseEnd.token] =
        Symbol.caseStart.token :: Symbol.caseTest.token :: ((ts ++ [Symbol.caseYes.token]) ++
          ((us ++ [Symbol.caseNo.token]) ++ (vs ++ [Symbol.caseEnd.token]))) := by simp
  rw [hparts, run_symbol_cons hopen]
  show run (Symbol.caseTest.token :: _) ⟨.case :: frames, none⟩ = _
  rw [run_cons]
  show (begin (.case :: frames) Symbol.caseTest.token).bind _ = _
  rw [begin_symbol]
  show run ((ts ++ [Symbol.caseYes.token]) ++ _) ⟨.test :: frames, none⟩ = _
  rw [run_append, htest']
  show run ((us ++ [Symbol.caseNo.token]) ++ _) ⟨.yes test :: frames, none⟩ = _
  rw [run_append, hyes']
  exact hno'

end Parts

/-- A query is collected up to its parenthesis. -/
theorem run_select {ts : List Token} (h : Symbol.closing.token ∉ ts) (read : List Token)
    (frames : List Frame) :
    run ts ⟨.select read :: frames, none⟩ = some ⟨.select (read ++ ts) :: frames, none⟩ := by
  induction ts generalizing read with
  | nil =>
    rw [List.append_nil]
    rfl
  | cons token ts ih =>
    rw [List.mem_cons, not_or] at h
    have hstep : step ⟨.select read :: frames, none⟩ token =
        some ⟨.select (read ++ [token]) :: frames, none⟩ := if_neg (Ne.symm h.1)
    rw [run_cons, hstep]
    show run ts ⟨.select (read ++ [token]) :: frames, none⟩ = _
    rw [ih h.2, List.append_assoc, List.singleton_append]

theorem reads_select {ts : List Token} {t : Term} (hts : Symbol.closing.token ∉ ts)
    (h : selection? ts = some t) :
    Reads (Symbol.opening.token :: (Symbol.select.token :: ts ++ [Symbol.closing.token])) t := by
  refine reads_of_run fun rank frames hopen => ?_
  have hclosing : step ⟨.select ts :: frames, none⟩ Symbol.closing.token =
      some ⟨frames, some t⟩ := by
    rw [step, if_pos rfl, h]
    rfl
  rw [run_symbol_cons hopen]
  show run (Symbol.select.token :: ts ++ [Symbol.closing.token]) ⟨openParen frames, none⟩ = _
  rw [openParen_of_open hopen, List.cons_append, run_cons]
  show (begin (.group :: frames) Symbol.select.token).bind _ = _
  rw [begin_symbol]
  show run (ts ++ [Symbol.closing.token]) ⟨.select [] :: frames, none⟩ = _
  rw [run_append, run_select hts, List.nil_append]
  show run [Symbol.closing.token] ⟨.select ts :: frames, none⟩ = _
  rw [run_cons, hclosing]
  rfl

theorem selection?_selection (key : String) : selection? (selection key) = some (.lookup key) := by
  have hquery : Query.readFirst (Symbol.select.token :: selection key) =
      some (Query.valueQuery key) := rfl
  have hkey : (selection key).findSome? Token.value? = some key := rfl
  simp only [selection?, hquery, hkey, Option.bind_eq_bind, Option.bind_some, if_true]

theorem closing_not_mem_selection (key : String) : Symbol.closing.token ∉ selection key := by
  simp [selection, Symbol.token, Symbol.text]

end Reader

namespace Term

open Reader

theorem reads_tokens {t : Term} (h : t.Written) : Reads t.tokens t := by
  induction t with
  | null => exact reads_null
  | int n | text s | bound s => exact reads_of_begin fun _ => rfl
  | column c => exact reads_of_begin fun frames => begin_symbol frames (.column c)
  | lookup key => exact reads_select (closing_not_mem_selection key) (selection?_selection key)
  | group t ih => exact (ih h).group
  | concat a b iha ihb => exact (iha h.2.1).binary .concat (ihb h.2.2) h.1 rfl rfl
  | plus a b iha ihb => exact (iha h.2.1).binary .plus (ihb h.2.2) h.1 rfl rfl
  | minus a b iha ihb => exact (iha h.2.1).binary .minus (ihb h.2.2) h.1 rfl rfl
  | greater a b iha ihb => exact (iha h.2.1).binary .greater (ihb h.2.2) h.1 rfl rfl
  | equal a b iha ihb => exact (iha h.2.1).binary .equal (ihb h.2.2) h.1 rfl rfl
  | regexp a b iha ihb => exact (iha h.2.1).binary .regexp (ihb h.2.2) h.1 rfl rfl
  | or a b iha ihb => exact (iha h.2.1).binary .or (ihb h.2.2) h.1 rfl rfl
  | isNull t ih => exact (ih h.2).binary .is reads_null ⟨h.1, by decide⟩ rfl rfl
  | not t ih => exact (ih h.2).not h.1
  | length t ih => exact (ih h).single.call rfl
  | trimCommas t ih =>
    have hcomma : Reads [.literal ","] (.text ",") := reads_of_begin fun _ => rfl
    exact ((ih h).single.snoc hcomma).call rfl
  | instr a b iha ihb | suffix a b iha ihb | coalesce a b iha ihb =>
    exact ((iha h.1).single.snoc (ihb h.2)).call rfl
  | slice a b c iha ihb ihc | replace a b c iha ihb ihc =>
    exact (((iha h.1).single.snoc (ihb h.2.1)).snoc (ihc h.2.2)).call rfl
  | cond a b c iha ihb ihc => exact (iha h.1).cond (ihb h.2.1) (ihc h.2.2)

/-- A term that is written right is read back. -/
theorem readTerm_tokens {t : Term} (h : t.Written) : readTerm t.tokens = some t := by
  have hopen : Open 0 [] := by simp [Open]
  obtain ⟨frames, u, hrun, hreduce⟩ := reads_tokens h 0 [] (Nat.zero_le _) hopen
  rw [readTerm, hrun]
  show finish ⟨frames, some u⟩ = _
  rw [finish, hreduce 0 le_rfl]
  rfl

end Term

theorem termOf?_code {t : Term} (h : t.Written) : termOf? t.code.fragment = some t := by
  rw [termOf?, (t.readAs_tokens).tokens_fragment t.apart]
  exact Term.readTerm_tokens h

end SeriesSql.Labels
