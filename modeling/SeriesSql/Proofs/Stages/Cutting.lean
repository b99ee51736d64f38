import SeriesSql.Proofs.Labels.ReadBack
import SeriesSql.Proofs.Stages.Statement

/-!
# Cutting at parentheses

The input of a staged statement is found again with its own values, whatever stands in it, and what
follows it is split only outside parentheses.

There are three groups.

* Reading a text that goes on, which gives the same lexemes.
* Cutting the input out: `Whole.cut?_between`.
* Splitting tokens.  `Passes` says that tokens are not split, and that parentheses are matched in
  them.  A term is not split: `Term.passes_tokens`.
-/

namespace SeriesSql

open Sql Labels

namespace Sql

/-! ## Reading on -/

/-- A character that is no quote belongs to the literal. -/
theorem readLiteral_cons {c : Char} (h : c ≠ '\'') (contents cs : List Char) :
    readLiteral contents (c :: cs) = readLiteral (contents ++ [c]) cs := by
  simp [readLiteral, h]

/-- The ways in which a literal goes on. -/
theorem literal_cases (cs : List Char) :
    cs = [] ∨ (∃ c rest, c ≠ '\'' ∧ cs = c :: rest) ∨ (∃ rest, cs = '\'' :: '\'' :: rest) ∨
      ∃ rest, rest.head? ≠ some '\'' ∧ cs = '\'' :: rest := by
  cases cs with
  | nil => exact .inl rfl
  | cons c cs =>
    by_cases hc : c = '\''
    · subst hc
      cases cs with
      | nil => exact .inr (.inr (.inr ⟨[], by simp, rfl⟩))
      | cons d cs =>
        by_cases hd : d = '\''
        · subst hd
          exact .inr (.inr (.inl ⟨cs, rfl⟩))
        · exact .inr (.inr (.inr ⟨d :: cs, by simpa using hd, rfl⟩))
    · exact .inr (.inl ⟨c, cs, hc, rfl⟩)

mutual

/-- What is read of a text does not depend on what follows it, unless a quote does. -/
theorem readCode_append {rest : List Char} (hrest : rest.head? ≠ some '\'') (cs : List Char)
    {ls : List Lexeme} (h : readCode cs = some ls) :
    readCode (cs ++ rest) = (readCode rest).map (ls ++ ·) ∧ ls.flatMap Lexeme.chars = cs := by
  cases cs with
  | nil =>
    obtain rfl : [] = ls := by simpa [readCode] using h
    simp
  | cons c cs =>
    rw [readCode] at h
    rw [List.cons_append, readCode]
    split at h
    · rename_i hquote
      rw [if_pos hquote, hquote]
      exact readLiteral_append hrest [] cs h
    · rename_i hquote
      obtain ⟨ls, hls, rfl⟩ := Option.map_eq_some_iff.mp h
      obtain ⟨hread, hchars⟩ := readCode_append hrest cs hls
      rw [if_neg hquote, hread, Option.map_map, List.flatMap_cons, hchars]
      exact ⟨rfl, rfl⟩
termination_by cs.length

theorem readLiteral_append {rest : List Char} (hrest : rest.head? ≠ some '\'')
    (contents cs : List Char) {ls : List Lexeme} (h : readLiteral contents cs = some ls) :
    readLiteral contents (cs ++ rest) = (readCode rest).map (ls ++ ·) ∧
      ls.flatMap Lexeme.chars = '\'' :: (doubleQuotes contents ++ cs) := by
  rcases literal_cases cs with rfl | ⟨c, cs, hc, rfl⟩ | ⟨cs, rfl⟩ | ⟨cs, hhead, rfl⟩
  · cases h
  · rw [readLiteral_cons hc] at h
    rw [List.cons_append, readLiteral_cons hc]
    obtain ⟨hread, hchars⟩ := readLiteral_append hrest (contents ++ [c]) cs h
    exact ⟨hread, by simp [hchars, doubleQuotes, hc]⟩
  · rw [readLiteral] at h
    obtain ⟨hread, hchars⟩ := readLiteral_append hrest (contents ++ ['\'']) cs h
    exact ⟨hread, by simp [hchars, doubleQuotes]⟩
  · have hhead' : (cs ++ rest).head? ≠ some '\'' := by
      cases cs with
      | nil => exact hrest
      | cons c cs => exact hhead
    rw [readLiteral_quote contents hhead] at h
    obtain ⟨ls, hls, rfl⟩ := Option.map_eq_some_iff.mp h
    obtain ⟨hread, hchars⟩ := readCode_append hrest cs hls
    rw [List.cons_append, readLiteral_quote contents hhead', hread, Option.map_map]
    exact ⟨rfl, by simp [Lexeme.chars, quoteChars, hchars]⟩
termination_by cs.length

end

/-- The lexemes of a text give it back. -/
theorem chars_readCode {cs : List Char} {ls : List Lexeme} (h : readCode cs = some ls) :
    ls.flatMap Lexeme.chars = cs :=
  (@readCode_append [] (by simp) cs ls h).2

/-! ## Cutting the input out -/

/-- The parenthesis that closes is the first one with no partner. -/
theorem cutClosing_append {ls : List Lexeme} {depth : Nat}
    (hclosed : ∀ front, front <+: outside ls → front.count ')' ≤ depth + front.count '(')
    (hcount : (outside ls).count ')' = depth + (outside ls).count '(') (rest : List Lexeme) :
    cutClosing depth (ls ++ .char ')' :: rest) = some (ls, rest) := by
  induction ls generalizing depth with
  | nil =>
    obtain rfl : depth = 0 := by simpa [outside] using hcount.symm
    simp [cutClosing]
  | cons l ls ih =>
    cases l with
    | literal s =>
      have hnesting : nesting (Lexeme.char '(') (.char ')') depth (.literal s) = depth := by
        simp [nesting]
      rw [List.cons_append, cutClosing, if_neg (by simp), hnesting, ih hclosed hcount]
      rfl
    | char c =>
      have hfront : ∀ front, front <+: outside ls →
          (c :: front).count ')' ≤ depth + (c :: front).count '(' :=
        fun front hfront => hclosed (c :: front) (List.cons_prefix_cons.mpr ⟨rfl, hfront⟩)
      have hopen : ¬((Lexeme.char c = .char ')') ∧ depth = 0) := by
        rintro ⟨hc, rfl⟩
        obtain rfl : c = ')' := by simpa using hc
        simpa using hfront [] List.nil_prefix
      have hnesting : cutClosing (nesting (Lexeme.char '(') (.char ')') depth (.char c))
          (ls ++ .char ')' :: rest) = some (ls, rest) := by
        simp only [outside, List.count_cons, beq_iff_eq] at hcount hfront
        refine ih (fun front hprefix => ?_) ?_
        · have := hfront front hprefix
          grind [nesting]
        · grind [nesting]
      rw [List.cons_append, cutClosing, if_neg hopen, hnesting]
      rfl

/-- A fragment that can stand between parentheses: its literals are closed, outside literals it is
one statement, and each placeholder has its value. -/
def Fragment.Whole (f : Fragment) : Prop :=
  ∃ lexemes, readCode f.text.toList = some lexemes ∧ SingleStatement (outside lexemes) ∧
    lexemes.count (.char '?') = f.params.length

theorem count_lexemes {pieces : List Piece} (h : ∀ p ∈ pieces, p.Calm) :
    (pieces.flatMap (Piece.lexemes fun _ => [.char '?'])).count (.char '?') =
      (pieces.flatMap Piece.values).length := by
  induction pieces with
  | nil => rfl
  | cons p pieces ih =>
    obtain ⟨hp, hpieces⟩ := List.forall_mem_cons.mp h
    have hcount : (p.lexemes fun _ => [.char '?']).count (.char '?') = p.values.length := by
      cases p with
      | plain cs =>
        refine List.count_eq_zero_of_not_mem fun hmem => ?_
        obtain ⟨c, hc, hmark⟩ := List.mem_map.mp hmem
        exact (hp c hc).2 (by simpa using hmark)
      | literal s => rfl
      | value v => rfl
    rw [List.flatMap_cons, List.flatMap_cons, List.count_append, List.length_append, hcount,
      ih hpieces]

theorem Code.Apart.whole {code : Code} (h : code.Apart false) : code.fragment.Whole := by
  refine ⟨_, h.readCode_text, (Code.tidy_outside h.native).singleStatement, ?_⟩
  rw [count_lexemes (Code.calm_pieces h.native), ← Code.params_eq_values h.native]
  rfl

/-- The input is found between code without parentheses and other code, and what is bound in it is
not taken for a value of what follows. -/
theorem Fragment.Whole.cut?_between {input : Fragment} (hinput : input.Whole) {first last : Code}
    {ts us : List Token} (hfirst : first.Apart false) (hts : first.ReadAs ts)
    (hparams : first.params = []) (hparen : .char '(' ∉ first.lexemes)
    (hlast : last.Apart false) (hus : last.ReadAs us) :
    Fragment.cut? ⟨first.text ++ "(" ++ input.text ++ ")" ++ last.text,
        input.params ++ last.params⟩ = some (ts, input, us) := by
  obtain ⟨inner, hinner, hstatement, hcount⟩ := hinput
  have hread : readCode (first.text ++ "(" ++ input.text ++ ")" ++ last.text).toList =
      some (first.lexemes ++ .char '(' :: (inner ++ .char ')' :: last.lexemes)) := by
    have hafter : readCode (')' :: last.text.toList) = some (.char ')' :: last.lexemes) := by
      rw [readCode, if_neg (by decide), hlast.readCode_text]
      rfl
    have hmiddle : readCode ('(' :: (input.text.toList ++ ')' :: last.text.toList)) =
        some (.char '(' :: (inner ++ .char ')' :: last.lexemes)) := by
      rw [readCode, if_neg (by decide), (readCode_append (by simp) _ hinner).1, hafter]
      rfl
    have hfirstRead : readCode first.text.toList = some first.lexemes := hfirst.readCode_text
    have htext : (first.text ++ "(" ++ input.text ++ ")" ++ last.text).toList =
        first.text.toList ++ '(' :: (input.text.toList ++ ')' :: last.text.toList) := by simp
    rw [htext, (readCode_append (by simp) _ hfirstRead).1, hmiddle]
    rfl
  have hhead : ∀ l ∈ first.lexemes, decide (l ≠ .char '(') = true := by
    intro l hl
    rw [decide_eq_true_eq]
    rintro rfl
    exact hparen hl
  have hbefore : (first.lexemes ++ .char '(' :: (inner ++ .char ')' :: last.lexemes)).takeWhile
      (· ≠ .char '(') = first.lexemes := by
    rw [List.takeWhile_append_of_pos hhead]
    simp
  have hfrom : (first.lexemes ++ .char '(' :: (inner ++ .char ')' :: last.lexemes)).dropWhile
      (· ≠ .char '(') = .char '(' :: (inner ++ .char ')' :: last.lexemes) := by
    rw [List.dropWhile_append_of_pos hhead]
    simp
  have hcut : cutClosing 0 (inner ++ .char ')' :: last.lexemes) = some (inner, last.lexemes) :=
    cutClosing_append (by simpa using hstatement.nested.closed_le)
      (by simpa using hstatement.nested.count_eq) _
  have hfirstRead := hts [] [] [] trivial
  have hlastRead := hus [] [] [] trivial
  rw [List.append_nil, List.append_nil, hparams] at hfirstRead
  rw [List.append_nil, List.append_nil] at hlastRead
  have htext : (⟨String.ofList (inner.flatMap Lexeme.chars), input.params⟩ : Fragment) = input := by
    rw [chars_readCode hinner, String.ofList_toList]
  simp only [Fragment.cut?, hread, Option.bind_eq_bind, Option.bind_some, hbefore, hfrom,
    List.tail_cons, hcut, hcount, List.drop_left, List.take_left, hfirstRead, hlastRead]
  simp [Scan.read, Scan.tokens, htext]

/-! ## Splitting tokens -/

/-- Outside `low` parentheses, tokens are not split, and they leave as many parentheses open as
there were. -/
def Passes (stop : Token) (low : Nat) (ts : List Token) : Prop :=
  ∀ depth ≥ low, ∀ us, splitOutside stop depth (ts ++ us) =
    (splitOutside stop depth us).modifyHead (ts ++ ·)

section Passes

variable {stop : Token} {low : Nat} {ts us : List Token}

theorem Passes.mono (h : Passes stop 0 ts) (low : Nat) : Passes stop low ts :=
  fun depth _ => h depth (Nat.zero_le depth)

theorem Passes.append (hts : Passes stop low ts) (hus : Passes stop low us) :
    Passes stop low (ts ++ us) := by
  intro depth hdepth vs
  rw [List.append_assoc, hts depth hdepth, hus depth hdepth, List.modifyHead_modifyHead]
  congr 1
  funext vs
  simp

theorem passes_nil : Passes stop low [] := by
  intro depth _ us
  rw [List.nil_append]
  cases splitOutside stop depth us <;> rfl

theorem passes_of_forall (h : ∀ t ∈ ts, Passes stop low [t]) : Passes stop low ts := by
  induction ts with
  | nil => exact passes_nil
  | cons t ts ih =>
    obtain ⟨ht, hts⟩ := List.forall_mem_cons.mp h
    exact ht.append (ih hts)

theorem passes_token {t : Token} (hopen : t ≠ .word "(") (hclose : t ≠ .word ")")
    (hstop : low = 0 → t ≠ stop) : Passes stop low [t] := by
  intro depth hdepth us
  have hgoes : ¬(t = stop ∧ depth = 0) := by
    rintro ⟨hsame, hzero⟩
    exact hstop (by omega) hsame
  have hnesting : nesting (.word "(") (.word ")") depth t = depth := by
    rw [nesting, if_neg hopen, if_neg hclose]
  rw [List.singleton_append, splitOutside, if_neg hgoes, hnesting]
  rfl

theorem Passes.parens (hopen : stop ≠ .word "(") (h : Passes stop 1 ts) :
    Passes stop 0 (.word "(" :: (ts ++ [.word ")"])) := by
  intro depth _ us
  have hin : nesting (.word "(") (.word ")") depth (Token.word "(") = depth + 1 := if_pos rfl
  have hout : nesting (.word "(") (.word ")") (depth + 1) (Token.word ")") = depth := by
    rw [nesting, if_neg (by decide), if_pos rfl]
    rfl
  have hlast : splitOutside stop (depth + 1) (.word ")" :: us) =
      (splitOutside stop depth us).modifyHead (.word ")" :: ·) := by
    rw [splitOutside, if_neg (by omega), hout]
  rw [List.cons_append, splitOutside, if_neg (fun hsame => hopen hsame.1.symm), hin,
    List.append_assoc, h (depth + 1) (by omega), List.singleton_append, hlast,
    List.modifyHead_modifyHead, List.modifyHead_modifyHead]
  congr 1
  funext us
  simp

theorem Passes.split_end (h : Passes stop 0 ts) : splitOutside stop 0 ts = [ts] := by
  have hsplit := h 0 le_rfl []
  rw [List.append_nil] at hsplit
  rw [hsplit]
  simp [splitOutside]

theorem Passes.split_stop (h : Passes stop 0 ts) (us : List Token) :
    splitOutside stop 0 (ts ++ stop :: us) = ts :: splitOutside stop 0 us := by
  rw [h 0 le_rfl, splitOutside, if_pos ⟨rfl, rfl⟩]
  simp

theorem splitOutside_intercalate {parts : List (List Token)} (hne : parts ≠ [])
    (h : ∀ part ∈ parts, Passes stop 0 part) :
    splitOutside stop 0 ([stop].intercalate parts) = parts := by
  induction parts with
  | nil => exact absurd rfl hne
  | cons part parts ih =>
    obtain ⟨hpart, hparts⟩ := List.forall_mem_cons.mp h
    cases parts with
    | nil => simpa using hpart.split_end
    | cons next parts =>
      rw [List.intercalate_cons_cons, List.append_assoc, List.singleton_append, hpart.split_stop,
        ih (by simp) hparts]

theorem passes_intercalate {mark : Token} (hmark : Passes stop low [mark])
    {parts : List (List Token)} (h : ∀ part ∈ parts, Passes stop low part) :
    Passes stop low ([mark].intercalate parts) := by
  induction parts with
  | nil => exact passes_nil
  | cons part parts ih =>
    obtain ⟨hpart, hparts⟩ := List.forall_mem_cons.mp h
    cases parts with
    | nil => simpa using hpart
    | cons next parts =>
      rw [List.intercalate_cons_cons]
      exact (hpart.append hmark).append (ih hparts)

end Passes

/-- The words that queries are split at. -/
def stops : List String := ["SELECT", "FROM", "ORDER", ","]

section Words

variable {stop : String} (hstop : stop ∈ stops)

include hstop

theorem passes_word {text : String} (h : text ∉ "(" :: ")" :: stops) :
    Passes (.word stop) 0 [.word text] := by
  simp only [List.mem_cons, not_or] at h
  refine passes_token (by simpa using h.1) (by simpa using h.2.1) fun _ hsame => ?_
  obtain rfl : text = stop := by simpa using hsame
  exact h.2.2 hstop

theorem Passes.call {ts : List Token} (h : Passes (.word stop) 1 ts) :
    Passes (.word stop) 0 (.word "(" :: (ts ++ [.word ")"])) := by
  refine h.parens fun hopen => ?_
  obtain rfl : stop = "(" := by simpa using hopen
  exact absurd hstop (by decide)

end Words

end Sql

namespace Labels

open Reader

theorem passes_symbol {stop : String} (hstop : stop ∈ stops) {symbol : Symbol}
    (h : symbol.text ∉ "(" :: ")" :: stops) : Passes (.word stop) 0 [symbol.token] :=
  passes_word hstop h

/-- A term is not split: the commas and the words of its queries stand inside parentheses. -/
theorem Term.passes_tokens {stop : String} (hstop : stop ∈ stops) (t : Term) :
    Passes (.word stop) 0 t.tokens := by
  have hcomma : Passes (.word stop) 1 [Symbol.comma.token] :=
    passes_token (by decide) (by decide) (by simp)
  have hargs {ts us : List Token} (hts : Passes (.word stop) 1 ts)
      (hus : Passes (.word stop) 1 us) : Passes (.word stop) 1 (comma ts us) :=
    (hts.append hcomma).append hus
  have hcall {f : Reader.Function} {ts : List Token} (hts : Passes (.word stop) 1 ts) :
      Passes (.word stop) 0 (f.tokens ts) :=
    (passes_symbol hstop (by cases f <;> decide)).append (hts.call hstop)
  have hoperator (op : Operator) {ts us : List Token} (hts : Passes (.word stop) 0 ts)
      (hus : Passes (.word stop) 0 us) : Passes (.word stop) 0 (op.tokens ts us) :=
    (hts.append (passes_symbol hstop (by cases op <;> decide))).append hus
  induction t with
  | null => exact passes_symbol hstop (by decide)
  | int n | text s | bound s => exact passes_token (by simp) (by simp) (by simp)
  | column c => exact passes_symbol hstop (by cases c <;> decide)
  | group t ih => exact (ih.mono 1).call hstop
  | concat a b iha ihb | plus a b iha ihb | minus a b iha ihb | equal a b iha ihb
  | greater a b iha ihb | regexp a b iha ihb | or a b iha ihb => exact hoperator _ iha ihb
  | isNull t ih => exact hoperator _ ih (passes_symbol hstop (by decide))
  | not t ih => exact (passes_symbol hstop (by decide)).append ih
  | instr a b iha ihb | suffix a b iha ihb | coalesce a b iha ihb =>
    exact hcall (hargs (iha.mono 1) (ihb.mono 1))
  | slice a b c iha ihb ihc | replace a b c iha ihb ihc =>
    exact hcall (hargs (hargs (iha.mono 1) (ihb.mono 1)) (ihc.mono 1))
  | length t ih => exact hcall (ih.mono 1)
  | trimCommas t ih => exact hcall (hargs (ih.mono 1) (passes_token (by simp) (by simp) (by simp)))
  | lookup key =>
    have hinner : ∀ t ∈ Symbol.select.token :: selection key, t ≠ .word "(" ∧ t ≠ .word ")" := by
      simp [selection, Symbol.token, Symbol.text]
    have hquery : Passes (.word stop) 1 (Symbol.select.token :: selection key) :=
      passes_of_forall fun t ht => passes_token (hinner t ht).1 (hinner t ht).2 (by simp)
    exact hquery.call hstop
  | cond a b c iha ihb ihc =>
    have hcase : Passes (.word stop) 0 [Symbol.caseStart.token] := passes_symbol hstop (by decide)
    have hwhen : Passes (.word stop) 0 [Symbol.caseTest.token] := passes_symbol hstop (by decide)
    have hthen : Passes (.word stop) 0 [Symbol.caseYes.token] := passes_symbol hstop (by decide)
    have helse : Passes (.word stop) 0 [Symbol.caseNo.token] := passes_symbol hstop (by decide)
    have hend : Passes (.word stop) 0 [Symbol.caseEnd.token] := passes_symbol hstop (by decide)
    have htest := ((hcase.append hwhen).append iha).append hthen
    exact (((htest.append ihb).append helse).append ihc).append hend

end Labels

end SeriesSql
