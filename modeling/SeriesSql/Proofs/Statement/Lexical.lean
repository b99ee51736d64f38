import SeriesSql.Proofs.Compile.Spacing
import SeriesSql.Proofs.Sql.Tokens

/-!
# A statement is one statement

Outside its literals, the text of a statement has nothing that ends the statement or hides a part of
it: parentheses are matched, and there is no line break, semicolon, double quote or comment sign.

There are four groups.

* The characters outside literals.
* Matched parentheses, as a condition on every beginning of a text.
* Spaced signs: a blank follows each `-` and each `/`, so no two of them make a comment sign.
* `tidy_outside`: all of this holds of native code, part by part.  `singleStatement_outside` is the
  case of a statement.
-/

namespace SeriesSql

open Sql Compile

namespace Sql

/-! ## Characters outside literals -/

def outside : List Lexeme → List Char
  | [] => []
  | .char c :: rest => c :: outside rest
  | .literal _ :: rest => outside rest

theorem outside_append (first second : List Lexeme) :
    outside (first ++ second) = outside first ++ outside second := by
  induction first with
  | nil => rfl
  | cons lexeme first ih => cases lexeme <;> simp [outside, ih]

theorem outside_chars (cs : List Char) : outside (cs.map .char) = cs := by
  induction cs with
  | nil => rfl
  | cons c cs ih => simp [outside, ih]

/-! ## Parentheses -/

/-- No parenthesis is closed before it is opened, and none stays open. -/
structure Nested (cs : List Char) : Prop where
  closed_le : ∀ front, front <+: cs → front.count ')' ≤ front.count '('
  count_eq : cs.count ')' = cs.count '('

theorem Nested.append {cs ds : List Char} (hcs : Nested cs) (hds : Nested ds) :
    Nested (cs ++ ds) := by
  constructor
  · rintro front ⟨rest, htext⟩
    rcases List.append_eq_append_iff.mp htext with ⟨more, hcs', -⟩ | ⟨more, rfl, hds'⟩
    · exact hcs.closed_le front ⟨more, hcs'.symm⟩
    · have hclosed := hds.closed_le more ⟨rest, hds'.symm⟩
      rw [List.count_append, List.count_append, hcs.count_eq]
      omega
  · rw [List.count_append, List.count_append, hcs.count_eq, hds.count_eq]

theorem Nested.parens {cs : List Char} (h : Nested cs) : Nested ('(' :: (cs ++ [')'])) := by
  constructor
  · rintro (_ | ⟨c, front⟩) ⟨rest, htext⟩
    · simp
    · obtain ⟨rfl, hinner⟩ := List.cons.inj htext
      have hopen : ('(' :: front).count '(' = front.count '(' + 1 := List.count_cons_self
      have hclose : ('(' :: front).count ')' = front.count ')' := List.count_cons_of_ne (by decide)
      rw [hopen, hclose]
      rcases List.append_eq_append_iff.mp hinner with ⟨more, hcs, -⟩ | ⟨more, rfl, hlast⟩
      · have hclosed := h.closed_le front ⟨more, hcs.symm⟩
        omega
      · -- the parenthesis that closes last has the first one for its partner
        have hmore : more.count ')' ≤ [')'].count ')' :=
          List.Sublist.count_le ')' (hlast ▸ List.sublist_append_left more rest)
        rw [List.count_singleton_self] at hmore
        rw [List.count_append, List.count_append, h.count_eq]
        omega
  · simp [List.count_append, h.count_eq]

theorem nested_of_not_mem {cs : List Char} (hopen : '(' ∉ cs) (hclose : ')' ∉ cs) : Nested cs := by
  constructor
  · intro front hfront
    have hnone : ')' ∉ front := fun hin => hclose (hfront.subset hin)
    rw [List.count_eq_zero_of_not_mem hnone]
    exact Nat.zero_le _
  · rw [List.count_eq_zero_of_not_mem hopen, List.count_eq_zero_of_not_mem hclose]

/-! ## Signs -/

/-- A blank follows each sign that could start a comment. -/
def SignsSpaced (cs : List Char) : Prop :=
  ∀ front c rest, cs = front ++ c :: rest → c = '-' ∨ c = '/' → rest.head? = some ' '

theorem SignsSpaced.append {cs ds : List Char} (hcs : SignsSpaced cs) (hds : SignsSpaced ds) :
    SignsSpaced (cs ++ ds) := by
  intro front c rest htext hc
  rcases List.append_eq_append_iff.mp htext with ⟨more, rfl, hds'⟩ | ⟨more, hcs', hrest⟩
  · exact hds more c rest hds' hc
  · cases more with
    | nil => exact hds [] c rest hrest.symm hc
    | cons d more =>
      obtain ⟨rfl, hrest'⟩ := List.cons.inj hrest
      have hblank := hcs front c more hcs' hc
      rw [hrest', List.append_eq, List.head?_append, hblank]
      rfl

theorem signsSpaced_of_not_mem {cs : List Char} (hminus : '-' ∉ cs) (hdivide : '/' ∉ cs) :
    SignsSpaced cs := by
  rintro front c rest rfl (rfl | rfl)
  · exact absurd (by simp) hminus
  · exact absurd (by simp) hdivide

/-- Where signs are spaced, no sign has another character than a blank after it. -/
theorem SignsSpaced.not_infix {cs : List Char} (h : SignsSpaced cs) {c d : Char}
    (hc : c = '-' ∨ c = '/') (hd : d ≠ ' ') : ¬[c, d] <:+: cs := by
  rintro ⟨front, rest, rfl⟩
  have hblank := h front c (d :: rest) (by simp) hc
  exact hd (by simpa using hblank)

theorem signsSpaced_sign (s : Sign) : SignsSpaced s.text.toList := by
  have hblank : SignsSpaced [' '] := signsSpaced_of_not_mem (by decide) (by decide)
  have hsign : ∀ c, SignsSpaced [c, ' '] := by
    rintro c (_ | ⟨a, _ | ⟨b, front⟩⟩) d rest htext hd
    · obtain ⟨-, rfl⟩ := List.cons.inj htext
      rfl
    · simp only [List.cons_append, List.nil_append, List.cons.injEq] at htext
      obtain ⟨-, rfl, -⟩ := htext
      simp at hd
    · simp at htext
  cases s with
  | minus => exact hblank.append (hsign '-')
  | divide => exact hblank.append (hsign '/')
  | _ => exact signsSpaced_of_not_mem (by decide) (by decide)

/-! ## Code -/

/-- The characters of code outside literals. -/
def isCodeChar (c : Char) : Bool :=
  isPlain c || c == '(' || c == ')' || c == '-' || c == '/' || c == '?'

structure Tidy (cs : List Char) : Prop where
  chars : ∀ c ∈ cs, isCodeChar c = true
  nested : Nested cs
  signs : SignsSpaced cs

theorem Tidy.append {cs ds : List Char} (hcs : Tidy cs) (hds : Tidy ds) : Tidy (cs ++ ds) := by
  refine ⟨?_, hcs.nested.append hds.nested, hcs.signs.append hds.signs⟩
  rw [List.forall_mem_append]
  exact ⟨hcs.chars, hds.chars⟩

theorem Tidy.parens {cs : List Char} (h : Tidy cs) : Tidy ('(' :: (cs ++ [')'])) := by
  have hopen : SignsSpaced ['('] := signsSpaced_of_not_mem (by decide) (by decide)
  have hclose : SignsSpaced [')'] := signsSpaced_of_not_mem (by decide) (by decide)
  refine ⟨?_, h.nested.parens, hopen.append (h.signs.append hclose)⟩
  rw [List.forall_mem_cons, List.forall_mem_append, List.forall_mem_singleton]
  exact ⟨rfl, h.chars, rfl⟩

/-- Plain characters are neither parentheses nor signs. -/
theorem tidy_of_plain {cs : List Char} (h : ∀ c ∈ cs, isPlain c = true) : Tidy cs := by
  have hnone : ∀ c, isPlain c = false → c ∉ cs := by
    intro c hc hin
    rw [h c hin] at hc
    cases hc
  refine ⟨?_, nested_of_not_mem (hnone _ (by decide)) (hnone _ (by decide)),
    signsSpaced_of_not_mem (hnone _ (by decide)) (hnone _ (by decide))⟩
  intro c hc
  simp [isCodeChar, h c hc]

theorem tidy_sign (s : Sign) : Tidy s.text.toList := by
  have hchars : s.text.toList.all isCodeChar = true := by
    cases s <;> decide
  have hparens : '(' ∉ s.text.toList ∧ ')' ∉ s.text.toList := by
    cases s <;> decide
  exact ⟨List.all_eq_true.mp hchars, nested_of_not_mem hparens.1 hparens.2, signsSpaced_sign s⟩

theorem isPlain_of_isDigit {c : Char} (h : c.isDigit = true) : isPlain c = true := by
  simp [isPlain, Char.isAlphanum, h]

namespace Code

theorem tidy_outside {code : Code} (h : code.Native) : Tidy (outside code.lexemes) := by
  induction code with
  | word w =>
    rw [lexemes_word, outside_chars]
    exact tidy_of_plain (List.all_eq_true.mp w.plain)
  | sign s =>
    rw [lexemes_sign, outside_chars]
    exact tidy_sign s
  | number n =>
    rw [lexemes_number, outside_chars]
    refine tidy_of_plain fun c hc => isPlain_of_isDigit ?_
    exact Nat.isDigit_of_mem_toDigits (by decide) (by decide) hc
  | quoted s => exact tidy_of_plain (by simp [lexemes, pieces, Piece.lexemes, outside])
  | bound v =>
    have hmark : outside (bound v).lexemes = ['?'] := rfl
    rw [hmark]
    exact ⟨by simp [isCodeChar], nested_of_not_mem (by decide) (by decide),
      signsSpaced_of_not_mem (by decide) (by decide)⟩
  | parens inner ih =>
    have hparens : outside (parens inner).lexemes = '(' :: (outside inner.lexemes ++ [')']) := by
      simp [outside, outside_append]
    rw [hparens]
    exact (ih h).parens
  | seq first second ih₁ ih₂ =>
    have happend : outside (seq first second).lexemes =
        outside first.lexemes ++ outside second.lexemes := by
      rw [← outside_append, ← lexemes_append]
      rfl
    rw [happend]
    exact (ih₁ h.1).append (ih₂ h.2)
  | given f => exact h.elim

end Code

/-- Characters outside literals that can neither end a statement nor hide a part of it. -/
structure SingleStatement (cs : List Char) : Prop where
  nested : Nested cs
  lineFeed : '\n' ∉ cs
  carriageReturn : '\r' ∉ cs
  semicolon : ';' ∉ cs
  doubleQuote : '"' ∉ cs
  lineComment : ¬['-', '-'] <:+: cs
  blockComment : ¬['/', '*'] <:+: cs

theorem Tidy.singleStatement {cs : List Char} (h : Tidy cs) : SingleStatement cs := by
  have hnone : ∀ c, isCodeChar c = false → c ∉ cs := by
    intro c hc hin
    rw [h.chars c hin] at hc
    cases hc
  exact {
    nested := h.nested
    lineFeed := hnone _ (by decide)
    carriageReturn := hnone _ (by decide)
    semicolon := hnone _ (by decide)
    doubleQuote := hnone _ (by decide)
    lineComment := h.signs.not_infix (.inl rfl) (by decide)
    blockComment := h.signs.not_infix (.inr rfl) (by decide) }

end Sql

/-! ## Statements -/

namespace Expr

/-- The text of a statement is read without open literals, and outside literals it is one
statement. -/
theorem singleStatement_outside {o : Options} {e : Expr} {f : Fragment}
    (h : e.statement o = .ok f) :
    ∃ lexemes, readCode f.text.toList = some lexemes ∧ SingleStatement (outside lexemes) := by
  obtain ⟨c, hc, rfl⟩ := statement_eq_ok_iff.mp h
  have hapart := apart_rowsCode hc
  exact ⟨_, hapart.readCode_text, (Code.tidy_outside hapart.native).singleStatement⟩

/-- A quotient of sums over the labels that are kept of a selector, whose matcher would end the
statement and start a comment. -/
def keptQuotient : Expr :=
  .binary "/" .filter
    (.aggregate "sum" (.by [⟨"pool", by decide⟩])
      (.call "label_keep"
        [.selector ⟨⟨"requests", by decide⟩,
          [⟨⟨"stage", by decide⟩, .equal, "\"); DROP TABLE sample_value; -- /*\n",
            by decide⟩], none⟩,
          .text "pool", .text "dc"]))
    (.number 2)

theorem singleStatement_outside_quotient :
    ∃ f, keptQuotient.statement ⟨true, .edit, .search, 100⟩ = .ok f ∧
      ∃ lexemes, readCode f.text.toList = some lexemes ∧ SingleStatement (outside lexemes) :=
  Exists.imp (fun _ hf => ⟨hf, singleStatement_outside hf⟩) ⟨_, rfl⟩

end Expr

end SeriesSql
