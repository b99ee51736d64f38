import SeriesSql.Proofs.Sql.Reading

/-!
# Tokens

The lexemes of SQL text are put together to tokens: names, numbers, operators and marks such as
parentheses, literals, and values that take the places of the question marks in turn.  Names and
operators go on as far as they can.

There are three groups.

* The tokens of a text.
* Characters outside literals, which the scan takes one by one.  What it does with the characters of
  a fixed word can be computed (`read_chars`).
* The tokens of code.  `Code.ReadAs` says which tokens code is read as, whatever comes before and
  after it, except that no name goes on after it, and `Code.ClosedAs` says the same without
  exception.
-/

namespace SeriesSql.Sql

/-! ## Tokens of a text -/

inductive Token where
  /-- A name, an operator or a mark. -/
  | word (s : String)
  | number (n : Nat)
  | literal (s : String)
  /-- A bound text. -/
  | value (s : String)
deriving Repr, DecidableEq

def Token.value? : Token → Option String
  | value s => some s
  | _ => none

inductive CharKind where
  | blank
  | name
  | operator
  | mark
deriving DecidableEq

def CharKind.of (c : Char) : CharKind :=
  if c.isWhitespace then blank
  else if c.isAlphanum || c == '_' || c == '.' then name
  else if "|+-*/%=<>".toList.contains c then operator
  else mark

/-- How far a text is read: the tokens that are complete, and the characters of a name or an
operator that may go on. -/
structure Scan where
  done : List Token
  run : List Char
deriving DecidableEq

namespace Scan

/-- The tokens if nothing goes on. -/
def tokens (s : Scan) : List Token :=
  if s.run.isEmpty then s.done
  else if s.run.all Char.isDigit then s.done ++ [.number (Nat.ofDigitChars 10 s.run 0)]
  else s.done ++ [.word (String.ofList s.run)]

def add (s : Scan) (t : Token) : Scan :=
  ⟨s.tokens ++ [t], []⟩

/-- Reads a character outside literals. -/
def next (s : Scan) (c : Char) : Scan :=
  match CharKind.of c with
  | .blank => ⟨s.tokens, []⟩
  | .mark => s.add (.word (String.singleton c))
  | kind => if s.run.all (CharKind.of · = kind) then ⟨s.done, s.run ++ [c]⟩ else ⟨s.tokens, [c]⟩

/-- Reads lexemes, with the next value for a question mark.  There is no result if question marks
and values are not equally many or a value is no text. -/
def read (s : Scan) (params : List Value) : List Lexeme → Option (List Token)
  | [] => if params.isEmpty then some s.tokens else none
  | .literal t :: rest => (s.add (.literal t)).read params rest
  | .char c :: rest =>
    if c = '?' then
      match params with
      | .text t :: params => (s.add (.value t)).read params rest
      | _ => none
    else (s.next c).read params rest

end Scan

/-- The tokens of a fragment, with its values in their places. -/
def Fragment.tokens (f : Fragment) : Option (List Token) := do
  Scan.read ⟨[], []⟩ f.params (← readCode f.text.toList)

/-! ## Characters -/

namespace Scan

/-- The same scan after more tokens. -/
def after (done : List Token) (s : Scan) : Scan :=
  ⟨done ++ s.done, s.run⟩

theorem tokens_after (done : List Token) (s : Scan) :
    (s.after done).tokens = done ++ s.tokens := by
  unfold tokens after
  split
  · rfl
  · split <;> rw [List.append_assoc]

theorem next_after (done : List Token) (s : Scan) (c : Char) :
    (s.after done).next c = (s.next c).after done := by
  unfold next
  split
  · rw [tokens_after]
    rfl
  · rw [add, add, tokens_after, List.append_assoc]
    rfl
  · rw [tokens_after]
    split
    · rw [if_pos (by assumption)]
      rfl
    · rw [if_neg (by assumption)]
      rfl

theorem foldl_next_after (done : List Token) (s : Scan) (cs : List Char) :
    cs.foldl next (s.after done) = (cs.foldl next s).after done := by
  induction cs generalizing s with
  | nil => rfl
  | cons c cs ih => rw [List.foldl_cons, List.foldl_cons, next_after, ih]

theorem read_char {c : Char} (h : c ≠ '?') (s : Scan) (params : List Value) (rest : List Lexeme) :
    s.read params (.char c :: rest) = (s.next c).read params rest :=
  if_neg h

theorem read_chars {cs : List Char} (h : ∀ c ∈ cs, IsCalm c) (s : Scan) (params : List Value)
    (rest : List Lexeme) :
    s.read params (cs.map .char ++ rest) = (cs.foldl next s).read params rest := by
  induction cs generalizing s with
  | nil => rfl
  | cons c cs ih =>
    obtain ⟨⟨-, hmark⟩, hcs⟩ := List.forall_mem_cons.mp h
    rw [List.map_cons, List.cons_append, read_char hmark, ih hcs, List.foldl_cons]

/-- A name goes on as long as its characters follow. -/
theorem foldl_next_name {cs : List Char} (hcs : ∀ c ∈ cs, CharKind.of c = .name) {s : Scan}
    (hrun : ∀ c ∈ s.run, CharKind.of c = .name) :
    cs.foldl next s = ⟨s.done, s.run ++ cs⟩ := by
  induction cs generalizing s with
  | nil => simp
  | cons c cs ih =>
    obtain ⟨hc, hcs⟩ := List.forall_mem_cons.mp hcs
    have hnext : s.next c = ⟨s.done, s.run ++ [c]⟩ := by
      have hall : s.run.all (CharKind.of · = .name) = true := by simpa using hrun
      simp only [next, hc, hall, if_true]
    have hrun' : ∀ d ∈ s.run ++ [c], CharKind.of d = .name := by
      rw [List.forall_mem_append, List.forall_mem_singleton]
      exact ⟨hrun, hc⟩
    rw [List.foldl_cons, hnext, ih hcs hrun', List.append_assoc, List.singleton_append]

end Scan

/-- The lexemes do not go on with a name. -/
def Breaks : List Lexeme → Prop
  | .char c :: _ => CharKind.of c ≠ .name
  | _ => True

/-- A name ends where no more of it follows. -/
theorem Scan.read_of_breaks {s : Scan} (hrun : ∀ c ∈ s.run, CharKind.of c = .name)
    {rest : List Lexeme} (hrest : Breaks rest) (params : List Value) :
    s.read params rest = Scan.read ⟨s.tokens, []⟩ params rest := by
  cases rest with
  | nil => rfl
  | cons lexeme rest =>
    cases lexeme with
    | literal t => rfl
    | char c =>
      by_cases hmark : c = '?'
      · rw [hmark]
        rfl
      · have hnext : s.next c = Scan.next ⟨s.tokens, []⟩ c := by
          unfold next
          cases hc : CharKind.of c with
          | name => exact absurd hc hrest
          | blank | mark => rfl
          | operator =>
            rcases s with ⟨done, _ | ⟨first, run⟩⟩
            · rfl
            · have hname : CharKind.of first = .name := hrun first List.mem_cons_self
              simp [hname]
        rw [read_char hmark, read_char hmark, hnext]

/-! ## Tokens of code -/

namespace Code

/-- What is read of the text of code. -/
def lexemes (code : Code) : List Lexeme :=
  code.pieces.flatMap (Piece.lexemes fun _ => [.char '?'])

@[simp] theorem lexemes_append (first second : Code) :
    (first ++ second).lexemes = first.lexemes ++ second.lexemes := by
  show (first.pieces ++ second.pieces).flatMap _ = _
  rw [List.flatMap_append]
  rfl

@[simp] theorem lexemes_parens (inner : Code) :
    (parens inner).lexemes = .char '(' :: (inner.lexemes ++ [.char ')']) := by
  simp [lexemes, pieces, Piece.lexemes]

theorem lexemes_word (word : Word) : (Code.word word).lexemes = word.text.toList.map .char := by
  simp [lexemes, pieces, Piece.lexemes]

theorem lexemes_number (n : Nat) : (number n).lexemes = (Nat.toDigits 10 n).map .char := by
  simp [lexemes, pieces, Piece.lexemes]

/-- The code is read as `ts`, if no name goes on after it. -/
def ReadAs (code : Code) (ts : List Token) : Prop :=
  ∀ done params rest, Breaks rest →
    Scan.read ⟨done, []⟩ (code.params ++ params) (code.lexemes ++ rest) =
      Scan.read ⟨done ++ ts, []⟩ params rest

/-- The code is read as `ts`, whatever follows it. -/
def ClosedAs (code : Code) (ts : List Token) : Prop :=
  ∀ done params rest,
    Scan.read ⟨done, []⟩ (code.params ++ params) (code.lexemes ++ rest) =
      Scan.read ⟨done ++ ts, []⟩ params rest

/-- No name goes on into the code. -/
structure SetOff (code : Code) : Prop where
  breaks (rest : List Lexeme) : Breaks (code.lexemes ++ rest)

variable {first second code : Code} {ts us : List Token}

theorem ClosedAs.readAs (h : code.ClosedAs ts) : code.ReadAs ts :=
  fun done params rest _ => h done params rest

theorem ClosedAs.append (hfirst : first.ClosedAs ts) (hsecond : second.ReadAs us) :
    (first ++ second).ReadAs (ts ++ us) := by
  intro done params rest hrest
  rw [params_append, lexemes_append, List.append_assoc, List.append_assoc, hfirst,
    hsecond _ _ _ hrest, List.append_assoc]

theorem ReadAs.append (hfirst : first.ReadAs ts) (hsecond : second.ReadAs us)
    (hoff : second.SetOff) : (first ++ second).ReadAs (ts ++ us) := by
  intro done params rest hrest
  rw [params_append, lexemes_append, List.append_assoc, List.append_assoc,
    hfirst _ _ _ (hoff.breaks rest), hsecond _ _ _ hrest, List.append_assoc]

theorem ReadAs.append_closed (hfirst : first.ReadAs ts) (hsecond : second.ClosedAs us)
    (hoff : second.SetOff) : (first ++ second).ClosedAs (ts ++ us) := by
  intro done params rest
  rw [params_append, lexemes_append, List.append_assoc, List.append_assoc,
    hfirst _ _ _ (hoff.breaks rest), hsecond, List.append_assoc]

theorem setOff_of_head {c : Char} {cs : List Lexeme} (h : code.lexemes = .char c :: cs)
    (hc : CharKind.of c ≠ .name) : code.SetOff := by
  refine ⟨fun rest => ?_⟩
  rw [h]
  exact hc

theorem setOff_parens (inner : Code) : (parens inner).SetOff :=
  setOff_of_head (lexemes_parens inner) (by decide)

theorem ReadAs.parens (h : code.ReadAs ts) :
    (parens code).ClosedAs (.word "(" :: (ts ++ [.word ")"])) := by
  intro done params rest
  have hclose : Breaks (.char ')' :: rest) := by
    show CharKind.of ')' ≠ .name
    decide
  calc Scan.read ⟨done, []⟩ ((Code.parens code).params ++ params)
        ((Code.parens code).lexemes ++ rest)
      = Scan.read ⟨done ++ [.word "("], []⟩ (code.params ++ params)
          (code.lexemes ++ .char ')' :: rest) := by
        rw [lexemes_parens, List.cons_append, List.append_assoc]
        rfl
    _ = Scan.read ⟨done ++ [.word "("] ++ ts, []⟩ params (.char ')' :: rest) := h _ _ _ hclose
    _ = Scan.read ⟨done ++ [.word "("] ++ ts ++ [.word ")"], []⟩ params rest := rfl
    _ = Scan.read ⟨done ++ .word "(" :: (ts ++ [.word ")"]), []⟩ params rest := by simp

theorem closedAs_quoted (s : String) : (quoted s).ClosedAs [.literal s] :=
  fun _ _ _ => rfl

theorem closedAs_bound (s : String) : (bound (.text s)).ClosedAs [.value s] :=
  fun _ _ _ => rfl

/-! ### Fixed words and numbers -/

section Chars

variable {cs : List Char} (hparams : code.params = []) (hlexemes : code.lexemes = cs.map .char)
  (hcalm : ∀ c ∈ cs, IsCalm c)

include hparams hlexemes hcalm

theorem read_of_chars (done : List Token) (params : List Value) (rest : List Lexeme) :
    Scan.read ⟨done, []⟩ (code.params ++ params) (code.lexemes ++ rest) =
      ((cs.foldl Scan.next ⟨[], []⟩).after done).read params rest := by
  rw [hparams, hlexemes, List.nil_append, Scan.read_chars hcalm, ← Scan.foldl_next_after]
  simp [Scan.after]

theorem readAs_of_chars (hrun : ∀ c ∈ (cs.foldl Scan.next ⟨[], []⟩).run, CharKind.of c = .name) :
    code.ReadAs (cs.foldl Scan.next ⟨[], []⟩).tokens := by
  intro done params rest hrest
  have hafter : ∀ c ∈ ((cs.foldl Scan.next ⟨[], []⟩).after done).run, CharKind.of c = .name := hrun
  rw [read_of_chars hparams hlexemes hcalm, Scan.read_of_breaks hafter hrest, Scan.tokens_after]

theorem closedAs_of_chars (h : cs.foldl Scan.next ⟨[], []⟩ = ⟨ts, []⟩) : code.ClosedAs ts := by
  intro done params rest
  rw [read_of_chars hparams hlexemes hcalm, h]
  rfl

end Chars

section Words

variable {text : String} {cs : List Char} {plain : Plain text} (written : text = String.ofList cs)
include written

theorem lexemes_w : (w text plain).lexemes = cs.map .char := by
  have hword : (w text plain).lexemes = text.toList.map .char := lexemes_word _
  rw [hword, written, String.toList_ofList]

theorem calm_of_plain (plain : Plain text) : ∀ c ∈ cs, IsCalm c := by
  intro c hc
  rw [Plain, written, String.toList_ofList] at plain
  exact isCalm_of_isPlain (List.all_eq_true.mp plain c hc)

theorem setOff_w (h : cs.head?.any (fun c => CharKind.of c != .name) = true) :
    (w text plain).SetOff := by
  cases cs with
  | nil => cases h
  | cons c cs =>
    have hkind : CharKind.of c ≠ .name := by simpa using h
    exact setOff_of_head (lexemes_w written) hkind

/-- How far the characters of a fixed word are read, and that no name goes on at their end, can be
computed. -/
theorem readAs_w (h : (cs.foldl Scan.next ⟨[], []⟩).tokens = ts ∧
      (cs.foldl Scan.next ⟨[], []⟩).run.all (CharKind.of · = .name) = true) :
    (w text plain).ReadAs ts := by
  rw [← h.1]
  exact readAs_of_chars (params_w text plain) (lexemes_w written) (calm_of_plain written plain)
    (by simpa using h.2)

theorem closedAs_w (h : cs.foldl Scan.next ⟨[], []⟩ = ⟨ts, []⟩) : (w text plain).ClosedAs ts :=
  closedAs_of_chars (params_w text plain) (lexemes_w written) (calm_of_plain written plain) h

end Words

theorem lexemes_sign (s : Sign) : (sign s).lexemes = s.text.toList.map .char := by
  simp [lexemes, pieces, Piece.lexemes]

theorem setOff_sign (s : Sign) : (sign s).SetOff := by
  have hblank : (sign s).lexemes = .char ' ' :: (s.symbol ++ " ").toList.map .char := by
    simp [lexemes_sign, Sign.text]
  exact setOff_of_head hblank (by decide)

theorem closedAs_sign (s : Sign) : (sign s).ClosedAs [.word s.symbol] := by
  refine closedAs_of_chars (params_sign s) (lexemes_sign s) s.calm ?_
  cases s <;> decide +kernel

theorem kind_of_isDigit {c : Char} (h : c.isDigit = true) : CharKind.of c = .name := by
  have hblank : c.isWhitespace = false := by
    rw [Bool.eq_false_iff]
    intro hblank
    simp only [Char.isWhitespace, Bool.or_eq_true, decide_eq_true_eq] at hblank
    rcases hblank with ((rfl | rfl) | rfl) | rfl <;> exact absurd h (by decide)
  simp [CharKind.of, hblank, Char.isAlphanum, h]

theorem readAs_number (n : Nat) : (number n).ReadAs [.number n] := by
  have hdigits : ∀ c ∈ Nat.toDigits 10 n, c.isDigit = true := fun c hc =>
    Nat.isDigit_of_mem_toDigits (by decide) (by decide) hc
  have hname : ∀ c ∈ Nat.toDigits 10 n, CharKind.of c = .name := fun c hc =>
    kind_of_isDigit (hdigits c hc)
  have hcalm : ∀ c ∈ Nat.toDigits 10 n, IsCalm c := fun c hc => isCalm_of_isDigit (hdigits c hc)
  have hscan : (Nat.toDigits 10 n).foldl Scan.next ⟨[], []⟩ = ⟨[], Nat.toDigits 10 n⟩ :=
    Scan.foldl_next_name hname (by simp)
  have htokens : (⟨[], Nat.toDigits 10 n⟩ : Scan).tokens = [.number n] := by
    simp [Scan.tokens, List.all_eq_true.mpr hdigits, Nat.ofDigitChars_ten_toDigits]
  have hread := readAs_of_chars (params_number n) (lexemes_number n) hcalm
  rw [hscan, htokens] at hread
  exact hread hname

/-- The tokens of a fragment are those of its code. -/
theorem ReadAs.tokens_fragment (h : code.ReadAs ts) (hapart : code.Apart false) :
    code.fragment.tokens = some ts := by
  have hread : readCode code.fragment.text.toList = some code.lexemes := hapart.readCode_text
  have htokens := h [] [] [] trivial
  rw [List.append_nil, List.append_nil] at htokens
  rw [Fragment.tokens, hread]
  exact htokens

end Code

end SeriesSql.Sql
