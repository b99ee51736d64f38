import SeriesSql.Proofs.Regex.Matching
import SeriesSql.Proofs.Regex.Trailing

/-!
# Tokens of a pattern before its closing

`readToken_carries` says that a token is the same alone and before the closing of an anchored
pattern.  The repetition operators and the groups are settled first; escapes and classes have been.

`readToken_ordered` says that no token asks for more repetitions than it allows.
-/

namespace SeriesSql.Regex

variable (f : Flags)

/-! ## Repetition -/

theorem repeatDigits_of_not (fuel : Nat) {cs : List Char}
    (hcs : ∀ c rest, cs = c :: rest → c.isDigit = false) : repeatDigits f fuel cs = ([], cs) := by
  cases fuel with
  | zero => rfl
  | succ fuel =>
    cases cs with
    | nil => rfl
    | cons c rest => simp [repeatDigits, hcs c rest rfl]

theorem repeatDigits_trailed {cs cs' : List Char} (hcs : Trailed cs cs') {fuel fuel' : Nat}
    (hfuel : cs.length ≤ fuel) (hfuel' : cs'.length ≤ fuel') :
    ∃ rest', repeatDigits f fuel' cs' = ((repeatDigits f fuel cs).1, rest') ∧
      Trailed (repeatDigits f fuel cs).2 rest' := by
  induction fuel generalizing fuel' cs cs' with
  | zero =>
    obtain rfl := List.length_eq_zero_iff.mp (Nat.le_zero.mp hfuel)
    refine ⟨cs', repeatDigits_of_not f fuel' ?_, hcs⟩
    rintro c rest rfl
    cases hcs
    rfl
  | succ fuel ih =>
    by_cases hdigit : ∃ c rest, cs = c :: rest ∧ c.isDigit = true
    · obtain ⟨c, rest, rfl, hc⟩ := hdigit
      obtain rfl := hcs.eq_cons rfl
      rw [List.length_cons] at hfuel hfuel'
      obtain ⟨fuel', rfl⟩ := Nat.exists_eq_add_one_of_ne_zero (Nat.ne_zero_of_lt hfuel')
      have hlength := f.length_skip_le rest
      have hlength' := f.length_skip_le (rest ++ closing)
      have hfuel : (f.skip rest).length ≤ fuel := by omega
      have hfuel' : (f.skip (rest ++ closing)).length ≤ fuel' := by omega
      obtain ⟨rest', hrest', hrest⟩ := ih (f.skip_trailed (.kept rest)) hfuel hfuel'
      exact ⟨rest', by simp [repeatDigits, hc, hrest'], by simpa [repeatDigits, hc] using hrest⟩
    · have hnot : ∀ c rest, cs = c :: rest → c.isDigit = false := by
        intro c rest h
        simpa using fun hc => hdigit ⟨c, rest, h, hc⟩
      rw [repeatDigits_of_not f _ hnot]
      refine ⟨cs', repeatDigits_of_not f fuel' ?_, hcs⟩
      intro c rest' hrest'
      by_cases hc : c = ')'
      · subst hc
        rfl
      · obtain ⟨rest, hrest, -⟩ := hcs.cons_eq hc hrest'
        exact hnot c rest hrest

theorem repeatCount_carries : Carries (repeatCount f) (repeatCount f) := by
  intro cs cs' hcs count rest h
  have hblank : Text.isBlank ')' = false := by decide
  have hlength (cs : List Char) : (cs.dropWhile Text.isBlank).length ≤ cs.length :=
    (List.dropWhile_sublist _).length_le
  obtain ⟨more', hdigits', hmore⟩ :=
    repeatDigits_trailed f (hcs.dropWhile hblank) (hlength cs) (hlength cs')
  have hrest := f.skip_trailed (hmore.dropWhile hblank)
  simp only [repeatCount, hdigits'] at h ⊢
  split at h
  · rename_i hempty
    cases h
    exact ⟨_, by simp [hempty], hrest⟩
  · rename_i hempty
    split at h
    · rename_i hbound
      cases h
      exact ⟨_, by simp [hempty, hbound], hrest⟩
    · cases h

theorem dropLazy_of_not {cs : List Char} (h : ∀ rest, cs = '?' :: rest → False) :
    dropLazy cs = cs := by
  simp [dropLazy]

theorem dropLazy_trailed {cs cs' : List Char} (hcs : Trailed cs cs') :
    Trailed (dropLazy cs) (dropLazy cs') := by
  by_cases hlazy : ∃ rest, cs = '?' :: rest
  · obtain ⟨rest, rfl⟩ := hlazy
    obtain rfl := hcs.eq_cons rfl
    exact .kept rest
  · have hnot : ∀ rest, cs = '?' :: rest → False := fun rest h => hlazy ⟨rest, h⟩
    rw [dropLazy_of_not hnot, dropLazy_of_not (hcs.not_cons (by decide) hnot)]
    exact hcs

/-- The upper bound of a repetition after its lower bound. -/
def repeatMost (least : Nat) : List Char → Option (Option Nat × List Char)
  | ',' :: rest =>
    match f.skip rest with
    | '\x7d' :: _ => some (none, f.skip rest)
    | rest =>
      (repeatCount f rest).bind fun x =>
        x.1.bind fun most => if least ≤ most then some (some most, x.2) else none
  | rest => some (some least, rest)

/-- The end of the bounds of a repetition. -/
def repeatStop (bounds : Nat × Option Nat) : List Char → Option ((Nat × Option Nat) × List Char)
  | '\x7d' :: rest => some (bounds, dropLazy (f.skip rest))
  | _ => none

theorem repeatMost_open {least : Nat} {cs tail : List Char} (h : f.skip cs = '\x7d' :: tail) :
    repeatMost f least (',' :: cs) = some (none, '\x7d' :: tail) := by
  simp only [repeatMost, h]

theorem repeatMost_count {least : Nat} {cs : List Char}
    (h : ∀ tail, f.skip cs = '\x7d' :: tail → False) :
    repeatMost f least (',' :: cs) =
      (repeatCount f (f.skip cs)).bind fun x =>
        x.1.bind fun most => if least ≤ most then some (some most, x.2) else none := by
  rw [repeatMost]
  split
  · rename_i tail htail
    exact absurd htail (h tail)
  · rfl

/-- Bounds are read in three steps. -/
theorem repeatBounds_eq (cs : List Char) :
    repeatBounds f cs =
      (repeatCount f (f.skip cs)).bind fun x =>
        x.1.bind fun least =>
          (repeatMost f least x.2).bind fun y => repeatStop f (least, y.1) y.2 := by
  unfold repeatBounds
  simp only [Option.bind_eq_bind]
  congr 1
  funext ⟨count, rest⟩
  congr 1
  funext least
  dsimp only
  split
  · rename_i after
    split
    · rename_i tail hbrace
      rw [repeatMost_open f hbrace, hbrace]
      rfl
    · rename_i hbrace
      rw [repeatMost_count f hbrace, Option.bind_assoc]
      congr 1
      funext ⟨most, rest⟩
      rw [Option.bind_assoc]
      congr 1
      funext most
      split
      · rfl
      · rfl
  · rename_i hcomma
    rw [repeatMost]
    · rfl
    · exact hcomma

theorem repeatMost_carries (least : Nat) : Carries (repeatMost f least) (repeatMost f least) := by
  intro cs cs' hcs most rest h
  unfold repeatMost at h ⊢
  split at h
  · rename_i more
    have hskip := f.skip_trailed (.kept more)
    rw [hcs.eq_cons rfl]
    split at h
    · rename_i tail hbrace
      cases h
      exact ⟨_, by simp [hskip.eq_cons hbrace], hskip⟩
    · rename_i hbrace
      have hbrace' := hskip.not_cons (by decide) hbrace
      simp only [Option.bind_eq_some_iff, Option.ite_none_right_eq_some] at h
      obtain ⟨⟨count, after⟩, hcount, most, hmost, hle, h⟩ := h
      cases h
      obtain ⟨after', hcount', hafter⟩ := repeatCount_carries f hskip hcount
      exact ⟨after', by simp_all, hafter⟩
  · rename_i hcomma
    have hcomma' := hcs.not_cons (by decide) hcomma
    cases h
    exact ⟨_, by simp, hcs⟩

theorem repeatStop_carries (bounds : Nat × Option Nat) :
    Carries (repeatStop f bounds) (repeatStop f bounds) := by
  intro cs cs' hcs bounds' rest h
  unfold repeatStop at h
  split at h
  · rename_i after
    cases h
    rw [hcs.eq_cons rfl]
    exact ⟨_, rfl, dropLazy_trailed (f.skip_trailed (.kept after))⟩
  · cases h

theorem repeatBounds_carries : Carries (repeatBounds f) (repeatBounds f) := by
  intro cs cs' hcs bounds rest h
  simp only [repeatBounds_eq, Option.bind_eq_some_iff] at h
  obtain ⟨⟨count, more⟩, hcount, least, hleast, ⟨most, after⟩, hmost, h⟩ := h
  obtain ⟨more', hcount', hmore⟩ := repeatCount_carries f (f.skip_trailed hcs) hcount
  obtain ⟨after', hmost', hafter⟩ := repeatMost_carries f least hmore hmost
  obtain ⟨rest', h', hrest⟩ := repeatStop_carries f _ hafter h
  exact ⟨rest', by simp_all [repeatBounds_eq], hrest⟩

/-! ## Groups -/

theorem readFlags_append (seen : List Char) (negated dangling : Bool) {cs rest : List Char}
    {flags : Flags} {stop : Char}
    (h : readFlags f seen negated dangling cs = some (flags, stop, rest)) :
    readFlags f seen negated dangling (cs ++ closing) = some (flags, stop, rest ++ closing) := by
  induction cs generalizing f seen negated dangling with
  | nil => cases h
  | cons c cs ih =>
    rw [List.cons_append]
    unfold readFlags at h ⊢
    split at h
    · rename_i hstop
      rw [if_pos hstop]
      split at h
      · cases h
      · rename_i hgood
        cases h
        exact if_neg hgood
    · rename_i hstop
      rw [if_neg hstop]
      split at h
      · rename_i hminus
        rw [if_pos hminus]
        split at h
        · cases h
        · rename_i hnegated
          rw [if_neg hnegated]
          exact ih _ _ _ _ h
      · rename_i hminus
        rw [if_neg hminus]
        split at h
        · cases h
        · rename_i hseen
          rw [if_neg hseen]
          rw [Option.bind_eq_bind, Option.bind_eq_some_iff] at h
          obtain ⟨g, hg, h⟩ := h
          rw [hg]
          exact ih _ _ _ _ h

theorem groupName_carries : Carries groupName groupName := by
  intro cs cs' hcs name rest h
  have hangle : '>' ∉ closing := by decide
  cases hcs with
  | kept =>
    rcases cut_append hangle cs with ⟨hcut, -⟩ | ⟨after, hcut, hcut', hname⟩
    · simp [groupName, hcut] at h
    · simp only [groupName, hcut, hcut', hname] at h ⊢
      generalize cs.takeWhile (· != '>') = chars at h
      cases chars with
      | nil => cases h
      | cons first more =>
        simp only [Option.ite_none_right_eq_some] at h ⊢
        obtain ⟨hvalid, h⟩ := h
        cases h
        exact ⟨_, ⟨hvalid, rfl⟩, .kept _⟩
  | swallowed => cases h

theorem readGroup_carries : Carries (readGroup f) (readGroup f) := by
  intro cs cs' hcs token rest h
  have hskip := f.skip_trailed hcs
  unfold readGroup at h ⊢
  split at h
  -- look-around
  case h_1 | h_2 | h_3 | h_4 => cases h
  case h_5 named hnamed =>
    rw [hskip.eq_cons hnamed]
    exact groupName_carries.map (fun name => Token.openGroup f (some name)) (.kept named) h
  case h_6 named hequal hbang hnamed =>
    rw [hskip.eq_cons hnamed]
    have hequal' := (Trailed.kept named).not_cons (by decide) hequal
    have hbang' := (Trailed.kept named).not_cons (by decide) hbang
    simpa using
      groupName_carries.map (fun name => Token.openGroup f (some name)) (.kept named) h
  case h_7 flags hequal hbang hbehind hbehind' hname hname' hflags =>
    have hkept := Trailed.kept flags
    have hequal' := hkept.not_cons (by decide) hequal
    have hbang' := hkept.not_cons (by decide) hbang
    have h1 := hkept.not_cons_cons (by decide) (by decide) hbehind
    have h2 := hkept.not_cons_cons (by decide) (by decide) hbehind'
    have h3 := hkept.not_cons_cons (by decide) (by decide) hname
    have h4 := hkept.not_cons (by decide) hname'
    rw [Option.bind_eq_bind, Option.bind_eq_some_iff] at h
    obtain ⟨⟨g, stop, rest⟩, hread, h⟩ := h
    cases h
    exact ⟨_, by simp [hskip.eq_cons hflags, readFlags_append _ _ _ _ hread], .kept _⟩
  case h_8 hmark =>
    cases h
    have hmark' := hskip.not_cons (by decide) hmark
    have hmore (c : Char) (rest : List Char) : f.skip cs' = '?' :: c :: rest → False := hmark' _
    have hmost (c d : Char) (rest : List Char) : f.skip cs' = '?' :: c :: d :: rest → False :=
      hmark' _
    have h1 := hmore '='
    have h2 := hmore '!'
    have h3 := hmore '<'
    have h4 := hmost '<' '='
    have h5 := hmost '<' '!'
    have h6 := hmost 'P' '<'
    exact ⟨_, by simp, hskip⟩

/-! ## Tokens -/

theorem readToken_carries : Carries (readToken f) (readToken f) := by
  intro cs cs' hcs token rest h
  cases cs with
  | nil => cases h
  | cons c cs =>
    rw [hcs.eq_cons rfl]
    unfold readToken at h ⊢
    dsimp only at h ⊢
    split at h
    case h_1 => exact readGroup_carries f (.kept cs) h
    case h_4 =>
      have hfuel : cs.length + 1 ≤ (cs ++ closing).length + 1 := by simp
      exact (class_carries f hfuel).1.map (fun s => Token.item (.one s)) (.kept cs) h
    case h_5 | h_6 | h_7 =>
      cases h
      exact ⟨_, rfl, dropLazy_trailed (.kept cs)⟩
    case h_8 =>
      exact (repeatBounds_carries f).map (fun b => Token.repetition b.1 b.2) (.kept cs) h
    case h_9 => exact (readEscape_carries f).map (fun e => Token.item (e.node f)) (.kept cs) h
    case h_13 =>
      cases h
      exact ⟨_, by simp, .kept _⟩
    all_goals
      cases h
      exact ⟨_, rfl, .kept _⟩

/-- No repetition asks for more than it allows. -/
def Token.Ordered : Token → Prop
  | .item node => node.Ordered
  | .repetition least most => ∀ bound, most = some bound → least ≤ bound
  | _ => True

theorem repeatBounds_ordered {cs rest : List Char} {least : Nat} {most : Option Nat}
    (h : repeatBounds f cs = some ((least, most), rest)) :
    ∀ bound, most = some bound → least ≤ bound := by
  simp only [repeatBounds_eq, Option.bind_eq_some_iff] at h
  obtain ⟨⟨count, more⟩, -, least', -, ⟨most', after⟩, hmost, h⟩ := h
  unfold repeatStop at h
  split at h
  · cases h
    rintro bound rfl
    unfold repeatMost at hmost
    split at hmost
    · split at hmost
      · cases hmost
      · simp only [Option.bind_eq_some_iff, Option.ite_none_right_eq_some] at hmost
        obtain ⟨_, _, _, _, hle, hmost⟩ := hmost
        cases hmost
        exact hle
    · cases hmost
      exact Nat.le_refl _
  · cases h

theorem readGroup_ordered {cs rest : List Char} {token : Token}
    (h : readGroup f cs = some (token, rest)) : token.Ordered := by
  unfold readGroup at h
  split at h
  case h_1 | h_2 | h_3 | h_4 => cases h
  case h_5 | h_6 =>
    obtain ⟨_, -, h⟩ := Option.map_eq_some_iff.mp h
    cases h
    trivial
  case h_7 =>
    rw [Option.bind_eq_bind, Option.bind_eq_some_iff] at h
    obtain ⟨⟨flags, stop, _⟩, -, h⟩ := h
    cases h
    split <;> trivial
  case h_8 =>
    cases h
    trivial

theorem readToken_ordered {cs rest : List Char} {token : Token}
    (h : readToken f cs = some (token, rest)) : token.Ordered := by
  unfold readToken at h
  split at h
  · cases h
  · split at h
    case h_1 => exact readGroup_ordered f h
    case h_4 =>
      obtain ⟨_, -, h⟩ := Option.map_eq_some_iff.mp h
      cases h
      trivial
    case h_5 =>
      cases h
      rintro bound ⟨⟩
      exact Nat.zero_le _
    case h_8 =>
      obtain ⟨⟨⟨least, most⟩, _⟩, hbounds, h⟩ := Option.map_eq_some_iff.mp h
      cases h
      exact repeatBounds_ordered f hbounds
    case h_9 =>
      obtain ⟨⟨escape, _⟩, -, h⟩ := Option.map_eq_some_iff.mp h
      cases h
      cases escape <;> trivial
    case h_6 | h_7 =>
      cases h
      rintro bound ⟨⟩
    all_goals
      cases h
      trivial

end SeriesSql.Regex
