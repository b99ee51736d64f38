import SeriesSql.Proofs.Text.Lines
import SeriesSql.Proofs.Window

/-!
# Durations are read back

The text of a duration of whole milliseconds is read back as this duration, so windows of different
lengths have different texts.  The printer splits a duration into seven units and leaves out those
that do not occur; the reader knows units by many names, checks every sum against 64 bits and stops
a count or a name at its first character that does not belong to it.

There are four groups.

* Counts, whose digits are read up to the unit.
* Items, which are a count with any name of a unit.  `readItem?_text` reads one of them.
* The parts that are printed.  `Items` relates their texts to the nanoseconds that they add up to,
  and `Items.readItems?_eq` reads them one after the other.
* Whole durations and windows.
-/

namespace SeriesSql.Duration

/-! ## Counts -/

theorem word?_of_lt {n : Nat} (h : n < 18446744073709551616) : word? n = some n :=
  if_pos h

/-- A number does not get smaller when digits are added to it. -/
theorem le_ofDigitChars (ds : List Char) (value : Nat) : value ≤ Nat.ofDigitChars 10 ds value := by
  induction ds generalizing value with
  | nil => exact Nat.le_refl value
  | cons d ds ih =>
    have hnext := ih (10 * value + (d.toNat - '0'.toNat))
    rw [Nat.ofDigitChars_cons]
    omega

/-- A letter of a unit is no part of a number and does not start a fraction. -/
theorem isUnitChar_cases {c : Char} (h : isUnitChar c = true) :
    c.isDigit = false ∧ Text.isBlank c = false ∧ c ≠ '.' := by
  have hrange : (65 ≤ c.toNat ∧ c.toNat ≤ 90) ∨ (97 ≤ c.toNat ∧ c.toNat ≤ 122) ∨ c.toNat = 181 := by
    unfold isUnitChar Char.isAlpha Char.isUpper Char.isLower at h
    simp only [Bool.or_eq_true, decide_eq_true_eq, Bool.and_eq_true, beq_iff_eq] at h
    rcases h with (⟨hlow, hhigh⟩ | ⟨hlow, hhigh⟩) | rfl
    · exact .inl ⟨hlow, hhigh⟩
    · exact .inr (.inl ⟨hlow, hhigh⟩)
    · exact .inr (.inr rfl)
  refine ⟨?_, ?_, ?_⟩
  · rw [Bool.eq_false_iff]
    intro hdigit
    have hdigits : 48 ≤ c.toNat ∧ c.toNat ≤ 57 := Char.isDigit_iff_toNat.mp hdigit
    omega
  · simp [Text.isBlank]
    omega
  · rintro rfl
    revert hrange
    decide

theorem isBlank_of_isDigit {c : Char} (h : c.isDigit = true) : Text.isBlank c = false := by
  have hdigits : 48 ≤ c.toNat ∧ c.toNat ≤ 57 := Char.isDigit_iff_toNat.mp h
  simp [Text.isBlank]
  omega

/-- The digits of a count are read up to its unit. -/
theorem readCount?_digits {ds : List Char} (hds : ∀ d ∈ ds, d.isDigit = true) {value : Nat}
    (hword : Nat.ofDigitChars 10 ds value < 18446744073709551616) {c : Char}
    (hc : isUnitChar c = true) (cs : List Char) :
    readCount? value (ds ++ c :: cs) = some (Nat.ofDigitChars 10 ds value, c :: cs) := by
  induction ds generalizing value with
  | nil =>
    obtain ⟨hdigit, hblank, -⟩ := isUnitChar_cases hc
    simp [readCount?, hdigit, hblank, Nat.ofDigitChars]
  | cons d ds ih =>
    obtain ⟨hd, hds⟩ := List.forall_mem_cons.mp hds
    have hvalue : value * 10 + digitValue d = 10 * value + (d.toNat - '0'.toNat) := by
      rw [Nat.mul_comm, digitValue]
    rw [Nat.ofDigitChars_cons] at hword ⊢
    have hnext := le_ofDigitChars ds (10 * value + (d.toNat - '0'.toNat))
    have hfits : word? (value * 10 + digitValue d) =
        some (10 * value + (d.toNat - '0'.toNat)) := by
      rw [hvalue]
      exact word?_of_lt (by omega)
    rw [List.cons_append, readCount?, if_pos hd, hfits]
    exact ih hds hword

/-! ## Items -/

/-- The names of units are made of the characters that a unit can have. -/
theorem Unit.chars_of_ofName? {name : String} {unit : Unit} (h : Unit.ofName? name = some unit) :
    ∃ c cs, name.toList = c :: cs ∧ ∀ d ∈ c :: cs, isUnitChar d = true := by
  have hall : name.toList ≠ [] ∧ name.toList.all isUnitChar = true := by
    unfold Unit.ofName? at h
    split at h
    case h_41 => cases h
    all_goals simp [isUnitChar]
  obtain ⟨c, cs, hcs⟩ := List.exists_cons_of_ne_nil hall.1
  rw [hcs] at hall
  exact ⟨c, cs, hcs, List.all_eq_true.mp hall.2⟩

/-- No character of a unit follows. -/
def Ended (rest : List Char) : Prop :=
  ∀ c cs, rest = c :: cs → isUnitChar c = false

theorem ended_nil : Ended [] := by
  intro c cs h
  cases h

theorem ended_blank (cs : List Char) : Ended (' ' :: cs) := by
  intro c cs h
  cases h
  decide

theorem takeWhile_unit {name rest : List Char} (hname : ∀ c ∈ name, isUnitChar c = true)
    (hrest : Ended rest) :
    (name ++ rest).takeWhile isUnitChar = name ∧ (name ++ rest).dropWhile isUnitChar = rest := by
  rw [List.takeWhile_append_of_pos hname, List.dropWhile_append_of_pos hname]
  cases rest with
  | nil => simp
  | cons c rest =>
    have hc : isUnitChar c = false := hrest c rest rfl
    simp [hc]

/-- A count with any name of a unit is read as so many units. -/
theorem readItem?_text {name : String} {unit : Unit} (hname : Unit.ofName? name = some unit)
    {count : Nat} (hcount : count < 18446744073709551616) :
    ∃ first cs, (toString count ++ name).toList = first :: cs ∧ first.isDigit = true ∧
      ∀ total rest, Ended rest →
        readItem? total first (cs ++ rest) =
          (addCount? total count unit).map fun sum => (sum, rest) := by
  obtain ⟨c, cs, hchars, hunit⟩ := Unit.chars_of_ofName? hname
  obtain ⟨first, ds, hdigits⟩ : ∃ first ds, Nat.toDigits 10 count = first :: ds :=
    List.exists_cons_of_ne_nil Nat.toDigits_ne_nil
  have hall : ∀ d ∈ first :: ds, d.isDigit = true := by
    intro d hd
    rw [← hdigits] at hd
    exact Nat.isDigit_of_mem_toDigits (by decide) (by decide) hd
  have hvalue : Nat.ofDigitChars 10 ds (digitValue first) = count := by
    have hread : Nat.ofDigitChars 10 (Nat.toDigits 10 count) 0 = count :=
      Nat.ofDigitChars_ten_toDigits
    rw [hdigits, Nat.ofDigitChars_cons, Nat.mul_zero, Nat.zero_add] at hread
    exact hread
  refine ⟨first, ds ++ c :: cs, ?_, hall first List.mem_cons_self, ?_⟩
  · rw [String.toList_append, Nat.toString_eq_repr, Nat.toList_repr, hdigits, hchars]
    rfl
  · intro total rest hrest
    obtain ⟨htake, hdrop⟩ := takeWhile_unit hunit hrest
    have hread := readCount?_digits (List.forall_mem_cons.mp hall).2 (by rw [hvalue]; exact hcount)
      (hunit c List.mem_cons_self) (cs ++ rest)
    obtain ⟨-, -, hpoint⟩ := isUnitChar_cases (hunit c List.mem_cons_self)
    have hnamed : String.ofList (c :: cs) = name := by
      rw [← hchars, String.ofList_toList]
    rw [List.cons_append] at htake hdrop
    rw [List.append_assoc, List.cons_append, readItem?, hread, hvalue]
    simp only [Option.bind_eq_bind, Option.bind_some]
    split
    · rename_i hfraction
      exact absurd (List.cons.inj hfraction).1 hpoint
    · rw [htake, hdrop, hnamed, hname, Option.bind_some]
      cases addCount? total count unit <;> rfl

/-! ## Sums -/

/-- The sums of seconds are those that 64 bits hold. -/
def limit : Nat := 18446744073709551616 * nanosPerSecond

theorem addCount?_seconds {unit : Unit} {seconds : Nat} (hunit : unit.seconds? = some seconds)
    {total count : Nat} (h : total + count * seconds * nanosPerSecond < limit) :
    addCount? total count unit = some (total + count * seconds * nanosPerSecond) := by
  simp only [limit, nanosPerSecond] at h
  have hcount : word? (count * seconds) = some (count * seconds) := word?_of_lt (by omega)
  have hsum : word? (total / nanosPerSecond + count * seconds) =
      some (total / nanosPerSecond + count * seconds) := by
    simp only [nanosPerSecond]
    exact word?_of_lt (by omega)
  simp [addCount?, hunit, hcount, addSeconds?, hsum]

/-- The milliseconds that are printed do not make a second. -/
theorem addCount?_millis {total count : Nat} (hcount : count < 1000)
    (h : total + count * nanosPerMilli < limit) :
    addCount? total count .millisecond = some (total + count * nanosPerMilli) := by
  obtain ⟨nanos, hnanos⟩ : ∃ nanos, count * 1000000 = nanos := ⟨_, rfl⟩
  simp only [limit, nanosPerSecond, nanosPerMilli, hnanos] at h ⊢
  have hword : word? nanos = some nanos := word?_of_lt (by omega)
  have hpart : word? (total % nanosPerSecond + nanos) = some (total % nanosPerSecond + nanos) := by
    simp only [nanosPerSecond]
    exact word?_of_lt (by omega)
  have hsum : word? ((total + nanos) / nanosPerSecond) =
      some ((total + nanos) / nanosPerSecond) := by
    simp only [nanosPerSecond]
    exact word?_of_lt (by omega)
  simp [addCount?, Unit.seconds?, Unit.nanos?, hnanos, hword, addNanos?, hpart, hsum]

/-! ## Parts -/

/-- The text of an item adds `nanos` to every total that leaves room for them. -/
structure ItemText (text : String) (nanos : Nat) : Prop where
  reads : ∃ first cs, text.toList = first :: cs ∧ first.isDigit = true ∧
    ∀ total rest, total + nanos < limit → Ended rest →
      readItem? total first (cs ++ rest) = some (total + nanos, rest)
  /-- There is no blank at the end. -/
  ends : ∃ init last, text.toList = init ++ [last] ∧ isUnitChar last = true

/-- The texts of items with the nanoseconds that they add up to. -/
inductive Items : List String → Nat → Prop
  | nil : Items [] 0
  | cons {text : String} {texts : List String} {nanos rest : Nat} (htext : ItemText text nanos)
      (htexts : Items texts rest) : Items (text :: texts) (nanos + rest)

theorem Items.append {texts texts' : List String} {nanos nanos' : Nat} (h : Items texts nanos)
    (h' : Items texts' nanos') : Items (texts ++ texts') (nanos + nanos') := by
  induction h with
  | nil =>
    rw [Nat.zero_add]
    exact h'
  | cons htext _ ih =>
    rw [Nat.add_assoc]
    exact .cons htext ih

theorem itemText_of_name {name : String} {unit : Unit} (hname : Unit.ofName? name = some unit)
    {count nanos : Nat} (hcount : count < 18446744073709551616)
    (hadd : ∀ total, total + nanos < limit → addCount? total count unit = some (total + nanos)) :
    ItemText (toString count ++ name) nanos where
  reads := by
    obtain ⟨first, cs, hchars, hfirst, hread⟩ := readItem?_text hname hcount
    refine ⟨first, cs, hchars, hfirst, ?_⟩
    intro total rest htotal hrest
    rw [hread total rest hrest, hadd total htotal]
    rfl
  ends := by
    obtain ⟨c, cs, hchars, hunit⟩ := Unit.chars_of_ofName? hname
    have hlast : isUnitChar ((c :: cs).getLast (by simp)) = true :=
      hunit _ (List.getLast_mem _)
    refine ⟨(toString count).toList ++ (c :: cs).dropLast, _, ?_, hlast⟩
    rw [String.toList_append, hchars, List.append_assoc, List.dropLast_concat_getLast]

/-- A count of zero is left out and adds nothing. -/
theorem items_countText {name : String} {unit : Unit} (hname : Unit.ofName? name = some unit)
    {count nanos : Nat} (hzero : count = 0 → nanos = 0) (hcount : count < 18446744073709551616)
    (hadd : ∀ total, total + nanos < limit → addCount? total count unit = some (total + nanos)) :
    Items (countText count name) nanos := by
  unfold countText
  split
  · rename_i hcount
    rw [hzero hcount]
    exact .nil
  · exact .cons (itemText_of_name hname hcount hadd) .nil

theorem items_seconds {name : String} {unit : Unit} (hname : Unit.ofName? name = some unit)
    {seconds : Nat} (hunit : unit.seconds? = some seconds) {count : Nat}
    (hcount : count < 18446744073709551616) :
    Items (countText count name) (count * seconds * nanosPerSecond) := by
  apply items_countText hname
  · intro hzero
    simp [hzero]
  · exact hcount
  · intro total htotal
    exact addCount?_seconds hunit htotal

theorem items_plural {name : String} {unit : Unit} (hname : Unit.ofName? name = some unit)
    (hplural : Unit.ofName? (name ++ "s") = some unit) {seconds : Nat}
    (hunit : unit.seconds? = some seconds) {count : Nat} (hcount : count < 18446744073709551616) :
    Items (pluralText count name) (count * seconds * nanosPerSecond) := by
  unfold pluralText
  split
  · exact items_seconds hname hunit hcount
  · exact items_seconds hplural hunit hcount

theorem items_millis {count : Nat} (hcount : count < 1000) :
    Items (countText count "ms") (count * nanosPerMilli) := by
  apply items_countText rfl
  · intro hzero
    simp [hzero]
  · omega
  · intro total htotal
    exact addCount?_millis hcount htotal

/-- The parts of a duration add up to it. -/
theorem items_parts {millis : Nat} (h : millis < 18446744073709551616) :
    Items (parts millis) (millis * nanosPerMilli) := by
  obtain ⟨seconds, hseconds⟩ : ∃ seconds, seconds = millis / 1000 := ⟨_, rfl⟩
  obtain ⟨inYear, hinYear⟩ : ∃ inYear, inYear = seconds % 31557600 := ⟨_, rfl⟩
  obtain ⟨inMonth, hinMonth⟩ : ∃ inMonth, inMonth = inYear % 2630016 := ⟨_, rfl⟩
  obtain ⟨inDay, hinDay⟩ : ∃ inDay, inDay = inMonth % 86400 := ⟨_, rfl⟩
  have hyears : Items (pluralText (seconds / 31557600) "year")
      (seconds / 31557600 * 31557600 * nanosPerSecond) :=
    items_plural rfl rfl rfl (by omega)
  have hmonths : Items (pluralText (inYear / 2630016) "month")
      (inYear / 2630016 * 2630016 * nanosPerSecond) :=
    items_plural rfl rfl rfl (by omega)
  have hdays : Items (pluralText (inMonth / 86400) "day")
      (inMonth / 86400 * 86400 * nanosPerSecond) :=
    items_plural rfl rfl rfl (by omega)
  have hhours : Items (countText (inDay / 3600) "h") (inDay / 3600 * 3600 * nanosPerSecond) :=
    items_seconds rfl rfl (by omega)
  have hminutes : Items (countText (inDay % 3600 / 60) "m")
      (inDay % 3600 / 60 * 60 * nanosPerSecond) :=
    items_seconds rfl rfl (by omega)
  have hrest : Items (countText (inDay % 60) "s") (inDay % 60 * 1 * nanosPerSecond) :=
    items_seconds rfl rfl (by omega)
  have hmillis : Items (countText (millis % 1000) "ms") (millis % 1000 * nanosPerMilli) :=
    items_millis (by omega)
  have hparts := (((((hyears.append hmonths).append hdays).append hhours).append hminutes).append
    hrest).append hmillis
  have hsum : seconds / 31557600 * 31557600 * nanosPerSecond +
      inYear / 2630016 * 2630016 * nanosPerSecond + inMonth / 86400 * 86400 * nanosPerSecond +
      inDay / 3600 * 3600 * nanosPerSecond + inDay % 3600 / 60 * 60 * nanosPerSecond +
      inDay % 60 * 1 * nanosPerSecond + millis % 1000 * nanosPerMilli = millis * nanosPerMilli := by
    simp only [nanosPerSecond, nanosPerMilli]
    omega
  rw [hsum] at hparts
  simpa only [parts, ← hseconds, ← hinYear, ← hinMonth, ← hinDay] using hparts

/-- One item is read from the front of a text. -/
theorem ItemText.readItems?_append {text : String} {nanos : Nat} (h : ItemText text nanos)
    {fuel total : Nat} (htotal : total + nanos < limit) {rest : List Char} (hrest : Ended rest) :
    readItems? (fuel + 1) total (text.toList ++ rest) = readItems? fuel (total + nanos) rest := by
  obtain ⟨first, cs, hchars, hfirst, hread⟩ := h.reads
  have hdrop : (first :: (cs ++ rest)).dropWhile Text.isBlank = first :: (cs ++ rest) := by
    rw [List.dropWhile_cons_of_neg (by simp [isBlank_of_isDigit hfirst])]
  rw [hchars, List.cons_append, readItems?, hdrop]
  simp [hfirst, hread total rest htotal hrest]

theorem readItems?_blank (fuel total : Nat) (cs : List Char) :
    readItems? fuel total (' ' :: cs) = readItems? fuel total cs := by
  have hdrop : (' ' :: cs).dropWhile Text.isBlank = cs.dropWhile Text.isBlank :=
    List.dropWhile_cons_of_pos (by decide)
  rw [readItems?, readItems?, hdrop]

/-- Items with blanks between them are read one after the other. -/
theorem Items.readItems?_eq {texts : List String} {nanos : Nat} (h : Items texts nanos)
    {fuel total : Nat} (hfuel : texts.length ≤ fuel) (htotal : total + nanos < limit) :
    readItems? fuel total (String.intercalate " " texts).toList = some (total + nanos) := by
  induction h generalizing fuel total with
  | nil => simp [readItems?]
  | @cons text texts nanos others htext htexts ih =>
    obtain ⟨fuel, rfl⟩ : ∃ more, fuel = more + 1 := ⟨fuel - 1, by simp at hfuel; omega⟩
    have hnext : readItems? fuel (total + nanos) (String.intercalate " " texts).toList =
        some (total + (nanos + others)) := by
      rw [ih (by simpa using hfuel) (by omega), Nat.add_assoc]
    cases texts with
    | nil =>
      have hread : readItems? (fuel + 1) total (text.toList ++ []) =
          readItems? fuel (total + nanos) [] :=
        htext.readItems?_append (by omega) ended_nil
      simpa using hread.trans hnext
    | cons second texts =>
      have hjoined : (String.intercalate " " (text :: second :: texts)).toList =
          text.toList ++ ' ' :: (String.intercalate " " (second :: texts)).toList := by
        simp [String.intercalate_cons_cons]
      calc readItems? (fuel + 1) total (String.intercalate " " (text :: second :: texts)).toList
          = readItems? fuel (total + nanos)
              (' ' :: (String.intercalate " " (second :: texts)).toList) := by
            rw [hjoined, htext.readItems?_append (by omega) (ended_blank _)]
        _ = some (total + (nanos + others)) := by rw [readItems?_blank, hnext]

theorem Items.ne_nil {texts : List String} {nanos : Nat} (h : Items texts nanos)
    (hpositive : 0 < nanos) : texts ≠ [] := by
  rintro rfl
  cases h
  omega

/-- Every item takes room. -/
theorem Items.length_le {texts : List String} {nanos : Nat} (h : Items texts nanos) :
    texts.length ≤ (String.intercalate " " texts).toList.length := by
  induction h with
  | nil => simp
  | @cons text texts nanos others htext htexts ih =>
    obtain ⟨first, cs, hchars, -⟩ := htext.reads
    cases texts with
    | nil => simp [hchars]
    | cons second texts =>
      rw [String.intercalate_cons_cons]
      simp only [String.toList_append, List.length_append, hchars, List.length_cons] at ih ⊢
      omega

/-- The text of items starts with a digit and ends with a unit. -/
theorem Items.ends {texts : List String} {nanos : Nat} (h : Items texts nanos)
    (hsome : texts ≠ []) :
    ∃ first cs init last, (String.intercalate " " texts).toList = first :: cs ∧
      first.isDigit = true ∧ first :: cs = init ++ [last] ∧ isUnitChar last = true := by
  induction h with
  | nil => exact absurd rfl hsome
  | @cons text texts nanos others htext htexts ih =>
    obtain ⟨first, cs, hchars, hfirst, -⟩ := htext.reads
    obtain ⟨init, last, hinit, hlast⟩ := htext.ends
    cases texts with
    | nil =>
      refine ⟨first, cs, init, last, by simpa using hchars, hfirst, ?_, hlast⟩
      rw [← hchars, hinit]
    | cons second texts =>
      obtain ⟨_, _, init', last', hjoined, -, hend, hlast'⟩ := ih (by simp)
      refine ⟨first, cs ++ ' ' :: (init' ++ [last']), text.toList ++ ' ' :: init', last', ?_,
        hfirst, ?_, hlast'⟩
      · rw [String.intercalate_cons_cons, String.append_assoc, String.toList_append,
          String.toList_append, hjoined, hend, hchars]
        rfl
      · simp [hchars]

/-! ## Whole durations -/

/-- The text of a duration is read back, and there is nothing to trim. -/
theorem parse?_format {millis : Nat} (hpositive : 0 < millis) (h : millis < 18446744073709551616) :
    parse? (Text.trimChars (format millis).toList) = some (millis * nanosPerMilli) := by
  have hitems := items_parts h
  have hsome : parts millis ≠ [] := hitems.ne_nil (Nat.mul_pos hpositive (by decide))
  have hformat : format millis = String.intercalate " " (parts millis) := if_neg (by omega)
  have hlength := hitems.length_le
  have hread : readItems? (format millis).toList.length 0 (format millis).toList =
      some (0 + millis * nanosPerMilli) := by
    rw [hformat]
    apply hitems.readItems?_eq hlength
    simp only [limit, nanosPerSecond, nanosPerMilli]
    omega
  obtain ⟨first, cs, init, last, hchars, hfirst, hends, hlast⟩ := hitems.ends hsome
  rw [← hformat] at hchars
  have hblank : Text.isBlank first = false := isBlank_of_isDigit hfirst
  obtain ⟨hnumber, hunit, -⟩ := isUnitChar_cases hlast
  have htrimmed : Text.IsTrimmed (format millis).toList := by
    refine ⟨?_, ?_⟩
    · simp [hchars, hblank]
    · simp [hchars, hends, hunit]
  rw [Text.trimChars_eq_self htrimmed, parse?, if_neg, if_neg, hread, Nat.zero_add]
  · rw [hchars]
    simp [hblank]
  · intro hzero
    rw [← hchars, hzero] at hends
    have hlast : last = '0' := by
      cases init with
      | nil => simpa using hends.symm
      | cons c init => simp at hends
    rw [hlast] at hnumber
    cases hnumber

end SeriesSql.Duration

namespace SeriesSql.Window

theorem text_of_latest {window : Window} (hstop : window.stop = none) :
    window.text = "[" ++ Duration.format window.millis ++ "]" := by
  simp [text, hstop]

theorem parse_format {window : Window} (hstop : window.stop = none) :
    parse (Duration.format window.millis) = .ok window := by
  have hpositive := window.positive
  have hbounded := window.bounded
  have hread := Duration.parse?_format hpositive (by omega)
  apply (makes_parse hread).eq_ok_iff.mpr
  exact ⟨(Nat.mul_div_cancel _ (by decide)).symm, hstop⟩

/-- The text of a window up to the latest sample is that of its length between brackets, which is
read back as the window.  So no other window up to the latest sample has its text. -/
theorem parse_text_ofMillis {millis : Nat} {window : Window} (h : ofMillis millis = .ok window) :
    (∃ t, window.text = "[" ++ t ++ "]" ∧ parse t = .ok window) ∧
      window.millis = millis ∧ window.stop = none ∧
      ∀ other : Window, other.stop = none → other ≠ window → other.text ≠ window.text := by
  obtain ⟨hmillis, hstop⟩ := (makes_ofMillis millis).parts window h
  refine ⟨⟨_, text_of_latest hstop, parse_format hstop⟩, hmillis, hstop, ?_⟩
  intro other hother hne htext
  rw [text_of_latest hstop, text_of_latest hother] at htext
  have hformat : Duration.format other.millis = Duration.format window.millis := by
    apply String.toList_inj.mp
    simpa using congrArg String.toList htext
  have hsame : parse (Duration.format window.millis) = .ok other := by
    rw [← hformat]
    exact parse_format hother
  rw [parse_format hstop] at hsame
  exact hne (Except.ok.inj hsame).symm

/-- The longest window. -/
theorem parse_text_ofMillis_longest :
    ∃ window, ofMillis 9223372036854775807 = .ok window ∧
      window.text = "[292271023years 16days 13h 12m 55s 807ms]" ∧
      ∃ t, window.text = "[" ++ t ++ "]" ∧ parse t = .ok window := by
  have hmade : ofMillis 9223372036854775807 =
      .ok ⟨9223372036854775807, none, by decide, by decide⟩ := rfl
  exact ⟨_, hmade, by decide +kernel, (parse_text_ofMillis hmade).1⟩

end SeriesSql.Window
