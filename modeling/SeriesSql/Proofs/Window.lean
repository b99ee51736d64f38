import SeriesSql.Compile.Samples
import SeriesSql.Proofs.Sql.Code

/-!
# Lengths and ends of windows

A window can be made exactly if its length in whole milliseconds is positive and fits in a signed
64-bit integer, whichever of the four ways it is made in.  This keeps the arithmetic of a window
exact: its length as a signed integer is its length, and its first timestamp is the integer that
lies one length before the last one, or the least timestamp.
-/

namespace SeriesSql.Window

/-- `made` is a window of `millis` milliseconds up to `stop`, if a window can be as long. -/
structure Makes (made : Except Invalid Window) (millis : Nat) (stop : Option Int64) : Prop where
  made_iff : (∃ window, made = .ok window) ↔ 1 ≤ millis ∧ millis ≤ 9223372036854775807
  parts : ∀ window, made = .ok window → window.millis = millis ∧ window.stop = stop

theorem Makes.eq_ok_iff {made : Except Invalid Window} {millis : Nat} {stop : Option Int64}
    (h : Makes made millis stop) {window : Window} :
    made = .ok window ↔ window.millis = millis ∧ window.stop = stop := by
  refine ⟨h.parts window, fun hparts => ?_⟩
  obtain ⟨rfl, rfl⟩ := hparts
  have hpositive := window.positive
  have hbounded := window.bounded
  obtain ⟨other, hother⟩ := h.made_iff.mpr (by omega)
  obtain ⟨hmillis, hstop⟩ := h.parts other hother
  rw [hother]
  cases other
  cases window
  simp_all

theorem Makes.refused {e : Invalid} {millis : Nat} {stop : Option Int64}
    (h : ¬(1 ≤ millis ∧ millis ≤ 9223372036854775807)) : Makes (.error e) millis stop where
  made_iff := by
    constructor
    · rintro ⟨window, hmade⟩
      cases hmade
    · intro hmillis
      exact absurd hmillis h
  parts := by
    intro window hmade
    cases hmade

theorem Makes.of_error {e e' : Invalid} {millis : Nat} {stop stop' : Option Int64}
    (h : Makes (.error e) millis stop) : Makes (.error e') millis stop' :=
  .refused fun hmillis => by simpa using h.made_iff.mpr hmillis

theorem Makes.accepted (window : Window) : Makes (.ok window) window.millis window.stop where
  made_iff := by
    have hpositive := window.positive
    have hbounded := window.bounded
    simp only [Except.ok.injEq, exists_eq', true_iff]
    omega
  parts := by simp

theorem makes_ofMillis (millis : Nat) : Makes (ofMillis millis) millis none := by
  unfold ofMillis
  split
  · split
    · exact .accepted _
    · exact .refused (by omega)
  · exact .refused (by omega)

theorem makes_stoppingAt (millis : Nat) (stop : Int64) :
    Makes (stoppingAt millis stop) millis (some stop) := by
  have hlatest := makes_ofMillis millis
  rw [stoppingAt]
  cases hmade : ofMillis millis with
  | error e =>
    rw [hmade] at hlatest
    exact hlatest.of_error
  | ok latest =>
    obtain ⟨rfl, -⟩ := hlatest.parts latest hmade
    exact .accepted { latest with stop := some stop }

theorem makes_ofNanos (nanos : Nat) :
    Makes (ofNanos nanos) (nanos / Duration.nanosPerMilli) none := by
  rw [ofNanos]
  split
  · exact makes_ofMillis _
  · -- Lengths of more than 64 bits are refused before the length of a window is checked.
    exact .refused (by omega)

theorem makes_parse {text : String} {nanos : Nat}
    (hread : Duration.parse? (Text.trimChars text.toList) = some nanos) :
    Makes (parse text) (nanos / Duration.nanosPerMilli) none := by
  have hnanos := makes_ofNanos nanos
  simp only [parse, hread]
  cases hmade : ofNanos nanos with
  | error e =>
    rw [hmade] at hnanos
    exact hnanos.of_error
  | ok window =>
    rw [hmade] at hnanos
    exact hnanos

/-! ## Arithmetic -/

theorem toInt_signedMillis (window : Window) : window.signedMillis.toInt = window.millis :=
  Int64.toInt_ofNat_of_lt window.bounded

theorem toInt_saturatingSub (a b : Int64) :
    (saturatingSub a b).toInt =
      max (-9223372036854775808) (min 9223372036854775807 (a.toInt - b.toInt)) := by
  have hleast : Int64.minValue.toInt = -9223372036854775808 := by decide
  have hgreatest : Int64.maxValue.toInt = 9223372036854775807 := by decide
  unfold saturatingSub Int64.ofIntClamp
  split
  · split
    · rw [Int64.toInt_ofIntLE]
      omega
    · rw [hgreatest]
      omega
  · rw [hleast]
    omega

/-- The length of a window is not negative, so the first timestamp can only be cut off below. -/
theorem toInt_start {window : Window} {start stop : Int64} (hstop : window.stop = some stop)
    (hstart : window.start? = some start) :
    start.toInt = max (-9223372036854775808) (stop.toInt - window.millis) := by
  rw [start?, hstop] at hstart
  cases hstart
  have hlast := stop.toInt_lt
  rw [toInt_saturatingSub, toInt_signedMillis]
  omega

theorem start?_isSome {window : Window} {stop : Int64} (hstop : window.stop = some stop) :
    ∃ start, window.start? = some start :=
  ⟨_, by rw [start?, hstop, Option.map_some]⟩

theorem start?_eq_some {window : Window} {stop : Int64} (hstop : window.stop = some stop) :
    window.start? =
      some (Int64.ofInt (max (-9223372036854775808) (stop.toInt - window.millis))) := by
  obtain ⟨start, hstart⟩ := start?_isSome hstop
  rw [← toInt_start hstop hstart, Int64.ofInt_toInt, hstart]

open Compile in
theorem text_sampleTables_of_stop {window : Window} {start stop : Int64}
    (hstop : window.stop = some stop) (hstart : window.start? = some start) (mode : PatternMode)
    {s : Selector} (hs : s.window = some window) :
    (sampleTables mode s).text =
      "time_window AS (SELECT ? AS max_ts, ? AS min_ts), " ++ (labeledSamples mode s).text := by
  have hbounds : (windowBounds window ++ Sql.w ", ").text =
      "time_window AS (SELECT ? AS max_ts, ? AS min_ts), " := by
    rw [windowBounds, hstop, hstart]
    rfl
  rw [← hbounds, sampleTables, hs]
  rfl

open Compile in
theorem params_sampleTables_of_stop {window : Window} {start stop : Int64}
    (hstop : window.stop = some stop) (hstart : window.start? = some start) (mode : PatternMode)
    {s : Selector} (hs : s.window = some window) :
    (sampleTables mode s).params =
      .integer stop :: .integer start :: (labeledSamples mode s).params := by
  simp [sampleTables, windowBounds, hs, hstop, hstart]

/-- The four ways to make a window accept the same lengths, and the arithmetic of every window is
that of the integers, up to the values that its table expression binds. -/
theorem lengths_and_bounds_exact (millis seconds nanos : Nat) (last : Int64) (text : String) :
    Makes (ofMillis millis) millis none ∧
    Makes (stoppingAt millis last) millis (some last) ∧
    Makes (ofNanos (seconds * 1000000000 + nanos)) (seconds * 1000 + nanos / 1000000) none ∧
    (Duration.parse? (Text.trimChars text.toList) = none → ¬∃ window, parse text = .ok window) ∧
    (∀ read, Duration.parse? (Text.trimChars text.toList) = some read →
      Makes (parse text) (read / 1000000) none) ∧
    ∀ window : Window, window.signedMillis.toInt = window.millis ∧
      ∀ stop, window.stop = some stop →
        ∃ start, window.start? = some start ∧
          start.toInt = max (-9223372036854775808) (stop.toInt - window.millis) ∧
          start ≤ stop ∧ (start = stop → stop.toInt = -9223372036854775808) ∧
          ∀ mode s, s.window = some window →
            (Compile.sampleTables mode s).text =
                "time_window AS (SELECT ? AS max_ts, ? AS min_ts), " ++
                  (Compile.labeledSamples mode s).text ∧
              (Compile.sampleTables mode s).params =
                .integer stop :: .integer start :: (Compile.labeledSamples mode s).params := by
  refine ⟨makes_ofMillis millis, makes_stoppingAt millis last, ?_, ?_, fun _ => makes_parse,
    fun window => ⟨window.toInt_signedMillis, fun stop hstop => ?_⟩⟩
  · have hmillis : (seconds * 1000000000 + nanos) / Duration.nanosPerMilli =
        seconds * 1000 + nanos / 1000000 := by
      simp only [Duration.nanosPerMilli]
      omega
    rw [← hmillis]
    exact makes_ofNanos _
  · intro hread
    simp [parse, hread]
  · obtain ⟨start, hstart⟩ := start?_isSome hstop
    have hfirst := toInt_start hstop hstart
    have hlength := window.positive
    have hlast := stop.le_toInt
    refine ⟨start, hstart, hfirst, ?_, ?_, fun mode s hs =>
      ⟨text_sampleTables_of_stop hstop hstart mode hs,
        params_sampleTables_of_stop hstop hstart mode hs⟩⟩
    · rw [Int64.le_iff_toInt_le]
      omega
    · rintro rfl
      omega

/-- A text with parts of a millisecond, and a window that reaches below the least timestamp. -/
theorem lengths_and_bounds_exact_least :
    (Duration.parse? (Text.trimChars " 1h 30m 999us ".toList) = some 5400000999000 ∧
      ∃ window, parse " 1h 30m 999us " = .ok window ∧ window.millis = 5400000) ∧
    ∃ window start, stoppingAt 10 (Int64.minValue + 3) = .ok window ∧
      window.stop = some (Int64.minValue + 3) ∧ window.start? = some start ∧
      start.toInt = -9223372036854775808 ∧ start ≤ Int64.minValue + 3 ∧
      ∃ s, s.window = some window ∧ s.metric.text = "heap" ∧
        (Compile.sampleTables .search s).params =
          [.integer (Int64.minValue + 3), .integer start, .text "heap"] := by
  obtain ⟨-, hstopping, -, -, hparse, hbounds⟩ :=
    lengths_and_bounds_exact 10 0 0 (Int64.minValue + 3) " 1h 30m 999us "
  have hread : Duration.parse? (Text.trimChars " 1h 30m 999us ".toList) = some 5400000999000 := by
    decide +kernel
  refine ⟨⟨hread, ?_⟩, ?_⟩
  · obtain ⟨window, hwindow⟩ := (hparse _ hread).made_iff.mpr (by decide)
    exact ⟨window, hwindow, ((hparse _ hread).parts window hwindow).1⟩
  · obtain ⟨window, hwindow⟩ := hstopping.made_iff.mpr (by decide)
    obtain ⟨hmillis, hstop⟩ := hstopping.parts window hwindow
    obtain ⟨start, hstart, hfirst, hle, -, htables⟩ := (hbounds window).2 _ hstop
    rw [hmillis] at hfirst
    let s : Selector := ⟨⟨"heap", by decide⟩, [], some window⟩
    exact ⟨window, start, hwindow, hstop, hstart, hfirst.trans (by decide), hle, s, rfl, rfl,
      (htables .search s rfl).2⟩

end SeriesSql.Window
