import SeriesSql.Decimal.Layout

/-!
# The characters of numbers

The text of an integer or a double, as it stands in SQL, is made of few characters.  `IsNumeric`
lists them, so that whatever none of them is can be ruled out at once.
-/

namespace SeriesSql.Decimal

/-- Digits, signs, the point, the mark of an exponent and the letters of the values that are no
numbers. -/
def IsNumeric (c : Char) : Prop := c ∈ "0123456789abcdef*-.inN".toList

instance (c : Char) : Decidable (IsNumeric c) := inferInstanceAs (Decidable (_ ∈ _))

theorem numeric_of_all {s : String} (h : s.toList.all (decide <| IsNumeric ·) = true) :
    ∀ c ∈ s.toList, IsNumeric c := by
  simpa using h

/-- Texts put together from numeric texts are numeric. -/
theorem numeric_append {s t : String} (hs : ∀ c ∈ s.toList, IsNumeric c)
    (ht : ∀ c ∈ t.toList, IsNumeric c) : ∀ c ∈ (s ++ t).toList, IsNumeric c := by
  rw [String.toList_append, List.forall_mem_append]
  exact ⟨hs, ht⟩

theorem isNumeric_digitChar (d : Nat) : IsNumeric d.digitChar := by
  by_cases hd : d < 16
  · have hdigits : ∀ d < 16, IsNumeric d.digitChar := by decide
    exact hdigits d hd
  · have hstar : d.digitChar = '*' := by
      unfold Nat.digitChar
      repeat rw [if_neg (by omega)]
    rw [hstar]
    decide

theorem numeric_digitText (digits : List Nat) : ∀ c ∈ (digitText digits).toList, IsNumeric c := by
  intro c hc
  simp only [digitText, String.toList_ofList, List.mem_map] at hc
  obtain ⟨d, -, rfl⟩ := hc
  exact isNumeric_digitChar d

theorem numeric_toDigits (n : Nat) : ∀ c ∈ Nat.toDigits 10 n, IsNumeric c := by
  induction n using Nat.strongRecOn with
  | ind n ih =>
    rw [Nat.toDigits_eq_if (by decide)]
    split
    · rw [List.forall_mem_singleton]
      exact isNumeric_digitChar n
    · rw [List.forall_mem_append, List.forall_mem_singleton]
      exact ⟨ih (n / 10) (by omega), isNumeric_digitChar (n % 10)⟩

theorem numeric_toString_nat (n : Nat) : ∀ c ∈ (toString n).toList, IsNumeric c := by
  intro c hc
  have hdigit : c ∈ Nat.toDigits 10 n := by simpa [toString, Nat.repr] using hc
  exact numeric_toDigits n c hdigit

theorem numeric_toString_int (n : Int) : ∀ c ∈ (toString n).toList, IsNumeric c := by
  cases n with
  | ofNat n => exact numeric_toString_nat n
  | negSucc n =>
    intro c hc
    have hc : c = '-' ∨ c ∈ (toString (n + 1)).toList := by
      simpa [toString, Int.repr] using hc
    rcases hc with rfl | hc
    · decide
    · exact numeric_toString_nat (n + 1) c hc

theorem numeric_positional (d : Digits) : ∀ c ∈ (positional true d).toList, IsNumeric c := by
  have hdigits := numeric_digitText
  unfold positional
  split
  · exact numeric_append (numeric_append (numeric_of_all rfl) (hdigits _)) (hdigits _)
  · simp only
    split
    · exact numeric_append (numeric_append (hdigits _) (hdigits _)) (numeric_of_all rfl)
    · exact numeric_append (numeric_append (hdigits _) (numeric_of_all rfl)) (hdigits _)

theorem numeric_scientific (d : Digits) : ∀ c ∈ (scientific "" d).toList, IsNumeric c := by
  have htail : ∀ c ∈ (if d.digits.length ≤ 1 then ""
      else "." ++ digitText (d.digits.drop 1)).toList, IsNumeric c := by
    split
    · exact numeric_of_all rfl
    · exact numeric_append (numeric_of_all rfl) (numeric_digitText _)
  have hlead := numeric_append (numeric_digitText (d.digits.take 1)) htail
  have hmark : ∀ c ∈ "e".toList, IsNumeric c := numeric_of_all rfl
  simpa [scientific] using
    numeric_append (numeric_append hlead hmark) (numeric_toString_int (d.point - 1))

theorem numeric_render (x : Float) : ∀ c ∈ (Layout.literal.render x).toList, IsNumeric c := by
  have hsign : ∀ negative : Bool, ∀ c ∈ (if negative then "-" else "").toList, IsNumeric c := by
    intro negative
    cases negative <;> exact numeric_of_all rfl
  unfold Layout.render
  split
  · exact numeric_of_all rfl
  · split <;> exact numeric_of_all rfl
  · exact numeric_append (hsign _) (numeric_of_all rfl)
  · refine numeric_append (hsign _) ?_
    unfold Layout.digits
    split
    · exact numeric_positional _
    · exact numeric_scientific _

end SeriesSql.Decimal
