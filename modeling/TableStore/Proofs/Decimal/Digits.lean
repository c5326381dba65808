import TableStore.Decimal.Digits

/-!
# Digits read back

A run of digits has the value that its characters give one after another, whatever zeros
stand before it. So the digits of a natural number read back as the number, with padding or
without, and padding gives exactly the width that was asked for whenever the number fits.
-/

namespace TableStore.Decimal

-- Powers are those of the core library, whatever else is imported.
attribute [local instance (high)] instPowNat

theorem digits_ne_nil (n : Nat) : digits n ≠ [] :=
  Nat.toDigits_ne_nil

theorem isDigit_of_mem_digits {n : Nat} {c : Char} (member : c ∈ digits n) :
    c.isDigit = true :=
  Nat.isDigit_of_mem_toDigits (by decide) (by decide) member

theorem isDigit_of_mem_padded {width n : Nat} {c : Char} (member : c ∈ padded width n) :
    c.isDigit = true := by
  rcases List.mem_append.mp member with zero | digit
  · rw [List.eq_of_mem_replicate zero]
    decide
  · exact isDigit_of_mem_digits digit

theorem padded_ne_nil (width n : Nat) : padded width n ≠ [] := by
  simp [padded, digits_ne_nil]

/-- Padding fills a number that fits up to the width. -/
theorem length_padded {width n : Nat} (positive : 0 < width) (fits : n < 10 ^ width) :
    (padded width n).length = width := by
  have digitsFit : (digits n).length ≤ width :=
    (Nat.length_toDigits_le_iff (by decide) positive).mpr fits
  simp only [padded, List.length_append, List.length_replicate]
  omega

/-- A run of digits has the value that the standard library gives it. -/
theorem continueNat?_eq_ofDigitChars {text : List Char} (value : Nat)
    (allDigits : ∀ c ∈ text, c.isDigit = true) :
    continueNat? value text = some (Nat.ofDigitChars 10 text value) := by
  induction text generalizing value with
  | nil => simp [continueNat?]
  | cons c rest ih =>
      have headDigit : c.isDigit = true := allDigits c List.mem_cons_self
      have restDigits : ∀ d ∈ rest, d.isDigit = true := fun d member =>
        allDigits d (List.mem_cons_of_mem c member)
      simp only [continueNat?, digitValue?, headDigit, if_true, Option.bind_some]
      rw [ih _ restDigits, Nat.ofDigitChars_cons]

theorem readNat?_eq_ofDigitChars {text : List Char} (nonempty : text ≠ [])
    (allDigits : ∀ c ∈ text, c.isDigit = true) :
    readNat? text = some (Nat.ofDigitChars 10 text 0) := by
  cases text with
  | nil => contradiction
  | cons c rest => exact continueNat?_eq_ofDigitChars 0 allDigits

@[simp]
theorem ofDigitChars_digits (n : Nat) : Nat.ofDigitChars 10 (digits n) 0 = n :=
  Nat.ofDigitChars_ten_toDigits

@[simp]
theorem ofDigitChars_padded (width n : Nat) :
    Nat.ofDigitChars 10 (padded width n) 0 = n := by
  rw [padded, Nat.ofDigitChars_append, Nat.ofDigitChars_replicate_zero, Nat.mul_zero,
    ofDigitChars_digits]

@[simp]
theorem readNat?_digits (n : Nat) : readNat? (digits n) = some n := by
  rw [readNat?_eq_ofDigitChars (digits_ne_nil n) fun _ => isDigit_of_mem_digits,
    ofDigitChars_digits]

@[simp]
theorem readNat?_padded (width n : Nat) : readNat? (padded width n) = some n := by
  rw [readNat?_eq_ofDigitChars (padded_ne_nil width n) fun _ => isDigit_of_mem_padded,
    ofDigitChars_padded]

end TableStore.Decimal
