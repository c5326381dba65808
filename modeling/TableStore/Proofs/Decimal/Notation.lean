import Mathlib.Data.List.TakeWhile
import TableStore.Decimal.Notation
import TableStore.Proofs.Decimal.Digits
import TableStore.Proofs.Decimal.Shortest

/-!
# Positional notation read back

A positional decimal is read as a natural number over a power of ten, one ten for each digit
behind the point, and that ratio is rounded to the format. Wherever the point was placed, the
ratio is the shortest decimal it was placed in, so the number that was written is the number
that is read.
-/

namespace TableStore.Decimal

open TableStore.Binary

/-- Digits with at most one point among them, as one natural number and the count of the
digits behind the point. -/
def readPoint? (text : List Char) : Option (Nat × Nat) :=
  let whole := text.takeWhile Char.isDigit
  match text.dropWhile Char.isDigit with
  | [] => (readNat? whole).map fun n => (n, 0)
  | c :: places =>
      if c = '.' then (readNat? (whole ++ places)).map fun n => (n, places.length) else none

theorem readPoint?_digits {text : List Char} (nonempty : text ≠ [])
    (allDigits : ∀ c ∈ text, c.isDigit = true) :
    readPoint? text = some (Nat.ofDigitChars 10 text 0, 0) := by
  have whole : text.takeWhile Char.isDigit = text :=
    List.takeWhile_eq_self_iff.mpr allDigits
  have rest : text.dropWhile Char.isDigit = [] :=
    List.dropWhile_eq_nil_iff.mpr allDigits
  simp only [readPoint?, whole, rest, readNat?_eq_ofDigitChars nonempty allDigits,
    Option.map_some]

theorem readPoint?_point (whole places : List Char) (nonempty : whole ≠ [])
    (wholeDigits : ∀ c ∈ whole, c.isDigit = true)
    (placesDigits : ∀ c ∈ places, c.isDigit = true) :
    readPoint? (whole ++ '.' :: places) =
      some (Nat.ofDigitChars 10 (whole ++ places) 0, places.length) := by
  have allDigits : ∀ c ∈ whole ++ places, c.isDigit = true := fun c member =>
    (List.mem_append.mp member).elim (wholeDigits c) (placesDigits c)
  have taken : (whole ++ '.' :: places).takeWhile Char.isDigit = whole := by
    rw [List.takeWhile_append_of_pos wholeDigits]
    simp
  have dropped : (whole ++ '.' :: places).dropWhile Char.isDigit = '.' :: places := by
    rw [List.dropWhile_append_of_pos wholeDigits]
    simp
  simp only [readPoint?, taken, dropped, if_true,
    readNat?_eq_ofDigitChars (List.append_ne_nil_of_left_ne_nil nonempty _) allDigits,
    Option.map_some]

theorem isDigit_of_mem_zeros (count : Nat) : ∀ c ∈ List.replicate count '0', c.isDigit = true := by
  intro c member
  rw [List.eq_of_mem_replicate member]
  decide

/-- Wherever the point stands, digits are read as their number scaled by the power of ten that
puts it there. -/
theorem readPoint?_placePoint {ds : List Char} (point : Int) (nonempty : ds ≠ [])
    (allDigits : ∀ c ∈ ds, c.isDigit = true) :
    ∃ coefficient places, readPoint? (placePoint ds point) = some (coefficient, places) ∧
      (coefficient : ℚ) / 10 ^ places =
        Nat.ofDigitChars 10 ds 0 * 10 ^ (point - ds.length) := by
  unfold placePoint
  split
  · rename_i left
    refine ⟨_, _, readPoint?_point ['0'] (List.replicate (-point).toNat '0' ++ ds)
      (by simp) (isDigit_of_mem_zeros 1) ?_, ?_⟩
    · intro c member
      exact (List.mem_append.mp member).elim (isDigit_of_mem_zeros _ c) (allDigits c)
    · have exponent : point - ds.length =
          -(((-point).toNat + ds.length : Nat) : Int) := by omega
      rw [List.length_append, List.length_replicate, exponent, zpow_neg, zpow_natCast,
        div_eq_mul_inv, List.singleton_append, Nat.ofDigitChars_cons,
        Nat.ofDigitChars_append, Nat.ofDigitChars_replicate_zero]
      simp
  · split
    · rename_i right
      refine ⟨_, _, readPoint?_digits (List.append_ne_nil_of_left_ne_nil nonempty _) ?_, ?_⟩
      · intro c member
        exact (List.mem_append.mp member).elim (allDigits c) (isDigit_of_mem_zeros _ c)
      · have exponent : point - ds.length = ((point.toNat - ds.length : Nat) : Int) := by omega
        rw [exponent, zpow_natCast, Nat.ofDigitChars_append, Nat.ofDigitChars_replicate_zero]
        push_cast
        ring
    · rename_i right inside
      refine ⟨_, _, readPoint?_point (ds.take point.toNat) (ds.drop point.toNat) ?_ ?_ ?_, ?_⟩
      · rw [ne_eq, List.take_eq_nil_iff]
        rintro (zero | empty)
        · omega
        · exact nonempty empty
      · exact fun c member => allDigits c (List.mem_of_mem_take member)
      · exact fun c member => allDigits c (List.mem_of_mem_drop member)
      · have exponent : point - ds.length = -((ds.drop point.toNat).length : Int) := by
          rw [List.length_drop]
          omega
        rw [List.take_append_drop, exponent, zpow_neg, zpow_natCast, div_eq_mul_inv]

theorem isDigit_or_point_of_mem_placePoint {ds : List Char} {point : Int} {c : Char}
    (allDigits : ∀ c ∈ ds, c.isDigit = true) (member : c ∈ placePoint ds point) :
    c.isDigit = true ∨ c = '.' := by
  have zeroDigit : ∀ {count}, c ∈ List.replicate count '0' → c.isDigit = true := by
    intro count zero
    rw [List.eq_of_mem_replicate zero]
    decide
  unfold placePoint at member
  split at member
  · rcases List.mem_cons.mp member with rfl | member
    · exact .inl (by decide)
    rcases List.mem_cons.mp member with rfl | member
    · exact .inr rfl
    exact .inl ((List.mem_append.mp member).elim zeroDigit (allDigits c))
  · split at member
    · exact .inl ((List.mem_append.mp member).elim (allDigits c) zeroDigit)
    · rcases List.mem_append.mp member with before | member
      · exact .inl (allDigits c (List.mem_of_mem_take before))
      rcases List.mem_cons.mp member with rfl | after
      · exact .inr rfl
      · exact .inl (allDigits c (List.mem_of_mem_drop after))

variable {format : Format} {tie : Tie} {x : Number format}

theorem isDigit_or_point_of_mem_positionalMagnitude {c : Char}
    (member : c ∈ positionalMagnitude tie x) : c.isDigit = true ∨ c = '.' := by
  unfold positionalMagnitude at member
  split at member
  · rw [List.mem_singleton.mp member]
    exact .inl (by decide)
  · exact isDigit_or_point_of_mem_placePoint (fun _ => isDigit_of_mem_digits) member

/-- Positional notation is made of digits, a point and a sign. -/
theorem mem_positional {c : Char} (member : c ∈ positional tie x) :
    c.isDigit = true ∨ c = '.' ∨ c = '-' := by
  have magnitude : c ∈ positionalMagnitude tie x → c.isDigit = true ∨ c = '.' ∨ c = '-' :=
    fun member => (isDigit_or_point_of_mem_positionalMagnitude member).imp_right .inl
  unfold positional at member
  split at member
  · rcases List.mem_cons.mp member with sign | member
    · exact .inr (.inr sign)
    · exact magnitude member
  · exact magnitude member

/-- The number of a format that a positional decimal is rounded to. -/
def readPositional? (format : Format) (text : List Char) : Option (Number format) :=
  match text with
  | '-' :: magnitude =>
      (readPoint? magnitude).map fun (n, places) => .ofRatio true n (10 ^ places)
  | magnitude => (readPoint? magnitude).map fun (n, places) => .ofRatio false n (10 ^ places)

theorem readPositional?_positional_eq (tie : Tie) (x : Number format) :
    readPositional? format (positional tie x) =
      (readPoint? (positionalMagnitude tie x)).map fun (n, places) =>
        .ofRatio x.isNegative n (10 ^ places) := by
  unfold positional
  cases x.isNegative with
  | true => rfl
  | false =>
      rw [if_neg Bool.false_ne_true]
      unfold readPositional?
      split
      · rename_i magnitude begins
        have minus : '-' ∈ positionalMagnitude tie x := begins ▸ List.mem_cons_self
        rcases isDigit_or_point_of_mem_positionalMagnitude minus with digit | point
        · exact absurd digit (by decide)
        · exact absurd point (by decide)
      · rfl

/-- Positional notation reads back as the number it was written for. -/
theorem readPositional?_positional (searchable : Searchable format)
    (finite : x.isFinite = true) : readPositional? format (positional tie x) = some x := by
  rw [readPositional?_positional_eq, positionalMagnitude]
  by_cases zero : x.magnitude = 0
  · have rounded := x.ofMagnitude_magnitude
    rw [zero] at rounded
    have read : readPoint? ['0'] = some (Nat.ofDigitChars 10 ['0'] 0, 0) :=
      readPoint?_digits (by simp) (isDigit_of_mem_zeros 1)
    rw [if_pos zero, read, Option.map_some]
    simpa [Number.ofRatio, Nat.ofDigitChars_cons] using rounded
  · rw [if_neg zero]
    obtain ⟨coefficient, places, read, value⟩ :=
      readPoint?_placePoint (shortest tie x).point (digits_ne_nil (shortest tie x).coefficient)
        fun _ => isDigit_of_mem_digits
    have exponent : (shortest tie x).point - (digits (shortest tie x).coefficient).length =
        (shortest tie x).exponent := by
      rw [Scaled.point]
      omega
    rw [ofDigitChars_digits, exponent] at value
    have admits : x.Admits ((coefficient : ℚ) / (10 ^ places : Nat)) := by
      push_cast
      rw [value]
      exact admits_shortest tie searchable finite zero
    simp only [read, Option.map_some,
      Number.ofRatio_eq finite zero (Nat.pow_pos (by decide)) admits]

end TableStore.Decimal
