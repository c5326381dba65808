import Mathlib.Algebra.Order.Monoid.WithTop
import TableStore.Proofs.Binary.Rounding

/-!
# The order of binary numbers

A finite number is a ratio, and the two infinities stand at the ends of the line of all ratios.
Numbers are compared by counting patterns from zero. The count follows the line: within a binade
the significand grows, and from one binade to the next its unit doubles.
-/

namespace TableStore.Binary.Number

variable {format : Format} {x y : Number format}

/-- The exact value of a finite number, sign apart. -/
def absolute (x : Number format) : ℚ :=
  x.numerator / x.denominator

/-- The exact value of a finite number. -/
def value (x : Number format) : ℚ :=
  if x.isNegative then -x.absolute else x.absolute

/-- Where a number stands on the line of the ratios, an infinity at one of its ends. -/
def place (x : Number format) : WithBot (WithTop ℚ) :=
  if x.isFinite then ((x.value : WithTop ℚ) : WithBot (WithTop ℚ))
  else if x.isNegative then ⊥
  else ⊤

theorem isInfinite_eq_false (nan : x.isNaN = true) : x.isInfinite = false := by
  simp only [isNaN, isInfinite, decide_eq_true_eq, beq_eq_false_iff_ne] at nan ⊢
  omega

/-- A number is finite when it is a number and not an infinity. -/
theorem isFinite_eq (x : Number format) : x.isFinite = (!x.isNaN && !x.isInfinite) := by
  rw [Bool.eq_iff_iff]
  simp only [isFinite, isNaN, isInfinite, decide_eq_true_eq, Bool.and_eq_true, Bool.not_eq_true',
    decide_eq_false_iff_not, beq_eq_false_iff_ne]
  omega

theorem absolute_eq (x : Number format) : x.absolute = x.significand * 2 ^ x.exponent := by
  rw [absolute, numerator, denominator, zpow_eq_div]
  push_cast
  ring

theorem absolute_nonneg (x : Number format) : 0 ≤ x.absolute := by
  rw [absolute]
  positivity

theorem absolute_pos (nonzero : x.magnitude ≠ 0) : 0 < x.absolute := by
  have significand : (0 : ℚ) < x.significand := by exact_mod_cast significand_pos nonzero
  rw [absolute_eq]
  positivity

theorem absolute_congr (same : x.magnitude = y.magnitude) : x.absolute = y.absolute := by
  rw [absolute_eq, absolute_eq, significand, significand, exponent, exponent, same]

theorem absolute_eq_zero (zero : x.magnitude = 0) : x.absolute = 0 := by
  rw [absolute_eq, significand, zero, if_pos (Nat.two_pow_pos _), Nat.cast_zero, zero_mul]

/-- In a higher binade even the least significand is worth more. -/
theorem absolute_lt_of_binade_lt (higher : x.binade < y.binade) : x.absolute < y.absolute := by
  have significandUpper : (x.significand : ℚ) < 2 ^ (format.fractionBits + 1) := by
    exact_mod_cast x.significand_lt
  have significandLower : (2 : ℚ) ^ format.fractionBits ≤ y.significand := by
    exact_mod_cast le_significand (Nat.zero_lt_of_lt higher)
  have units : x.exponent + 1 ≤ y.exponent := by
    rw [exponent_eq, exponent_eq]
    omega
  have unitPositive : (0 : ℚ) < 2 ^ x.exponent := by positivity
  rw [absolute_eq, absolute_eq]
  calc (x.significand : ℚ) * 2 ^ x.exponent
      < 2 ^ (format.fractionBits + 1) * 2 ^ x.exponent :=
        mul_lt_mul_of_pos_right significandUpper unitPositive
    _ = 2 ^ format.fractionBits * 2 ^ (x.exponent + 1) := by
        rw [zpow_add_one₀ two_ne_zero, pow_succ]
        ring
    _ ≤ y.significand * 2 ^ y.exponent := by
        gcongr
        exact one_le_two

/-- A greater pattern below the sign bit stands for a greater value, sign apart. -/
theorem absolute_lt (less : x.magnitude < y.magnitude) : x.absolute < y.absolute := by
  have binades : x.binade ≤ y.binade :=
    Nat.sub_le_sub_right (Nat.div_le_div_right less.le) 1
  rcases binades.lt_or_eq with higher | level
  · exact absolute_lt_of_binade_lt higher
  · have significands : x.significand < y.significand := by
      rw [magnitude_eq, magnitude_eq, level] at less
      exact Nat.lt_of_add_lt_add_left less
    have unitPositive : (0 : ℚ) < 2 ^ y.exponent := by positivity
    rw [absolute_eq, absolute_eq, exponent_eq, level, ← exponent_eq]
    exact mul_lt_mul_of_pos_right (by exact_mod_cast significands) unitPositive

/-- Numbers further along have greater values. -/
theorem value_lt (less : x.position < y.position) : x.value < y.value := by
  have xNonneg := x.absolute_nonneg
  have yNonneg := y.absolute_nonneg
  unfold position at less
  unfold value
  split_ifs at less ⊢ with xNegative yNegative yNegative
  · exact neg_lt_neg (absolute_lt (by omega))
  -- at most one of a negative and a positive number is a zero
  · by_cases xZero : x.magnitude = 0
    · have := absolute_pos (x := y) (by omega)
      linarith
    · have := absolute_pos xZero
      linarith
  · omega
  · exact absolute_lt (by omega)

theorem value_congr (same : x.position = y.position) : x.value = y.value := by
  unfold position at same
  unfold value
  split_ifs at same ⊢ with xNegative yNegative yNegative
  · exact congrArg Neg.neg (absolute_congr (by omega))
  · rw [absolute_eq_zero (x := x) (by omega), absolute_eq_zero (x := y) (by omega), neg_zero]
  · rw [absolute_eq_zero (x := x) (by omega), absolute_eq_zero (x := y) (by omega), neg_zero]
  · exact absolute_congr (by omega)

/-- Numbers further along stand further along the line of the ratios. -/
theorem place_lt (xNumber : x.isNaN = false) (yNumber : y.isNaN = false)
    (less : x.position < y.position) : x.place < y.place := by
  have further := value_lt less
  simp only [isNaN, decide_eq_false_iff_not] at xNumber yNumber
  simp only [place, isFinite, decide_eq_true_eq]
  unfold position at less
  split_ifs at less ⊢
  all_goals first
    | exact WithBot.coe_lt_coe.mpr (WithTop.coe_lt_coe.mpr further)
    | exact WithBot.bot_lt_coe _
    | exact WithBot.coe_lt_coe.mpr (WithTop.coe_lt_top _)
    | omega

/-- The infinities of a format with exponents are not level with zero. -/
theorem infinity_pos (exponents : 0 < format.exponentBits) : 0 < format.infinity :=
  Nat.mul_pos (Nat.sub_pos_of_lt (Nat.one_lt_two_pow exponents.ne')) (Nat.two_pow_pos _)

theorem place_congr (exponents : 0 < format.exponentBits) (xNumber : x.isNaN = false)
    (yNumber : y.isNaN = false) (same : x.position = y.position) : x.place = y.place := by
  have level := value_congr same
  have apart := infinity_pos exponents
  simp only [isNaN, decide_eq_false_iff_not] at xNumber yNumber
  simp only [place, isFinite, decide_eq_true_eq, level]
  unfold position at same
  split_ifs at same ⊢
  all_goals first
    | rfl
    | omega

theorem place_lt_iff (exponents : 0 < format.exponentBits) (xNumber : x.isNaN = false)
    (yNumber : y.isNaN = false) : x.place < y.place ↔ x.position < y.position := by
  constructor
  · intro less
    by_contra notLess
    rcases (not_lt.mp notLess).lt_or_eq with greater | same
    · exact lt_asymm less (place_lt yNumber xNumber greater)
    · exact less.ne (place_congr exponents xNumber yNumber same.symm)
  · exact place_lt xNumber yNumber

theorem place_le_iff (exponents : 0 < format.exponentBits) (xNumber : x.isNaN = false)
    (yNumber : y.isNaN = false) : x.place ≤ y.place ↔ x.position ≤ y.position := by
  rw [← not_lt, ← not_lt, place_lt_iff exponents yNumber xNumber]

/-- A number is found less than another when both are numbers and it stands before the other. -/
theorem compare?_eq_lt_iff (exponents : 0 < format.exponentBits) :
    x.compare? y = some .lt ↔ x.isNaN = false ∧ y.isNaN = false ∧ x.place < y.place := by
  cases xNumber : x.isNaN <;> cases yNumber : y.isNaN <;>
    simp [compare?, xNumber, yNumber, place_lt_iff exponents, compare_lt_iff_lt]

theorem compare?_eq_gt_iff (exponents : 0 < format.exponentBits) :
    x.compare? y = some .gt ↔ x.isNaN = false ∧ y.isNaN = false ∧ y.place < x.place := by
  cases xNumber : x.isNaN <;> cases yNumber : y.isNaN <;>
    simp [compare?, xNumber, yNumber, place_lt_iff exponents, compare_gt_iff_gt]

/-- Numbers are found in order when both are numbers and the first stands no further along. -/
theorem compare?_isLE_iff (exponents : 0 < format.exponentBits) :
    (x.compare? y).any Ordering.isLE = true ↔
      x.isNaN = false ∧ y.isNaN = false ∧ x.place ≤ y.place := by
  cases xNumber : x.isNaN <;> cases yNumber : y.isNaN <;>
    simp [compare?, xNumber, yNumber, place_le_iff exponents, Int.isLE_compare]

end TableStore.Binary.Number
