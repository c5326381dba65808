import TableStore.Proofs.Binary.Exact

/-!
# Digits scaled by a power of ten

Reading rounds the digits of a number, then the power of ten that scales them, and then their
product or quotient. Digits of 53 bits are doubles, and so are the first powers of ten: where both
are at hand, only the last rounding is left, and the result has the magnitude of every double that
admits the exact one. Further powers of ten are off by a rounding of their own, which leaves the
result as close as two roundings are.
-/

namespace TableStore.Json

open Binary

-- Powers are those of the core library, whatever else is imported.
attribute [local instance (high)] instPowNat

/-! ## Powers of ten -/

/-- What reading takes for a power of ten; the power is divided by if its exponent is negative. -/
def scale (exponent : Int) : ℚ :=
  if exponent < 0 then 1 / (powerOfTen exponent.natAbs).absolute
  else (powerOfTen exponent.natAbs).absolute

theorem isRounded_powerOfTen (n : Nat) : (powerOfTen n).IsRounded (10 ^ n : Nat) :=
  Number.isRounded_ofNat false _

theorem ten_zpow_eq (exponent : Int) :
    (10 : ℚ) ^ exponent =
      if exponent < 0 then 1 / ((10 ^ exponent.natAbs : Nat) : ℚ)
      else ((10 ^ exponent.natAbs : Nat) : ℚ) := by
  push_cast
  rw [← zpow_natCast]
  split
  · rw [one_div, ← zpow_neg]
    congr 1
    omega
  · congr 1
    omega

theorem one_le_ten_pow (n : Nat) : (1 : ℚ) ≤ (10 ^ n : Nat) := by
  exact_mod_cast Nat.one_le_pow _ _ (by decide)

theorem isNormal_ten_pow {n : Nat} (near : n ≤ 75) : Number.IsNormal (10 ^ n : Nat) := by
  apply Number.isNormal_of_bounds (j := 0) (k := (250 : Nat)) (by decide) (by decide)
  · rw [zpow_zero]
    exact one_le_ten_pow n
  · have upper : 10 ^ n ≤ 2 ^ 250 :=
      (Nat.pow_le_pow_right (by decide) near).trans (by decide +kernel)
    rw [zpow_natCast]
    exact_mod_cast upper

/-- The first powers of ten are doubles. -/
theorem absolute_powerOfTen {n : Nat} (small : n ≤ 22) : (powerOfTen n).absolute = 10 ^ n := by
  have normal := isNormal_ten_pow (small.trans (show 22 ≤ 75 by decide))
  have short : 5 ^ n < 2 ^ 53 := (Nat.pow_le_pow_right (by decide) small).trans_lt (by decide)
  rw [(isRounded_powerOfTen n).absolute_eq normal short (j := n)]
  · push_cast
    rfl
  · rw [zpow_natCast]
    push_cast
    rw [← mul_pow]
    norm_num

theorem scale_eq {exponent : Int} (small : exponent.natAbs ≤ 22) :
    scale exponent = 10 ^ exponent := by
  rw [scale, absolute_powerOfTen small, ten_zpow_eq]
  push_cast
  rfl

/-- The reciprocal of a number that is off by one rounding is off by little more. -/
theorem abs_one_div_sub_le {exact power : ℚ} (positive : 0 < exact)
    (close : |power - exact| ≤ exact / 2 ^ 53) :
    |1 / power - 1 / exact| ≤ 1 / exact * (1 / 2 ^ 53 + 1 / 2 ^ 105) := by
  obtain ⟨lower, upper⟩ := abs_le.mp close
  have powerLower : exact * (1 - 1 / 2 ^ 53) ≤ power := by linarith
  have powerUpper : power ≤ exact * (1 + 1 / 2 ^ 53) := by linarith
  have powerPositive : 0 < power := lt_of_lt_of_le (by norm_num [positive]) powerLower
  have above : 1 / power ≤ 1 / exact * (1 + 1 / 2 ^ 53 + 1 / 2 ^ 105) := by
    rw [div_le_iff₀ powerPositive]
    calc (1 : ℚ) ≤ (1 + 1 / 2 ^ 53 + 1 / 2 ^ 105) * (1 - 1 / 2 ^ 53) := by norm_num
      _ = 1 / exact * (1 + 1 / 2 ^ 53 + 1 / 2 ^ 105) * (exact * (1 - 1 / 2 ^ 53)) := by
          field_simp
      _ ≤ 1 / exact * (1 + 1 / 2 ^ 53 + 1 / 2 ^ 105) * power :=
          mul_le_mul_of_nonneg_left powerLower (by positivity)
  have below : 1 / exact * (1 - 1 / 2 ^ 53) ≤ 1 / power := by
    rw [le_div_iff₀ powerPositive]
    calc 1 / exact * (1 - 1 / 2 ^ 53) * power
        ≤ 1 / exact * (1 - 1 / 2 ^ 53) * (exact * (1 + 1 / 2 ^ 53)) := by
          gcongr
      _ = (1 - 1 / 2 ^ 53) * (1 + 1 / 2 ^ 53) := by field_simp
      _ ≤ 1 := by norm_num
  have inverse : 0 < 1 / exact := by positivity
  rw [abs_le]
  constructor
  · linarith
  · linarith

/-- The powers of ten that are not doubles are off by one rounding. -/
theorem abs_scale_sub_le {exponent : Int} (near : exponent.natAbs ≤ 75) :
    |scale exponent - 10 ^ exponent| ≤ 10 ^ exponent * (1 / 2 ^ 53 + 1 / 2 ^ 105) := by
  have close := (isRounded_powerOfTen exponent.natAbs).abs_sub_le (isNormal_ten_pow near)
  have positive := zero_lt_one.trans_le (one_le_ten_pow exponent.natAbs)
  rw [scale, ten_zpow_eq]
  split
  · exact abs_one_div_sub_le positive close
  · refine close.trans ?_
    rw [div_eq_mul_one_div]
    gcongr
    norm_num

theorem scale_bounds {exponent : Int} (near : exponent.natAbs ≤ 75) :
    (2 : ℚ) ^ (-251 : Int) ≤ scale exponent ∧ scale exponent ≤ 2 ^ (251 : Int) := by
  have lower : (10 : ℚ) ^ (-75 : Int) ≤ 10 ^ exponent :=
    zpow_le_zpow_right₀ (by norm_num) (by omega)
  have upper : (10 : ℚ) ^ exponent ≤ 10 ^ (75 : Int) :=
    zpow_le_zpow_right₀ (by norm_num) (by omega)
  obtain ⟨below, above⟩ := abs_le.mp (abs_scale_sub_le near)
  have half : (10 : ℚ) ^ exponent * (1 / 2 ^ 53 + 1 / 2 ^ 105) ≤ 10 ^ exponent * (1 / 2) :=
    mul_le_mul_of_nonneg_left (by norm_num) (by positivity)
  constructor
  · calc (2 : ℚ) ^ (-251 : Int) ≤ 10 ^ (-75 : Int) * (1 / 2) := by norm_num
      _ ≤ 10 ^ exponent * (1 / 2) := by gcongr
      _ ≤ scale exponent := by linarith
  · calc scale exponent ≤ 10 ^ exponent * 2 := by linarith
      _ ≤ 10 ^ (75 : Int) * 2 := by gcongr
      _ ≤ 2 ^ (251 : Int) := by norm_num

/-- Two roundings, one of a factor and one of the product, add up. -/
theorem abs_sub_le_of_rounded_twice {digits power ten result : ℚ} (digitsNonneg : 0 ≤ digits)
    (tenNonneg : 0 ≤ ten) (powerClose : |power - ten| ≤ ten * (1 / 2 ^ 53 + 1 / 2 ^ 105))
    (resultClose : |result - digits * power| ≤ digits * power / 2 ^ 53) :
    |result - digits * ten| ≤ digits * ten * (1 / 2 ^ 52 + 1 / 2 ^ 100) := by
  have powerUpper : power ≤ ten * (1 + (1 / 2 ^ 53 + 1 / 2 ^ 105)) := by
    linarith [(abs_le.mp powerClose).2]
  calc |result - digits * ten|
      ≤ |result - digits * power| + |digits * power - digits * ten| := abs_sub_le _ _ _
    _ ≤ digits * power / 2 ^ 53 + digits * (ten * (1 / 2 ^ 53 + 1 / 2 ^ 105)) := by
        rw [← mul_sub, abs_mul, abs_of_nonneg digitsNonneg]
        gcongr
    _ ≤ digits * (ten * (1 + (1 / 2 ^ 53 + 1 / 2 ^ 105))) / 2 ^ 53 +
          digits * (ten * (1 / 2 ^ 53 + 1 / 2 ^ 105)) := by gcongr
    _ = digits * ten *
          ((1 + (1 / 2 ^ 53 + 1 / 2 ^ 105)) / 2 ^ 53 + (1 / 2 ^ 53 + 1 / 2 ^ 105)) := by ring
    _ ≤ digits * ten * (1 / 2 ^ 52 + 1 / 2 ^ 100) :=
        mul_le_mul_of_nonneg_left (by norm_num) (by positivity)

/-! ## Scaling -/

/-- Digits are scaled by one rounding, unless the result is too large. -/
theorem exists_isRounded {significand : Nat} {exponent : Int} (positive : 0 < significand)
    (short : significand < 2 ^ 53) (near : exponent.natAbs ≤ 75) :
    ∃ y : Double, y.IsRounded (significand * scale exponent) ∧
      (y.isFinite = true → scaleByPower significand exponent = some y) := by
  have first := Number.absolute_ofNat false short
  have firstNonzero : (.ofRatio false significand 1 : Double).magnitude ≠ 0 :=
    Number.magnitude_ne_zero (first ▸ by exact_mod_cast positive)
  have scalePositive : 0 < scale exponent :=
    lt_of_lt_of_le (by positivity) (scale_bounds near).1
  have inTable : exponent.natAbs ≤ greatestPower := near.trans (by decide)
  rw [← first]
  unfold scaleByPower
  dsimp only
  generalize (.ofRatio false significand 1 : Double) = start at firstNonzero ⊢
  by_cases negative : exponent < 0
  · rw [scale, if_pos negative] at scalePositive ⊢
    have powerNonzero : (powerOfTen exponent.natAbs).magnitude ≠ 0 :=
      Number.magnitude_ne_zero (one_div_pos.mp scalePositive)
    rw [if_pos negative, divideByPower, if_neg firstNonzero, if_pos inTable, mul_one_div]
    exact ⟨_, Number.isRounded_dividedBy start powerNonzero, fun _ => rfl⟩
  · have same : exponent.toNat = exponent.natAbs := by omega
    rw [scale, if_neg negative, if_neg negative, same, if_pos inTable]
    refine ⟨_, Number.isRounded_times start _, fun finite => ?_⟩
    have notInfinite : (start.times (powerOfTen exponent.natAbs)).isInfinite = false := by
      rw [Number.isFinite, decide_eq_true_eq] at finite
      rw [Number.isInfinite, beq_eq_false_iff_ne]
      exact finite.ne
    rw [notInfinite]
    rfl

/-- Digits and a power of ten that are doubles themselves are scaled to the magnitude of the number
that admits the exact result. -/
theorem exists_scaleByPower {significand : Nat} {exponent : Int} {x : Double}
    (finite : x.isFinite = true) (nonzero : x.magnitude ≠ 0) (short : significand < 2 ^ 53)
    (small : exponent.natAbs ≤ 22) (admits : x.Admits (significand * 10 ^ exponent)) :
    ∃ y, scaleByPower significand exponent = some y ∧ y.magnitude = x.magnitude := by
  have positive : 0 < significand := by
    have grid : (0 : ℚ) < 10 ^ exponent := by positivity
    exact_mod_cast (pos_iff_pos_of_mul_pos (admits.pos nonzero)).mpr grid
  obtain ⟨y, rounded, scaled⟩ := exists_isRounded positive short (small.trans (by decide))
  rw [scale_eq small] at rounded
  have level := rounded.magnitude_eq finite nonzero admits
  refine ⟨y, scaled ?_, level⟩
  rw [Number.isFinite, level]
  exact finite

section Near

variable {significand : Nat} {exponent : Int}

theorem isNormal_scaled (positive : 0 < significand) (short : significand < 2 ^ 53)
    (near : exponent.natAbs ≤ 75) : Number.IsNormal (significand * scale exponent) := by
  obtain ⟨lower, upper⟩ := scale_bounds near
  have one : (1 : ℚ) ≤ significand := by exact_mod_cast positive
  have small : (significand : ℚ) ≤ 2 ^ 53 := by exact_mod_cast short.le
  apply Number.isNormal_of_bounds (j := -251) (k := 304) (by decide) (by decide)
  · calc (2 : ℚ) ^ (-251 : Int) ≤ scale exponent := lower
      _ ≤ significand * scale exponent :=
          le_mul_of_one_le_left (le_trans (by positivity) lower) one
  · calc significand * scale exponent ≤ 2 ^ 53 * 2 ^ (251 : Int) := by gcongr
      _ = 2 ^ (304 : Int) := by
          rw [← zpow_natCast, ← zpow_add₀ two_ne_zero]
          rfl

/-- Digits of 53 bits are scaled to a double that is as close to the exact result as two roundings
are, and to the exact result itself if that is short and the power of ten is a double. -/
theorem exists_scaleByPower_near (positive : 0 < significand) (short : significand < 2 ^ 53)
    (near : exponent.natAbs ≤ 75) :
    ∃ y, scaleByPower significand exponent = some y ∧ y.isFinite = true ∧
      |y.absolute - significand * 10 ^ exponent| ≤
        significand * 10 ^ exponent * (1 / 2 ^ 52 + 1 / 2 ^ 100) ∧
      (exponent.natAbs ≤ 22 → ∀ (k : Nat) (j : Int), k < 2 ^ 53 →
        (significand * 10 ^ exponent : ℚ) = k * 2 ^ j →
        y.absolute = significand * 10 ^ exponent) := by
  obtain ⟨y, rounded, scaled⟩ := exists_isRounded positive short near
  have normal := isNormal_scaled positive short near
  have finite := rounded.isFinite normal
  refine ⟨y, scaled finite, finite, ?_, fun small k j few places => ?_⟩
  · exact abs_sub_le_of_rounded_twice (Nat.cast_nonneg _) (by positivity) (abs_scale_sub_le near)
      (rounded.abs_sub_le normal)
  · rw [scale_eq small] at rounded normal
    exact rounded.absolute_eq normal few places

end Near

end TableStore.Json
