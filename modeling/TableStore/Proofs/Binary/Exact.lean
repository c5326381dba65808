import TableStore.Proofs.Binary.Order
import TableStore.Proofs.Json.Number

/-!
# What one rounding does

A natural number, a product and a quotient are each rounded once, from the exact ratio that they
stand for. A number that is rounded from a ratio has the magnitude of every number that admits the
ratio. A double is off by half a unit of its last place at most, and not at all when the ratio has
no more places than a double.
-/

namespace TableStore.Binary.Number

variable {format : Format} {x y z : Number format}

/-- Whether a number is what a positive ratio is rounded to, under either sign. -/
def IsRounded (value : ℚ) (x : Number format) : Prop :=
  ∃ (negative : Bool) (num den : Nat), 0 < den ∧ (num / den : ℚ) = value ∧
    x = ofRatio negative num den

theorem magnitude_ne_zero (positive : 0 < x.absolute) : x.magnitude ≠ 0 :=
  fun zero => positive.ne' (absolute_eq_zero zero)

theorem denominator_pos (x : Number format) : 0 < x.denominator :=
  Nat.two_pow_pos _

theorem numerator_pos (nonzero : x.magnitude ≠ 0) : 0 < x.numerator :=
  Nat.mul_pos (significand_pos nonzero) (Nat.two_pow_pos _)

theorem isRounded_ofNat (negative : Bool) (n : Nat) :
    (ofRatio negative n 1 : Number format).IsRounded n :=
  ⟨negative, n, 1, Nat.one_pos, by rw [Nat.cast_one, div_one], rfl⟩

/-- A product is rounded from the exact product. -/
theorem isRounded_times (x y : Number format) :
    (x.times y).IsRounded (x.absolute * y.absolute) := by
  refine ⟨_, _, _, Nat.mul_pos x.denominator_pos y.denominator_pos, ?_, rfl⟩
  rw [absolute, absolute, div_mul_div_comm]
  push_cast
  rfl

/-- A quotient is rounded from the exact quotient. -/
theorem isRounded_dividedBy (x : Number format) (divisor : y.magnitude ≠ 0) :
    (x.dividedBy y).IsRounded (x.absolute / y.absolute) := by
  refine ⟨_, _, _, Nat.mul_pos x.denominator_pos (numerator_pos divisor), ?_, rfl⟩
  rw [absolute, absolute, div_div_div_eq]
  push_cast
  rfl

/-- The sign has no part in rounding. -/
theorem magnitude_ofRatio (negative : Bool) (num den : Nat) :
    (ofRatio negative num den : Number format).magnitude =
      (ofRatio false num den : Number format).magnitude := by
  unfold ofRatio
  split
  · rw [magnitude_ofMagnitude (Nat.two_pow_pos _), magnitude_ofMagnitude (Nat.two_pow_pos _)]
  · have bounded : ∀ steps, min steps format.infinity <
        2 ^ (format.exponentBits + format.fractionBits) := fun steps =>
      (Nat.min_le_right _ _).trans_lt (infinity_lt format)
    rw [magnitude_ofMagnitude (bounded _), magnitude_ofMagnitude (bounded _)]

/-- A ratio that a number admits is rounded to its magnitude. -/
theorem IsRounded.magnitude_eq {value : ℚ} (rounded : x.IsRounded value)
    (finite : z.isFinite = true) (nonzero : z.magnitude ≠ 0) (admits : z.Admits value) :
    x.magnitude = z.magnitude := by
  obtain ⟨negative, num, den, denPositive, rfl, rfl⟩ := rounded
  rw [magnitude_ofRatio, ← magnitude_ofRatio z.isNegative,
    ofRatio_eq finite nonzero denPositive admits]

/-- A finite number is converted to the number of its sign that admits its value. -/
theorem convert_eq {source target : Format} {y : Number source} {x : Number target}
    (yFinite : y.isFinite = true) (finite : x.isFinite = true) (nonzero : x.magnitude ≠ 0)
    (sign : y.isNegative = x.isNegative) (admits : x.Admits y.absolute) : y.convert = x := by
  rw [isFinite_eq, Bool.and_eq_true, Bool.not_eq_true', Bool.not_eq_true'] at yFinite
  rw [convert, yFinite.1, yFinite.2, if_neg Bool.false_ne_true, if_neg Bool.false_ne_true, sign]
  exact ofRatio_eq finite nonzero y.denominator_pos admits

/-- The value of a normal number whose magnitude is given by its exponent and its significand. -/
theorem absolute_of_magnitude_lt {q : Int} {m : Nat} (above : 2 ^ format.fractionBits ≤ m)
    (below : m < 2 * 2 ^ format.fractionBits) (least : format.leastExponent ≤ q)
    (level : x.magnitude = (q - format.leastExponent).toNat * 2 ^ format.fractionBits + m) :
    x.absolute = m * 2 ^ q := by
  have positive : 0 < 2 ^ format.fractionBits := Nat.two_pow_pos _
  obtain ⟨fraction, rfl⟩ := Nat.exists_eq_add_of_le above
  have steps : x.magnitude =
      fraction + 2 ^ format.fractionBits * ((q - format.leastExponent).toNat + 1) := by
    rw [level]
    ring
  have small : fraction < 2 ^ format.fractionBits := by omega
  have quotient : x.magnitude / 2 ^ format.fractionBits =
      (q - format.leastExponent).toNat + 1 := by
    rw [steps, Nat.add_mul_div_left _ _ positive, Nat.div_eq_of_lt small, Nat.zero_add]
  have remainder : x.magnitude % 2 ^ format.fractionBits = fraction := by
    rw [steps, Nat.add_mul_mod_self_left, Nat.mod_eq_of_lt small]
  have normal : ¬x.magnitude < 2 ^ format.fractionBits := by
    intro subnormal
    rw [Nat.div_eq_of_lt subnormal] at quotient
    omega
  have significand : x.significand = fraction + 2 ^ format.fractionBits := by
    rw [Number.significand, if_neg normal, remainder]
  have exponent : x.exponent = q := by
    rw [Number.exponent, quotient]
    omega
  rw [absolute_eq, significand, exponent, Nat.add_comm]

/-- The same of a significand that may have grown to the start of the next binade. -/
theorem absolute_of_magnitude {q : Int} {m : Nat} (above : 2 ^ format.fractionBits ≤ m)
    (atMost : m ≤ 2 * 2 ^ format.fractionBits) (least : format.leastExponent ≤ q)
    (level : x.magnitude = (q - format.leastExponent).toNat * 2 ^ format.fractionBits + m) :
    x.absolute = m * 2 ^ q := by
  rcases atMost.lt_or_eq with below | rfl
  · exact absolute_of_magnitude_lt above below least level
  · have positive : 0 < 2 ^ format.fractionBits := Nat.two_pow_pos _
    have next : (q + 1 - format.leastExponent).toNat = (q - format.leastExponent).toNat + 1 := by
      omega
    rw [absolute_of_magnitude_lt (q := q + 1) le_rfl (by omega) (by omega)
      (by rw [level, next]; ring), zpow_add_one₀ two_ne_zero]
    push_cast
    ring

/-! ## Doubles -/

section Double

variable {x : Double} {value : ℚ}

/-- Whether a ratio is in the range where doubles have all their places: the binary logarithms of
normal doubles go from -1022 to 1023. -/
def IsNormal (value : ℚ) : Prop :=
  (2 : ℚ) ^ (-1022 : Int) ≤ value ∧ value < 2 ^ (1022 : Int)

theorem isNormal_of_bounds {j k : Int} (least : -1022 ≤ j) (greatest : k < 1022)
    (lower : (2 : ℚ) ^ j ≤ value) (upper : value ≤ 2 ^ k) : IsNormal value :=
  ⟨(zpow_le_zpow_right₀ one_le_two least).trans lower,
    upper.trans_lt (zpow_lt_zpow_right₀ one_lt_two greatest)⟩

/-- Counted in a unit that leaves 52 places below its binary logarithm, a ratio has 53 places. -/
theorem scaled_bounds {log : Int} (lower : (2 : ℚ) ^ log ≤ value) (upper : value < 2 ^ (log + 1)) :
    (2 : ℚ) ^ 52 ≤ value / 2 ^ (log - 52) ∧ value / 2 ^ (log - 52) < 2 ^ 53 := by
  have unit : (0 : ℚ) < 2 ^ (log - 52) := by positivity
  constructor
  · rwa [le_div_iff₀ unit, ← zpow_natCast, ← zpow_add₀ two_ne_zero,
      show ((52 : Nat) : Int) + (log - 52) = log by omega]
  · rwa [div_lt_iff₀ unit, ← zpow_natCast, ← zpow_add₀ two_ne_zero,
      show ((53 : Nat) : Int) + (log - 52) = log + 1 by omega]

/-- The significand nearest to a value of 53 places has 53 places, or starts the next binade. -/
theorem significand_bounds {m : Nat} (nearest : IsNearest value m) (lower : (2 : ℚ) ^ 52 ≤ value)
    (upper : value < 2 ^ 53) : 2 ^ 52 ≤ m ∧ m ≤ 2 * 2 ^ 52 := by
  obtain ⟨errorLower, errorUpper⟩ := abs_le.mp nearest.abs_sub_le
  constructor
  · have above : (2 ^ 52 : ℚ) < m + 1 := by linarith
    exact Nat.lt_succ_iff.mp (by exact_mod_cast above)
  · have below : (m : ℚ) < 2 * 2 ^ 52 + 1 := by linarith
    exact Nat.lt_succ_iff.mp (by exact_mod_cast below)

/-- A double rounded from a ratio is a finite multiple of a unit, the nearest to the ratio, and the
ratio has all 53 places above the unit. -/
theorem IsRounded.exists_multiple (rounded : x.IsRounded value) (normal : IsNormal value) :
    ∃ (q : Int) (m : Nat), x.isFinite = true ∧ x.absolute = m * 2 ^ q ∧
      IsNearest (value / 2 ^ q) m ∧ (2 : ℚ) ^ (q + 52) ≤ value := by
  obtain ⟨negative, num, den, denPositive, rfl, rfl⟩ := rounded
  have denRational : (0 : ℚ) < den := by exact_mod_cast denPositive
  have numPositive : 0 < num := by
    have positive : (0 : ℚ) < num / den := lt_of_lt_of_le (by positivity) normal.1
    exact_mod_cast (div_pos_iff_of_pos_right denRational).mp positive
  have lowest := le_ratioLog numPositive denPositive normal.1
  have highest := ratioLog_lt numPositive denPositive normal.2
  obtain ⟨lower, upper⟩ := ratioLog_spec numPositive denPositive
  generalize logarithm : ratioLog num den = log at lowest highest lower upper
  have unit : max Format.double.leastExponent (ratioLog num den - Format.double.fractionBits) =
      log - 52 := by
    rw [logarithm]
    exact max_eq_right (by simp only [Format.leastExponent, Format.double]; omega)
  obtain ⟨m, nearest⟩ := exists_isNearest num denPositive (log - 52)
  refine ⟨log - 52, m, ?_⟩
  obtain ⟨scaledLower, scaledUpper⟩ := scaled_bounds lower upper
  obtain ⟨above, atMost⟩ := significand_bounds nearest scaledLower scaledUpper
  have steps : (log - 52 - Format.double.leastExponent).toNat * 2 ^ Format.double.fractionBits + m <
      Format.double.infinity := by
    simp only [Format.leastExponent, Format.infinity, Format.double]
    omega
  have magnitude : (ofMagnitude negative ((log - 52 - Format.double.leastExponent).toNat *
      2 ^ Format.double.fractionBits + m) : Double).magnitude = _ :=
    magnitude_ofMagnitude (steps.trans (infinity_lt Format.double))
  rw [ofRatio_of_unit numPositive denPositive unit nearest, min_eq_left steps.le]
  refine ⟨?_, ?_, nearest, ?_⟩
  · rw [isFinite, magnitude]
    exact decide_eq_true steps
  · refine absolute_of_magnitude above atMost ?_ magnitude
    simp only [Format.leastExponent, Format.double]
    omega
  · rwa [sub_add_cancel]

theorem IsRounded.isFinite (rounded : x.IsRounded value) (normal : IsNormal value) :
    x.isFinite = true := by
  obtain ⟨-, -, finite, -⟩ := rounded.exists_multiple normal
  exact finite

/-- Rounding moves a ratio by at most half a unit of the last of 53 places. -/
theorem IsRounded.abs_sub_le (rounded : x.IsRounded value) (normal : IsNormal value) :
    |x.absolute - value| ≤ value / 2 ^ 53 := by
  obtain ⟨q, m, -, absolute, nearest, lower⟩ := rounded.exists_multiple normal
  have unitPositive : (0 : ℚ) < 2 ^ q := by positivity
  rw [zpow_add₀ two_ne_zero] at lower
  calc |x.absolute - value|
      = |m - value / 2 ^ q| * 2 ^ q := by
        rw [absolute, ← abs_of_pos unitPositive, ← abs_mul, abs_of_pos unitPositive, sub_mul,
          div_mul_cancel₀ _ unitPositive.ne']
    _ ≤ 1 / 2 * 2 ^ q := by
        gcongr
        exact nearest.abs_sub_le
    _ ≤ value / 2 ^ 53 := by
        rw [le_div_iff₀ (by positivity)]
        norm_num at lower ⊢
        linarith

/-- A ratio of at most 53 places is kept. -/
theorem IsRounded.absolute_eq {k : Nat} {j : Int} (rounded : x.IsRounded value)
    (normal : IsNormal value) (short : k < 2 ^ 53) (places : value = k * 2 ^ j) :
    x.absolute = value := by
  obtain ⟨q, m, -, absolute, nearest, lower⟩ := rounded.exists_multiple normal
  have level : q ≤ j := by
    have : (2 : ℚ) ^ (q + 52) < 2 ^ (j + 53) := by
      calc (2 : ℚ) ^ (q + 52) ≤ (k : ℚ) * 2 ^ j := places ▸ lower
        _ < 2 ^ 53 * 2 ^ j := by
            gcongr
            exact_mod_cast short
        _ = 2 ^ (j + 53) := by
            rw [zpow_add₀ two_ne_zero, mul_comm]
            rfl
    have := (zpow_lt_zpow_iff_right₀ one_lt_two).mp this
    omega
  obtain ⟨zeros, shift⟩ := Int.eq_ofNat_of_zero_le (Int.sub_nonneg.mpr level)
  have scaled : value / 2 ^ q = (k * 2 ^ zeros : Nat) := by
    rw [places, mul_div_assoc, ← zpow_sub₀ two_ne_zero, shift, zpow_natCast]
    push_cast
    rfl
  rw [scaled] at nearest
  rw [absolute, nearest.eq_of_natCast, ← scaled, div_mul_cancel₀ _ (by positivity)]

/-- A natural number of 53 bits is a double. -/
theorem absolute_ofNat {n : Nat} (negative : Bool) (short : n < 2 ^ 53) :
    (ofRatio negative n 1 : Double).absolute = n := by
  rcases Nat.eq_zero_or_pos n with rfl | positive
  · rw [ofRatio, if_pos rfl, absolute_eq_zero (magnitude_ofMagnitude (Nat.two_pow_pos _)),
      Nat.cast_zero]
  · have normal : IsNormal n := by
      apply isNormal_of_bounds (j := 0) (k := (53 : Nat)) (by decide) (by decide)
      · rw [zpow_zero]
        exact_mod_cast positive
      · rw [zpow_natCast]
        exact_mod_cast short.le
    exact (isRounded_ofNat negative n).absolute_eq normal short (by rw [zpow_zero, mul_one])

end Double

end TableStore.Binary.Number
