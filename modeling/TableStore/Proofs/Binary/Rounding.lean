import Mathlib.Algebra.Order.Field.Power
import Mathlib.Tactic.FieldSimp
import Mathlib.Tactic.Linarith
import Mathlib.Tactic.Positivity
import Mathlib.Tactic.Ring
import TableStore.Binary.Rounding

/-!
# What rounds to a number

The ratios that round to a finite number fill an interval around it: half a unit upwards, and
half a unit downwards except at the start of a binade, where the numbers below are twice as
dense. The bounds belong to the interval exactly when the significand is even.

Any ratio in the interval of a number rounds to that number, whatever the ratio's terms are.
-/

namespace TableStore.Binary

/-- Whether a natural number is nearest to a rational, an odd one without a tie. -/
def IsNearest (value : ℚ) (n : Nat) : Prop :=
  (n - 1 / 2 < value ∧ value < n + 1 / 2) ∨
    (n % 2 = 0 ∧ n - 1 / 2 ≤ value ∧ value ≤ n + 1 / 2)

/-- What being nearest to a quotient says without division. -/
theorem IsNearest.bounds {num den n : Nat} (positive : 0 < den)
    (nearest : IsNearest ((num : ℚ) / den) n) :
    2 * n * den ≤ 2 * num + den ∧ 2 * num ≤ 2 * n * den + den ∧
      (n % 2 = 0 ∨ 2 * n * den < 2 * num + den ∧ 2 * num < 2 * n * den + den) := by
  have denPositive : (0 : ℚ) < den := by exact_mod_cast positive
  simp only [IsNearest, lt_div_iff₀ denPositive, div_lt_iff₀ denPositive,
    le_div_iff₀ denPositive, div_le_iff₀ denPositive] at nearest
  rcases nearest with ⟨lower, upper⟩ | ⟨even, lower, upper⟩
  · have lowerNat : 2 * n * den < 2 * num + den := by
      have : (2 * n * den : ℚ) < 2 * num + den := by linarith
      exact_mod_cast this
    have upperNat : 2 * num < 2 * n * den + den := by
      have : (2 * num : ℚ) < 2 * n * den + den := by linarith
      exact_mod_cast this
    exact ⟨lowerNat.le, upperNat.le, .inr ⟨lowerNat, upperNat⟩⟩
  · have lowerNat : 2 * n * den ≤ 2 * num + den := by
      have : (2 * n * den : ℚ) ≤ 2 * num + den := by linarith
      exact_mod_cast this
    have upperNat : 2 * num ≤ 2 * n * den + den := by
      have : (2 * num : ℚ) ≤ 2 * n * den + den := by linarith
      exact_mod_cast this
    exact ⟨lowerNat, upperNat, .inl even⟩

/-- The quotient is rounded to the natural number that is nearest to it. -/
theorem divideToEven_eq {num den n : Nat} (positive : 0 < den)
    (nearest : IsNearest ((num : ℚ) / den) n) : divideToEven num den = n := by
  obtain ⟨lower, upper, tie⟩ := nearest.bounds positive
  have division : den * (num / den) + num % den = num := Nat.div_add_mod num den
  have remainder : num % den < den := Nat.mod_lt num positive
  unfold divideToEven
  generalize num / den = q at *
  generalize num % den = r at *
  subst num
  have notAbove : q < n + 1 := by
    by_contra above
    have : den * (n + 1) ≤ den * q := Nat.mul_le_mul_left den (by omega)
    nlinarith
  have notBelow : n < q + 2 := by
    by_contra below
    have : den * (q + 2) ≤ den * n := Nat.mul_le_mul_left den (by omega)
    nlinarith
  have cases : n = q ∨ n = q + 1 := by omega
  rcases cases with rfl | rfl
  · have half : 2 * r ≤ den := by nlinarith
    have tie : n % 2 = 0 ∨ 2 * r < den := by
      rcases tie with even | ⟨-, strict⟩
      · exact .inl even
      · exact .inr (by nlinarith)
    dsimp only
    split_ifs <;> omega
  · have half : den ≤ 2 * r := by nlinarith
    have tie : (q + 1) % 2 = 0 ∨ den < 2 * r := by
      rcases tie with even | ⟨strict, -⟩
      · exact .inl even
      · exact .inr (by nlinarith)
    dsimp only
    split_ifs <;> omega

/-- What a quotient is rounded to is nearest to it. -/
theorem isNearest_divideToEven (num : Nat) {den : Nat} (positive : 0 < den) :
    IsNearest ((num : ℚ) / den) (divideToEven num den) := by
  have denPositive : (0 : ℚ) < den := by exact_mod_cast positive
  have division : den * (num / den) + num % den = num := Nat.div_add_mod num den
  have remainder : num % den < den := Nat.mod_lt num positive
  unfold divideToEven
  generalize num / den = q at *
  generalize num % den = r at *
  have quotient : (num : ℚ) / den = q + r / den := by
    rw [← division]
    push_cast
    rw [add_div, mul_div_cancel_left₀ _ denPositive.ne']
  have nonneg : (0 : ℚ) ≤ r / den := by positivity
  have below : (r : ℚ) / den < 1 := (div_lt_one denPositive).mpr (by exact_mod_cast remainder)
  rw [quotient]
  dsimp only
  split_ifs with lower upper
  · have half : (r : ℚ) / den < 1 / 2 := by
      rw [div_lt_div_iff₀ denPositive two_pos]
      exact_mod_cast (by omega : r * 2 < 1 * den)
    exact .inl ⟨by linarith, by linarith⟩
  · have half : (1 : ℚ) / 2 < r / den := by
      rw [div_lt_div_iff₀ two_pos denPositive]
      exact_mod_cast (by omega : 1 * den < r * 2)
    exact .inl ⟨by push_cast; linarith, by push_cast; linarith⟩
  · have half : (r : ℚ) / den = 1 / 2 := by
      rw [div_eq_div_iff denPositive.ne' two_ne_zero]
      exact_mod_cast (by omega : r * 2 = 1 * den)
    rw [half]
    rcases Nat.mod_two_eq_zero_or_one q with even | odd
    · rw [even, Nat.add_zero]
      exact .inr ⟨even, by linarith, le_rfl⟩
    · rw [odd]
      exact .inr ⟨by omega, by push_cast; linarith, by push_cast; linarith⟩

/-- The nearest natural number is not further off than one half. -/
theorem IsNearest.abs_sub_le {value : ℚ} {n : Nat} (nearest : IsNearest value n) :
    |(n : ℚ) - value| ≤ 1 / 2 := by
  rw [abs_le]
  rcases nearest with ⟨lower, upper⟩ | ⟨-, lower, upper⟩
  · exact ⟨by linarith, by linarith⟩
  · exact ⟨by linarith, by linarith⟩

/-- The natural number that is nearest to one is that one. -/
theorem IsNearest.eq_of_natCast {n m : Nat} (nearest : IsNearest (n : ℚ) m) : m = n := by
  obtain ⟨lower, upper⟩ := abs_le.mp nearest.abs_sub_le
  have below : (m : ℚ) < n + 1 := by linarith
  have above : (n : ℚ) < m + 1 := by linarith
  have below : m < n + 1 := by exact_mod_cast below
  have above : n < m + 1 := by exact_mod_cast above
  omega

/-- A power as a ratio of natural powers. -/
theorem zpow_eq_div (base : ℚ) (e : Int) : base ^ e = base ^ e.toNat / base ^ (-e).toNat := by
  obtain ⟨n, rfl | rfl⟩ := e.eq_nat_or_neg
  · simp
  · simp

/-- Some natural number is nearest to a ratio counted in any unit. -/
theorem exists_isNearest (num : Nat) {den : Nat} (positive : 0 < den) (q : Int) :
    ∃ m, IsNearest ((num : ℚ) / den / 2 ^ q) m := by
  refine ⟨divideToEven (num * 2 ^ (-q).toNat) (den * 2 ^ q.toNat), ?_⟩
  convert isNearest_divideToEven (num * 2 ^ (-q).toNat)
    (Nat.mul_pos positive (Nat.two_pow_pos q.toNat)) using 1
  rw [zpow_eq_div 2 q]
  push_cast
  field_simp

/-- The ratio lies between the power of two at its binary logarithm and the next one. -/
theorem ratioLog_spec {num den : Nat} (numPositive : 0 < num) (denPositive : 0 < den) :
    (2 : ℚ) ^ ratioLog num den ≤ num / den ∧
      (num / den : ℚ) < 2 ^ (ratioLog num den + 1) := by
  have denRational : (0 : ℚ) < den := by exact_mod_cast denPositive
  have numLower : (2 : ℚ) ^ num.log2 ≤ num := by
    exact_mod_cast Nat.log2_self_le (by omega)
  have numUpper : (num : ℚ) < 2 ^ (num.log2 + 1) := by
    exact_mod_cast Nat.lt_log2_self
  have denLower : (2 : ℚ) ^ den.log2 ≤ den := by
    exact_mod_cast Nat.log2_self_le (by omega)
  have denUpper : (den : ℚ) < 2 ^ (den.log2 + 1) := by
    exact_mod_cast Nat.lt_log2_self
  generalize guessed : (num.log2 : Int) - den.log2 = guess
  have guessPower : (2 : ℚ) ^ guess = 2 ^ num.log2 / 2 ^ den.log2 := by
    rw [← guessed, zpow_sub₀ two_ne_zero, zpow_natCast, zpow_natCast]
  have guessUpper : (num / den : ℚ) < 2 ^ (guess + 1) := by
    rw [zpow_add_one₀ two_ne_zero, guessPower, div_lt_iff₀ denRational]
    calc (num : ℚ) < 2 ^ num.log2 * 2 := by rw [← pow_succ]; exact numUpper
      _ = 2 ^ num.log2 / 2 ^ den.log2 * 2 * 2 ^ den.log2 := by field_simp
      _ ≤ 2 ^ num.log2 / 2 ^ den.log2 * 2 * den := by gcongr
  have guessLower : (2 : ℚ) ^ (guess - 1) ≤ num / den := by
    rw [zpow_sub_one₀ two_ne_zero, guessPower, le_div_iff₀ denRational]
    calc (2 : ℚ) ^ num.log2 / 2 ^ den.log2 * 2⁻¹ * den
        ≤ 2 ^ num.log2 / 2 ^ den.log2 * 2⁻¹ * (2 ^ den.log2 * 2) := by
          rw [← pow_succ]
          gcongr
      _ = 2 ^ num.log2 := by field_simp
      _ ≤ num := numLower
  have condition : num * 2 ^ (-guess).toNat < den * 2 ^ guess.toNat ↔
      (num / den : ℚ) < 2 ^ guess := by
    rw [zpow_eq_div 2 guess, div_lt_div_iff₀ denRational (by positivity),
      mul_comm ((2 : ℚ) ^ guess.toNat)]
    exact_mod_cast Iff.rfl
  have unfolded : ratioLog num den =
      if num * 2 ^ (-guess).toNat < den * 2 ^ guess.toNat then guess - 1 else guess := by
    simp only [ratioLog, guessed]
  rw [unfolded]
  by_cases below : (num / den : ℚ) < 2 ^ guess
  · rw [if_pos (condition.mpr below), sub_add_cancel]
    exact ⟨guessLower, below⟩
  · rw [if_neg fun holds => below (condition.mp holds)]
    exact ⟨not_lt.mp below, guessUpper⟩

theorem ratioLog_lt {num den : Nat} {e : Int} (numPositive : 0 < num) (denPositive : 0 < den)
    (upper : (num / den : ℚ) < 2 ^ e) : ratioLog num den < e :=
  (zpow_lt_zpow_iff_right₀ one_lt_two).mp
    ((ratioLog_spec numPositive denPositive).1.trans_lt upper)

theorem le_ratioLog {num den : Nat} {e : Int} (numPositive : 0 < num) (denPositive : 0 < den)
    (lower : (2 : ℚ) ^ e ≤ num / den) : e ≤ ratioLog num den :=
  Int.lt_add_one_iff.mp <| (zpow_lt_zpow_iff_right₀ one_lt_two).mp
    (lower.trans_lt (ratioLog_spec numPositive denPositive).2)

namespace Number

variable {format : Format}

theorem two_pow_width (format : Format) :
    2 ^ format.width = 2 * 2 ^ (format.exponentBits + format.fractionBits) := by
  rw [Format.width, Nat.add_assoc, Nat.pow_add, Nat.pow_one]

/-- The pattern of a number is its magnitude and its sign bit. -/
theorem toNat_bits (x : Number format) :
    x.bits.toNat = x.magnitude +
      if x.isNegative then 2 ^ (format.exponentBits + format.fractionBits) else 0 := by
  have bound : x.bits.toNat < 2 * 2 ^ (format.exponentBits + format.fractionBits) :=
    two_pow_width format ▸ x.bits.isLt
  have sign : x.bits.toNat / 2 ^ (format.exponentBits + format.fractionBits) < 2 :=
    Nat.div_lt_of_lt_mul (by rwa [Nat.mul_comm])
  have division :=
    Nat.div_add_mod x.bits.toNat (2 ^ (format.exponentBits + format.fractionBits))
  have cases : x.bits.toNat / 2 ^ (format.exponentBits + format.fractionBits) = 0 ∨
      x.bits.toNat / 2 ^ (format.exponentBits + format.fractionBits) = 1 := by
    generalize x.bits.toNat / _ = bit at sign
    omega
  unfold magnitude isNegative
  rcases cases with clear | set
  · rw [clear] at division ⊢
    simpa using division.symm
  · rw [set, Nat.mul_one] at division
    rw [set, beq_self_eq_true, if_pos rfl]
    omega

/-- A number is determined by its sign and its magnitude. -/
theorem ofMagnitude_magnitude (x : Number format) :
    ofMagnitude x.isNegative x.magnitude = x := by
  rw [ofMagnitude, ← toNat_bits, BitVec.ofNat_toNat, BitVec.setWidth_eq]

/-- The number of binades of normal numbers below that of a number. -/
def binade (x : Number format) : Nat :=
  x.magnitude / 2 ^ format.fractionBits - 1

theorem exponent_eq (x : Number format) : x.exponent = x.binade + format.leastExponent :=
  rfl

theorem magnitude_eq (x : Number format) :
    x.magnitude = x.binade * 2 ^ format.fractionBits + x.significand := by
  have division := Nat.div_add_mod x.magnitude (2 ^ format.fractionBits)
  have positive : 0 < 2 ^ format.fractionBits := Nat.two_pow_pos _
  unfold binade significand
  by_cases small : x.magnitude < 2 ^ format.fractionBits
  · rw [if_pos small, Nat.div_eq_of_lt small]
    omega
  · have quotient : 0 < x.magnitude / 2 ^ format.fractionBits :=
      Nat.div_pos (by omega) positive
    rw [if_neg small, Nat.sub_mul, Nat.mul_comm (x.magnitude / _)]
    have := Nat.le_mul_of_pos_right (2 ^ format.fractionBits) quotient
    omega

theorem significand_lt (x : Number format) :
    x.significand < 2 ^ (format.fractionBits + 1) := by
  have remainder := Nat.mod_lt x.magnitude (Nat.two_pow_pos format.fractionBits)
  unfold significand
  split <;> omega

theorem le_significand {x : Number format} (normal : 0 < x.binade) :
    2 ^ format.fractionBits ≤ x.significand := by
  have large : ¬x.magnitude < 2 ^ format.fractionBits := by
    intro small
    rw [binade, Nat.div_eq_of_lt small] at normal
    omega
  rw [significand, if_neg large]
  omega

theorem significand_pos {x : Number format} (nonzero : x.magnitude ≠ 0) :
    0 < x.significand := by
  by_cases normal : 0 < x.binade
  · exact (Nat.two_pow_pos _).trans_le (le_significand normal)
  · have := x.magnitude_eq
    rw [Nat.eq_zero_of_not_pos normal] at this
    omega

theorem atBinadeStart_iff (x : Number format) :
    x.atBinadeStart = true ↔ 0 < x.binade ∧ x.significand = 2 ^ format.fractionBits := by
  have positive : 0 < 2 ^ format.fractionBits := Nat.two_pow_pos _
  have normal : 2 * 2 ^ format.fractionBits ≤ x.magnitude ↔ 0 < x.binade := by
    rw [← Nat.le_div_iff_mul_le positive, binade]
    omega
  rw [atBinadeStart, Bool.and_eq_true, beq_iff_eq, decide_eq_true_eq, normal]
  constructor
  · rintro ⟨last, first⟩
    have := normal.mpr first
    rw [significand, if_neg (by omega), last]
    exact ⟨first, Nat.zero_add _⟩
  · rintro ⟨first, last⟩
    have := normal.mpr first
    rw [significand, if_neg (by omega)] at last
    exact ⟨by omega, first⟩

/-- The distance from a number to the end of its interval below, in units of its exponent. -/
def gapBelow (x : Number format) : ℚ :=
  if x.atBinadeStart then 1 / 4 else 1 / 2

/-- Whether a ratio lies in the interval around a number, signs apart. -/
def Admits (x : Number format) (value : ℚ) : Prop :=
  (x.significand - x.gapBelow < value / 2 ^ x.exponent ∧
      value / 2 ^ x.exponent < x.significand + 1 / 2) ∨
    (x.significand % 2 = 0 ∧ x.significand - x.gapBelow ≤ value / 2 ^ x.exponent ∧
      value / 2 ^ x.exponent ≤ x.significand + 1 / 2)

theorem gapBelow_le (x : Number format) : x.gapBelow ≤ 1 / 2 := by
  unfold gapBelow
  split <;> norm_num

theorem Admits.bounds {x : Number format} {value : ℚ} (admits : x.Admits value) :
    x.significand - x.gapBelow ≤ value / 2 ^ x.exponent ∧
      value / 2 ^ x.exponent ≤ x.significand + 1 / 2 := by
  rcases admits with ⟨lower, upper⟩ | ⟨-, lower, upper⟩
  · exact ⟨lower.le, upper.le⟩
  · exact ⟨lower, upper⟩

theorem Admits.pos {x : Number format} {value : ℚ} (nonzero : x.magnitude ≠ 0)
    (admits : x.Admits value) : 0 < value := by
  have one : (1 : ℚ) ≤ x.significand := by exact_mod_cast significand_pos nonzero
  have scaled : 0 < value / 2 ^ x.exponent := by
    linarith [admits.bounds.1, x.gapBelow_le]
  have unit : (0 : ℚ) < 2 ^ x.exponent := by positivity
  exact (div_pos_iff_of_pos_right unit).mp scaled

/-- Rounding at a unit that is already known. -/
theorem ofRatio_of_unit {negative : Bool} {num den m : Nat} {q : Int} (numPositive : 0 < num)
    (denPositive : 0 < den)
    (unit : max format.leastExponent (ratioLog num den - format.fractionBits) = q)
    (nearest : IsNearest ((num : ℚ) / den / 2 ^ q) m) :
    (ofRatio negative num den : Number format) =
      ofMagnitude negative (min
        ((q - format.leastExponent).toNat * 2 ^ format.fractionBits + m) format.infinity) := by
  have rounded : divideToEven (num * 2 ^ (-q).toNat) (den * 2 ^ q.toNat) = m := by
    apply divideToEven_eq (by positivity)
    convert nearest using 1
    rw [zpow_eq_div 2 q]
    push_cast
    field_simp
  unfold ofRatio
  rw [if_neg (by omega)]
  simp only [unit, rounded]

/-- Below the start of a binade numbers are twice as dense, so the unit is halved. -/
theorem ofRatio_of_below {x : Number format} {num den : Nat} (start : x.atBinadeStart = true)
    (numPositive : 0 < num) (denPositive : 0 < den) (admits : x.Admits (num / den))
    (below : (num / den : ℚ) / 2 ^ x.exponent < x.significand) :
    (ofRatio x.isNegative num den : Number format) =
      ofMagnitude x.isNegative (min x.magnitude format.infinity) := by
  obtain ⟨normal, significand⟩ := x.atBinadeStart_iff.mp start
  have gap : x.gapBelow = 1 / 4 := if_pos start
  have lower := admits.bounds.1
  have significandRational : (x.significand : ℚ) = 2 ^ format.fractionBits := by
    exact_mod_cast significand
  have one : (1 : ℚ) ≤ 2 ^ format.fractionBits := one_le_pow₀ one_le_two
  rw [gap, significandRational] at lower
  rw [significandRational] at below
  have unitPositive : (0 : ℚ) < 2 ^ x.exponent := by positivity
  have logarithm : ratioLog num den = x.exponent + format.fractionBits - 1 := by
    apply le_antisymm
    · apply Int.le_sub_one_iff.mpr
      apply ratioLog_lt numPositive denPositive
      rw [zpow_add₀ two_ne_zero, zpow_natCast, mul_comm]
      exact (div_lt_iff₀ unitPositive).mp below
    · apply le_ratioLog numPositive denPositive
      rw [zpow_sub_one₀ two_ne_zero, zpow_add₀ two_ne_zero, zpow_natCast]
      rw [le_div_iff₀ unitPositive] at lower
      apply lower.trans'
      nlinarith
  have unit : max format.leastExponent (ratioLog num den - format.fractionBits) =
      x.exponent - 1 := by
    rw [logarithm, exponent_eq]
    omega
  have halved : (num / den : ℚ) / 2 ^ (x.exponent - 1) =
      2 * ((num / den : ℚ) / 2 ^ x.exponent) := by
    rw [zpow_sub_one₀ two_ne_zero]
    field_simp
  have nearest : IsNearest ((num / den : ℚ) / 2 ^ (x.exponent - 1))
      (2 * 2 ^ format.fractionBits) := by
    right
    rw [halved]
    push_cast
    exact ⟨by omega, by linarith, by linarith⟩
  have steps : (x.exponent - 1 - format.leastExponent).toNat * 2 ^ format.fractionBits +
      2 * 2 ^ format.fractionBits = x.magnitude := by
    have binades : (x.exponent - 1 - format.leastExponent).toNat + 1 = x.binade := by
      rw [exponent_eq]
      omega
    rw [x.magnitude_eq, significand, ← binades]
    ring
  rw [ofRatio_of_unit numPositive denPositive unit nearest, steps]

/-- Above the start of a binade the number's own unit decides. -/
theorem Admits.isNearest {x : Number format} {ratio : ℚ} (admits : x.Admits ratio)
    (level : x.atBinadeStart = true → x.significand ≤ ratio / 2 ^ x.exponent) :
    IsNearest (ratio / 2 ^ x.exponent) x.significand := by
  by_cases start : x.atBinadeStart = true
  · have above := level start
    rcases admits with ⟨-, upper⟩ | ⟨even, -, upper⟩
    · exact .inl ⟨by linarith, upper⟩
    · exact .inr ⟨even, by linarith, upper⟩
  · have gap : x.gapBelow = 1 / 2 := if_neg start
    rw [Admits, gap] at admits
    exact admits

/-- The binade of a ratio that rounds to a number is at most that of the number. -/
theorem Admits.ratioLog_le {x : Number format} {num den : Nat} (numPositive : 0 < num)
    (denPositive : 0 < den) (admits : x.Admits (num / den)) :
    ratioLog num den ≤ x.exponent + format.fractionBits := by
  have unitPositive : (0 : ℚ) < 2 ^ x.exponent := by positivity
  have upper := admits.bounds.2
  have significandBound : (x.significand : ℚ) + 1 ≤ 2 ^ (format.fractionBits + 1) := by
    exact_mod_cast x.significand_lt
  have below : ratioLog num den < x.exponent + (format.fractionBits + 1 : Nat) := by
    apply ratioLog_lt numPositive denPositive
    rw [zpow_add₀ two_ne_zero, zpow_natCast, mul_comm, ← div_lt_iff₀ unitPositive]
    linarith
  push_cast at below
  omega

/-- The binade of a ratio that rounds to a normal number is that of the number, save below the
start of the binade. -/
theorem Admits.le_ratioLog {x : Number format} {num den : Nat} (numPositive : 0 < num)
    (denPositive : 0 < den) (admits : x.Admits (num / den)) (normal : 0 < x.binade)
    (level : x.atBinadeStart = true → x.significand ≤ (num / den : ℚ) / 2 ^ x.exponent) :
    x.exponent + format.fractionBits ≤ ratioLog num den := by
  have unitPositive : (0 : ℚ) < 2 ^ x.exponent := by positivity
  have significandBound : 2 ^ format.fractionBits ≤ x.significand := le_significand normal
  apply Binary.le_ratioLog numPositive denPositive
  rw [zpow_add₀ two_ne_zero, zpow_natCast, mul_comm, ← le_div_iff₀ unitPositive]
  by_cases start : x.atBinadeStart = true
  · have : (2 ^ format.fractionBits : ℚ) ≤ x.significand := by
      exact_mod_cast significandBound
    exact this.trans (level start)
  · have apart : x.significand ≠ 2 ^ format.fractionBits := fun equal =>
      start (x.atBinadeStart_iff.mpr ⟨normal, equal⟩)
    have next : (2 ^ format.fractionBits : ℚ) + 1 ≤ x.significand := by
      exact_mod_cast lt_of_le_of_ne significandBound (Ne.symm apart)
    linarith [admits.bounds.1, x.gapBelow_le]

/-- Everywhere else the unit is the number's own. -/
theorem ofRatio_of_level {x : Number format} {num den : Nat}
    (numPositive : 0 < num) (denPositive : 0 < den) (admits : x.Admits (num / den))
    (level : x.atBinadeStart = true → x.significand ≤ (num / den : ℚ) / 2 ^ x.exponent) :
    (ofRatio x.isNegative num den : Number format) =
      ofMagnitude x.isNegative (min x.magnitude format.infinity) := by
  have unit : max format.leastExponent (ratioLog num den - format.fractionBits) =
      x.exponent := by
    have position := x.exponent_eq
    have atMost := admits.ratioLog_le numPositive denPositive
    by_cases normal : 0 < x.binade
    · have atLeast := admits.le_ratioLog numPositive denPositive normal level
      omega
    · omega
  have steps : (x.exponent - format.leastExponent).toNat * 2 ^ format.fractionBits +
      x.significand = x.magnitude := by
    have binades : (x.exponent - format.leastExponent).toNat = x.binade := by
      rw [exponent_eq]
      omega
    rw [x.magnitude_eq, binades]
  rw [ofRatio_of_unit numPositive denPositive unit (admits.isNearest level), steps]

/-- Any ratio in the interval around a finite number rounds to the number. -/
theorem ofRatio_eq {x : Number format} {num den : Nat} (finite : x.isFinite = true)
    (nonzero : x.magnitude ≠ 0) (denPositive : 0 < den) (admits : x.Admits (num / den)) :
    ofRatio x.isNegative num den = x := by
  have denRational : (0 : ℚ) < den := by exact_mod_cast denPositive
  have numPositive : 0 < num := by
    exact_mod_cast (div_pos_iff_of_pos_right denRational).mp (admits.pos nonzero)
  have bounded : min x.magnitude format.infinity = x.magnitude :=
    min_eq_left (decide_eq_true_eq.mp finite).le
  have rounded : (ofRatio x.isNegative num den : Number format) =
      ofMagnitude x.isNegative (min x.magnitude format.infinity) := by
    by_cases below : x.atBinadeStart = true ∧
        (num / den : ℚ) / 2 ^ x.exponent < x.significand
    · exact ofRatio_of_below below.1 numPositive denPositive admits below.2
    · exact ofRatio_of_level numPositive denPositive admits fun start =>
        not_lt.mp fun less => below ⟨start, less⟩
  rw [rounded, bounded, ofMagnitude_magnitude]

end Number

end TableStore.Binary
