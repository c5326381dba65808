import TableStore.Proofs.Decimal.Length
import TableStore.Proofs.Decimal.Midpoint
import TableStore.Proofs.Decimal.Nearest

/-!
# Decimals of singles and their midpoints

The shortest decimal of a single may lie anywhere in the interval that rounds to it. Where the
interval ends, at the midpoint to a neighbour, an error of two roundings to 53 bits could carry it
across. On a grid finer than the unit of the single the decimal is too near to the single for that.
On a coarser grid only few decimals lie in the range of singles, and none but one of them comes so
close to a midpoint without meeting it: that is settled grid by grid. Where a midpoint is met, the
decimal has few places in binary.
-/

namespace TableStore.Decimal

open TableStore.Binary Midpoints

-- Powers are those of the core library, whatever else is imported.
attribute [local instance (high)] instPowNat

/-! ## Coarse grids -/

/-- The first power of ten that is not below a power of two: 30103/100000 is slightly more than the
decimal logarithm of two. -/
def coarseGrid (q : Int) : Int :=
  -(-q * 30103 / 100000)

/-- The first coarse grid against the midpoints of singles of a unit; what is closer than the error
of two roundings counts as close. -/
def midpointsAt (q : Int) : Midpoints :=
  let half := 5 ^ (-coarseGrid q).toNat * 2 ^ (q - 1 - coarseGrid q).toNat
  { step := 5 ^ (coarseGrid q).toNat * 2 ^ (coarseGrid q - q + 1).toNat
    half := half
    margin := half / 2 ^ 27 }

/-- The multiples of a coarse grid among the singles of a unit; at the smallest unit there are
singles down to zero. -/
def leastCount (q : Int) : Nat :=
  if q = -149 then 0 else (2 ^ 24 - 1) * (midpointsAt q).half / (midpointsAt q).step

def greatestCount (q : Int) : Nat :=
  2 ^ 25 * (midpointsAt q).half / (midpointsAt q).step

/-- The unit and the count of the one decimal that comes close to a midpoint. -/
def exceptionalUnit : Int := -107

def exceptionalCount : Nat := 7038531

/-- Whether the multiples of a coarse grid are shown to keep away from the midpoints, unless they
are too few places apart to come close. -/
def isClear (q : Int) : Bool :=
  (midpointsAt q).half < 2 ^ 27 ||
    if q = exceptionalUnit then
      (midpointsAt q).clears 24 (leastCount q) (exceptionalCount - 1) &&
        (midpointsAt q).clears 24 (exceptionalCount + 1) (greatestCount q)
    else (midpointsAt q).clears 24 (leastCount q) (greatestCount q)

/-- Whether a power of two is the unit of finite singles. -/
def IsSingleUnit (q : Int) : Prop :=
  -149 ≤ q ∧ q ≤ 104

/-- What holds of every unit, counted from the smallest, holds of a unit. -/
theorem IsSingleUnit.of_all {P : Int → Prop} {q : Int} (unit : IsSingleUnit q)
    (all : ∀ i < 254, P ((i : Nat) - 149)) : P q := by
  obtain ⟨lowest, highest⟩ := unit
  have counted := all (q + 149).toNat (by omega)
  rwa [Int.toNat_of_nonneg (by omega), Int.add_sub_cancel] at counted

theorem IsSingleUnit.isClear {q : Int} (unit : IsSingleUnit q) : isClear q = true := by
  apply unit.of_all
  decide +kernel

/-- The coarse grid is not much coarser than ten units. -/
theorem IsSingleUnit.step_add_le {q : Int} (unit : IsSingleUnit q) :
    (midpointsAt q).step * 2 ^ 27 + 20 * (midpointsAt q).half ≤
      20 * (midpointsAt q).half * 2 ^ 27 := by
  apply unit.of_all
  decide +kernel

/-- Midpoints of few places belong to units of moderate size. -/
theorem IsSingleUnit.moderate {q : Int} (unit : IsSingleUnit q) :
    (midpointsAt q).half < 2 ^ 27 → -22 ≤ coarseGrid q ∧ q ≤ 50 := by
  apply unit.of_all
  decide +kernel

theorem midpointsAt_half_pos (q : Int) : 0 < (midpointsAt q).half :=
  Nat.mul_pos (Nat.pow_pos (by decide)) (Nat.two_pow_pos _)

theorem midpointsAt_step_pos (q : Int) : 0 < (midpointsAt q).step :=
  Nat.mul_pos (Nat.pow_pos (by decide)) (Nat.two_pow_pos _)

variable {q : Int} {count odd : Nat}

/-- Whether a multiple of the coarse grid is among the singles of a unit and is not the one that
comes close to a midpoint. -/
structure IsAmongSingles (q : Int) (count : Nat) : Prop where
  unit : IsSingleUnit q
  lower : q = -149 ∨ (2 ^ 24 - 1) * (midpointsAt q).half ≤ count * (midpointsAt q).step
  upper : count * (midpointsAt q).step ≤ 2 ^ 25 * (midpointsAt q).half
  ordinary : ¬(q = exceptionalUnit ∧ count = exceptionalCount)

theorem IsAmongSingles.not_isMet (among : IsAmongSingles q count)
    (many : ¬(midpointsAt q).half < 2 ^ 27) : ¬(midpointsAt q).IsMet count := by
  have least : leastCount q ≤ count := by
    unfold leastCount
    split
    · exact Nat.zero_le _
    · rename_i normal
      exact Nat.div_le_of_le_mul
        ((among.lower.resolve_left normal).trans_eq (Nat.mul_comm count _))
  have greatest : count ≤ greatestCount q :=
    (Nat.le_div_iff_mul_le (midpointsAt_step_pos q)).mpr among.upper
  have clear := among.unit.isClear
  unfold isClear at clear
  rw [Bool.or_eq_true, decide_eq_true_eq] at clear
  have cleared := clear.resolve_left many
  split at cleared
  · rename_i unit
    rw [Bool.and_eq_true] at cleared
    rcases Nat.lt_or_gt_of_ne fun same => among.ordinary ⟨unit, same⟩ with below | above
    · exact not_isMet_of_clears (midpointsAt_half_pos q) cleared.1 least
        (Nat.le_sub_one_of_lt below)
    · exact not_isMet_of_clears (midpointsAt_half_pos q) cleared.2 above greatest
  · exact not_isMet_of_clears (midpointsAt_half_pos q) cleared least greatest

/-- The multiples of a coarse grid meet a midpoint of few places or keep away from all of them. -/
theorem IsAmongSingles.meets_or_apart (among : IsAmongSingles q count) (parity : odd % 2 = 1) :
    ((midpointsAt q).half < 2 ^ 27 ∧
        count * (midpointsAt q).step = odd * (midpointsAt q).half) ∨
      ((midpointsAt q).half : Int) <
        2 ^ 27 * |(count * (midpointsAt q).step - odd * (midpointsAt q).half : Int)| := by
  by_cases few : (midpointsAt q).half < 2 ^ 27
  · by_cases meets : count * (midpointsAt q).step = odd * (midpointsAt q).half
    · exact .inl ⟨few, meets⟩
    · right
      have apart : (count * (midpointsAt q).step - odd * (midpointsAt q).half : Int) ≠ 0 := by
        rw [sub_ne_zero]
        exact_mod_cast meets
      have one := Int.one_le_abs apart
      omega
  · right
    have notMet := among.not_isMet few
    have apart : ((midpointsAt q).margin : Int) <
        |(count * (midpointsAt q).step - odd * (midpointsAt q).half : Int)| :=
      not_le.mp fun close => notMet ⟨odd, parity, close⟩
    have margin : (midpointsAt q).margin = (midpointsAt q).half / 2 ^ 27 := rfl
    omega

/-! ## The shortest decimals of singles -/

theorem step_div_half (q : Int) :
    ((midpointsAt q).step : ℚ) / (midpointsAt q).half = 10 ^ coarseGrid q / 2 ^ (q - 1) := by
  have tens : (10 : ℚ) ^ coarseGrid q = 5 ^ coarseGrid q * 2 ^ coarseGrid q := by
    rw [← mul_zpow]
    norm_num
  have twos : (2 : ℚ) ^ coarseGrid q / 2 ^ (q - 1) = 2 ^ (coarseGrid q - q + 1) := by
    rw [← zpow_sub₀ two_ne_zero]
    congr 1
    ring
  rw [tens, mul_div_assoc, twos, zpow_eq_div 5, zpow_eq_div 2, midpointsAt,
    show -(coarseGrid q - q + 1) = q - 1 - coarseGrid q by ring]
  push_cast
  exact (div_mul_div_comm _ _ _ _).symm

theorem ten_zpow_coarseGrid (q : Int) :
    (10 : ℚ) ^ coarseGrid q = (midpointsAt q).step / (midpointsAt q).half * 2 ^ (q - 1) := by
  have unit : (2 : ℚ) ^ (q - 1) ≠ 0 := by positivity
  rw [step_div_half, div_mul_cancel₀ _ unit]

theorem two_zpow_eq (q : Int) : (2 : ℚ) ^ q = 2 ^ (q - 1) * 2 := by
  rw [← zpow_add_one₀ two_ne_zero, sub_add_cancel]

/-- A decimal on a grid below the first coarse one is too near to its number to come close to a
midpoint. -/
theorem IsSingleUnit.half_grid_le {k : Int} (unit : IsSingleUnit q) (fine : k < coarseGrid q) :
    (10 : ℚ) ^ k / 2 ≤ (1 / 2 - 1 / 2 ^ 28) * 2 ^ q := by
  have halfPositive : (0 : ℚ) < (midpointsAt q).half := by exact_mod_cast midpointsAt_half_pos q
  have room : ((midpointsAt q).step : ℚ) * 2 ^ 27 + 20 * (midpointsAt q).half ≤
      20 * (midpointsAt q).half * 2 ^ 27 := by
    exact_mod_cast unit.step_add_le
  have next : (10 : ℚ) ^ (k + 1) ≤ 10 ^ coarseGrid q := zpow_le_zpow_right₀ (by norm_num) fine
  rw [zpow_add_one₀ (by norm_num)] at next
  have coarse : (10 : ℚ) ^ coarseGrid q ≤ (20 - 20 / 2 ^ 27) * 2 ^ (q - 1) := by
    rw [ten_zpow_coarseGrid]
    gcongr
    rw [div_le_iff₀ halfPositive]
    linarith
  rw [two_zpow_eq]
  linarith

/-- The multiples of a coarse grid among the singles of a unit are midpoints of few places or
keep away from them. -/
theorem IsAmongSingles.midpoint_or_apart (among : IsAmongSingles q count)
    (parity : odd % 2 = 1) :
    ((midpointsAt q).half < 2 ^ 27 ∧ (count * 10 ^ coarseGrid q : ℚ) = odd * 2 ^ (q - 1)) ∨
      2 ^ q / 2 ^ 28 < |(count * 10 ^ coarseGrid q : ℚ) - odd * 2 ^ (q - 1)| := by
  have halfPositive : (0 : ℚ) < (midpointsAt q).half := by exact_mod_cast midpointsAt_half_pos q
  have unit : (0 : ℚ) < 2 ^ (q - 1) := by positivity
  have distance : (count * 10 ^ coarseGrid q : ℚ) - odd * 2 ^ (q - 1) =
      (count * (midpointsAt q).step - odd * (midpointsAt q).half) / (midpointsAt q).half *
        2 ^ (q - 1) := by
    rw [ten_zpow_coarseGrid]
    field_simp
  rcases among.meets_or_apart parity with ⟨few, meets⟩ | apart
  · have zero : (count * (midpointsAt q).step - odd * (midpointsAt q).half : ℚ) = 0 := by
      rw [sub_eq_zero]
      exact_mod_cast meets
    rw [zero, zero_div, zero_mul, sub_eq_zero] at distance
    exact .inl ⟨few, distance⟩
  · right
    have apartRational : ((midpointsAt q).half : ℚ) <
        2 ^ 27 * |(count * (midpointsAt q).step - odd * (midpointsAt q).half : ℚ)| := by
      exact_mod_cast apart
    rw [distance, abs_mul, abs_of_pos unit, abs_div, abs_of_pos halfPositive, two_zpow_eq]
    calc (2 : ℚ) ^ (q - 1) * 2 / 2 ^ 28 = 1 / 2 ^ 27 * 2 ^ (q - 1) := by ring
      _ < |(count * (midpointsAt q).step - odd * (midpointsAt q).half : ℚ)| /
            (midpointsAt q).half * 2 ^ (q - 1) := by
          apply mul_lt_mul_of_pos_right _ unit
          rw [lt_div_iff₀ halfPositive]
          linarith

theorem count_le_iff :
    (count * 10 ^ coarseGrid q : ℚ) ≤ odd * 2 ^ (q - 1) ↔
      count * (midpointsAt q).step ≤ odd * (midpointsAt q).half := by
  have halfPositive : (0 : ℚ) < (midpointsAt q).half := by exact_mod_cast midpointsAt_half_pos q
  have unit : (0 : ℚ) < 2 ^ (q - 1) := by positivity
  rw [ten_zpow_coarseGrid, ← mul_assoc, mul_le_mul_iff_left₀ unit, ← mul_div_assoc,
    div_le_iff₀ halfPositive]
  exact_mod_cast Iff.rfl

theorem le_count_iff :
    (odd * 2 ^ (q - 1) : ℚ) ≤ count * 10 ^ coarseGrid q ↔
      odd * (midpointsAt q).half ≤ count * (midpointsAt q).step := by
  have halfPositive : (0 : ℚ) < (midpointsAt q).half := by exact_mod_cast midpointsAt_half_pos q
  have unit : (0 : ℚ) < 2 ^ (q - 1) := by positivity
  rw [ten_zpow_coarseGrid, ← mul_assoc, mul_le_mul_iff_left₀ unit, ← mul_div_assoc,
    le_div_iff₀ halfPositive]
  exact_mod_cast Iff.rfl

/-! ## Singles -/

section Single

variable {x : Single}

/-- The singles at whose midpoint the exceptional decimal lies, sign apart. -/
def exceptionalMagnitudes : List Nat :=
  [0x15ae43fd, 0x15ae43fe]

theorem isSingleUnit_exponent (finite : x.isFinite = true) : IsSingleUnit x.exponent := by
  have below : x.magnitude < 255 * 2 ^ 23 := decide_eq_true_eq.mp finite
  have binade : x.binade = x.magnitude / 2 ^ 23 - 1 := rfl
  have exponent : x.exponent = x.binade - 149 := x.exponent_eq
  unfold IsSingleUnit
  omega

/-- The singles at which the exceptional decimal is read are known. -/
theorem not_exceptional {c : Nat} (ordinary : x.magnitude ∉ exceptionalMagnitudes)
    (lower : (2 * x.significand - 1) * (midpointsAt x.exponent).half ≤
      c * (midpointsAt x.exponent).step)
    (upper : c * (midpointsAt x.exponent).step ≤
      (2 * x.significand + 1) * (midpointsAt x.exponent).half) :
    ¬(x.exponent = exceptionalUnit ∧ c = exceptionalCount) := by
  rintro ⟨unit, rfl⟩
  have half : (midpointsAt exceptionalUnit).half = 5 ^ 32 := by decide +kernel
  have step : (midpointsAt exceptionalUnit).step = 2 ^ 76 := by decide +kernel
  rw [unit, half, step, exceptionalCount] at lower upper
  have level : x.magnitude = x.binade * 2 ^ 23 + x.significand := x.magnitude_eq
  have exponent : x.exponent = x.binade - 149 := x.exponent_eq
  rw [unit, exceptionalUnit] at exponent
  simp only [exceptionalMagnitudes, List.mem_cons, List.not_mem_nil, or_false, not_or] at ordinary
  omega

/-- Between the midpoints around a single, a multiple of the coarse grid is among the singles of its
unit. -/
theorem isAmongSingles (finite : x.isFinite = true)
    (ordinary : x.magnitude ∉ exceptionalMagnitudes)
    (lower : (2 * x.significand - 1) * (midpointsAt x.exponent).half ≤
      count * (midpointsAt x.exponent).step)
    (upper : count * (midpointsAt x.exponent).step ≤
      (2 * x.significand + 1) * (midpointsAt x.exponent).half) :
    IsAmongSingles x.exponent count := by
  have exponent : x.exponent = x.binade - 149 := x.exponent_eq
  have significand : x.significand < 2 ^ 24 := x.significand_lt
  refine ⟨isSingleUnit_exponent finite, ?_, upper.trans (Nat.mul_le_mul_right _ (by omega)),
    not_exceptional ordinary lower upper⟩
  rcases Nat.eq_zero_or_pos x.binade with subnormal | normal
  · left
    omega
  · right
    have least : 2 ^ 23 ≤ x.significand := Number.le_significand normal
    exact (Nat.mul_le_mul_right _ (by omega)).trans lower

/-- A multiple of the coarse grid between the midpoints around a single keeps away from them, or is
one of them and has few places. -/
theorem coarse_single (finite : x.isFinite = true) (nonzero : x.magnitude ≠ 0)
    (ordinary : x.magnitude ∉ exceptionalMagnitudes) {count : Nat}
    (lower : (x.significand - 1 / 2 : ℚ) * 2 ^ x.exponent ≤ count * 10 ^ coarseGrid x.exponent)
    (upper : (count * 10 ^ coarseGrid x.exponent : ℚ) ≤
      (x.significand + 1 / 2) * 2 ^ x.exponent) :
    |(count * 10 ^ coarseGrid x.exponent : ℚ) - x.significand * 2 ^ x.exponent| ≤
        (1 / 2 - 1 / 2 ^ 28) * 2 ^ x.exponent ∨
      (midpointsAt x.exponent).half < 2 ^ 27 ∧ ∃ odd < 2 ^ 25,
        (count * 10 ^ coarseGrid x.exponent : ℚ) = (odd : Nat) * 2 ^ (x.exponent - 1) := by
  have significand : x.significand < 2 ^ 24 := x.significand_lt
  have significandPositive := Number.significand_pos nonzero
  have before : ((2 * x.significand - 1 : Nat) : ℚ) = 2 * x.significand - 1 := by
    rw [Nat.cast_sub (by omega)]
    push_cast
    rfl
  have after : ((2 * x.significand + 1 : Nat) : ℚ) = 2 * x.significand + 1 := by
    push_cast
    rfl
  rw [two_zpow_eq] at lower upper ⊢
  have countLower : (2 * x.significand - 1) * (midpointsAt x.exponent).half ≤
      count * (midpointsAt x.exponent).step :=
    le_count_iff.mp (by rw [before]; linarith)
  have countUpper : count * (midpointsAt x.exponent).step ≤
      (2 * x.significand + 1) * (midpointsAt x.exponent).half :=
    count_le_iff.mp (by rw [after]; linarith)
  have among := isAmongSingles finite ordinary countLower countUpper
  rcases among.midpoint_or_apart (show (2 * x.significand - 1) % 2 = 1 by omega) with
    ⟨few, meets⟩ | apartBelow
  · exact .inr ⟨few, _, by omega, meets⟩
  rcases among.midpoint_or_apart (show (2 * x.significand + 1) % 2 = 1 by omega) with
    ⟨few, meets⟩ | apartAbove
  · exact .inr ⟨few, _, by omega, meets⟩
  left
  rw [before, abs_of_nonneg (by linarith), two_zpow_eq] at apartBelow
  rw [after, abs_of_nonpos (by linarith), two_zpow_eq] at apartAbove
  rw [abs_le]
  constructor
  · linarith
  · linarith

/-- A single of moderate size has no decimal on a very coarse grid. -/
theorem exponent_le_of_moderate {c : Nat} {e : Int} (positive : 0 < c)
    (moderate : x.exponent ≤ 50)
    (upper : (c * 10 ^ e : ℚ) ≤ (x.significand + 1 / 2) * 2 ^ x.exponent) : e ≤ 22 := by
  by_contra coarse
  have significand : (x.significand : ℚ) + 1 ≤ 2 ^ 24 := by
    exact_mod_cast x.significand_lt
  have one : (1 : ℚ) ≤ c := by exact_mod_cast positive
  have tooLarge : (10 : ℚ) ^ (23 : Int) < 10 ^ (23 : Int) :=
    calc (10 : ℚ) ^ (23 : Int) ≤ 10 ^ e := zpow_le_zpow_right₀ (by norm_num) (by omega)
      _ ≤ c * 10 ^ e := le_mul_of_one_le_left (by positivity) one
      _ ≤ (x.significand + 1 / 2) * 2 ^ x.exponent := upper
      _ ≤ 2 ^ 24 * 2 ^ (50 : Int) := by
          gcongr
          · linarith
          · exact one_le_two
      _ < 10 ^ (23 : Int) := by norm_num
  exact lt_irrefl _ tooLarge

/-- The shortest decimal of a single in the middle of a binade keeps away from the midpoints around
the single, or is such a midpoint and has few places. -/
theorem shortest_single (finite : x.isFinite = true) (nonzero : x.magnitude ≠ 0)
    (inside : x.atBinadeStart = false) (ordinary : x.magnitude ∉ exceptionalMagnitudes) :
    |((shortest .toEven x).coefficient * 10 ^ (shortest .toEven x).exponent : ℚ) -
        x.significand * 2 ^ x.exponent| ≤ (1 / 2 - 1 / 2 ^ 28) * 2 ^ x.exponent ∨
      (shortest .toEven x).exponent.natAbs ≤ 22 ∧ ∃ odd < 2 ^ 25,
        ((shortest .toEven x).coefficient * 10 ^ (shortest .toEven x).exponent : ℚ) =
          (odd : Nat) * 2 ^ (x.exponent - 1) := by
  have unit := isSingleUnit_exponent finite
  have near := abs_shortest_sub_le .toEven searchable_single finite nonzero inside
  obtain ⟨lower, upper⟩ := (admits_shortest .toEven searchable_single finite nonzero).bounds
  have positive := coefficient_shortest_pos .toEven searchable_single finite nonzero
  have unitPositive : (0 : ℚ) < 2 ^ x.exponent := by positivity
  have gap : x.gapBelow = 1 / 2 := if_neg (ne_true_of_eq_false inside)
  rw [gap, le_div_iff₀ unitPositive] at lower
  rw [div_le_iff₀ unitPositive] at upper
  generalize shortest .toEven x = scaled at near lower upper positive ⊢
  rcases Int.lt_or_le scaled.exponent (coarseGrid x.exponent) with fine | coarse
  · exact .inl (near.trans (unit.half_grid_le fine))
  · obtain ⟨zeros, shift⟩ := Int.eq_ofNat_of_zero_le (Int.sub_nonneg.mpr coarse)
    have counted : (scaled.coefficient * 10 ^ scaled.exponent : ℚ) =
        (scaled.coefficient * 10 ^ zeros : Nat) * 10 ^ coarseGrid x.exponent := by
      rw [show scaled.exponent = zeros + coarseGrid x.exponent by omega,
        zpow_add₀ (by norm_num), zpow_natCast]
      push_cast
      ring
    rw [counted] at lower ⊢
    rcases coarse_single finite nonzero ordinary lower (counted ▸ upper) with away | ⟨few, meets⟩
    · exact .inl away
    · obtain ⟨coarsest, moderate⟩ := unit.moderate few
      have small := exponent_le_of_moderate positive moderate upper
      exact .inr ⟨by omega, meets⟩

end Single

end TableStore.Decimal
