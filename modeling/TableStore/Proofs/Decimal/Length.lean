import TableStore.Decimal.Shortest
import TableStore.Proofs.Decimal.Shortest

/-!
# How long a shortest decimal is

The search stops on the coarsest grid that has a point to choose. If that is the first grid, the
number is not far above a power of ten. Otherwise the grid before had no point in the interval, so
it was at least as coarse as half a unit, and on the grid that is ten times finer the number has at
most twenty times as many steps as its significand.

Either way the steps are counted within 64 bits, and the exponent is of the size of the exponents
of the format.
-/

namespace TableStore.Decimal

open TableStore.Binary

-- Powers are those of the core library, whatever else is imported.
attribute [local instance (high)] instPowNat

/-- The search ends on one of the tried grids, and on the first unless the grid before had nothing
to choose. -/
theorem exponent_searchGrids (tie : Tie) (interval : Interval) (tries : Nat) (k : Int) :
    (searchGrids tie interval tries k).exponent ≤ k ∧
      k - tries ≤ (searchGrids tie interval tries k).exponent ∧
      ((searchGrids tie interval tries k).exponent = k ∨
        (interval.scaleDown ((searchGrids tie interval tries k).exponent + 1)).nearest? tie =
          none) := by
  induction tries generalizing k with
  | zero => simp [searchGrids]
  | succ tries ih =>
      cases chosen : (interval.scaleDown k).nearest? tie with
      | some n =>
          simp only [searchGrids, chosen]
          exact ⟨le_rfl, by omega, .inl trivial⟩
      | none =>
          obtain ⟨upper, lower, coarser⟩ := ih (k - 1)
          simp only [searchGrids, chosen]
          refine ⟨by omega, by omega, .inr ?_⟩
          rcases coarser with next | further
          · rwa [next, sub_add_cancel]
          · exact further

/-- Two comparisons of powers of two and ten, by the thirteenth power of two below the fourth of
ten and by the tenth power of two above the third of ten. -/
theorem two_zpow_le_ten_zpow {j k : Int} (large : 0 ≤ j → 4 * j ≤ 13 * k)
    (small : j < 0 → 3 * j ≤ 10 * k) : (2 : ℚ) ^ j ≤ 10 ^ k := by
  by_cases negative : j < 0
  · have tenths : ((2 : ℚ) ^ j) ^ 10 ≤ ((10 : ℚ) ^ k) ^ 10 := by
      calc ((2 : ℚ) ^ j) ^ 10 = 1024 ^ j := by
            rw [← zpow_natCast, zpow_comm]
            norm_num
        _ ≤ 1000 ^ j := by
            obtain ⟨n, rfl⟩ : ∃ n : Nat, j = -n := ⟨j.natAbs, by omega⟩
            rw [zpow_neg, zpow_neg, zpow_natCast, zpow_natCast]
            gcongr
            norm_num
        _ = 10 ^ (3 * j) := by
            rw [zpow_mul]
            norm_num
        _ ≤ 10 ^ (10 * k) := zpow_le_zpow_right₀ (by norm_num) (small negative)
        _ = ((10 : ℚ) ^ k) ^ 10 := by
            rw [← zpow_natCast, ← zpow_mul, mul_comm]
            rfl
    exact le_of_pow_le_pow_left₀ (by norm_num) (by positivity) tenths
  · have thirteenths : ((2 : ℚ) ^ j) ^ 13 ≤ ((10 : ℚ) ^ k) ^ 13 := by
      calc ((2 : ℚ) ^ j) ^ 13 = 8192 ^ j := by
            rw [← zpow_natCast, zpow_comm]
            norm_num
        _ ≤ 10000 ^ j := by
            obtain ⟨n, rfl⟩ : ∃ n : Nat, j = n := ⟨j.natAbs, by omega⟩
            rw [zpow_natCast, zpow_natCast]
            gcongr
            norm_num
        _ = 10 ^ (4 * j) := by
            rw [zpow_mul]
            norm_num
        _ ≤ 10 ^ (13 * k) := zpow_le_zpow_right₀ (by norm_num) (large (by omega))
        _ = ((10 : ℚ) ^ k) ^ 13 := by
            rw [← zpow_natCast, ← zpow_mul, mul_comm]
            rfl
    exact le_of_pow_le_pow_left₀ (by norm_num) (by positivity) thirteenths

/-- Whether the shortest decimals of a format fit in 64 bits: the search reaches every number, and
significands are those of 64 bits at most. -/
structure FitsWord (format : Format) : Prop where
  searchable : Searchable format
  fraction : format.fractionBits ≤ 52

theorem fitsWord_single : FitsWord .single :=
  ⟨searchable_single, by decide⟩

theorem fitsWord_double : FitsWord .double :=
  ⟨searchable_double, by decide⟩

variable {format : Format} {x : Number format}

/-- The exponents of a format whose decimals fit in 64 bits are small. -/
theorem FitsWord.exponent_bounds (fits : FitsWord format) (finite : x.isFinite = true) :
    -1140 < x.exponent ∧ x.exponent + format.fractionBits < 1090 := by
  obtain ⟨searchable, fraction⟩ := fits
  have exponents := Decimal.exponent_bounds finite
  unfold Searchable at searchable
  generalize 2 ^ (format.exponentBits - 1) = half at searchable exponents
  omega

/-- Exponents of shortest decimals are small. -/
theorem FitsWord.exponent_shortest (tie : Tie) (fits : FitsWord format) (finite : x.isFinite = true) :
    (shortest tie x).exponent.natAbs < 1000 := by
  have exponents := fits.exponent_bounds finite
  have fraction := fits.fraction
  have bits := log2_significand_le x
  obtain ⟨upper, lower, -⟩ := exponent_searchGrids tie (roundingInterval x)
    (format.fractionBits + 4) (leadingGrid x)
  rw [← shortest] at upper lower
  unfold leadingGrid at upper lower
  omega

/-- A number is less than eight digits above the first grid. -/
theorem FitsWord.significand_le_leadingGrid (fits : FitsWord format)
    (finite : x.isFinite = true) :
    (x.significand + 1 / 2 : ℚ) * 2 ^ x.exponent ≤ 10 ^ (leadingGrid x + 8) := by
  have exponents := fits.exponent_bounds finite
  have bits := log2_significand_le x
  have significand : (x.significand : ℚ) + 1 ≤ 2 ^ (x.significand.log2 + 1) := by
    exact_mod_cast Nat.lt_log2_self
  calc (x.significand + 1 / 2 : ℚ) * 2 ^ x.exponent
      ≤ 2 ^ (x.significand.log2 + 1) * 2 ^ x.exponent := by
        gcongr
        linarith
    _ = 2 ^ ((x.significand.log2 + 1 : Nat) + x.exponent) := by
        rw [zpow_add₀ two_ne_zero, zpow_natCast]
    _ ≤ 10 ^ (leadingGrid x + 8) := by
        unfold leadingGrid
        apply two_zpow_le_ten_zpow
        · intro positive
          push_cast at *
          omega
        · intro negative
          push_cast at *
          omega

/-- A grid without a point in the interval of a number is at least as coarse as half a unit. -/
theorem half_unit_le {tie : Tie} {k : Int} (nonzero : x.magnitude ≠ 0)
    (nothing : ((roundingInterval x).scaleDown k).nearest? tie = none) :
    (2 : ℚ) ^ (x.exponent - 1) ≤ 10 ^ k := by
  by_contra fine
  exact Interval.nearest?_ne_none (admits_above nonzero (not_le.mp fine)) nothing

/-- The shortest decimal of a number has at most eight digits, or twenty times as many steps as a
significand may have units. -/
theorem FitsWord.coefficient_le (tie : Tie) (fits : FitsWord format) (finite : x.isFinite = true)
    (nonzero : x.magnitude ≠ 0) :
    (shortest tie x).coefficient ≤ max (10 ^ 8) (20 * 2 ^ (format.fractionBits + 1)) := by
  obtain ⟨-, -, coarser⟩ := exponent_searchGrids tie (roundingInterval x)
    (format.fractionBits + 4) (leadingGrid x)
  rw [← shortest] at coarser
  have unit : (0 : ℚ) < 2 ^ x.exponent := by positivity
  have upper := (admits_shortest tie fits.searchable finite nonzero).bounds.2
  rw [div_le_iff₀ unit] at upper
  generalize shortest tie x = scaled at upper coarser ⊢
  have grid : (0 : ℚ) < 10 ^ scaled.exponent := by positivity
  rw [le_max_iff]
  rcases coarser with first | nothing
  · left
    have bound : (scaled.coefficient : ℚ) * 10 ^ scaled.exponent ≤ 10 ^ 8 * 10 ^ scaled.exponent :=
      calc (scaled.coefficient : ℚ) * 10 ^ scaled.exponent
          ≤ 10 ^ (leadingGrid x + 8) := upper.trans (fits.significand_le_leadingGrid finite)
        _ = 10 ^ 8 * 10 ^ scaled.exponent := by
            rw [first, zpow_add₀ (by norm_num), mul_comm]
            norm_num
    exact_mod_cast le_of_mul_le_mul_right bound grid
  · right
    have half := half_unit_le nonzero nothing
    rw [zpow_sub_one₀ two_ne_zero, zpow_add_one₀ (by norm_num)] at half
    have significand : (x.significand : ℚ) + 1 ≤ 2 ^ (format.fractionBits + 1) := by
      exact_mod_cast x.significand_lt
    have bound : (scaled.coefficient : ℚ) * 10 ^ scaled.exponent ≤
        20 * 2 ^ (format.fractionBits + 1) * 10 ^ scaled.exponent :=
      calc (scaled.coefficient : ℚ) * 10 ^ scaled.exponent
          ≤ (x.significand + 1 / 2) * 2 ^ x.exponent := upper
        _ ≤ 2 ^ (format.fractionBits + 1) * (20 * 10 ^ scaled.exponent) := by
            gcongr
            · linarith
            · linarith
        _ = 20 * 2 ^ (format.fractionBits + 1) * 10 ^ scaled.exponent := by ring
    exact_mod_cast le_of_mul_le_mul_right bound grid

/-- The shortest decimal of a number has a coefficient of 64 bits. -/
theorem FitsWord.coefficient_shortest (tie : Tie) (fits : FitsWord format)
    (finite : x.isFinite = true) (nonzero : x.magnitude ≠ 0) :
    (shortest tie x).coefficient < 2 ^ 64 := by
  have significands : 2 ^ (format.fractionBits + 1) ≤ 2 ^ 53 :=
    Nat.pow_le_pow_right (by decide) (Nat.succ_le_succ fits.fraction)
  have bound := fits.coefficient_le tie finite nonzero
  omega

/-- The shortest decimal of a number that is not zero has digits other than zero. -/
theorem coefficient_shortest_pos (tie : Tie) (searchable : Searchable format)
    (finite : x.isFinite = true) (nonzero : x.magnitude ≠ 0) : 0 < (shortest tie x).coefficient := by
  have positive := (admits_shortest tie searchable finite nonzero).pos nonzero
  have grid : (0 : ℚ) < 10 ^ (shortest tie x).exponent := by positivity
  exact_mod_cast (pos_iff_pos_of_mul_pos positive).mpr grid

end TableStore.Decimal
