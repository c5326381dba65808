import TableStore.Proofs.Decimal.Single
import TableStore.Proofs.Json.Binary

/-!
# Singles read back

A single is read by way of a double, with up to three roundings to 53 bits and one to 24. It comes
back all the same: the double is so close to the decimal of the single that it lies between the same
midpoints, unless the decimal is a midpoint, and then the double is the midpoint itself. The singles
at the starts of binades, where the interval is not centred, and the two at the exceptional decimal
are read back one by one.
-/

namespace TableStore.Json

open Binary Decimal

-- Powers are those of the core library, whatever else is imported.
attribute [local instance (high)] instPowNat

variable {x : Single}

/-- Whether a single comes back. -/
def IsReadBack (x : Single) : Prop :=
  ∃ y, rounded? ⟨-5, 13⟩ x = some y ∧
    (.ofMagnitude x.isNegative y.magnitude : Double).convert = x

instance : DecidablePred IsReadBack := fun x =>
  decidable_of_iff (((rounded? ⟨-5, 13⟩ x).map fun y =>
    (.ofMagnitude x.isNegative y.magnitude : Double).convert) = some x) (by
      rw [Option.map_eq_some_iff]
      rfl)

/-! ## Singles that are read back one by one -/

theorem isReadBack_of_start (finite : x.isFinite = true) (start : x.magnitude % 2 ^ 23 = 0) :
    IsReadBack x := by
  have all : ∀ negative, ∀ binade < 255,
      IsReadBack (.ofMagnitude negative (binade * 2 ^ 23)) := by decide +kernel
  have below : x.magnitude < 255 * 2 ^ 23 := decide_eq_true_eq.mp finite
  have readBack := all x.isNegative (x.magnitude / 2 ^ 23) (by omega)
  rwa [show x.magnitude / 2 ^ 23 * 2 ^ 23 = x.magnitude by omega, x.ofMagnitude_magnitude]
    at readBack

theorem isReadBack_of_exceptional (exceptional : x.magnitude ∈ exceptionalMagnitudes) :
    IsReadBack x := by
  have all : ∀ negative, ∀ magnitude ∈ exceptionalMagnitudes,
      IsReadBack (.ofMagnitude negative magnitude) := by decide +kernel
  have readBack := all x.isNegative x.magnitude exceptional
  rwa [x.ofMagnitude_magnitude] at readBack

/-! ## All others -/

theorem natAbs_written_le (range : PositionalRange) (nonzero : x.magnitude ≠ 0) :
    (written range x).exponent.natAbs ≤ max 1 (shortest .toEven x).exponent.natAbs := by
  rw [written, if_neg nonzero]
  dsimp only
  split
  · exact le_max_left _ _
  · exact le_max_right _ _

/-- The power of ten of a single is not far from one. -/
theorem natAbs_shortest_le (finite : x.isFinite = true) :
    (shortest .toEven x).exponent.natAbs ≤ 75 := by
  obtain ⟨lowest, highest⟩ := isSingleUnit_exponent finite
  have bits : x.significand.log2 ≤ 23 := log2_significand_le x
  obtain ⟨upper, lower, -⟩ := exponent_searchGrids .toEven (roundingInterval x) 27 (leadingGrid x)
  have searched : shortest .toEven x =
      searchGrids .toEven (roundingInterval x) 27 (leadingGrid x) := rfl
  rw [← searched] at upper lower
  unfold leadingGrid at upper lower
  omega

/-- The digits of a single fit in 53 bits. -/
theorem coefficient_written (finite : x.isFinite = true) (nonzero : x.magnitude ≠ 0) :
    0 < (written ⟨-5, 13⟩ x).coefficient ∧ (written ⟨-5, 13⟩ x).coefficient < 2 ^ 53 := by
  have positive := coefficient_shortest_pos .toEven searchable_single finite nonzero
  have bound := fitsWord_single.coefficient_le .toEven finite nonzero
  rw [written, if_neg nonzero]
  generalize shortest .toEven x = scaled at positive bound ⊢
  dsimp only
  split
  · rename_i inside
    exact ⟨Nat.mul_pos positive (Nat.pow_pos (by decide)),
      (whole_lt 13 inside.2.2 inside.2.1).trans (by decide)⟩
  · exact ⟨positive, bound.trans_lt (by decide)⟩

/-- What is as close to the decimal of a single as two roundings leave it lies between the midpoints
around the single, if the decimal keeps away from them. -/
theorem admits_of_close {decimal value : ℚ} (inside : x.atBinadeStart = false)
    (upper : decimal ≤ (x.significand + 1 / 2) * 2 ^ x.exponent)
    (close : |value - decimal| ≤ decimal * (1 / 2 ^ 52 + 1 / 2 ^ 100))
    (away : |decimal - x.significand * 2 ^ x.exponent| ≤ (1 / 2 - 1 / 2 ^ 28) * 2 ^ x.exponent) :
    x.Admits value := by
  have unit : (0 : ℚ) < 2 ^ x.exponent := by positivity
  have significand : (x.significand : ℚ) + 1 ≤ 2 ^ 24 := by
    exact_mod_cast x.significand_lt
  have error : decimal * (1 / 2 ^ 52 + 1 / 2 ^ 100) < 1 / 2 ^ 28 * 2 ^ x.exponent :=
    calc decimal * (1 / 2 ^ 52 + 1 / 2 ^ 100)
        ≤ (2 ^ 24 - 1 / 2) * 2 ^ x.exponent * (1 / 2 ^ 52 + 1 / 2 ^ 100) := by
          gcongr
          refine upper.trans ?_
          gcongr
          linarith
      _ = (2 ^ 24 - 1 / 2) * (1 / 2 ^ 52 + 1 / 2 ^ 100) * 2 ^ x.exponent := by ring
      _ < 1 / 2 ^ 28 * 2 ^ x.exponent := by
          gcongr
          norm_num
  have gap : x.gapBelow = 1 / 2 := if_neg (ne_true_of_eq_false inside)
  obtain ⟨awayLower, awayUpper⟩ := abs_le.mp away
  obtain ⟨closeLower, closeUpper⟩ := abs_le.mp close
  left
  rw [gap, lt_div_iff₀ unit, div_lt_iff₀ unit]
  constructor
  · linarith
  · linarith

theorem isReadBack_of_ordinary (finite : x.isFinite = true) (nonzero : x.magnitude ≠ 0)
    (inside : x.atBinadeStart = false) (ordinary : x.magnitude ∉ exceptionalMagnitudes) :
    IsReadBack x := by
  have power := natAbs_written_le ⟨-5, 13⟩ nonzero
  have near := natAbs_shortest_le finite
  obtain ⟨positive, short⟩ := coefficient_written finite nonzero
  obtain ⟨y, scaled, yFinite, close, exact⟩ :=
    exists_scaleByPower_near positive short (power.trans (by omega))
  have admits := admits_shortest .toEven searchable_single finite nonzero
  have yAdmitted : x.Admits y.absolute := by
    rw [written_value nonzero] at close exact
    rcases shortest_single finite nonzero inside ordinary with away | ⟨small, odd, few, midpoint⟩
    · have unit : (0 : ℚ) < 2 ^ x.exponent := by positivity
      exact admits_of_close inside ((div_le_iff₀ unit).mp admits.bounds.2) close away
    · rw [exact (power.trans (by omega)) odd _ (few.trans (by decide)) midpoint]
      exact admits
  have bounded : y.magnitude < 2 ^ (Format.double.exponentBits + Format.double.fractionBits) :=
    (decide_eq_true_eq.mp yFinite).trans (Number.infinity_lt Format.double)
  have magnitude : (.ofMagnitude x.isNegative y.magnitude : Double).magnitude = y.magnitude :=
    Number.magnitude_ofMagnitude bounded
  refine ⟨y, scaled, Number.convert_eq ?_ finite nonzero
    (Number.isNegative_ofMagnitude bounded) ?_⟩
  · rw [Number.isFinite, magnitude]
    exact yFinite
  · rwa [Number.absolute_congr magnitude]

/-- Every finite single comes back. -/
theorem isReadBack (finite : x.isFinite = true) : IsReadBack x := by
  by_cases start : x.magnitude % 2 ^ 23 = 0
  · exact isReadBack_of_start finite start
  by_cases exceptional : x.magnitude ∈ exceptionalMagnitudes
  · exact isReadBack_of_exceptional exceptional
  have nonzero : x.magnitude ≠ 0 := fun zero => start (by rw [zero, Nat.zero_mod])
  have inside : x.atBinadeStart = false := by
    rw [Number.atBinadeStart, Bool.and_eq_false_imp]
    intro first
    exact absurd (beq_iff_eq.mp first) start
  exact isReadBack_of_ordinary finite nonzero inside exceptional

end TableStore.Json
