import TableStore.Proofs.Decimal.Shortest

/-!
# The shortest decimal is the nearest of its grid

Only the two neighbours of a value are tried on a grid, and one that lies outside of the interval
is passed over for the other. Away from the start of a binade the interval reaches equally far on
both sides, so the neighbour that is passed over is the further one. The shortest decimal is then
within half a step of its grid.
-/

namespace TableStore.Decimal

open TableStore.Binary

namespace Interval

variable {tie : Tie} {interval : Interval} {n : Nat}

/-- Whether the bounds of an interval are equally far from its value. -/
def IsCentred (interval : Interval) : Prop :=
  interval.low + interval.high = 2 * interval.value

theorem admits_iff (interval : Interval) (n : Nat) :
    interval.admits n = true ↔
      if interval.closed then interval.low ≤ n * interval.denominator ∧
        n * interval.denominator ≤ interval.high
      else interval.low < n * interval.denominator ∧ n * interval.denominator < interval.high := by
  unfold admits
  dsimp only
  split
  · rw [Bool.and_eq_true, decide_eq_true_eq, decide_eq_true_eq]
  · rw [Bool.and_eq_true, decide_eq_true_eq, decide_eq_true_eq]

/-- In a centred interval the chosen point is at most half a step away. -/
theorem IsCentred.near_of_nearest? (centred : interval.IsCentred)
    (positive : 0 < interval.denominator) (chosen : interval.nearest? tie = some n) :
    2 * (n * interval.denominator) ≤ 2 * interval.value + interval.denominator ∧
      2 * interval.value ≤ 2 * (n * interval.denominator) + interval.denominator := by
  have division := Nat.div_add_mod' interval.value interval.denominator
  have remainder := Nat.mod_lt interval.value positive
  have belowIff := interval.admits_iff (interval.value / interval.denominator)
  have aboveIff := interval.admits_iff (interval.value / interval.denominator + 1)
  unfold nearest? at chosen
  unfold IsCentred at centred
  dsimp only at chosen
  generalize interval.value / interval.denominator = below at *
  have step : (below + 1) * interval.denominator =
      below * interval.denominator + interval.denominator := Nat.succ_mul _ _
  have sum : (below + (below + 1)) * interval.denominator =
      2 * (below * interval.denominator) + interval.denominator := by
    rw [Nat.add_mul, step]
    omega
  rw [step] at aboveIff
  rw [sum] at chosen
  cases belowIn : interval.admits below <;> cases aboveIn : interval.admits (below + 1) <;>
    simp only [belowIn, aboveIn, Option.some.injEq, reduceCtorEq, true_iff, false_iff,
      Bool.false_eq_true] at chosen belowIff aboveIff
  -- the point below is passed over, so it is not nearer than the one above
  · rw [← chosen, step]
    split_ifs at belowIff aboveIff <;> omega
  -- the point above is passed over
  · rw [← chosen]
    split_ifs at belowIff aboveIff <;> omega
  · split at chosen
    · rename_i less
      rw [compare_lt_iff_lt] at less
      cases chosen
      omega
    · rename_i greater
      rw [compare_gt_iff_gt] at greater
      cases chosen
      omega
    · rename_i level
      rw [compare_eq_iff_eq] at level
      have either : n = below ∨ n = below + 1 := by
        cases tie <;> simp only [Option.some.injEq] at chosen <;> omega
      rcases either with rfl | rfl
      · omega
      · omega

end Interval

variable {format : Format} {x : Number format}

theorem isCentred_roundingInterval (k : Int) (nonzero : x.magnitude ≠ 0)
    (inside : x.atBinadeStart = false) : ((roundingInterval x).scaleDown k).IsCentred := by
  have positive := Number.significand_pos nonzero
  simp only [Interval.IsCentred, Interval.scaleDown, roundingInterval, inside, Bool.false_eq_true,
    if_false, ← Nat.add_mul]
  rw [show 4 * x.significand - 2 + (4 * x.significand + 2) = 2 * (4 * x.significand) by omega]
  simp only [Nat.mul_assoc]

/-- Away from the start of a binade, the shortest decimal is within half a step of its grid. -/
theorem abs_shortest_sub_le (tie : Tie) (searchable : Searchable format)
    (finite : x.isFinite = true) (nonzero : x.magnitude ≠ 0) (inside : x.atBinadeStart = false) :
    |((shortest tie x).coefficient * 10 ^ (shortest tie x).exponent : ℚ) -
        x.significand * 2 ^ x.exponent| ≤ 10 ^ (shortest tie x).exponent / 2 := by
  have chosen := nearest?_shortest tie searchable finite nonzero
  generalize shortest tie x = scaled at chosen ⊢
  have denominatorPositive := gridDenominator_pos x scaled.exponent
  obtain ⟨above, below⟩ :=
    (isCentred_roundingInterval scaled.exponent nonzero inside).near_of_nearest?
      denominatorPositive chosen
  have value : ((roundingInterval x).scaleDown scaled.exponent).value =
      4 * x.significand * quarter x scaled.exponent := Nat.mul_assoc _ _ _
  have denominator : ((roundingInterval x).scaleDown scaled.exponent).denominator =
      gridDenominator x scaled.exponent := rfl
  rw [value, denominator] at above below
  have ratio := quarter_div_gridDenominator x scaled.exponent
  have aboveRational : (2 * (scaled.coefficient * gridDenominator x scaled.exponent) : ℚ) ≤
      2 * (4 * x.significand * quarter x scaled.exponent) + gridDenominator x scaled.exponent := by
    exact_mod_cast above
  have belowRational : (2 * (4 * x.significand * quarter x scaled.exponent) : ℚ) ≤
      2 * (scaled.coefficient * gridDenominator x scaled.exponent) +
        gridDenominator x scaled.exponent := by
    exact_mod_cast below
  have positive : (0 : ℚ) < gridDenominator x scaled.exponent := by
    exact_mod_cast denominatorPositive
  have grid : (0 : ℚ) < 10 ^ scaled.exponent := by positivity
  generalize (quarter x scaled.exponent : ℚ) = fourth at *
  generalize (gridDenominator x scaled.exponent : ℚ) = steps at *
  have unit : (2 : ℚ) ^ x.exponent = 4 * (fourth / steps) * 10 ^ scaled.exponent := by
    rw [ratio]
    field_simp
  have distance : (scaled.coefficient * 10 ^ scaled.exponent : ℚ) - x.significand * 2 ^ x.exponent =
      (scaled.coefficient * steps - 4 * x.significand * fourth) / steps * 10 ^ scaled.exponent := by
    rw [unit]
    field_simp
  rw [distance, abs_mul, abs_of_pos grid, abs_div, abs_of_pos positive, div_eq_inv_mul _ (2 : ℚ)]
  gcongr
  rw [div_le_iff₀ positive, abs_le]
  constructor
  · linarith
  · linarith

end TableStore.Decimal
