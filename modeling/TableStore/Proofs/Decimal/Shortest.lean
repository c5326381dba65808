import TableStore.Decimal.Shortest
import TableStore.Proofs.Binary.Rounding

/-!
# The shortest decimal rounds back

The search for the shortest decimal ends on a grid that has a point in the interval of its
number. It starts from a power of ten above the number, and each further grid is ten times
finer; the interval is at least half a unit wide on its upper side, so a grid finer than that
has a point in it, and the search is given enough grids to come so far.
-/

namespace TableStore.Decimal

open TableStore.Binary

variable {tie : Tie} {interval : Interval}

/-- A point that is chosen lies in the interval. -/
theorem Interval.admits_of_nearest? {n : Nat} (chosen : interval.nearest? tie = some n) :
    interval.admits n = true := by
  unfold Interval.nearest? at chosen
  generalize interval.value / interval.denominator = below at chosen
  cases belowIn : interval.admits below <;> cases aboveIn : interval.admits (below + 1) <;>
    simp only [belowIn, aboveIn, Option.some.injEq, reduceCtorEq] at chosen
  · rw [← chosen, aboveIn]
  · rw [← chosen, belowIn]
  · split at chosen
    · rw [← Option.some.inj chosen, belowIn]
    · rw [← Option.some.inj chosen, aboveIn]
    · cases tie with
      | upward => rw [← Option.some.inj chosen, aboveIn]
      | toEven =>
          have parity : below + below % 2 = below ∨ below + below % 2 = below + 1 := by omega
          rw [← Option.some.inj chosen]
          rcases parity with even | odd
          · rw [even, belowIn]
          · rw [odd, aboveIn]

/-- If the point above the value lies in the interval, a point is chosen. -/
theorem Interval.nearest?_ne_none
    (above : interval.admits (interval.value / interval.denominator + 1) = true) :
    interval.nearest? tie ≠ none := by
  unfold Interval.nearest?
  generalize interval.value / interval.denominator = below at above
  cases belowIn : interval.admits below with
  | false => simp only [belowIn, above, ne_eq, reduceCtorEq, not_false_eq_true]
  | true =>
      simp only [belowIn, above]
      split
      · simp only [ne_eq, reduceCtorEq, not_false_eq_true]
      · simp only [ne_eq, reduceCtorEq, not_false_eq_true]
      · cases tie <;> simp only [ne_eq, reduceCtorEq, not_false_eq_true]

/-- When one of the tried grids has a point to choose, the search ends on such a grid. -/
theorem nearest?_searchGrids {tries : Nat} {k : Int} (step : Nat) (soon : step < tries)
    (found : (interval.scaleDown (k - step)).nearest? tie ≠ none) :
    (interval.scaleDown (searchGrids tie interval tries k).exponent).nearest? tie =
      some (searchGrids tie interval tries k).coefficient := by
  induction tries generalizing k step with
  | zero => omega
  | succ tries ih =>
      cases chosen : (interval.scaleDown k).nearest? tie with
      | some n =>
          simp only [searchGrids, chosen]
      | none =>
          simp only [searchGrids, chosen]
          cases step with
          | zero => simp [chosen] at found
          | succ step =>
              refine ih step (by omega) ?_
              rwa [show k - 1 - step = k - (step + 1 : Nat) by omega]

/-- Two comparisons of powers of ten and two, by the thousand below 1024 and by the eight
below ten. -/
theorem ten_zpow_lt_two_zpow {k j : Int} (large : 0 ≤ j → 10 * k < 3 * j)
    (small : j < 0 → 3 * k < j) : (10 : ℚ) ^ k < 2 ^ j := by
  by_cases negative : j < 0
  · have cubes : ((10 : ℚ) ^ k) ^ 3 < ((2 : ℚ) ^ j) ^ 3 := by
      calc ((10 : ℚ) ^ k) ^ 3 = 10 ^ (3 * k) := by
            rw [← zpow_natCast, ← zpow_mul, mul_comm]
            rfl
        _ < 10 ^ j := zpow_lt_zpow_right₀ (by norm_num) (small negative)
        _ ≤ 8 ^ j := by
            obtain ⟨n, rfl⟩ : ∃ n : Nat, j = -n := ⟨j.natAbs, by omega⟩
            rw [zpow_neg, zpow_neg, zpow_natCast, zpow_natCast]
            gcongr
            norm_num
        _ = ((2 : ℚ) ^ j) ^ 3 := by
            rw [← zpow_natCast, zpow_comm]
            norm_num
    exact lt_of_pow_lt_pow_left₀ 3 (by positivity) cubes
  · have tenths : ((10 : ℚ) ^ k) ^ 10 < ((2 : ℚ) ^ j) ^ 10 := by
      calc ((10 : ℚ) ^ k) ^ 10 = 10 ^ (10 * k) := by
            rw [← zpow_natCast, ← zpow_mul, mul_comm]
            rfl
        _ < 10 ^ (3 * j) := zpow_lt_zpow_right₀ (by norm_num) (large (by omega))
        _ = 1000 ^ j := by
            rw [zpow_mul]
            norm_num
        _ ≤ 1024 ^ j := by
            obtain ⟨n, rfl⟩ : ∃ n : Nat, j = n := ⟨j.natAbs, by omega⟩
            rw [zpow_natCast, zpow_natCast]
            gcongr
            norm_num
        _ = ((2 : ℚ) ^ j) ^ 10 := by
            rw [← zpow_natCast, zpow_comm]
            norm_num
    exact lt_of_pow_lt_pow_left₀ 10 (by positivity) tenths

variable {format : Format} {x : Number format}

/-- The gap below a number in quarters of its unit. -/
def quartersBelow (x : Number format) : Nat :=
  if x.atBinadeStart then 1 else 2

theorem gapBelow_eq (x : Number format) : x.gapBelow = (quartersBelow x : ℚ) / 4 := by
  unfold Number.gapBelow quartersBelow
  split <;> norm_num

/-- The quarter of a number's unit on a grid, over the denominator of the grid. -/
def quarter (x : Number format) (k : Int) : Nat :=
  2 ^ (x.exponent - 2).toNat * 10 ^ (-k).toNat

/-- The denominator of the interval of a number on a grid. -/
def gridDenominator (x : Number format) (k : Int) : Nat :=
  2 ^ (2 - x.exponent).toNat * 10 ^ k.toNat

theorem quarter_pos (x : Number format) (k : Int) : 0 < quarter x k := by
  unfold quarter
  positivity

theorem gridDenominator_pos (x : Number format) (k : Int) : 0 < gridDenominator x k := by
  unfold gridDenominator
  positivity

/-- The quarter over the denominator is a quarter of the unit divided by the grid. -/
theorem quarter_div_gridDenominator (x : Number format) (k : Int) :
    (quarter x k : ℚ) / gridDenominator x k = 2 ^ x.exponent / 4 / 10 ^ k := by
  have unit : (2 : ℚ) ^ x.exponent / 4 = 2 ^ (x.exponent - 2) := by
    rw [zpow_sub₀ two_ne_zero]
    norm_num
  rw [unit, zpow_eq_div 2, zpow_eq_div 10, neg_sub, quarter, gridDenominator]
  push_cast
  field_simp

theorem admits_scaleDown_iff (x : Number format) (k : Int) (n : Nat) :
    ((roundingInterval x).scaleDown k).admits n = true ↔
      ((4 * x.significand - quartersBelow x) * quarter x k < n * gridDenominator x k ∧
          n * gridDenominator x k < (4 * x.significand + 2) * quarter x k) ∨
        (x.significand % 2 = 0 ∧
          (4 * x.significand - quartersBelow x) * quarter x k ≤ n * gridDenominator x k ∧
          n * gridDenominator x k ≤ (4 * x.significand + 2) * quarter x k) := by
  unfold Interval.admits
  simp only [Interval.scaleDown, roundingInterval, quartersBelow, quarter, gridDenominator,
    ← Nat.mul_assoc]
  by_cases even : x.significand % 2 = 0
  · simp only [even, beq_self_eq_true, if_true, Bool.and_eq_true, decide_eq_true_eq, true_and]
    omega
  · simp [even]

/-- A point of a grid that lies in the interval of a number rounds to the number. -/
theorem admits_of_scaleDown {k : Int} {n : Nat} (nonzero : x.magnitude ≠ 0)
    (admitted : ((roundingInterval x).scaleDown k).admits n = true) :
    x.Admits (n * 10 ^ k) := by
  have gapSmall : quartersBelow x ≤ 4 * x.significand := by
    have := Number.significand_pos nonzero
    unfold quartersBelow
    split <;> omega
  have quarterPositive : (0 : ℚ) < quarter x k := by exact_mod_cast quarter_pos x k
  have denominatorPositive : (0 : ℚ) < gridDenominator x k := by
    exact_mod_cast gridDenominator_pos x k
  have scaled : (n * 10 ^ k : ℚ) / 2 ^ x.exponent =
      n * gridDenominator x k / quarter x k / 4 := by
    have ratio := quarter_div_gridDenominator x k
    have unit : (2 : ℚ) ^ x.exponent ≠ 0 := by positivity
    have grid : (10 : ℚ) ^ k ≠ 0 := by positivity
    field_simp at ratio ⊢
    rw [ratio]
  have lowerCast : (((4 * x.significand - quartersBelow x : Nat) : ℚ)) =
      4 * (x.significand - x.gapBelow) := by
    rw [gapBelow_eq, Nat.cast_sub gapSmall]
    push_cast
    ring
  have upperCast : (((4 * x.significand + 2 : Nat) : ℚ)) = 4 * (x.significand + 1 / 2) := by
    push_cast
    ring
  rw [Number.Admits, scaled, lt_div_iff₀ four_pos, div_lt_iff₀ four_pos, le_div_iff₀ four_pos,
    div_le_iff₀ four_pos, lt_div_iff₀ quarterPositive, div_lt_iff₀ quarterPositive,
    le_div_iff₀ quarterPositive, div_le_iff₀ quarterPositive, mul_comm _ (4 : ℚ),
    mul_comm _ (4 : ℚ), ← lowerCast, ← upperCast]
  exact_mod_cast (admits_scaleDown_iff x k n).mp admitted

/-- Once a grid is finer than half a unit, the point above the value lies in the interval. -/
theorem admits_above {k : Int} (nonzero : x.magnitude ≠ 0)
    (fine : (10 : ℚ) ^ k < 2 ^ (x.exponent - 1)) :
    ((roundingInterval x).scaleDown k).admits
      (((roundingInterval x).scaleDown k).value /
        ((roundingInterval x).scaleDown k).denominator + 1) = true := by
  have value : ((roundingInterval x).scaleDown k).value = 4 * x.significand * quarter x k :=
    Nat.mul_assoc _ _ _
  have denominator : ((roundingInterval x).scaleDown k).denominator = gridDenominator x k := rfl
  have denominatorPositive := gridDenominator_pos x k
  have half : gridDenominator x k < 2 * quarter x k := by
    have ratio := quarter_div_gridDenominator x k
    have grid : (0 : ℚ) < 10 ^ k := by positivity
    have positive : (0 : ℚ) < gridDenominator x k := by exact_mod_cast denominatorPositive
    rw [zpow_sub_one₀ two_ne_zero] at fine
    have wide : (1 : ℚ) < 2 * (quarter x k / gridDenominator x k) := by
      rw [ratio, ← mul_div_assoc, lt_div_iff₀ grid]
      linarith
    rw [← mul_div_assoc, lt_div_iff₀ positive, one_mul] at wide
    exact_mod_cast wide
  have gap : 0 < quartersBelow x := by
    unfold quartersBelow
    split <;> omega
  have below : (4 * x.significand - quartersBelow x) * quarter x k <
      4 * x.significand * quarter x k := by
    have := Number.significand_pos nonzero
    exact Nat.mul_lt_mul_of_pos_right (by omega) (quarter_pos x k)
  rw [admits_scaleDown_iff, value, denominator]
  have division := Nat.div_add_mod (4 * x.significand * quarter x k) (gridDenominator x k)
  have remainder := Nat.mod_lt (4 * x.significand * quarter x k) denominatorPositive
  left
  rw [Nat.add_mul, Nat.one_mul, Nat.mul_comm _ (gridDenominator x k)]
  rw [Nat.add_mul (4 * x.significand)]
  constructor
  · omega
  · omega

/-- Whether the exponents of a format are few enough for the search to reach every number: the
grid it starts from may be off by a small part of the exponent. -/
def Searchable (format : Format) : Prop :=
  2 ^ (format.exponentBits - 1) ≤ 20 * format.fractionBits + 44

theorem searchable_single : Searchable .single := by
  unfold Searchable
  decide

theorem searchable_double : Searchable .double := by
  unfold Searchable
  decide

theorem binade_lt (finite : x.isFinite = true) : x.binade < 2 ^ format.exponentBits := by
  have below : x.magnitude < (2 ^ format.exponentBits - 1) * 2 ^ format.fractionBits :=
    decide_eq_true_eq.mp finite
  have quotient := (Nat.div_lt_iff_lt_mul (Nat.two_pow_pos format.fractionBits)).mpr below
  exact (Nat.sub_le _ _).trans_lt (quotient.trans_le (Nat.sub_le _ _))

theorem log2_significand_le (x : Number format) : x.significand.log2 ≤ format.fractionBits := by
  by_cases zero : x.significand = 0
  · simp [zero]
  · exact Nat.lt_succ_iff.mp ((Nat.log2_lt zero).mpr x.significand_lt)

/-- The exponents of finite numbers reach as far above zero as below. -/
theorem exponent_bounds (finite : x.isFinite = true) :
    2 - ((2 ^ (format.exponentBits - 1) : Nat) : Int) ≤ x.exponent + format.fractionBits ∧
      x.exponent + format.fractionBits < 2 + (2 ^ (format.exponentBits - 1) : Nat) := by
  have exponentBits : 0 < format.exponentBits := by
    apply Nat.pos_of_ne_zero
    intro none
    have : x.magnitude < format.infinity := decide_eq_true_eq.mp finite
    simp [Format.infinity, none] at this
  have doubled : 2 ^ format.exponentBits = 2 * 2 ^ (format.exponentBits - 1) := by
    rw [← Nat.pow_succ', Nat.succ_eq_add_one, Nat.sub_add_cancel exponentBits]
  have upper : x.binade < 2 * 2 ^ (format.exponentBits - 1) := doubled ▸ binade_lt finite
  have least : format.leastExponent =
      2 - ((2 ^ (format.exponentBits - 1) : Nat) : Int) - format.fractionBits := by
    rw [Format.leastExponent]
    push_cast
    rfl
  have exponent := x.exponent_eq
  generalize 2 ^ (format.exponentBits - 1) = half at upper least ⊢
  omega

/-- The last of the tried grids is finer than half a unit. -/
theorem fine_leadingGrid (searchable : Searchable format) (finite : x.isFinite = true) :
    (10 : ℚ) ^ (leadingGrid x - (format.fractionBits + 3 : Nat)) < 2 ^ (x.exponent - 1) := by
  have bits := log2_significand_le x
  have exponents := exponent_bounds finite
  unfold Searchable at searchable
  generalize 2 ^ (format.exponentBits - 1) = half at searchable exponents
  unfold leadingGrid
  apply ten_zpow_lt_two_zpow
  · intro positive
    omega
  · intro negative
    omega

/-- The shortest decimal of a number is the point that is chosen on its grid. -/
theorem nearest?_shortest (tie : Tie) (searchable : Searchable format)
    (finite : x.isFinite = true) (nonzero : x.magnitude ≠ 0) :
    ((roundingInterval x).scaleDown (shortest tie x).exponent).nearest? tie =
      some (shortest tie x).coefficient :=
  nearest?_searchGrids (format.fractionBits + 3) (Nat.lt_succ_self _)
    (Interval.nearest?_ne_none (admits_above nonzero (fine_leadingGrid searchable finite)))

/-- The shortest decimal of a number rounds to the number. -/
theorem admits_shortest (tie : Tie) (searchable : Searchable format)
    (finite : x.isFinite = true) (nonzero : x.magnitude ≠ 0) :
    x.Admits ((shortest tie x).coefficient * 10 ^ (shortest tie x).exponent) :=
  admits_of_scaleDown nonzero
    (Interval.admits_of_nearest? (nearest?_shortest tie searchable finite nonzero))

end TableStore.Decimal
