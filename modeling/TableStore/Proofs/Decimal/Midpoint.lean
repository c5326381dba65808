import Mathlib.Algebra.Order.Ring.Abs
import Mathlib.Tactic.Linarith
import Mathlib.Tactic.Ring

/-!
# Multiples close to midpoints

Halfway between two neighbouring numbers stands an odd multiple of half their distance. How close
do the multiples of another step come to these midpoints? No search over all of them is needed: a
multiplier that turns the step into nearly a whole number of periods turns the midpoints, too, and
bounds where a close multiple would have to lie. If nothing lies there, no multiple in a whole box
is close. Such multipliers are the denominators of the convergents of step over period, and a box
that none of them settles is halved.
-/

namespace TableStore.Decimal

/-- A step, half the distance of neighbours, and what counts as close. -/
structure Midpoints where
  step : Nat
  half : Nat
  margin : Nat

namespace Midpoints

variable {midpoints : Midpoints} {least greatest count : Nat}

/-- Whether a multiple of the step is close to a midpoint. -/
def IsMet (midpoints : Midpoints) (count : Nat) : Prop :=
  ∃ odd : Nat, odd % 2 = 1 ∧
    |(count * midpoints.step - odd * midpoints.half : Int)| ≤ midpoints.margin

/-- Whether a multiplier shows that no multiple in a box is close to a midpoint: the close ones
are carried between two bounds, and no whole number of periods lies between these. -/
def refutes (midpoints : Midpoints) (least greatest multiplier : Nat) : Bool :=
  let period : Int := 2 * midpoints.half
  let turns := (2 * multiplier * midpoints.step + period) / (2 * period)
  let drift := multiplier * midpoints.step - turns * period
  let low := multiplier * ((midpoints.half : Int) - midpoints.margin) -
    max (least * drift) (greatest * drift)
  let high := multiplier * ((midpoints.half : Int) + midpoints.margin) -
    min (least * drift) (greatest * drift)
  high / period * period < low

/-- The denominators of the convergents of a ratio that is expanded step by step. -/
def convergents : Nat → Nat → Nat → Nat → Nat → List Nat
  | 0, _, _, _, _ => []
  | steps + 1, large, small, previous, current =>
      current :: if small = 0 then []
        else convergents steps small (large % small) current (large / small * current + previous)

/-- The multipliers that are tried. -/
def multipliers (midpoints : Midpoints) : List Nat :=
  convergents 80 (2 * midpoints.half) (midpoints.step % (2 * midpoints.half)) 0 1

/-- Whether a box is shown to have no close multiple, with so many halvings at most. -/
def clears (midpoints : Midpoints) : Nat → Nat → Nat → Bool
  | 0, _, _ => false
  | halvings + 1, least, greatest =>
      greatest < least || midpoints.multipliers.any (midpoints.refutes least greatest) ||
        (least < greatest && midpoints.clears halvings least ((least + greatest) / 2) &&
          midpoints.clears halvings ((least + greatest) / 2 + 1) greatest)

theorem mul_mem_box {count least greatest : Int} (drift : Int) (lower : least ≤ count)
    (upper : count ≤ greatest) :
    min (least * drift) (greatest * drift) ≤ count * drift ∧
      count * drift ≤ max (least * drift) (greatest * drift) := by
  rcases le_total 0 drift with positive | negative
  · exact ⟨(min_le_left _ _).trans (Int.mul_le_mul_of_nonneg_right lower positive),
      (Int.mul_le_mul_of_nonneg_right upper positive).trans (le_max_right _ _)⟩
  · exact ⟨(min_le_right _ _).trans (Int.mul_le_mul_of_nonpos_right upper negative),
      (Int.mul_le_mul_of_nonpos_right lower negative).trans (le_max_left _ _)⟩

theorem not_isMet_of_refutes {multiplier : Nat} (positive : 0 < midpoints.half)
    (refuted : midpoints.refutes least greatest multiplier = true) (lower : least ≤ count)
    (upper : count ≤ greatest) : ¬midpoints.IsMet count := by
  rintro ⟨odd, parity, close⟩
  obtain ⟨half, rfl⟩ : ∃ half, odd = 2 * half + 1 := ⟨odd / 2, by omega⟩
  obtain ⟨below, above⟩ := abs_le.mp close
  simp only [refutes, decide_eq_true_eq] at refuted
  generalize (2 * (multiplier : Int) * midpoints.step + 2 * midpoints.half) /
    (2 * (2 * midpoints.half)) = turns at refuted
  generalize drifted : (multiplier * midpoints.step - turns * (2 * midpoints.half) : Int) = drift
    at refuted
  obtain ⟨least_le, le_greatest⟩ := mul_mem_box drift (Int.ofNat_le.mpr lower)
    (Int.ofNat_le.mpr upper)
  generalize apart : (count * midpoints.step - (2 * half + 1 : Nat) * midpoints.half : Int) = gap
    at below above
  -- the close multiple is carried to a whole number of periods between the two bounds
  have whole : (count * turns - multiplier * half) * (2 * midpoints.half : Int) =
      multiplier * (midpoints.half + gap) - count * drift := by
    rw [← apart, ← drifted]
    push_cast
    ring
  have high : (multiplier * (midpoints.half + gap) : Int) ≤
      multiplier * (midpoints.half + midpoints.margin) :=
    Int.mul_le_mul_of_nonneg_left (by omega) (Int.natCast_nonneg _)
  have low : (multiplier * (midpoints.half - midpoints.margin) : Int) ≤
      multiplier * (midpoints.half + gap) :=
    Int.mul_le_mul_of_nonneg_left (by omega) (Int.natCast_nonneg _)
  have period : (0 : Int) < 2 * midpoints.half := by omega
  have fits : (count * turns - multiplier * half : Int) ≤
      (multiplier * (midpoints.half + midpoints.margin) -
        min (least * drift) (greatest * drift)) / (2 * midpoints.half) := by
    rw [Int.le_ediv_iff_mul_le period, whole]
    linarith
  have reached := Int.mul_le_mul_of_nonneg_right fits period.le
  rw [whole] at reached
  linarith

theorem not_isMet_of_clears (positive : 0 < midpoints.half) {halvings : Nat}
    (cleared : midpoints.clears halvings least greatest = true) (lower : least ≤ count)
    (upper : count ≤ greatest) : ¬midpoints.IsMet count := by
  induction halvings generalizing least greatest with
  | zero => cases cleared
  | succ halvings ih =>
      simp only [clears, Bool.or_eq_true, Bool.and_eq_true, decide_eq_true_eq, List.any_eq_true]
        at cleared
      rcases cleared with (empty | ⟨multiplier, -, refuted⟩) | ⟨⟨-, first⟩, second⟩
      · omega
      · exact not_isMet_of_refutes positive refuted lower upper
      · rcases Nat.lt_or_ge ((least + greatest) / 2) count with beyond | within
        · exact ih second beyond upper
        · exact ih first lower within

end Midpoints

end TableStore.Decimal
