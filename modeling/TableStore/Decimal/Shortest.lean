import TableStore.Binary.Number
import TableStore.Decimal.Digits

/-!
# Shortest decimals

Among the decimals that round to a given binary number, one with the fewest
digits is chosen, and of those the nearest. The search walks the decimal grids
from coarse to fine; on each grid only the two neighbours of the exact value can
be nearest, so only those are tried. A tie between the two neighbours is settled
by the caller's convention.

All quantities are exact: the value and the bounds of the interval that rounds to
it are natural numbers over one common denominator.
-/

namespace TableStore.Decimal

open TableStore.Binary

-- Powers are those of the core library, whatever else is imported.
attribute [local instance (high)] instPowNat

/-- The natural number `coefficient` scaled by `10 ^ exponent`. -/
structure Scaled where
  coefficient : Nat
  exponent : Int
deriving DecidableEq, Repr

/-- Which of two equally near neighbours is taken. -/
inductive Tie where
  | upward
  | toEven
deriving DecidableEq, Repr

/-- An exact value between the bounds of the interval that rounds to it, all over
one denominator. -/
structure Interval where
  low : Nat
  value : Nat
  high : Nat
  denominator : Nat
  closed : Bool

namespace Interval

/-- The interval divided by `10 ^ k`. -/
def scaleDown (interval : Interval) (k : Int) : Interval :=
  { interval with
    low := interval.low * 10 ^ (-k).toNat
    value := interval.value * 10 ^ (-k).toNat
    high := interval.high * 10 ^ (-k).toNat
    denominator := interval.denominator * 10 ^ k.toNat }

/-- Whether a natural number lies in the interval. -/
def admits (interval : Interval) (n : Nat) : Bool :=
  let scaled := n * interval.denominator
  if interval.closed then interval.low ≤ scaled && scaled ≤ interval.high
  else interval.low < scaled && scaled < interval.high

/-- The natural number of the interval nearest to its value, if it holds one. -/
def nearest? (tie : Tie) (interval : Interval) : Option Nat :=
  let below := interval.value / interval.denominator
  let above := below + 1
  match interval.admits below, interval.admits above with
  | false, false => none
  | true, false => some below
  | false, true => some above
  | true, true =>
      match compare (2 * interval.value) ((below + above) * interval.denominator) with
      | .lt => some below
      | .gt => some above
      | .eq =>
          match tie with
          | .upward => some above
          | .toEven => some (below + below % 2)

end Interval

/-- The interval of the reals that round to a positive finite number. -/
def roundingInterval {format : Format} (x : Number format) : Interval :=
  let unit := 2 ^ (x.exponent - 2).toNat
  let m := x.significand
  { low := (4 * m - if x.atBinadeStart then 1 else 2) * unit
    value := 4 * m * unit
    high := (4 * m + 2) * unit
    denominator := 2 ^ (2 - x.exponent).toNat
    closed := m % 2 == 0 }

/-- The first grid, from `10 ^ k` downwards, with a point in the interval. -/
def searchGrids (tie : Tie) (interval : Interval) : Nat → Int → Scaled
  | 0, k => ⟨(interval.scaleDown k).value / (interval.scaleDown k).denominator, k⟩
  | tries + 1, k =>
      match (interval.scaleDown k).nearest? tie with
      | some n => ⟨n, k⟩
      | none => searchGrids tie interval tries (k - 1)

/-- A power of ten not below the value of a positive finite number: 30103/100000
is slightly more than the decimal logarithm of two. -/
def leadingGrid {format : Format} (x : Number format) : Int :=
  ((x.significand.log2 + 1 : Int) + x.exponent) * 30103 / 100000 + 1

/-- The shortest decimal that rounds to a positive finite number. -/
def shortest {format : Format} (tie : Tie) (x : Number format) : Scaled :=
  searchGrids tie (roundingInterval x) (format.fractionBits + 4) (leadingGrid x)

end TableStore.Decimal
