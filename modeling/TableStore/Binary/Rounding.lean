import TableStore.Binary.Number

/-!
# Rounding to a binary format

A positive ratio of natural numbers is rounded to the nearest number of a format,
a tie going to the even significand. Products and quotients of finite numbers
are rounded once from their exact value.
-/

namespace TableStore.Binary

-- Powers are those of the core library, whatever else is imported.
attribute [local instance (high)] instPowNat

/-- The greatest `e` with `2 ^ e ≤ num / den`, for positive `num` and `den`. -/
def ratioLog (num den : Nat) : Int :=
  let e : Int := (num.log2 : Int) - den.log2
  if num * 2 ^ (-e).toNat < den * 2 ^ e.toNat then e - 1 else e

/-- The quotient rounded to the nearest natural number, a tie going to the even one. -/
def divideToEven (num den : Nat) : Nat :=
  let q := num / den
  let r := num % den
  if 2 * r < den then q
  else if den < 2 * r then q + 1
  else q + q % 2

namespace Number

variable {format : Format}

/-- The number nearest to `num / den` with the given sign; too large a ratio becomes an
infinity. -/
def ofRatio (negative : Bool) (num den : Nat) : Number format :=
  if num = 0 then ofMagnitude negative 0
  else
    let q := max format.leastExponent (ratioLog num den - format.fractionBits)
    let m := divideToEven (num * 2 ^ (-q).toNat) (den * 2 ^ q.toNat)
    let steps := (q - format.leastExponent).toNat * 2 ^ format.fractionBits + m
    ofMagnitude negative (min steps format.infinity)

/-- The numerator of the exact value of a finite number, sign apart. -/
def numerator (x : Number format) : Nat :=
  x.significand * 2 ^ x.exponent.toNat

/-- The denominator of the exact value of a finite number. -/
def denominator (x : Number format) : Nat :=
  2 ^ (-x.exponent).toNat

/-- The product of two finite numbers, rounded once. -/
def times (x y : Number format) : Number format :=
  ofRatio (x.isNegative != y.isNegative) (x.numerator * y.numerator)
    (x.denominator * y.denominator)

/-- The quotient of two finite numbers, the second not zero, rounded once. -/
def dividedBy (x y : Number format) : Number format :=
  ofRatio (x.isNegative != y.isNegative) (x.numerator * y.denominator)
    (x.denominator * y.numerator)

/-- The number of another format nearest to a given one. -/
def convert {target : Format} (x : Number format) : Number target :=
  if x.isNaN then ofMagnitude x.isNegative (target.infinity + 2 ^ (target.fractionBits - 1))
  else if x.isInfinite then ofMagnitude x.isNegative target.infinity
  else ofRatio x.isNegative x.numerator x.denominator

end Number

end TableStore.Binary
