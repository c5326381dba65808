import TableStore.Binary.Rounding
import TableStore.Decimal.Notation
import TableStore.Json.Reader

/-!
# Numbers in JSON

A number without point and exponent is an integer, except that a negative zero and an
integer beyond 64 bits are binary numbers. Every other number is a binary number of 64
bits: its leading digits are kept while they fit in 64 bits, and the result is scaled
by powers of ten, each step rounded. A number too large for the format is refused. That is how
`serde_json` reads numbers without its feature `float_roundtrip`, which trades the last digit
for speed.

Binary numbers are written in scientific notation, with a point in whole numbers; what
is no finite number is written as null.
-/

namespace TableStore.Json

open Binary Decimal

-- Powers are those of the core library, whatever else is imported.
attribute [local instance (high)] instPowNat

/-- The natural numbers below this bound fit in 64 bits. -/
def wordBound : Nat := UInt64.size

/-- Digits of a significand appended while the significand fits in 64 bits; the second
part is the number of digits appended, the third what is left. -/
def appendDigits (significand appended : Nat) : List Char → Nat × Nat × List Char
  | [] => (significand, appended, [])
  | d :: rest =>
      let next := significand * 10 + (d.toNat - '0'.toNat)
      if next < wordBound then appendDigits next (appended + 1) rest
      else (significand, appended, d :: rest)

/-- A significand of 64 bits and the power of ten that scales it. -/
def Numeral.parts (numeral : Numeral) : Nat × Int :=
  let (significand, _, dropped) := appendDigits 0 0 numeral.whole
  let (significand, appended, _) :=
    appendDigits significand 0 (numeral.fraction.getD [])
  (significand, (dropped.length : Int) - appended)

/-- The integer of a numeral without point and exponent. -/
def Numeral.integer? (numeral : Numeral) : Option Int :=
  match numeral.fraction, numeral.exponent with
  | none, none =>
      let n := (readNat? numeral.whole).getD 0
      if numeral.negative then
        if 0 < n ∧ n ≤ 9223372036854775808 then some (-(n : Int)) else none
      else if n < wordBound then some n
      else none
  | _, _ => none

/-- The greatest exponent of ten that is taken literally. -/
def exponentBound : Nat := 2147483648

/-- The exponent of ten that a numeral asks for, and whether its magnitude is
within bounds. -/
def Numeral.writtenExponent (numeral : Numeral) : Int × Bool :=
  match numeral.exponent with
  | none => (0, true)
  | some (negative, ds) =>
      let n := (readNat? ds).getD 0
      (if negative then -(n : Int) else n, n < exponentBound)

/-- The nearest number of 64 bits to a power of ten. -/
def powerOfTen (n : Nat) : Double :=
  .ofRatio false (10 ^ n) 1

/-- The greatest power of ten in the range of numbers of 64 bits. -/
def greatestPower : Nat := 308

/-- A number divided by powers of ten, the largest first, within a number of steps. -/
def divideByPower : Nat → Double → Nat → Double
  | 0, x, _ => x
  | steps + 1, x, power =>
      if x.magnitude = 0 then x
      else if power ≤ greatestPower then x.dividedBy (powerOfTen power)
      else divideByPower steps (x.dividedBy (powerOfTen greatestPower)) (power - greatestPower)

/-- A significand scaled by a power of ten, refused when it is too large. -/
def scaleByPower (significand : Nat) (exponent : Int) : Option Double :=
  let x : Double := .ofRatio false significand 1
  if exponent < 0 then some (divideByPower 4 x exponent.natAbs)
  else if exponent.toNat ≤ greatestPower then
    let scaled := x.times (powerOfTen exponent.toNat)
    if scaled.isInfinite then none else some scaled
  else if x.magnitude = 0 then some x
  else none

/-- The sign and the magnitude of a numeral that is read as a binary number. -/
def Numeral.magnitude? (numeral : Numeral) : Option Double :=
  let (significand, exponent) := numeral.parts
  let (written, inBounds) := numeral.writtenExponent
  if inBounds then scaleByPower significand (exponent + written)
  else if 0 < written ∧ 0 < significand then none
  else some (.ofMagnitude false 0)

/-- The number of 64 bits that a numeral is read as. -/
def Numeral.double? (numeral : Numeral) : Option Double :=
  match numeral.integer? with
  | some n => some (.ofRatio (n < 0) n.natAbs 1)
  | none => numeral.magnitude?.map fun x => .ofMagnitude numeral.negative x.magnitude

/-- The number of 32 bits that a numeral is read as: an integer is rounded once, any
other number by way of 64 bits. -/
def Numeral.single? (numeral : Numeral) : Option Single :=
  match numeral.integer? with
  | some n => some (.ofRatio (n < 0) n.natAbs 1)
  | none => numeral.double?.map Number.convert

/-- The numeral of a number. -/
def numeral? : Json → Option Numeral
  | .number literal => (readNumeral literal).map (·.1)
  | _ => none

/-- The integer of a number within inclusive bounds. -/
def integer? (least greatest : Int) (value : Json) : Option Int := do
  let numeral ← value.numeral?
  let n ← numeral.integer?
  if least ≤ n ∧ n ≤ greatest then some n else none

/-- The natural number of a number within 64 bits. -/
def natural? (value : Json) : Option Nat :=
  (value.integer? 0 (wordBound - 1)).map Int.toNat

/-- The number of 64 bits of a number. -/
def double? (value : Json) : Option Double :=
  value.numeral?.bind Numeral.double?

/-- The number of 32 bits of a number. -/
def single? (value : Json) : Option Single :=
  value.numeral?.bind Numeral.single?

/-- The number of an integer. -/
def ofInt (n : Int) : Json :=
  .number (signed n)

/-- The number of a natural number. -/
def ofNat (n : Nat) : Json :=
  .number (digits n)

/-- A binary number that is written as null unless it is finite. -/
def ofBinary {format : Format} (range : PositionalRange) (x : Number format) : Json :=
  if x.isFinite then .number (scientific range x) else .null

/-- Numbers of 64 bits have an exponent below 0.00001 and from 10 ^ 16 upwards. -/
def ofDouble (x : Double) : Json :=
  ofBinary ⟨-4, 16⟩ x

/-- Numbers of 32 bits have an exponent below 0.000001 and from 10 ^ 13 upwards. -/
def ofSingle (x : Single) : Json :=
  ofBinary ⟨-5, 13⟩ x

end TableStore.Json
