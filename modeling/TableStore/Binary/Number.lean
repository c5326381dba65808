/-!
# Binary interchange numbers

A number of a binary interchange format is its bit pattern: a sign, an exponent
field and a fraction field. This module names the two formats that tables
store and splits a pattern into its parts.

Numbers are ordered through one integer, the pattern without its sign bit
counted from zero in the direction of the sign. The order agrees with the order
of the real values, makes both zeros equal, and leaves out every pattern that is
not a number.
-/

namespace TableStore.Binary

-- Powers are those of the core library, whatever else is imported.
attribute [local instance (high)] instPowNat

/-- The widths of the exponent field and of the fraction field of a format. -/
structure Format where
  exponentBits : Nat
  fractionBits : Nat
deriving DecidableEq, Repr

namespace Format

/-- The format of 32 bits. -/
def single : Format := ⟨8, 23⟩

/-- The format of 64 bits. -/
def double : Format := ⟨11, 52⟩

/-- The number of bits of a pattern, sign included. -/
def width (format : Format) : Nat :=
  1 + format.exponentBits + format.fractionBits

/-- The exponent of the weight of the last fraction bit of the smallest numbers. -/
def leastExponent (format : Format) : Int :=
  2 - 2 ^ (format.exponentBits - 1) - format.fractionBits

/-- The magnitude of infinity: every exponent bit set and no fraction bit. -/
def infinity (format : Format) : Nat :=
  (2 ^ format.exponentBits - 1) * 2 ^ format.fractionBits

end Format

/-- A number of a binary interchange format, given by its bit pattern. -/
structure Number (format : Format) where
  bits : BitVec format.width
deriving DecidableEq

/-- A number of 32 bits. -/
abbrev Single := Number .single

/-- A number of 64 bits. -/
abbrev Double := Number .double

namespace Number

variable {format : Format}

/-- The pattern with the sign bit cleared, as a natural number. -/
def magnitude (x : Number format) : Nat :=
  x.bits.toNat % 2 ^ (format.exponentBits + format.fractionBits)

/-- Whether the sign bit is set. -/
def isNegative (x : Number format) : Bool :=
  x.bits.toNat / 2 ^ (format.exponentBits + format.fractionBits) == 1

/-- The number with a given sign and a given pattern below the sign bit. -/
def ofMagnitude (negative : Bool) (magnitude : Nat) : Number format :=
  ⟨BitVec.ofNat format.width
    (magnitude + if negative then 2 ^ (format.exponentBits + format.fractionBits) else 0)⟩

/-- Whether the pattern stands for no number. -/
def isNaN (x : Number format) : Bool :=
  format.infinity < x.magnitude

/-- Whether the pattern stands for one of the infinities. -/
def isInfinite (x : Number format) : Bool :=
  x.magnitude == format.infinity

/-- Whether the pattern stands for a real number. -/
def isFinite (x : Number format) : Bool :=
  x.magnitude < format.infinity

/-- The position of a number on the line, in steps between neighbouring
patterns; both zeros are at zero. -/
def position (x : Number format) : Int :=
  if x.isNegative then -(x.magnitude : Int) else x.magnitude

/-- Equality of numbers: the zeros are equal, and no pattern that is not a number
equals anything. -/
def agrees (x y : Number format) : Bool :=
  !x.isNaN && !y.isNaN && x.position == y.position

/-- The order of two numbers, absent when one of them is not a number. -/
def compare? (x y : Number format) : Option Ordering :=
  if x.isNaN || y.isNaN then none else some (compare x.position y.position)

/-- The integer significand of a finite number, sign apart. -/
def significand (x : Number format) : Nat :=
  if x.magnitude < 2 ^ format.fractionBits then x.magnitude
  else x.magnitude % 2 ^ format.fractionBits + 2 ^ format.fractionBits

/-- The exponent of two that scales the significand. -/
def exponent (x : Number format) : Int :=
  (x.magnitude / 2 ^ format.fractionBits - 1 : Nat) + format.leastExponent

/-- Whether the number below has a smaller exponent, so that the gap below is half
of the gap above. -/
def atBinadeStart (x : Number format) : Bool :=
  x.magnitude % 2 ^ format.fractionBits == 0 && 2 * 2 ^ format.fractionBits ≤ x.magnitude

end Number

end TableStore.Binary
