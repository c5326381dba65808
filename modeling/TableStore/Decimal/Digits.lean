/-!
# Decimal digits

Natural numbers are written with their decimal digits, most significant first,
and padded with zeros where a fixed width is asked for. Integers carry a minus
sign when negative. Reading takes a run of digits and nothing else.
-/

namespace TableStore.Decimal

/-- The decimal digits of a natural number, most significant first. -/
def digits (n : Nat) : List Char :=
  Nat.toDigits 10 n

/-- The decimal digits of a natural number, with leading zeros up to a width. -/
def padded (width n : Nat) : List Char :=
  List.replicate (width - (digits n).length) '0' ++ digits n

/-- The decimal text of an integer. -/
def signed (n : Int) : List Char :=
  if n < 0 then '-' :: digits n.natAbs else digits n.natAbs

/-- The value of one decimal digit. -/
def digitValue? (c : Char) : Option Nat :=
  if c.isDigit then some (c.toNat - '0'.toNat) else none

/-- The value of a run of digits that continues a number already begun. -/
def continueNat? (value : Nat) : List Char → Option Nat
  | [] => some value
  | c :: rest => (digitValue? c).bind fun d => continueNat? (10 * value + d) rest

/-- The value of a non-empty text made of digits only. -/
def readNat? : List Char → Option Nat
  | [] => none
  | text => continueNat? 0 text

end TableStore.Decimal
