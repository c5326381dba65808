/-!
# Hexadecimal digits

Numbers, bytes and bits in base sixteen. Small letters are written; both cases are read.
-/

namespace TableStore.Hex

-- Powers are those of the core library, whatever else is imported.
attribute [local instance (high)] instPowNat

/-- The value of a hexadecimal digit. -/
def digitValue? (c : Char) : Option Nat :=
  if c.isDigit then some (c.toNat - '0'.toNat)
  else if 'a' ≤ c ∧ c ≤ 'f' then some (c.toNat - 'a'.toNat + 10)
  else if 'A' ≤ c ∧ c ≤ 'F' then some (c.toNat - 'A'.toNat + 10)
  else none

/-- The last digits of a number, as many as the width. -/
def padded (width n : Nat) : List Char :=
  match width with
  | 0 => []
  | width + 1 => Nat.digitChar (n / 16 ^ width % 16) :: padded width n

/-- The two digits of a byte. -/
def ofByte (byte : UInt8) : List Char :=
  padded 2 byte.toNat

/-- The value of a run of digits in a base that continues a number already begun. -/
def continueBase? (base value : Nat) : List Char → Option Nat
  | [] => some value
  | c :: rest =>
      match digitValue? c with
      | some d => if d < base then continueBase? base (base * value + d) rest else none
      | none => none

/-- The value of digits in a base of at most sixteen; no digits are zero. -/
def readBase? (base : Nat) (text : List Char) : Option Nat :=
  continueBase? base 0 text

/-- The bytes that pairs of digits give. -/
def readBytes? : List Char → Option (List UInt8)
  | [] => some []
  | a :: b :: rest => do
      let high ← digitValue? a
      let low ← digitValue? b
      let rest ← readBytes? rest
      return UInt8.ofNat (high * 16 + low) :: rest
  | [_] => none

end TableStore.Hex
