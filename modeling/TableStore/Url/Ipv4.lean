import TableStore.Decimal.Digits
import TableStore.Hex

/-!
# IPv4 addresses

An address is four bytes. Reading takes one to four numbers between points, the last of
which fills the bytes that are left; a number is octal after a zero and hexadecimal
after `0x`. Writing gives the four bytes in decimal.
-/

namespace TableStore.Url

open Decimal

-- Powers are those of the core library, whatever else is imported.
attribute [local instance (high)] instPowNat

/-- The four bytes of an address. -/
structure Ipv4 where
  number : BitVec 32
deriving DecidableEq, Repr

namespace Ipv4

/-- The byte of an address at a place, counted from the left. -/
def byte (address : Ipv4) (place : Nat) : Nat :=
  address.number.toNat / 256 ^ (3 - place) % 256

/-- The written form of an address. -/
def text (address : Ipv4) : List Char :=
  ['.'].intercalate ((List.range 4).map fun place => digits (address.byte place))

/-- The value of a number of an address. -/
def number? : List Char → Option Nat
  | [] => none
  | '0' :: 'x' :: rest | '0' :: 'X' :: rest => Hex.readBase? 16 rest
  | '0' :: c :: rest => Hex.readBase? 8 (c :: rest)
  | text => Hex.readBase? 10 text

/-- The parts of a text between points, without an empty last one. -/
def parts (text : List Char) : List (List Char) :=
  match (text.splitOnP (· == '.')).reverse with
  | [] :: rest => rest.reverse
  | all => all.reverse

/-- Whether the last part of a host is a number, so that the host must be an address. -/
def isDemanded (host : List Char) : Bool :=
  match (parts host).getLast? with
  | none => false
  | some last => (!last.isEmpty && last.all Char.isDigit) || (number? last).isSome

/-- The address of some numbers, of which the last fills the bytes that are left. -/
def ofNumbers? (numbers : List Nat) : Option Ipv4 :=
  match numbers.reverse with
  | [] => none
  | last :: before =>
      if before.length ≤ 3 ∧ before.all (· < 256) ∧ last < 256 ^ (4 - before.length) then
        some ⟨BitVec.ofNat 32
          (before.reverse.foldl (256 * · + ·) 0 * 256 ^ (4 - before.length) + last)⟩
      else none

/-- The address that a text gives. -/
def ofText? (text : List Char) : Option Ipv4 :=
  ((parts text).mapM number?).bind ofNumbers?

end Ipv4

end TableStore.Url
