import TableStore.Decimal.Digits
import TableStore.Hex

/-!
# IPv6 addresses

An address is eight pieces of sixteen bits, written in hexadecimal between colons. One
run of zero pieces may be left out where two colons meet, and the last two pieces may be
given as four bytes in decimal. Writing leaves out the first of the longest runs of at
least two zeros.
-/

namespace TableStore.Url

open Decimal

/-- The eight pieces of an address. -/
structure Ipv6 where
  pieces : List UInt16
  length : pieces.length = 8
deriving DecidableEq

namespace Ipv6

/-- The value of a byte in decimal, without leading zeros. -/
def byte? (text : List Char) : Option Nat := do
  let n ← readNat? text
  if n < 256 ∧ digits n = text then some n else none

/-- The two pieces that four bytes in decimal between points give. -/
def bytePieces? (text : List Char) : Option (List UInt16) := do
  match ← (text.splitOnP (· == '.')).mapM byte? with
  | [a, b, c, d] => some [UInt16.ofNat (a * 256 + b), UInt16.ofNat (c * 256 + d)]
  | _ => none

/-- The piece of one to four hexadecimal digits. -/
def piece? (text : List Char) : Option UInt16 :=
  if text.isEmpty || 4 < text.length then none
  else (Hex.readBase? 16 text).map UInt16.ofNat

/-- The pieces of parts between colons; only the very last part may be four bytes in
decimal. -/
def partPieces? (mayEndInBytes : Bool) : List (List Char) → Option (List UInt16)
  | [] => some []
  | [part] =>
      if mayEndInBytes && part.contains '.' then bytePieces? part
      else (piece? part).map fun piece => [piece]
  | part :: rest => do
      let piece ← piece? part
      let rest ← partPieces? mayEndInBytes rest
      return piece :: rest

/-- The pieces of a text; an empty text has none. -/
def textPieces? (mayEndInBytes : Bool) (text : List Char) : Option (List UInt16) :=
  if text.isEmpty then some [] else partPieces? mayEndInBytes (text.splitOnP (· == ':'))

/-- The texts before and after the first two colons that meet. -/
def splitAtGap? : List Char → Option (List Char × List Char)
  | [] => none
  | ':' :: ':' :: rest => some ([], rest)
  | c :: rest => (splitAtGap? rest).map fun (before, after) => (c :: before, after)

/-- The address with the given pieces, if there are eight. -/
def ofPieces? (pieces : List UInt16) : Option Ipv6 :=
  if length : pieces.length = 8 then some ⟨pieces, length⟩ else none

/-- The address that a text gives; a gap stands for at least one zero piece. -/
def ofText? (text : List Char) : Option Ipv6 := do
  match splitAtGap? text with
  | none => ofPieces? (← textPieces? true text)
  | some (before, after) => do
      let before ← textPieces? false before
      let after ← textPieces? true after
      let zeros := 8 - (before.length + after.length)
      if zeros = 0 then none
      else ofPieces? (before ++ List.replicate zeros 0 ++ after)

/-- The number of zero pieces at the beginning. -/
def leadingZeros (pieces : List UInt16) : Nat :=
  (pieces.takeWhile (· == 0)).length

/-- The length of the longest run of zero pieces. -/
def longestRun : List UInt16 → Nat
  | [] => 0
  | piece :: rest => max (leadingZeros (piece :: rest)) (longestRun rest)

/-- The pieces before the first run of zeros of a length and the pieces after it. -/
def splitAtRun (length : Nat) : List UInt16 → List UInt16 × List UInt16
  | [] => ([], [])
  | piece :: rest =>
      if leadingZeros (piece :: rest) = length then ([], (piece :: rest).drop length)
      else
        let (before, after) := splitAtRun length rest
        (piece :: before, after)

/-- Pieces between colons. -/
def joined (pieces : List UInt16) : List Char :=
  [':'].intercalate (pieces.map fun piece => Nat.toDigits 16 piece.toNat)

/-- The written form of an address. -/
def text (address : Ipv6) : List Char :=
  let length := longestRun address.pieces
  if length < 2 then joined address.pieces
  else
    let (before, after) := splitAtRun length address.pieces
    joined before ++ [':', ':'] ++ joined after

end Ipv6

end TableStore.Url
