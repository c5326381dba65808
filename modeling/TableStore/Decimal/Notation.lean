import TableStore.Decimal.Shortest

/-!
# Decimal notations of binary numbers

Two notations write a binary number with the digits of its shortest decimal. The
positional notation never uses an exponent and gives whole numbers no point. The
scientific notation keeps a point in whole numbers and switches to an exponent
outside a range of magnitudes.

Both write the sign of zero and are about finite numbers. A text of any number is positional,
takes the larger neighbour where two are equally near, and names what has no digits.
-/

namespace TableStore

open Binary

namespace Decimal

variable {format : Format}

/-- Digits with a point after the first `point` of them; a point left of the digits
puts zeros between, and one right of them puts zeros after. -/
def placePoint (ds : List Char) (point : Int) : List Char :=
  if point ≤ 0 then
    '0' :: '.' :: (List.replicate (-point).toNat '0' ++ ds)
  else if ds.length ≤ point.toNat then
    ds ++ List.replicate (point.toNat - ds.length) '0'
  else
    ds.take point.toNat ++ '.' :: ds.drop point.toNat

/-- The position of the point of a scaled number, counted from its first digit. -/
def Scaled.point (scaled : Scaled) : Int :=
  (digits scaled.coefficient).length + scaled.exponent

/-- The positional notation of a finite number without its sign. -/
def positionalMagnitude (tie : Tie) (x : Number format) : List Char :=
  if x.magnitude = 0 then ['0']
  else
    let scaled := shortest tie x
    placePoint (digits scaled.coefficient) scaled.point

/-- The positional notation of a finite number. -/
def positional (tie : Tie) (x : Number format) : List Char :=
  if x.isNegative then '-' :: positionalMagnitude tie x else positionalMagnitude tie x

/-- The range of point positions for which scientific notation needs no exponent. -/
structure PositionalRange where
  least : Int
  greatest : Int

/-- Digits with a point after the first, followed by a signed exponent of ten. -/
def withExponent (ds : List Char) (exponent : Int) : List Char :=
  let mantissa :=
    match ds with
    | [] => []
    | [d] => [d]
    | d :: rest => d :: '.' :: rest
  let sign := if exponent < 0 then '-' else '+'
  mantissa ++ 'e' :: sign :: digits exponent.natAbs

/-- The scientific notation of a finite number without its sign. -/
def scientificMagnitude (range : PositionalRange) (x : Number format) : List Char :=
  if x.magnitude = 0 then ['0', '.', '0']
  else
    let scaled := shortest .toEven x
    let ds := digits scaled.coefficient
    let point := scaled.point
    if point < range.least || range.greatest < point then withExponent ds (point - 1)
    else if 0 ≤ scaled.exponent then placePoint ds point ++ ['.', '0']
    else placePoint ds point

/-- The scientific notation of a finite number. -/
def scientific (range : PositionalRange) (x : Number format) : List Char :=
  if x.isNegative then '-' :: scientificMagnitude range x else scientificMagnitude range x

end Decimal

/-- The text of a binary number, with a name for infinity. -/
def Binary.Number.textNaming {format : Format} (infinity : String) (x : Number format) : String :=
  if x.isNaN then "NaN"
  else if x.isInfinite then if x.isNegative then "-" ++ infinity else infinity
  else String.ofList (Decimal.positional .upward x)

/-- The text of a binary number in messages. -/
def Binary.Number.decimalText {format : Format} (x : Number format) : String :=
  x.textNaming "inf"

/-- The text of an integer. -/
def integerText (n : Int) : String :=
  String.ofList (Decimal.signed n)

end TableStore
