import TableStore.Decimal.Digits

/-!
# Durations

A duration is a whole number of nanoseconds. It is written in the largest of the
units seconds, milliseconds, microseconds and nanoseconds that it reaches, with the
digits of the fraction that it needs and no more.
-/

namespace TableStore

open Decimal

/-- A span of time that is not negative. -/
structure Duration where
  nanoseconds : Nat
deriving DecidableEq, Repr

namespace Duration

/-- The duration of a number of whole seconds. -/
def ofSeconds (n : Nat) : Duration :=
  ⟨n * 1000000000⟩

/-- The duration of a number of whole milliseconds. -/
def ofMilliseconds (n : Nat) : Duration :=
  ⟨n * 1000000⟩

/-- The whole seconds of a duration. -/
def seconds (duration : Duration) : Nat :=
  duration.nanoseconds / 1000000000

/-- The nanoseconds beyond the whole seconds. -/
def subsecond (duration : Duration) : Nat :=
  duration.nanoseconds % 1000000000

/-- The whole milliseconds of a duration. -/
def milliseconds (duration : Duration) : Nat :=
  duration.nanoseconds / 1000000

/-- Digits without the zeros at their end. -/
def dropTrailingZeros (ds : List Char) : List Char :=
  (ds.reverse.dropWhile (· == '0')).reverse

/-- A number of thousandths, millionths and so on, written as a decimal: `part` out of
`10 ^ places` units follow the point. -/
def decimalText (places whole part : Nat) : List Char :=
  digits whole ++
    match dropTrailingZeros (padded places part) with
    | [] => []
    | ds => '.' :: ds

/-- The written form of a duration. -/
def text (duration : Duration) : String :=
  let n := duration.nanoseconds
  String.ofList <|
    if 1000000000 ≤ n then decimalText 9 (n / 1000000000) (n % 1000000000) ++ ['s']
    else if 1000000 ≤ n then decimalText 6 (n / 1000000) (n % 1000000) ++ ['m', 's']
    else if 1000 ≤ n then decimalText 3 (n / 1000) (n % 1000) ++ ['µ', 's']
    else digits n ++ ['n', 's']

end Duration

end TableStore
