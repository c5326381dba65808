import TableStore.Decimal.Digits

/-!
# Calendar dates

A date is a day of the proleptic Gregorian calendar, without a zone. Years may be
zero or negative; every fourth year is a leap year save the centuries not divisible
by four hundred.

The written form is year, month and day joined by hyphens. A year of at most
four digits is padded to four, and any other year carries its sign.
-/

namespace TableStore.Calendar

open TableStore.Decimal

/-- Whether February of a year has twenty-nine days. -/
def isLeapYear (year : Int) : Bool :=
  year % 4 == 0 && (year % 100 != 0 || year % 400 == 0)

/-- The number of days of a month of a year; zero for a month that does not exist. -/
def daysInMonth (year : Int) (month : Nat) : Nat :=
  match month with
  | 2 => if isLeapYear year then 29 else 28
  | 4 | 6 | 9 | 11 => 30
  | 1 | 3 | 5 | 7 | 8 | 10 | 12 => 31
  | _ => 0

/-- Whether a year, a month and a day name a day of the calendar. -/
def isDay (year : Int) (month day : Nat) : Bool :=
  1 ≤ day && day ≤ daysInMonth year month

/-- A day of the calendar. -/
structure Date where
  year : Int
  month : Nat
  day : Nat
  isDay : isDay year month day = true
deriving DecidableEq

namespace Date

/-- The day with the given year, month and day of month, if the calendar has it. -/
def ofParts? (year : Int) (month day : Nat) : Option Date :=
  if h : Calendar.isDay year month day = true then some ⟨year, month, day, h⟩ else none

theorem ofParts?_parts (date : Date) :
    ofParts? date.year date.month date.day = some date := by
  simp [ofParts?, date.isDay]

/-- Chronological order. -/
def compare (a b : Date) : Ordering :=
  (Ord.compare a.year b.year).then
    ((Ord.compare a.month b.month).then (Ord.compare a.day b.day))

/-- The written form of a year. -/
def yearText (year : Int) : List Char :=
  if 0 ≤ year ∧ year ≤ 9999 then padded 4 year.toNat
  else (if year < 0 then '-' else '+') :: padded 4 year.natAbs

/-- The written form of a date. -/
def text (date : Date) : List Char :=
  yearText date.year ++ '-' :: padded 2 date.month ++ '-' :: padded 2 date.day

end Date

end TableStore.Calendar
