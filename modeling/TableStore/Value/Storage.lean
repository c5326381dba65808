import TableStore.Value.Basic

/-!
# What can be stored exactly

Dates and times can be stored within the years one to 9999 and in whole microseconds,
leap seconds left out. Every other value can be stored as it is.
-/

namespace TableStore

open Calendar

/-- Why a value cannot be stored exactly. -/
inductive StorageIssue where
  | yearOutside (year : Int)
  | leapSecond (time : Time)
  | finerThanMicrosecond (time : Time)
deriving DecidableEq

namespace StorageIssue

/-- The first year that can be stored. -/
def leastYear : Int := 1

/-- The last year that can be stored. -/
def greatestYear : Int := 9999

/-- The description of an issue. -/
def message : StorageIssue → String
  | .yearOutside year => s!"year {year} is outside {leastYear}..={greatestYear}"
  | .leapSecond time => String.ofList time.text ++ " is a leap second"
  | .finerThanMicrosecond time => String.ofList time.text ++ " is finer than a microsecond"

/-- What keeps a date from being stored. -/
def ofDate? (date : Date) : Option StorageIssue :=
  if leastYear ≤ date.year ∧ date.year ≤ greatestYear then none
  else some (.yearOutside date.year)

/-- What keeps a time from being stored. -/
def ofTime? (time : Time) : Option StorageIssue :=
  if time.isLeapSecond then some (.leapSecond time)
  else if time.nanos % 1000 ≠ 0 then some (.finerThanMicrosecond time)
  else none

end StorageIssue

namespace Value

/-- Why a value cannot be stored exactly, if it cannot; the date of a date and time
comes first. -/
def storageIssue? : Value → Option StorageIssue
  | .localDate date => StorageIssue.ofDate? date
  | .localTime time => StorageIssue.ofTime? time
  | .localDateTime date time => (StorageIssue.ofDate? date).or (StorageIssue.ofTime? time)
  | _ => none

end Value

end TableStore
