import TableStore.Calendar.Date

/-!
# Times of day

A time of day counts hours, minutes, seconds and nanoseconds, without a zone. A leap
second is the second after second fifty-nine: its nanoseconds start at one
thousand million and it is written as second sixty.

The written form shows as many digits of the fraction as the time needs, in
groups of three; the form for storage always shows six.
-/

namespace TableStore.Calendar

open TableStore.Decimal

/-- The number of nanoseconds of one second. -/
def nanosPerSecond : Nat :=
  1000000000

/-- Whether four numbers name a time of day. -/
def isClock (hour minute second nanos : Nat) : Bool :=
  hour < 24 && minute < 60 && second < 60 &&
    (nanos < nanosPerSecond || (second == 59 && nanos < 2 * nanosPerSecond))

/-- A time of day. -/
structure Time where
  hour : Nat
  minute : Nat
  second : Nat
  nanos : Nat
  isClock : isClock hour minute second nanos = true
deriving DecidableEq

namespace Time

/-- The time with the given parts, if there is one. -/
def ofParts? (hour minute second nanos : Nat) : Option Time :=
  if h : Calendar.isClock hour minute second nanos = true then
    some ⟨hour, minute, second, nanos, h⟩
  else none

theorem ofParts?_parts (time : Time) :
    ofParts? time.hour time.minute time.second time.nanos = some time := by
  simp [ofParts?, time.isClock]

/-- Chronological order. -/
def compare (a b : Time) : Ordering :=
  (Ord.compare a.hour b.hour).then
    ((Ord.compare a.minute b.minute).then
      ((Ord.compare a.second b.second).then (Ord.compare a.nanos b.nanos)))

/-- Whether the time lies in a leap second. -/
def isLeapSecond (time : Time) : Bool :=
  nanosPerSecond ≤ time.nanos

/-- The nanoseconds since the last written second. -/
def fraction (time : Time) : Nat :=
  time.nanos % nanosPerSecond

/-- Hours, minutes and seconds joined by colons. -/
def clockText (time : Time) : List Char :=
  padded 2 time.hour ++ ':' :: padded 2 time.minute ++ ':' ::
    padded 2 (time.second + time.nanos / nanosPerSecond)

/-- The written form of a time, with three, six or nine digits of the fraction or
none, whichever suffices. -/
def text (time : Time) : List Char :=
  let fraction := time.fraction
  time.clockText ++
    if fraction = 0 then []
    else if fraction % 1000000 = 0 then '.' :: padded 3 (fraction / 1000000)
    else if fraction % 1000 = 0 then '.' :: padded 6 (fraction / 1000)
    else '.' :: padded 9 fraction

/-- The written form of a time with six digits of the fraction; the rest is cut off. -/
def microText (time : Time) : List Char :=
  time.clockText ++ '.' :: padded 6 (time.fraction / 1000)

end Time

end TableStore.Calendar
