import TableStore.Calendar.Time
import TableStore.Text.Character

/-!
# Reading dates and times

Readers of the written forms of dates and times. Blanks are allowed before a number,
before a separator and at the end. A year without a sign has at most four
digits; with a sign it may have any number, as long as the date stays within the
years that can be represented. Digits of the fraction after the ninth are
dropped, and a time may leave out its seconds unless a date stands before it. The library
`chrono` documents these forms for its texts of dates and times, which JSON carries.
-/

namespace TableStore.Calendar

open TableStore.Decimal TableStore.Text

-- Powers are those of the core library, whatever else is imported.
attribute [local instance (high)] instPowNat

/-- A reader takes a value off the front of a text. -/
abbrev Reader (α : Type) := List Char → Option (α × List Char)

/-- Read between one and `most` digits. -/
def readDigits (most : Nat) : Reader Nat := fun text =>
  let taken := (text.take most).takeWhile Char.isDigit
  (readNat? taken).map fun n => (n, text.drop taken.length)

/-- Read a number of at most two digits after any blanks. -/
def readTwo : Reader Nat := fun text =>
  readDigits 2 (dropBlanks text)

/-- Read a separator after any blanks. -/
def readMark (mark : Char) : Reader Unit := fun text =>
  match dropBlanks text with
  | c :: rest => if c = mark then some ((), rest) else none
  | [] => none

/-- The years that a date may have when it is read. -/
def isReadableYear (year : Int) : Bool :=
  -262143 ≤ year && year ≤ 262142

/-- Read a year. -/
def readYear : Reader Int := fun text =>
  match dropBlanks text with
  | '-' :: rest => (readDigits rest.length rest).map fun (n, rest) => (-(n : Int), rest)
  | '+' :: rest => (readDigits rest.length rest).map fun (n, rest) => ((n : Int), rest)
  | rest => (readDigits 4 rest).map fun (n, rest) => ((n : Int), rest)

/-- Read a date and the blanks after it. -/
def readDate : Reader Date := fun text => do
  let (year, text) ← readYear text
  let (_, text) ← readMark '-' text
  let (month, text) ← readTwo text
  let (_, text) ← readMark '-' text
  let (day, text) ← readTwo text
  let date ← if isReadableYear year then Date.ofParts? year month day else none
  return (date, dropBlanks text)

/-- Read the fraction of a second as nanoseconds; no point reads as zero. -/
def readFraction : Reader Nat := fun text =>
  match text with
  | '.' :: rest =>
      let taken := (rest.take 9).takeWhile Char.isDigit
      (readNat? taken).map fun n =>
        (n * 10 ^ (9 - taken.length), rest.dropWhile Char.isDigit)
  | rest => some (0, rest)

/-- The time with the given written second, where sixty is a leap second. -/
def timeOfWritten? (hour minute second fraction : Nat) : Option Time :=
  if second = 60 then Time.ofParts? hour minute 59 (nanosPerSecond + fraction)
  else Time.ofParts? hour minute second fraction

/-- Read the seconds of a time, with the colon before them and the blanks after. -/
def readSeconds : Reader (Nat × Nat) := fun text => do
  let (_, text) ← readMark ':' text
  let (second, text) ← readTwo text
  let (fraction, text) ← readFraction text
  return ((second, fraction), dropBlanks text)

/-- Read the hours and minutes of a time. -/
def readHourMinute : Reader (Nat × Nat) := fun text => do
  let (hour, text) ← readTwo text
  let (_, text) ← readMark ':' text
  let (minute, text) ← readTwo text
  return ((hour, minute), text)

/-- The date that a whole text is the written form of. -/
def Date.ofText? (text : List Char) : Option Date :=
  match readDate text with
  | some (date, []) => some date
  | _ => none

/-- The time that a whole text is the written form of. -/
def Time.ofText? (text : List Char) : Option Time := do
  let ((hour, minute), text) ← readHourMinute text
  let ((second, fraction), text) := (readSeconds text).getD ((0, 0), dropBlanks text)
  if text.isEmpty then timeOfWritten? hour minute second fraction else none

/-- The date and time that a whole text is the written form of, joined by `T`. -/
def readDateTime? (text : List Char) : Option (Date × Time) := do
  let (date, text) ← readDate text
  let (_, text) ← readMark 'T' text
  let ((hour, minute), text) ← readHourMinute text
  let ((second, fraction), text) ← readSeconds text
  let time ← if text.isEmpty then timeOfWritten? hour minute second fraction else none
  return (date, time)

end TableStore.Calendar
