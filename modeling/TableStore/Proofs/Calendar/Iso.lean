import TableStore.Calendar.Time
import TableStore.Proofs.Decimal.Digits

/-!
# Dates and times at fixed width

Dates of four-digit years and times of whole microseconds are written with numbers of a fixed
width each, so they are read by taking that many digits at a time. Both read back as what was
written for every date and time that can be stored.
-/

namespace TableStore.Calendar

open TableStore.Decimal

-- Powers are those of the core library, whatever else is imported.
attribute [local instance (high)] instPowNat

/-- Read a number of exactly as many digits as the width. -/
def readFixed? (width : Nat) (text : List Char) : Option (Nat × List Char) :=
  if width ≤ text.length then
    (readNat? (text.take width)).map fun n => (n, text.drop width)
  else none

/-- Read one given character. -/
def skip? (mark : Char) : List Char → Option (List Char)
  | [] => none
  | c :: rest => if c = mark then some rest else none

@[simp]
theorem skip?_cons (mark : Char) (rest : List Char) : skip? mark (mark :: rest) = some rest :=
  if_pos rfl

theorem readFixed?_padded (width n : Nat) (rest : List Char) (positive : 0 < width)
    (fits : n < 10 ^ width) : readFixed? width (padded width n ++ rest) = some (n, rest) := by
  have length := length_padded positive fits
  have taken : (padded width n ++ rest).take width = padded width n := by
    rw [List.take_append_of_le_length (by omega), List.take_of_length_le (by omega)]
  have dropped : (padded width n ++ rest).drop width = rest := by
    rw [List.drop_append_of_le_length (by omega), List.drop_of_length_le (by omega)]
    rfl
  rw [readFixed?, if_pos (by rw [List.length_append]; omega), taken, dropped, readNat?_padded]
  rfl

/-- Read a date of a four-digit year. -/
def readIsoDate? (text : List Char) : Option (Date × List Char) := do
  let (year, text) ← readFixed? 4 text
  let text ← skip? '-' text
  let (month, text) ← readFixed? 2 text
  let text ← skip? '-' text
  let (day, text) ← readFixed? 2 text
  let date ← Date.ofParts? year month day
  return (date, text)

/-- Read a time of whole microseconds. -/
def readIsoTime? (text : List Char) : Option (Time × List Char) := do
  let (hour, text) ← readFixed? 2 text
  let text ← skip? ':' text
  let (minute, text) ← readFixed? 2 text
  let text ← skip? ':' text
  let (second, text) ← readFixed? 2 text
  let text ← skip? '.' text
  let (micros, text) ← readFixed? 6 text
  let time ← Time.ofParts? hour minute second (micros * 1000)
  return (time, text)

theorem daysInMonth_le (year : Int) (month : Nat) : daysInMonth year month ≤ 31 := by
  unfold daysInMonth
  split
  · split <;> omega
  all_goals omega

theorem Date.month_le (date : Date) : date.month ≤ 12 := by
  have named := date.isDay
  simp only [Calendar.isDay, Bool.and_eq_true, decide_eq_true_eq] at named
  apply Nat.le_of_not_lt
  intro large
  have none : daysInMonth date.year date.month = 0 := by
    unfold daysInMonth
    split <;> omega
  omega

theorem Date.day_le (date : Date) : date.day ≤ 31 := by
  have named := date.isDay
  simp only [Calendar.isDay, Bool.and_eq_true, decide_eq_true_eq] at named
  exact Nat.le_trans named.2 (daysInMonth_le date.year date.month)

/-- A date of a four-digit year reads back. -/
theorem readIsoDate?_text {date : Date} (rest : List Char)
    (fourDigits : 0 ≤ date.year ∧ date.year ≤ 9999) :
    readIsoDate? (date.text ++ rest) = some (date, rest) := by
  have year : ((date.year.toNat : Nat) : Int) = date.year := by omega
  have monthFits := date.month_le
  have dayFits := date.day_le
  have yearRead := fun rest =>
    readFixed?_padded 4 date.year.toNat rest (by decide) (by omega)
  have monthRead := fun rest =>
    readFixed?_padded 2 date.month rest (by decide) (by omega)
  have dayRead := fun rest =>
    readFixed?_padded 2 date.day rest (by decide) (by omega)
  rw [Date.text, Date.yearText, if_pos fourDigits]
  simp only [readIsoDate?, List.append_assoc, List.cons_append, yearRead, monthRead, dayRead,
    skip?_cons, Option.bind_eq_bind, Option.bind_some, year, Date.ofParts?_parts, pure]

/-- A time of whole microseconds outside a leap second reads back. -/
theorem readIsoTime?_microText {time : Time} (rest : List Char)
    (noLeap : time.isLeapSecond = false) (whole : time.nanos % 1000 = 0) :
    readIsoTime? (time.microText ++ rest) = some (time, rest) := by
  have clock := time.isClock
  simp only [Calendar.isClock, Bool.and_eq_true, decide_eq_true_eq] at clock
  obtain ⟨⟨⟨hourFits, minuteFits⟩, secondFits⟩, -⟩ := clock
  have below : time.nanos < nanosPerSecond := by
    simpa [Time.isLeapSecond] using noLeap
  have noCarry : time.second + time.nanos / nanosPerSecond = time.second := by
    rw [Nat.div_eq_of_lt below, Nat.add_zero]
  have fraction : time.fraction = time.nanos := Nat.mod_eq_of_lt below
  have micros : time.nanos / 1000 * 1000 = time.nanos := by omega
  have microsFit : time.nanos / 1000 < 10 ^ 6 := by
    unfold nanosPerSecond at below
    omega
  have hourRead := fun rest =>
    readFixed?_padded 2 time.hour rest (by decide) (by omega)
  have minuteRead := fun rest =>
    readFixed?_padded 2 time.minute rest (by decide) (by omega)
  have secondRead := fun rest =>
    readFixed?_padded 2 time.second rest (by decide) (by omega)
  have microsRead := fun rest => readFixed?_padded 6 _ rest (by decide) microsFit
  rw [Time.microText, Time.clockText, noCarry, fraction]
  simp only [readIsoTime?, List.append_assoc, List.cons_append, hourRead, minuteRead,
    secondRead, microsRead, skip?_cons, Option.bind_eq_bind, Option.bind_some, micros,
    Time.ofParts?_parts, pure]

end TableStore.Calendar
