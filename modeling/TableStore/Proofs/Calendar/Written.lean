import Mathlib.Data.List.TakeWhile
import TableStore.Calendar.Reading
import TableStore.Proofs.Calendar.Iso

/-!
# Written dates and times read back

The readers of dates and times allow more than is ever written: blanks between the parts, fewer
digits, any number of digits in a year with a sign. What is written is read as what it was written
for, whatever the year and the fraction of a second, and a leap second too.
-/

namespace TableStore.Calendar

open TableStore.Decimal TableStore.Text

-- Powers are those of the core library, whatever else is imported.
attribute [local instance (high)] instPowNat

/-! ## Parts -/

theorem dropBlanks_cons {c : Char} (shown : isBlank c = false) (rest : List Char) :
    dropBlanks (c :: rest) = c :: rest := by
  simp [dropBlanks, shown]

theorem isBlank_of_isDigit {c : Char} (digit : c.isDigit = true) : isBlank c = false := by
  simp only [Char.isDigit, ge_iff_le, Bool.and_eq_true, decide_eq_true_eq, UInt32.le_iff_toNat_le]
    at digit
  obtain ⟨low, high⟩ := digit
  have least : 48 ≤ c.toNat := low
  have greatest : c.toNat ≤ 57 := high
  simp only [isBlank, Bool.or_eq_false_iff, Bool.and_eq_false_imp, decide_eq_true_eq,
    decide_eq_false_iff_not, beq_eq_false_iff_ne]
  omega

/-- A padded number begins with a digit. -/
theorem exists_padded (width n : Nat) :
    ∃ d ds, padded width n = d :: ds ∧ d.isDigit = true := by
  obtain ⟨d, ds, begins⟩ := List.exists_cons_of_ne_nil (padded_ne_nil width n)
  exact ⟨d, ds, begins, isDigit_of_mem_padded (begins ▸ List.mem_cons_self)⟩

theorem dropBlanks_padded (width n : Nat) (rest : List Char) :
    dropBlanks (padded width n ++ rest) = padded width n ++ rest := by
  obtain ⟨d, ds, begins, digit⟩ := exists_padded width n
  rw [begins, List.cons_append, dropBlanks_cons (isBlank_of_isDigit digit)]

theorem readMark_cons {mark : Char} (shown : isBlank mark = false) (rest : List Char) :
    readMark mark (mark :: rest) = some ((), rest) := by
  simp only [readMark, dropBlanks_cons shown, if_true]

/-- A padded number that is short enough is read whole. -/
theorem readDigits_padded {most width n : Nat} {rest : List Char}
    (fits : (padded width n).length ≤ most) (apart : ∀ c ∈ rest.head?, c.isDigit = false) :
    readDigits most (padded width n ++ rest) = some (n, rest) := by
  have digits : ∀ c ∈ padded width n, c.isDigit = true := fun _ => isDigit_of_mem_padded
  have ends : (rest.take (most - (padded width n).length)).takeWhile Char.isDigit = [] := by
    cases rest with
    | nil => simp
    | cons c rest =>
        have other : c.isDigit = false := apart c rfl
        cases most - (padded width n).length <;> simp [other]
  have taken : ((padded width n ++ rest).take most).takeWhile Char.isDigit = padded width n := by
    rw [List.take_append, List.take_of_length_le fits, List.takeWhile_append_of_pos digits, ends,
      List.append_nil]
  rw [readDigits, taken, readNat?_padded, List.drop_left]
  rfl

/-- A number of two digits is read. -/
theorem readTwo_padded {n : Nat} {rest : List Char} (fits : n < 100)
    (apart : ∀ c ∈ rest.head?, c.isDigit = false) :
    readTwo (padded 2 n ++ rest) = some (n, rest) := by
  rw [readTwo, dropBlanks_padded]
  exact readDigits_padded (Nat.le_of_eq (length_padded (by decide) fits)) apart

/-! ## Dates -/

/-- The year of a date is read, with its sign if it has one. -/
theorem readYear_yearText (year : Int) {rest : List Char}
    (apart : ∀ c ∈ rest.head?, c.isDigit = false) :
    readYear (Date.yearText year ++ rest) = some (year, rest) := by
  have all (n : Nat) : readDigits (padded 4 n ++ rest).length (padded 4 n ++ rest) =
      some (n, rest) :=
    readDigits_padded (by simp) apart
  unfold Date.yearText
  split
  · rename_i fourDigits
    have short : (padded 4 year.toNat).length ≤ 4 :=
      Nat.le_of_eq (length_padded (by decide) (by omega))
    have whole : ((year.toNat : Nat) : Int) = year := by omega
    obtain ⟨d, ds, begins, digit⟩ := exists_padded 4 year.toNat
    have read := readDigits_padded short apart
    unfold readYear
    rw [dropBlanks_padded]
    split
    · rename_i signed
      rw [begins] at signed
      cases signed
      cases digit
    · rename_i signed
      rw [begins] at signed
      cases signed
      cases digit
    · simp only [read, Option.map_some, whole]
  · by_cases negative : year < 0
    · have whole : -((year.natAbs : Nat) : Int) = year := by omega
      rw [if_pos negative, List.cons_append]
      simp only [readYear, dropBlanks_cons (show isBlank '-' = false from rfl), all,
        Option.map_some, whole]
    · have whole : ((year.natAbs : Nat) : Int) = year := by omega
      rw [if_neg negative, List.cons_append]
      simp only [readYear, dropBlanks_cons (show isBlank '+' = false from rfl), all,
        Option.map_some, whole]

/-- Every date of a year that can be read is read from its text, and reading stops behind it. -/
theorem readDate_text {date : Date} (readable : isReadableYear date.year = true) {rest : List Char}
    (apart : ∀ c ∈ rest.head?, c.isDigit = false) :
    readDate (date.text ++ rest) = some (date, dropBlanks rest) := by
  have month := date.month_le
  have day := date.day_le
  have hyphen (rest : List Char) : ∀ c ∈ ('-' :: rest).head?, c.isDigit = false := by
    rintro _ ⟨⟩
    rfl
  have yearRead (rest : List Char) := readYear_yearText date.year (hyphen rest)
  have monthRead (rest : List Char) := readTwo_padded (n := date.month) (by omega) (hyphen rest)
  have dayRead := readTwo_padded (n := date.day) (by omega) apart
  have mark (rest : List Char) : readMark '-' ('-' :: rest) = some ((), rest) :=
    readMark_cons rfl rest
  rw [Date.text]
  simp only [readDate, List.append_assoc, List.cons_append, yearRead, mark, monthRead, dayRead,
    readable, if_true, Date.ofParts?_parts, Option.bind_eq_bind, Option.bind_some, pure]

/-- A date of a year that can be read is the date of its text. -/
theorem Date.ofText?_text {date : Date} (readable : isReadableYear date.year = true) :
    Date.ofText? date.text = some date := by
  have ends : ∀ c ∈ ([] : List Char).head?, c.isDigit = false := by simp
  have read := readDate_text readable ends
  rw [List.append_nil] at read
  rw [Date.ofText?, read]
  rfl

/-! ## Times -/

/-- The seconds as they are written: a leap second is the sixtieth. -/
def Time.writtenSecond (time : Time) : Nat :=
  time.second + time.nanos / nanosPerSecond

/-- The fraction as it is written. -/
def Time.fractionText (time : Time) : List Char :=
  if time.fraction = 0 then []
  else if time.fraction % 1000000 = 0 then '.' :: padded 3 (time.fraction / 1000000)
  else if time.fraction % 1000 = 0 then '.' :: padded 6 (time.fraction / 1000)
  else '.' :: padded 9 time.fraction

theorem Time.text_eq (time : Time) :
    time.text = padded 2 time.hour ++ ':' :: (padded 2 time.minute ++ ':' ::
      (padded 2 time.writtenSecond ++ time.fractionText)) := by
  simp [text, clockText, writtenSecond, fractionText]

/-- The time with the seconds that were written for it is the time again. -/
theorem timeOfWritten?_written (time : Time) :
    timeOfWritten? time.hour time.minute time.writtenSecond time.fraction = some time := by
  have clock := time.isClock
  simp only [Calendar.isClock, Bool.and_eq_true, Bool.or_eq_true, decide_eq_true_eq,
    beq_iff_eq] at clock
  obtain ⟨⟨-, second⟩, ordinary | ⟨last, leap⟩⟩ := clock
  · have written : time.writtenSecond = time.second := by
      rw [Time.writtenSecond, Nat.div_eq_of_lt ordinary, Nat.add_zero]
    rw [timeOfWritten?, written, if_neg (by omega), Time.fraction, Nat.mod_eq_of_lt ordinary,
      Time.ofParts?_parts]
  · by_cases ordinary : time.nanos < nanosPerSecond
    · have written : time.writtenSecond = time.second := by
        rw [Time.writtenSecond, Nat.div_eq_of_lt ordinary, Nat.add_zero]
      rw [timeOfWritten?, written, if_neg (by omega), Time.fraction, Nat.mod_eq_of_lt ordinary,
        Time.ofParts?_parts]
    · have written : time.writtenSecond = 60 := by
        unfold Time.writtenSecond
        unfold nanosPerSecond at ordinary leap ⊢
        omega
      have whole : nanosPerSecond + time.fraction = time.nanos := by
        unfold Time.fraction
        unfold nanosPerSecond at ordinary leap ⊢
        omega
      rw [timeOfWritten?, if_pos written, whole, ← last, Time.ofParts?_parts]

/-- A fraction is read from its digits. -/
theorem readFraction_padded {width n : Nat} (positive : 0 < width) (fits : n < 10 ^ width)
    (atMost : width ≤ 9) :
    readFraction ('.' :: padded width n) = some (n * 10 ^ (9 - width), []) := by
  have digits : ∀ c ∈ padded width n, c.isDigit = true := fun _ => isDigit_of_mem_padded
  have length := length_padded positive fits
  have taken : ((padded width n).take 9).takeWhile Char.isDigit = padded width n := by
    rw [List.take_of_length_le (by omega)]
    exact List.takeWhile_eq_self_iff.mpr digits
  have rest : (padded width n).dropWhile Char.isDigit = [] :=
    List.dropWhile_eq_nil_iff.mpr digits
  simp only [readFraction, taken, rest, length, readNat?_padded, Option.map_some]

theorem readFraction_fractionText (time : Time) :
    readFraction time.fractionText = some (time.fraction, []) := by
  have bounded : time.fraction < 10 ^ 9 := Nat.mod_lt _ (by decide)
  unfold Time.fractionText
  split
  · rename_i none
    rw [none]
    rfl
  split
  · rw [readFraction_padded (by decide) (by omega) (by decide)]
    congr 2
    omega
  split
  · rw [readFraction_padded (by decide) (by omega) (by decide)]
    congr 2
    omega
  · rw [readFraction_padded (by decide) (by omega) (by decide)]
    congr 2
    omega

/-- The hours and minutes of a time are read. -/
theorem readHourMinute_text (time : Time) (rest : List Char) :
    readHourMinute (padded 2 time.hour ++ ':' :: (padded 2 time.minute ++ ':' :: rest)) =
      some ((time.hour, time.minute), ':' :: rest) := by
  have clock := time.isClock
  simp only [Calendar.isClock, Bool.and_eq_true, decide_eq_true_eq] at clock
  have colon (rest : List Char) : ∀ c ∈ (':' :: rest).head?, c.isDigit = false := by
    rintro _ ⟨⟩
    rfl
  have hourRead (rest : List Char) := readTwo_padded (n := time.hour) (by omega) (colon rest)
  have minuteRead (rest : List Char) := readTwo_padded (n := time.minute) (by omega) (colon rest)
  have mark (rest : List Char) : readMark ':' (':' :: rest) = some ((), rest) :=
    readMark_cons rfl rest
  simp only [readHourMinute, hourRead, mark, minuteRead, Option.bind_eq_bind, Option.bind_some,
    pure]

/-- The seconds of a time are read, and nothing is left over. -/
theorem readSeconds_text (time : Time) :
    readSeconds (':' :: (padded 2 time.writtenSecond ++ time.fractionText)) =
      some ((time.writtenSecond, time.fraction), []) := by
  have written : time.writtenSecond < 100 := by
    have clock := time.isClock
    simp only [Calendar.isClock, Bool.and_eq_true, Bool.or_eq_true, decide_eq_true_eq,
      beq_iff_eq] at clock
    unfold Time.writtenSecond
    unfold nanosPerSecond at clock ⊢
    omega
  have apart : ∀ c ∈ time.fractionText.head?, c.isDigit = false := by
    unfold Time.fractionText
    split
    · simp
    split
    · rintro _ ⟨⟩
      rfl
    split
    · rintro _ ⟨⟩
      rfl
    · rintro _ ⟨⟩
      rfl
  have mark (rest : List Char) : readMark ':' (':' :: rest) = some ((), rest) :=
    readMark_cons rfl rest
  simp only [readSeconds, mark, readTwo_padded written apart, readFraction_fractionText,
    Option.bind_eq_bind, Option.bind_some, pure]
  rfl

/-- Every time is the time of its text. -/
theorem Time.ofText?_text (time : Time) : Time.ofText? time.text = some time := by
  simp only [ofText?, text_eq, readHourMinute_text, readSeconds_text, Option.bind_eq_bind,
    Option.bind_some, Option.getD_some, List.isEmpty_nil, if_true, timeOfWritten?_written]

/-- A date of a year that can be read is read together with a time. -/
theorem readDateTime?_text {date : Date} (readable : isReadableYear date.year = true)
    (time : Time) : readDateTime? (date.text ++ 'T' :: time.text) = some (date, time) := by
  have apart : ∀ c ∈ ('T' :: time.text).head?, c.isDigit = false := by
    rintro _ ⟨⟩
    rfl
  have dateRead := readDate_text readable apart
  rw [dropBlanks_cons (by decide)] at dateRead
  have mark : readMark 'T' ('T' :: time.text) = some ((), time.text) := readMark_cons rfl _
  have hourMinute := readHourMinute_text time (padded 2 time.writtenSecond ++ time.fractionText)
  rw [← Time.text_eq] at hourMinute
  simp only [readDateTime?, dateRead, mark, hourMinute, readSeconds_text, Option.bind_eq_bind,
    Option.bind_some, List.isEmpty_nil, if_true, timeOfWritten?_written, pure]

end TableStore.Calendar
