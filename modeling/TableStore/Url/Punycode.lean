/-!
# Punycode

A text is written in ASCII as its ASCII characters, a hyphen, and the numbers that tell
how the other characters are put in between them, in ascending order. Each number is the
distance from one insertion to the next, counted over code points and places, and is
written in base thirty-six with digits whose weights adapt to the numbers before.
-/

namespace TableStore.Url.Punycode

/-- The number of digits. -/
def base : Nat := 36

/-- The least threshold of a digit. -/
def leastThreshold : Nat := 1

/-- The greatest threshold of a digit. -/
def greatestThreshold : Nat := 26

/-- The first code point that is written as a number. -/
def firstInserted : Nat := 0x80

/-- The bias before the first number. -/
def firstBias : Nat := 72

/-- The digit of a value. -/
def digitChar (value : Nat) : Char :=
  Char.ofNat (if value < 26 then 'a'.toNat + value else '0'.toNat + (value - 26))

/-- The value of a digit in small letters. -/
def digitValue? (c : Char) : Option Nat :=
  if c.isLower then some (c.toNat - 'a'.toNat)
  else if c.isDigit then some (c.toNat - '0'.toNat + 26)
  else none

/-- The digits below the threshold of a position end a number. -/
def threshold (bias position : Nat) : Nat :=
  min (max (base * (position + 1) - bias) leastThreshold) greatestThreshold

theorem leastThreshold_le_threshold (bias position : Nat) :
    leastThreshold ≤ threshold bias position := by
  simp only [threshold, leastThreshold, greatestThreshold]
  omega

/-- How often a number is divided until it is small, and what is left of it. -/
def shrink (n : Nat) : Nat × Nat :=
  if (base - leastThreshold) * greatestThreshold / 2 < n then
    let (steps, left) := shrink (n / (base - leastThreshold))
    (steps + 1, left)
  else (0, n)
termination_by n
decreasing_by
  simp only [base, leastThreshold, greatestThreshold] at *
  omega

/-- The bias after a number, with which the text has some size. -/
def adapt (delta size : Nat) (isFirst : Bool) : Nat :=
  let scaled := if isFirst then delta / 700 else delta / 2
  let (steps, left) := shrink (scaled + scaled / size)
  base * steps + base * left / (left + 38)

/-- The digits of a number from a position on. -/
def digitsFrom (bias position n : Nat) : List Char :=
  let t := threshold bias position
  if n < t then [digitChar n]
  else
    digitChar (t + (n - t) % (base - t)) :: digitsFrom bias (position + 1) ((n - t) / (base - t))
termination_by n
decreasing_by
  have positive := leastThreshold_le_threshold bias position
  have smaller := Nat.div_le_self (n - threshold bias position) (base - threshold bias position)
  simp only [leastThreshold] at positive
  omega

/-- The number that digits begin with, from a position on and with the weight of its
digit, and the rest of the digits. -/
def readNumber? (bias position weight : Nat) : List Char → Option (Nat × List Char)
  | [] => none
  | c :: rest => do
      let digit ← digitValue? c
      let t := threshold bias position
      if digit < t then return (digit * weight, rest)
      let (n, rest) ← readNumber? bias (position + 1) (weight * (base - t)) rest
      return (digit * weight + n, rest)

theorem length_lt_of_readNumber? {bias position weight n : Nat} {text rest : List Char}
    (read : readNumber? bias position weight text = some (n, rest)) :
    rest.length < text.length := by
  induction text generalizing position weight n rest with
  | nil => simp [readNumber?] at read
  | cons c tail ih =>
      simp only [readNumber?, Option.bind_eq_bind, Option.bind_eq_some_iff] at read
      obtain ⟨digit, -, read⟩ := read
      split at read
      · simp only [pure, Option.some.injEq, Prod.mk.injEq] at read
        simp [← read.2]
      · obtain ⟨⟨m, left⟩, inner, same⟩ := Option.bind_eq_some_iff.1 read
        simp only [pure, Option.some.injEq, Prod.mk.injEq] at same
        have := ih inner
        simp only [← same.2, List.length_cons]
        omega

/-- Where the next character may be put: its least code point, and for that code point
its least place. -/
structure Cursor where
  code : Nat := firstInserted
  place : Nat := 0
  bias : Nat := firstBias
  size : Nat
  isFirst : Bool := true

/-- The cursor after a character was put at a place, a number of steps away. -/
def Cursor.after (cursor : Cursor) (delta code place : Nat) : Cursor where
  code := code
  place := place + 1
  bias := adapt delta (cursor.size + 1) cursor.isFirst
  size := cursor.size + 1
  isFirst := false

/-- The characters of a text that are no ASCII, in ascending order, each with the number of
characters before it that are not greater. -/
def insertions (text : List Char) : List (Char × Nat) :=
  let inserted := (text.filter (firstInserted ≤ ·.toNat)).mergeSort (· ≤ ·)
  inserted.eraseDups.flatMap fun c =>
    (List.range text.length).filterMap fun i =>
      if text[i]? = some c then some (c, (text.take i).countP (· ≤ c)) else none

/-- The digits of insertions from a cursor on. -/
def writeInsertions (cursor : Cursor) : List (Char × Nat) → List Char
  | [] => []
  | (c, place) :: rest =>
      let delta := (c.toNat - cursor.code) * (cursor.size + 1) + place - cursor.place
      digitsFrom cursor.bias 0 delta ++
        writeInsertions (cursor.after delta c.toNat place) rest

/-- The form of a text in ASCII. -/
def encode (text : List Char) : List Char :=
  let basic := text.filter (·.toNat < firstInserted)
  basic ++ (if basic.isEmpty then [] else ['-']) ++
    writeInsertions { size := basic.length } (insertions text)

/-- A text with the insertions that digits give from a cursor on. -/
def readInsertions (cursor : Cursor) (text digits : List Char) : Option (List Char) :=
  if digits.isEmpty then some text
  else
    match read : readNumber? cursor.bias 0 1 digits with
    | none => none
    | some (delta, rest) =>
        let total := cursor.place + delta
        let code := cursor.code + total / (cursor.size + 1)
        let place := total % (cursor.size + 1)
        if code.isValidChar then
          readInsertions (cursor.after delta code place)
            (text.insertIdx place (Char.ofNat code)) rest
        else none
termination_by digits.length
decreasing_by exact length_lt_of_readNumber? read

/-- The text that a form in ASCII stands for. -/
def decode? (text : List Char) : Option (List Char) :=
  let (last, before) := text.reverse.span (· != '-')
  match before with
  | [] | ['-'] => readInsertions { size := 0 } [] text
  | _ :: basic => readInsertions { size := basic.length } basic.reverse last.reverse

end TableStore.Url.Punycode
