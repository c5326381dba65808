import TableStore.Json.Number
import TableStore.Proofs.Decimal.Digits

/-!
# Numerals read back

A numeral is well formed when it has whole digits without a zero in front, and at least one digit
wherever a point or an exponent is written. Such a numeral is read from its characters and reading
stops behind it, unless more digits, a point or an exponent follow.

Integers are written as numerals without point and exponent, and they are read back as long as 64
bits hold them.
-/

namespace TableStore.Json

open Decimal

-- Powers are those of the core library, whatever else is imported.
attribute [local instance (high)] instPowNat

/-- The characters of a fraction, if there is one. -/
def fractionChars : Option (List Char) → List Char
  | none => []
  | some ds => '.' :: ds

/-- The characters of an exponent, if there is one. -/
def exponentChars : Option (Bool × List Char) → List Char
  | none => []
  | some (negative, ds) => 'e' :: (if negative then '-' else '+') :: ds

namespace Numeral

/-- The characters of a numeral. -/
def chars (n : Numeral) : List Char :=
  (if n.negative then ['-'] else []) ++
    (n.whole ++ (fractionChars n.fraction ++ exponentChars n.exponent))

/-- Whether a list consists of digits, at least one. -/
def IsDigits (ds : List Char) : Prop :=
  ds ≠ [] ∧ ∀ c ∈ ds, c.isDigit = true

/-- Whether a numeral can stand in a text. -/
structure IsWellFormed (n : Numeral) : Prop where
  whole : IsDigits n.whole
  noLeadingZero : ∀ rest, n.whole = '0' :: rest → rest = []
  fraction : ∀ ds ∈ n.fraction, IsDigits ds
  exponent : ∀ exponent ∈ n.exponent, IsDigits exponent.2

end Numeral

/-- Whether a text does not go on with a number. -/
def EndsNumber (rest : List Char) : Prop :=
  ∀ c ∈ rest.head?, c.isDigit = false ∧ c ≠ '.' ∧ c ≠ 'e' ∧ c ≠ 'E'

theorem endsNumber_nil : EndsNumber [] := by
  simp [EndsNumber]

theorem spanDigits_append {ds rest : List Char} (digits : ∀ c ∈ ds, c.isDigit = true)
    (apart : ∀ c ∈ rest.head?, c.isDigit = false) : spanDigits (ds ++ rest) = (ds, rest) := by
  rw [spanDigits, List.takeWhile_append_of_pos digits, List.dropWhile_append_of_pos digits]
  cases rest with
  | nil => simp
  | cons c rest => simp [apart c rfl]

theorem readWhole_append {ds rest : List Char} (digits : Numeral.IsDigits ds)
    (noLeadingZero : ∀ more, ds = '0' :: more → more = [])
    (apart : ∀ c ∈ rest.head?, c.isDigit = false) :
    readWhole (ds ++ rest) = some (ds, rest) := by
  unfold readWhole
  rw [spanDigits_append digits.2 apart]
  split
  · rename_i empty
    exact absurd (Prod.mk.inj empty).1 digits.1
  · rename_i zero
    cases noLeadingZero _ (Prod.mk.inj zero).1
  · rename_i same
    cases same
    rfl

theorem readFraction_append {fraction : Option (List Char)} {rest : List Char}
    (digits : ∀ ds ∈ fraction, Numeral.IsDigits ds)
    (apart : ∀ c ∈ rest.head?, c.isDigit = false) (noPoint : '.' ∉ rest.head?) :
    readFraction (fractionChars fraction ++ rest) = some (fraction, rest) := by
  cases fraction with
  | none =>
      rw [fractionChars, List.nil_append]
      unfold readFraction
      split
      · simp at noPoint
      · rfl
  | some ds =>
      obtain ⟨nonempty, all⟩ := digits ds rfl
      rw [fractionChars, List.cons_append, readFraction, spanDigits_append all apart]
      split
      · rename_i empty
        exact absurd (Prod.mk.inj empty).1 nonempty
      · rename_i same
        cases same
        rfl

/-- Where a number ends there is no exponent. -/
theorem readExponent_eq_none {rest : List Char} (ends : EndsNumber rest) :
    readExponent rest = some (none, rest) := by
  unfold readExponent
  dsimp only
  split
  · exact absurd rfl (ends 'e' rfl).2.2.1
  · exact absurd rfl (ends 'E' rfl).2.2.2
  · exact absurd rfl (ends 'e' rfl).2.2.1
  · exact absurd rfl (ends 'E' rfl).2.2.2
  · exact absurd rfl (ends 'e' rfl).2.2.1
  · exact absurd rfl (ends 'E' rfl).2.2.2
  · rfl

theorem readExponent_append {exponent : Option (Bool × List Char)} {rest : List Char}
    (digits : ∀ e ∈ exponent, Numeral.IsDigits e.2) (ends : EndsNumber rest) :
    readExponent (exponentChars exponent ++ rest) = some (exponent, rest) := by
  cases exponent with
  | none => exact readExponent_eq_none ends
  | some exponent =>
      obtain ⟨negative, ds⟩ := exponent
      obtain ⟨nonempty, all⟩ := digits _ rfl
      have taken := spanDigits_append all fun c first => (ends c first).1
      rw [exponentChars, List.cons_append, List.cons_append]
      cases negative with
      | false | true =>
          simp only [Bool.false_eq_true, if_true, if_false, readExponent, taken]

/-- What follows the whole digits and what follows the fraction is no part of them. -/
theorem head?_exponentChars_append (exponent : Option (Bool × List Char)) {rest : List Char}
    (ends : EndsNumber rest) :
    ∀ c ∈ (exponentChars exponent ++ rest).head?, c.isDigit = false ∧ c ≠ '.' := by
  intro c first
  cases exponent with
  | none => exact ⟨(ends c first).1, (ends c first).2.1⟩
  | some exponent =>
      cases first
      exact ⟨rfl, by decide⟩

theorem head?_fractionChars_append (fraction : Option (List Char)) {rest : List Char}
    (apart : ∀ c ∈ rest.head?, c.isDigit = false) :
    ∀ c ∈ (fractionChars fraction ++ rest).head?, c.isDigit = false := by
  intro c first
  cases fraction with
  | none => exact apart c first
  | some ds =>
      cases first
      rfl

/-- A well-formed numeral is read from its characters, whatever follows that is no part of it. -/
theorem readNumeral_append {n : Numeral} (wellFormed : n.IsWellFormed) {rest : List Char}
    (ends : EndsNumber rest) : readNumeral (n.chars ++ rest) = some (n, rest) := by
  obtain ⟨negative, whole, fraction, exponent⟩ := n
  obtain ⟨wholeDigits, noLeadingZero, fractionDigits, exponentDigits⟩ := wellFormed
  dsimp only at wholeDigits noLeadingZero fractionDigits exponentDigits
  have apart := head?_exponentChars_append exponent ends
  have wholeRead := readWhole_append wholeDigits noLeadingZero
    (head?_fractionChars_append fraction fun c first => (apart c first).1)
  have fractionRead := readFraction_append fractionDigits (fun c first => (apart c first).1)
    fun first => (apart '.' first).2 rfl
  have exponentRead := readExponent_append exponentDigits ends
  cases negative with
  | true =>
      have text : Numeral.chars ⟨true, whole, fraction, exponent⟩ ++ rest =
          '-' :: (whole ++ (fractionChars fraction ++ (exponentChars exponent ++ rest))) := by
        simp [Numeral.chars]
      simp only [text, readNumeral, wholeRead, fractionRead, exponentRead, Option.bind_eq_bind,
        Option.bind_some, pure]
  | false =>
      have text : Numeral.chars ⟨false, whole, fraction, exponent⟩ ++ rest =
          whole ++ (fractionChars fraction ++ (exponentChars exponent ++ rest)) := by
        simp [Numeral.chars]
      rw [text]
      unfold readNumeral
      split
      rename_i negative unsigned parted
      split at parted
      · rename_i rest' signed
        have first : '-' ∈ whole.head? := by
          cases whole with
          | nil => exact absurd rfl wholeDigits.1
          | cons c ds => exact congrArg List.head? signed
        exact absurd (wholeDigits.2 '-' (List.mem_of_mem_head? first)) (by decide)
      · cases parted
        simp only [wholeRead, fractionRead, exponentRead, Option.bind_eq_bind,
          Option.bind_some, pure]

/-- A number whose literal is a numeral has this numeral. -/
theorem numeral?_chars {n : Numeral} (wellFormed : n.IsWellFormed) :
    (number n.chars).numeral? = some n := by
  have read := readNumeral_append wellFormed endsNumber_nil
  rw [List.append_nil] at read
  rw [numeral?, read, Option.map_some]

/-! ## Integers -/

/-- Only the digits of zero begin with a zero. -/
theorem eq_zero_of_digits {n : Nat} {rest : List Char} (begins : digits n = '0' :: rest) :
    n = 0 := by
  induction n using Nat.strongRecOn generalizing rest with
  | ind n ih =>
      rw [digits, Nat.toDigits_eq_if (by decide)] at begins
      split at begins
      · rename_i small
        have single : ∀ d < 10, Nat.digitChar d = '0' → d = 0 := by decide
        exact single n small (List.cons.inj begins).1
      · rename_i large
        obtain ⟨d, ds, front⟩ := List.exists_cons_of_ne_nil (digits_ne_nil (n / 10))
        rw [← digits, front, List.cons_append] at begins
        rw [(List.cons.inj begins).1] at front
        have none := ih (n / 10) (by omega) front
        omega

/-- The digits of a natural number are whole digits of a numeral. -/
theorem isDigits_digits (n : Nat) : Numeral.IsDigits (digits n) :=
  ⟨digits_ne_nil n, fun _ => isDigit_of_mem_digits⟩

theorem digits_noLeadingZero (n : Nat) (rest : List Char) (begins : digits n = '0' :: rest) :
    rest = [] := by
  rw [eq_zero_of_digits begins] at begins
  exact (List.cons.inj begins).2.symm

/-- The numeral of an integer. -/
def Numeral.ofInt (n : Int) : Numeral :=
  ⟨n < 0, digits n.natAbs, none, none⟩

theorem Numeral.isWellFormed_ofInt (n : Int) : (ofInt n).IsWellFormed where
  whole := isDigits_digits _
  noLeadingZero := digits_noLeadingZero _
  fraction _ absent := by cases absent
  exponent _ absent := by cases absent

theorem Numeral.chars_ofInt (n : Int) : (ofInt n).chars = signed n := by
  by_cases negative : n < 0 <;> simp [chars, ofInt, signed, negative, fractionChars, exponentChars]

/-- The least integer of 64 bits. -/
def leastInteger : Int := -9223372036854775808

/-- An integer that 64 bits hold is the integer of its numeral. -/
theorem Numeral.integer?_ofInt {n : Int} (least : leastInteger ≤ n) (bounded : n < wordBound) :
    (ofInt n).integer? = some n := by
  unfold leastInteger at least
  simp only [integer?, ofInt, readNat?_digits, Option.getD_some, decide_eq_true_eq]
  by_cases negative : n < 0
  · rw [if_pos negative, if_pos (by omega)]
    congr 1
    omega
  · rw [if_neg negative, if_pos (by omega)]
    congr 1
    omega

theorem numeral?_ofInt (n : Int) : (ofInt n).numeral? = some (.ofInt n) := by
  rw [ofInt, ← Numeral.chars_ofInt, numeral?_chars (Numeral.isWellFormed_ofInt n)]

/-- An integer within bounds is read back. -/
theorem integer?_ofInt {least greatest n : Int} (low : leastInteger ≤ least)
    (high : greatest < wordBound) (above : least ≤ n) (below : n ≤ greatest) :
    (ofInt n).integer? least greatest = some n := by
  have whole := Numeral.integer?_ofInt (Int.le_trans low above) (Int.lt_of_le_of_lt below high)
  simp only [integer?, numeral?_ofInt, whole, Option.bind_eq_bind, Option.bind_some]
  exact if_pos ⟨above, below⟩

/-- Machine integers are read back as integers of their width. -/
theorem integer?_ofInt8 (n : Int8) :
    (ofInt n.toInt).integer? Int8.minValue.toInt Int8.maxValue.toInt = some n.toInt :=
  integer?_ofInt (by decide) (by decide) n.minValue_le_toInt n.toInt_le

theorem integer?_ofInt32 (n : Int32) :
    (ofInt n.toInt).integer? Int32.minValue.toInt Int32.maxValue.toInt = some n.toInt :=
  integer?_ofInt (by decide) (by decide) n.minValue_le_toInt n.toInt_le

theorem integer?_ofInt64 (n : Int64) :
    (ofInt n.toInt).integer? Int64.minValue.toInt Int64.maxValue.toInt = some n.toInt :=
  integer?_ofInt (by decide) (by decide) n.minValue_le_toInt n.toInt_le

theorem ofNat_eq_ofInt (n : Nat) : ofNat n = ofInt n :=
  rfl

/-- A natural number of 64 bits is read back. -/
theorem natural?_ofNat {n : Nat} (bounded : n < wordBound) : (ofNat n).natural? = some n := by
  have read : (ofNat n).integer? 0 (wordBound - 1) = some (n : Int) := by
    rw [ofNat_eq_ofInt]
    exact integer?_ofInt (by decide) (by decide) (by omega) (by omega)
  rw [natural?, read]
  rfl

end TableStore.Json
