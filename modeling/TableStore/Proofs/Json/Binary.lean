import TableStore.Proofs.Decimal.Length
import TableStore.Proofs.Decimal.Notation
import TableStore.Proofs.Json.Numeral
import TableStore.Proofs.Json.Scaling

/-!
# Binary numbers read back

The scientific notation of a finite number is a numeral with a point or an exponent. What is read
from it is its digits, which fit in 64 bits, and the power of ten that scales them: the shortest
decimal of the number, except that a whole number comes with one more digit behind the point.

A double comes back when its digits and its power of ten are doubles themselves, so that nothing is
rounded but their product or quotient; otherwise it may come back as a neighbour.
-/

namespace TableStore

-- Powers are those of the core library, whatever else is imported.
attribute [local instance (high)] instPowNat

namespace Decimal

open Binary

variable {format : Format}

/-- The digits of the scientific notation of a finite number, sign apart, and the power of ten that
scales them. -/
def written (range : PositionalRange) (x : Number format) : Scaled :=
  if x.magnitude = 0 then ⟨0, -1⟩
  else
    let scaled := shortest .toEven x
    if range.least ≤ scaled.point ∧ scaled.point ≤ range.greatest ∧ 0 ≤ scaled.exponent then
      ⟨scaled.coefficient * 10 ^ (scaled.exponent.toNat + 1), -1⟩
    else scaled

/-- The digits and the power of ten are worth the shortest decimal. -/
theorem written_value {range : PositionalRange} {x : Number format} (nonzero : x.magnitude ≠ 0) :
    ((written range x).coefficient * 10 ^ (written range x).exponent : ℚ) =
      (shortest .toEven x).coefficient * 10 ^ (shortest .toEven x).exponent := by
  rw [written, if_neg nonzero]
  dsimp only
  split
  · rename_i whole
    obtain ⟨n, exponent⟩ := Int.eq_ofNat_of_zero_le whole.2.2
    rw [exponent, Int.toNat_natCast, zpow_natCast]
    push_cast
    rw [zpow_neg_one, pow_succ]
    field_simp
  · rfl

end Decimal

namespace Json

open Binary Decimal

namespace Numeral

/-- Whether a numeral is read as digits scaled by a power of ten, and not as an integer. -/
structure StandsFor (n : Numeral) (scaled : Scaled) : Prop where
  notInteger : n.integer? = none
  coefficient : n.parts.1 = scaled.coefficient
  exponent : n.parts.2 + n.writtenExponent.1 = scaled.exponent
  inBounds : n.writtenExponent.2 = true

theorem StandsFor.magnitude? {n : Numeral} {scaled : Scaled} (stands : n.StandsFor scaled) :
    n.magnitude? = scaleByPower scaled.coefficient scaled.exponent := by
  simp only [Numeral.magnitude?, stands.inBounds, if_true, stands.coefficient, stands.exponent]

theorem StandsFor.double? {n : Numeral} {scaled : Scaled} (stands : n.StandsFor scaled) :
    n.double? = (scaleByPower scaled.coefficient scaled.exponent).map fun x =>
      .ofMagnitude n.negative x.magnitude := by
  rw [Numeral.double?, stands.notInteger, stands.magnitude?]

theorem StandsFor.single? {n : Numeral} {scaled : Scaled} (stands : n.StandsFor scaled) :
    n.single? = (scaleByPower scaled.coefficient scaled.exponent).map fun x =>
      (.ofMagnitude n.negative x.magnitude : Double).convert := by
  rw [Numeral.single?, stands.notInteger, stands.double?, Option.map_map]
  rfl

end Numeral

/-- Digits are all appended while the number they make fits in 64 bits. -/
theorem appendDigits_eq {ds : List Char} {significand : Nat} (appended : Nat)
    (digits : ∀ c ∈ ds, c.isDigit = true)
    (fits : Nat.ofDigitChars 10 ds significand < wordBound) :
    appendDigits significand appended ds =
      (Nat.ofDigitChars 10 ds significand, appended + ds.length, []) := by
  induction ds generalizing significand appended with
  | nil => rfl
  | cons d ds ih =>
      have restDigits : ∀ c ∈ ds, c.isDigit = true := fun c member =>
        digits c (List.mem_cons_of_mem d member)
      rw [Nat.ofDigitChars_cons] at fits ⊢
      have grows : 10 * significand + (d.toNat - '0'.toNat) ≤
          Nat.ofDigitChars 10 ds (10 * significand + (d.toNat - '0'.toNat)) := by
        rw [Nat.ofDigitChars_eq_ofDigitChars_zero]
        exact (Nat.le_mul_of_pos_left _ (Nat.pow_pos (by decide))).trans (Nat.le_add_right _ _)
      have next : significand * 10 + (d.toNat - '0'.toNat) < wordBound := by
        rw [Nat.mul_comm significand]
        exact grows.trans_lt fits
      rw [appendDigits, if_pos next, Nat.mul_comm significand, ih _ restDigits fits, List.length_cons,
        Nat.add_assoc, Nat.add_comm 1]

/-- All digits of a numeral are read when their number fits in 64 bits. -/
theorem Numeral.parts_eq {n : Numeral} (wellFormed : n.IsWellFormed)
    (fits : Nat.ofDigitChars 10 (n.whole ++ n.fraction.getD []) 0 < wordBound) :
    n.parts = (Nat.ofDigitChars 10 (n.whole ++ n.fraction.getD []) 0,
      -((n.fraction.getD []).length : Int)) := by
  have fractionDigits : ∀ c ∈ n.fraction.getD [], c.isDigit = true := by
    cases fraction : n.fraction with
    | none => simp
    | some ds => exact (wellFormed.fraction ds fraction).2
  rw [Nat.ofDigitChars_append] at fits ⊢
  have wholeFits : Nat.ofDigitChars 10 n.whole 0 < wordBound := by
    rw [Nat.ofDigitChars_eq_ofDigitChars_zero] at fits
    have shifted := Nat.le_mul_of_pos_left (Nat.ofDigitChars 10 n.whole 0)
      (Nat.pow_pos (n := (n.fraction.getD []).length) (show 0 < 10 by decide))
    omega
  simp only [Numeral.parts, appendDigits_eq 0 wellFormed.whole.2 wholeFits,
    appendDigits_eq 0 fractionDigits fits, List.length_nil, Nat.zero_add, Int.natCast_zero,
    Int.zero_sub]

/-- Whether a numeral is written as a text after its sign and stands for digits scaled by a power
of ten. -/
structure Numeral.Writes (n : Numeral) (negative : Bool) (text : List Char) (scaled : Scaled) :
    Prop where
  wellFormed : n.IsWellFormed
  sign : n.negative = negative
  chars : n.chars = (if negative then ['-'] else []) ++ text
  standsFor : n.StandsFor scaled

/-! ## Numerals with a point -/

/-- The numeral of digits with a point among them. -/
def Numeral.pointed (negative : Bool) (whole places : List Char) : Numeral :=
  ⟨negative, whole, some places, none⟩

/-- A numeral with a point stands for its digits, one power of ten down for each place. -/
theorem Numeral.writes_pointed {whole places : List Char} {scaled : Scaled} (negative : Bool)
    (wholeDigits : IsDigits whole) (noLeadingZero : ∀ rest, whole = '0' :: rest → rest = [])
    (placesDigits : IsDigits places)
    (coefficient : Nat.ofDigitChars 10 (whole ++ places) 0 = scaled.coefficient)
    (exponent : -(places.length : Int) = scaled.exponent) (fits : scaled.coefficient < wordBound) :
    (pointed negative whole places).Writes negative (whole ++ '.' :: places) scaled := by
  have wellFormed : (pointed negative whole places).IsWellFormed :=
    { whole := wholeDigits
      noLeadingZero := noLeadingZero
      fraction := fun _ same => Option.some.inj same ▸ placesDigits
      exponent := fun _ absent => by cases absent }
  have parts := parts_eq wellFormed (show Nat.ofDigitChars 10 (whole ++ places) 0 < wordBound by
    rwa [coefficient])
  refine ⟨wellFormed, rfl, ?_, ?_⟩
  · cases negative <;> simp [Numeral.chars, pointed, fractionChars, exponentChars]
  · refine ⟨rfl, ?_, ?_, rfl⟩
    · rw [parts]
      exact coefficient
    · rw [parts]
      exact (Int.add_zero _).trans exponent

/-! ## Numerals with an exponent -/

/-- The numeral of digits with a point after the first and an exponent. -/
def Numeral.powered (negative : Bool) (d : Char) (rest : List Char) (exponent : Int) : Numeral :=
  ⟨negative, [d], if rest = [] then none else some rest,
    some (exponent < 0, digits exponent.natAbs)⟩

/-- A numeral with an exponent stands for its digits at this exponent, less one power of ten for
each digit behind the point. -/
theorem Numeral.writes_powered {ds : List Char} {exponent : Int} {scaled : Scaled}
    (negative : Bool) (allDigits : IsDigits ds)
    (coefficient : Nat.ofDigitChars 10 ds 0 = scaled.coefficient)
    (scale : exponent + 1 - ds.length = scaled.exponent) (fits : scaled.coefficient < wordBound)
    (bounded : exponent.natAbs < exponentBound) :
    ∃ n : Numeral, n.Writes negative (withExponent ds exponent) scaled := by
  obtain ⟨nonempty, allDigits⟩ := allDigits
  obtain ⟨d, rest, rfl⟩ := List.exists_cons_of_ne_nil nonempty
  have fraction : (powered negative d rest exponent).fraction.getD [] = rest := by
    cases rest <;> simp [powered]
  have wellFormed : (powered negative d rest exponent).IsWellFormed := by
    refine ⟨⟨List.cons_ne_nil d [], ?_⟩, fun _ same => (List.cons.inj same).2.symm, ?_, ?_⟩
    · simpa [powered] using allDigits d List.mem_cons_self
    · intro ds given
      simp only [powered, Option.mem_def] at given
      split at given
      · cases given
      · rename_i nonempty
        cases given
        exact ⟨nonempty, fun c member => allDigits c (List.mem_cons_of_mem d member)⟩
    · exact fun _ same => Option.some.inj same ▸ isDigits_digits _
  have parts := parts_eq wellFormed
    (show Nat.ofDigitChars 10 ([d] ++ _) 0 < wordBound by
      rwa [fraction, List.singleton_append, coefficient])
  rw [fraction] at parts
  refine ⟨powered negative d rest exponent, wellFormed, rfl, ?_, ?_⟩
  · cases rest <;> cases negative <;>
      simp [chars, powered, withExponent, fractionChars, exponentChars]
  · refine ⟨by simp [integer?, powered], ?_, ?_, ?_⟩
    · rw [parts]
      exact coefficient
    · rw [parts, ← scale, List.length_cons]
      simp only [writtenExponent, powered, readNat?_digits, Option.getD_some, decide_eq_true_eq]
      split <;> omega
    · simpa [writtenExponent, powered] using bounded

/-! ## Scientific notation -/

/-- Digits that do not begin with a zero do not begin with one when some are taken. -/
theorem noLeadingZero_take {n count : Nat} (positive : 0 < n) (rest : List Char)
    (begins : (digits n).take count = '0' :: rest) : rest = [] := by
  have front : digits n = '0' :: (rest ++ (digits n).drop count) := by
    rw [← List.cons_append, ← begins, List.take_append_drop]
  exact absurd (eq_zero_of_digits front) positive.ne'

theorem noLeadingZero_append {n : Nat} (positive : 0 < n) (more rest : List Char)
    (begins : digits n ++ more = '0' :: rest) : rest = [] := by
  obtain ⟨d, ds, front⟩ := List.exists_cons_of_ne_nil (digits_ne_nil n)
  rw [front, List.cons_append] at begins
  rw [(List.cons.inj begins).1] at front
  exact absurd (eq_zero_of_digits front) positive.ne'

theorem isDigits_zeros {count : Nat} (positive : 0 < count) :
    Numeral.IsDigits (List.replicate count '0') :=
  ⟨by simpa using positive.ne', isDigit_of_mem_zeros count⟩

theorem Numeral.IsDigits.append_left {ds : List Char} (allDigits : IsDigits ds) {more : List Char}
    (moreDigits : ∀ c ∈ more, c.isDigit = true) : IsDigits (more ++ ds) :=
  ⟨List.append_ne_nil_of_right_ne_nil _ allDigits.1, fun c member =>
    (List.mem_append.mp member).elim (moreDigits c) (allDigits.2 c)⟩

theorem Numeral.IsDigits.append_right {ds : List Char} (allDigits : IsDigits ds) {more : List Char}
    (moreDigits : ∀ c ∈ more, c.isDigit = true) : IsDigits (ds ++ more) :=
  ⟨List.append_ne_nil_of_left_ne_nil allDigits.1 _, fun c member =>
    (List.mem_append.mp member).elim (allDigits.2 c) (moreDigits c)⟩

/-- A scaled number that is not whole is written with a point somewhere. -/
theorem exists_writes_placePoint {scaled : Scaled} (negative : Bool)
    (positive : 0 < scaled.coefficient) (fits : scaled.coefficient < wordBound)
    (broken : scaled.exponent < 0) :
    ∃ n : Numeral, n.Writes negative (placePoint (digits scaled.coefficient) scaled.point)
      scaled := by
  have allDigits := isDigits_digits scaled.coefficient
  have point : scaled.point = (digits scaled.coefficient).length + scaled.exponent := rfl
  have length := List.length_pos_of_ne_nil allDigits.1
  unfold placePoint
  split
  · rename_i left
    refine ⟨_, Numeral.writes_pointed negative (isDigits_zeros Nat.one_pos)
      (fun rest same => (List.cons.inj same).2.symm)
      (allDigits.append_left (isDigit_of_mem_zeros _)) ?_ ?_ fits⟩
    · rw [← List.append_assoc, List.replicate_append_replicate, Nat.ofDigitChars_append,
        Nat.ofDigitChars_replicate_zero, Nat.mul_zero, ofDigitChars_digits]
    · rw [List.length_append, List.length_replicate]
      omega
  · rw [if_neg (by omega)]
    refine ⟨_, Numeral.writes_pointed negative ⟨?_, fun c member =>
      allDigits.2 c (List.mem_of_mem_take member)⟩ (noLeadingZero_take positive)
      ⟨?_, fun c member => allDigits.2 c (List.mem_of_mem_drop member)⟩ ?_ ?_ fits⟩
    · rw [ne_eq, List.take_eq_nil_iff]
      rintro (none | empty)
      · omega
      · exact allDigits.1 empty
    · rw [ne_eq, List.drop_eq_nil_iff]
      omega
    · rw [List.take_append_drop, ofDigitChars_digits]
    · rw [List.length_drop]
      omega

/-- A scaled number that is whole is written with a zero behind the point. -/
theorem exists_writes_whole {scaled : Scaled} (negative : Bool)
    (positive : 0 < scaled.coefficient) (whole : 0 ≤ scaled.exponent)
    (fits : scaled.coefficient * 10 ^ (scaled.exponent.toNat + 1) < wordBound) :
    ∃ n : Numeral,
      n.Writes negative (placePoint (digits scaled.coefficient) scaled.point ++ ['.', '0'])
        ⟨scaled.coefficient * 10 ^ (scaled.exponent.toNat + 1), -1⟩ := by
  have allDigits := isDigits_digits scaled.coefficient
  have point : scaled.point = (digits scaled.coefficient).length + scaled.exponent := rfl
  have length := List.length_pos_of_ne_nil allDigits.1
  rw [placePoint, if_neg (by omega), if_pos (by omega)]
  refine ⟨_, Numeral.writes_pointed negative (allDigits.append_right (isDigit_of_mem_zeros _))
    (noLeadingZero_append positive _) (isDigits_zeros Nat.one_pos) ?_ rfl fits⟩
  have zeros : scaled.point.toNat - (digits scaled.coefficient).length = scaled.exponent.toNat := by
    omega
  rw [zeros, List.append_assoc, ← List.replicate_succ', Nat.ofDigitChars_append,
    ofDigitChars_digits, Nat.ofDigitChars_replicate_zero, Nat.mul_comm]

/-- A whole number of few digits has one more with a zero behind the point. -/
theorem whole_lt {scaled : Scaled} (places : Nat) (whole : 0 ≤ scaled.exponent)
    (short : scaled.point ≤ places) :
    scaled.coefficient * 10 ^ (scaled.exponent.toNat + 1) < 10 ^ (places + 1) := by
  have digitsBelow : scaled.coefficient < 10 ^ (digits scaled.coefficient).length :=
    (Nat.length_toDigits_le_iff (by decide)
      (List.length_pos_of_ne_nil (digits_ne_nil _))).mp le_rfl
  have point : scaled.point = (digits scaled.coefficient).length + scaled.exponent := rfl
  calc scaled.coefficient * 10 ^ (scaled.exponent.toNat + 1)
      < 10 ^ (digits scaled.coefficient).length * 10 ^ (scaled.exponent.toNat + 1) :=
        Nat.mul_lt_mul_of_pos_right digitsBelow (Nat.pow_pos (by decide))
    _ = 10 ^ ((digits scaled.coefficient).length + (scaled.exponent.toNat + 1)) :=
        (Nat.pow_add _ _ _).symm
    _ ≤ 10 ^ (places + 1) := Nat.pow_le_pow_right (by decide) (by omega)

section Scientific

variable {format : Format} {x : Number format} {range : PositionalRange}

/-- The scientific notation of a finite number is a numeral that stands for what is written. -/
theorem exists_writes_scientificMagnitude (fits : FitsWord format) (bounded : range.greatest ≤ 18)
    (finite : x.isFinite = true) (negative : Bool) :
    ∃ n : Numeral, n.Writes negative (scientificMagnitude range x) (written range x) := by
  by_cases zero : x.magnitude = 0
  · rw [scientificMagnitude, if_pos zero, written, if_pos zero]
    exact ⟨_, Numeral.writes_pointed negative (isDigits_zeros Nat.one_pos)
      (fun rest same => (List.cons.inj same).2.symm) (isDigits_zeros Nat.one_pos) rfl rfl
      (by decide)⟩
  · have positive := coefficient_shortest_pos .toEven fits.searchable finite zero
    have coefficient : (shortest .toEven x).coefficient < wordBound :=
      fits.coefficient_shortest .toEven finite zero
    have exponent := fits.exponent_shortest .toEven finite
    rw [scientificMagnitude, if_neg zero, written, if_neg zero]
    generalize shortest .toEven x = scaled at positive coefficient exponent ⊢
    have length : (digits scaled.coefficient).length ≤ 20 :=
      (Nat.length_toDigits_le_iff (by decide) (by decide)).mpr
        (coefficient.trans (by decide))
    have point : scaled.point = (digits scaled.coefficient).length + scaled.exponent := rfl
    dsimp only
    split
    · rename_i outside
      have notInside : ¬(range.least ≤ scaled.point ∧ scaled.point ≤ range.greatest ∧
          0 ≤ scaled.exponent) := by
        simp only [Bool.or_eq_true, decide_eq_true_eq] at outside
        omega
      rw [if_neg notInside]
      exact Numeral.writes_powered negative (isDigits_digits _) (ofDigitChars_digits _)
        (by omega) coefficient (by unfold exponentBound; omega)
    · rename_i inside
      simp only [Bool.or_eq_true, decide_eq_true_eq, not_or, not_lt] at inside
      split
      · rename_i whole
        rw [if_pos ⟨inside.1, inside.2, whole⟩]
        exact exists_writes_whole negative positive whole
          ((whole_lt 18 whole (inside.2.trans bounded)).trans (by decide))
      · rename_i broken
        rw [if_neg fun holds => broken holds.2.2]
        exact exists_writes_placePoint negative positive coefficient (not_le.mp broken)

/-- A finite number is written as a numeral of its sign. -/
theorem exists_writes_scientific (range : PositionalRange) (fits : FitsWord format)
    (bounded : range.greatest ≤ 18) (finite : x.isFinite = true) :
    ∃ n : Numeral, n.IsWellFormed ∧ n.chars = scientific range x ∧ n.negative = x.isNegative ∧
      n.StandsFor (written range x) := by
  obtain ⟨n, wellFormed, sign, chars, standsFor⟩ :=
    exists_writes_scientificMagnitude fits bounded finite x.isNegative
  refine ⟨n, wellFormed, ?_, sign, standsFor⟩
  rw [chars, scientific]
  cases x.isNegative <;> rfl

theorem numeral?_ofBinary (notFinite : x.isFinite = false) :
    (ofBinary range x).numeral? = none := by
  rw [ofBinary, notFinite]
  rfl

end Scientific

/-! ## Reading -/

/-- What is not finite is read as no number. -/
theorem double?_ofDouble_eq_none {x : Double} (notFinite : x.isFinite = false) :
    (ofDouble x).double? = none := by
  rw [double?, ofDouble, numeral?_ofBinary notFinite]
  rfl

theorem single?_ofSingle_eq_none {x : Single} (notFinite : x.isFinite = false) :
    (ofSingle x).single? = none := by
  rw [single?, ofSingle, numeral?_ofBinary notFinite]
  rfl

/-- The number of 64 bits that the digits of a finite number are read as, sign apart. -/
def rounded? {format : Format} (range : PositionalRange) (x : Number format) : Option Double :=
  scaleByPower (written range x).coefficient (written range x).exponent

/-- A double is read as its digits are rounded, with its sign. -/
theorem double?_ofDouble {x : Double} (finite : x.isFinite = true) :
    (ofDouble x).double? =
      (rounded? ⟨-4, 16⟩ x).map fun y => .ofMagnitude x.isNegative y.magnitude := by
  obtain ⟨n, wellFormed, chars, sign, standsFor⟩ :=
    exists_writes_scientific ⟨-4, 16⟩ fitsWord_double (by decide) finite
  rw [double?, ofDouble, ofBinary, if_pos finite, ← chars, numeral?_chars wellFormed,
    Option.bind_some, standsFor.double?, sign]
  rfl

/-- A single is read as its digits are rounded to 64 bits and then to 32, with its sign. -/
theorem single?_ofSingle {x : Single} (finite : x.isFinite = true) :
    (ofSingle x).single? =
      (rounded? ⟨-5, 13⟩ x).map fun y =>
        (.ofMagnitude x.isNegative y.magnitude : Double).convert := by
  obtain ⟨n, wellFormed, chars, sign, standsFor⟩ :=
    exists_writes_scientific ⟨-5, 13⟩ fitsWord_single (by decide) finite
  rw [single?, ofSingle, ofBinary, if_pos finite, ← chars, numeral?_chars wellFormed,
    Option.bind_some, standsFor.single?, sign]
  rfl

/-- Whether the digits and the power of ten that a double is written with are doubles themselves. -/
def IsExactlyWritten (x : Double) : Prop :=
  (written ⟨-4, 16⟩ x).coefficient < 2 ^ 53 ∧ (written ⟨-4, 16⟩ x).exponent.natAbs ≤ 22

/-- A finite double that is written exactly is rounded to itself. -/
theorem exists_rounded {x : Double} (finite : x.isFinite = true) (exact : IsExactlyWritten x) :
    ∃ y, rounded? ⟨-4, 16⟩ x = some y ∧ y.magnitude = x.magnitude := by
  by_cases zero : x.magnitude = 0
  · rw [rounded?, written, if_pos zero, zero]
    exact ⟨.ofMagnitude false 0, by decide +kernel, by decide +kernel⟩
  · refine exists_scaleByPower finite zero exact.1 exact.2 ?_
    rw [written_value zero]
    exact admits_shortest .toEven searchable_double finite zero

end Json

end TableStore
