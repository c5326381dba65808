import TableStore.Json.Number
import TableStore.Proofs.Binary.Rounding

/-!
# Numbers read from JSON

JSON has no way to write what is not a number, and reading does not make one: rounding stops at
infinity, and every number that is read is rounded.
-/

namespace TableStore

namespace Binary.Number

variable {format : Format}

theorem infinity_lt (format : Format) :
    format.infinity < 2 ^ (format.exponentBits + format.fractionBits) := by
  have fraction : 0 < 2 ^ format.fractionBits := Nat.two_pow_pos _
  have exponent : 0 < 2 ^ format.exponentBits := Nat.two_pow_pos _
  rw [Format.infinity, Nat.pow_add]
  exact Nat.mul_lt_mul_of_pos_right (by omega) fraction

/-- A magnitude that leaves the sign bit alone is the magnitude of the number made from it. -/
theorem magnitude_ofMagnitude {negative : Bool} {magnitude : Nat}
    (bounded : magnitude < 2 ^ (format.exponentBits + format.fractionBits)) :
    (ofMagnitude negative magnitude : Number format).magnitude = magnitude := by
  have divides : 2 ^ (format.exponentBits + format.fractionBits) ∣ 2 ^ format.width :=
    ⟨2, by rw [two_pow_width, Nat.mul_comm]⟩
  rw [Number.magnitude, ofMagnitude, BitVec.toNat_ofNat, Nat.mod_mod_of_dvd _ divides]
  cases negative <;> simp [Nat.mod_eq_of_lt bounded]

/-- A magnitude that leaves the sign bit alone leaves the sign to the number made from it. -/
theorem isNegative_ofMagnitude {negative : Bool} {magnitude : Nat}
    (bounded : magnitude < 2 ^ (format.exponentBits + format.fractionBits)) :
    (ofMagnitude negative magnitude : Number format).isNegative = negative := by
  have positive : 0 < 2 ^ (format.exponentBits + format.fractionBits) := Nat.two_pow_pos _
  have fits : (magnitude +
      if negative then 2 ^ (format.exponentBits + format.fractionBits) else 0) <
        2 ^ format.width := by
    rw [two_pow_width]
    split <;> omega
  rw [isNegative, ofMagnitude, BitVec.toNat_ofNat, Nat.mod_eq_of_lt fits]
  cases negative with
  | false => simp [Nat.div_eq_of_lt bounded]
  | true => simp [Nat.add_div_right _ positive, Nat.div_eq_of_lt bounded]

/-- Up to infinity every magnitude belongs to a number. -/
theorem isNaN_ofMagnitude {negative : Bool} {magnitude : Nat}
    (bounded : magnitude ≤ format.infinity) :
    (ofMagnitude negative magnitude : Number format).isNaN = false := by
  rw [isNaN, magnitude_ofMagnitude (bounded.trans_lt (infinity_lt format))]
  simpa using bounded

/-- Rounding gives a number. -/
theorem isNaN_ofRatio (negative : Bool) (num den : Nat) :
    (ofRatio negative num den : Number format).isNaN = false := by
  unfold ofRatio
  split
  · exact isNaN_ofMagnitude (Nat.zero_le _)
  · exact isNaN_ofMagnitude (Nat.min_le_right _ _)

/-- A number of one format is a number of every other. -/
theorem isNaN_convert {target : Format} {x : Number format} (number : x.isNaN = false) :
    (x.convert : Number target).isNaN = false := by
  rw [convert, number, if_neg (by simp)]
  split
  · exact isNaN_ofMagnitude le_rfl
  · exact isNaN_ofRatio _ _ _

end Binary.Number

namespace Json

open Binary Number

theorem isNaN_divideByPower (steps : Nat) {x : Double} (number : x.isNaN = false) (power : Nat) :
    (divideByPower steps x power).isNaN = false := by
  induction steps generalizing x power with
  | zero => exact number
  | succ steps ih =>
      rw [divideByPower]
      split
      · exact number
      · split
        · exact isNaN_ofRatio _ _ _
        · exact ih (isNaN_ofRatio _ _ _) _

theorem isNaN_of_scaleByPower {significand : Nat} {exponent : Int} {x : Double}
    (scaled : scaleByPower significand exponent = some x) : x.isNaN = false := by
  have start : (ofRatio false significand 1 : Double).isNaN = false := isNaN_ofRatio _ _ _
  unfold scaleByPower at scaled
  dsimp only at scaled
  split at scaled
  · cases scaled
    exact isNaN_divideByPower 4 start _
  · split at scaled
    · split at scaled
      · cases scaled
      · cases scaled
        exact isNaN_ofRatio _ _ _
    · split at scaled
      · cases scaled
        exact start
      · cases scaled

namespace Numeral

theorem isNaN_of_magnitude? {numeral : Numeral} {x : Double}
    (read : numeral.magnitude? = some x) : x.isNaN = false := by
  unfold magnitude? at read
  dsimp only at read
  split at read
  · exact isNaN_of_scaleByPower read
  · split at read
    · cases read
    · cases read
      exact isNaN_ofMagnitude (Nat.zero_le _)

theorem isNaN_of_double? {numeral : Numeral} {x : Double} (read : numeral.double? = some x) :
    x.isNaN = false := by
  unfold double? at read
  split at read
  · cases read
    exact isNaN_ofRatio _ _ _
  · obtain ⟨y, found, rfl⟩ := Option.map_eq_some_iff.mp read
    have number := isNaN_of_magnitude? found
    rw [isNaN, decide_eq_false_iff_not, Nat.not_lt] at number
    exact isNaN_ofMagnitude number

theorem isNaN_of_single? {numeral : Numeral} {x : Single} (read : numeral.single? = some x) :
    x.isNaN = false := by
  unfold single? at read
  split at read
  · cases read
    exact isNaN_ofRatio _ _ _
  · obtain ⟨y, found, rfl⟩ := Option.map_eq_some_iff.mp read
    exact isNaN_convert (isNaN_of_double? found)

end Numeral

/-- What JSON gives as a number of 64 bits is one. -/
theorem isNaN_of_double? {value : Json} {x : Double} (read : value.double? = some x) :
    x.isNaN = false := by
  obtain ⟨numeral, -, rounded⟩ := Option.bind_eq_some_iff.mp read
  exact Numeral.isNaN_of_double? rounded

/-- What JSON gives as a number of 32 bits is one. -/
theorem isNaN_of_single? {value : Json} {x : Single} (read : value.single? = some x) :
    x.isNaN = false := by
  obtain ⟨numeral, -, rounded⟩ := Option.bind_eq_some_iff.mp read
  exact Numeral.isNaN_of_single? rounded

end Json

end TableStore
