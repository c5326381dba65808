import TableStore.Interchange.Value
import TableStore.Proofs.Calendar.Written
import TableStore.Proofs.Field.Acceptance
import TableStore.Proofs.Json.Shape
import TableStore.Proofs.Json.Single

/-!
# Values read back from their text

Every value that a field accepts is written as JSON, but not every one is read back. Texts, truth
values, integers, bytes, dates and times are: their written form says all there is. Binary numbers
are written as decimals. One that is not finite has no decimal and is written as null, which no
number is read from; a finite one comes back when its decimal is rounded to it, and reading a
decimal rounds more than once.

Every finite single comes back: its decimal has few digits, and what is lost in reading is far less
than its last place. A double comes back for certain when its digits and its power of ten are
doubles themselves, as those of all numbers with few digits are.
-/

namespace TableStore

open Binary Calendar

-- Powers are those of the core library, whatever else is imported.
attribute [local instance (high)] instPowNat

namespace Value

/-- The value that is read from the text of a value. -/
def reread? (layout : Json.Layout) (value : Value) : Option Value :=
  (Json.ofText? (value.toJson.text layout)).bind ofJson?

/-- The value that stands in the text of a value. -/
def carried? : Value → Option Value
  | .float x =>
      if x.isFinite then
        (Json.rounded? ⟨-5, 13⟩ x).map fun y =>
          .float (.ofMagnitude x.isNegative y.magnitude : Double).convert
      else none
  | .double x =>
      if x.isFinite then
        (Json.rounded? ⟨-4, 16⟩ x).map fun y => .double (.ofMagnitude x.isNegative y.magnitude)
      else none
  | value => some value

/-- Whether the text of a value carries the value. -/
def IsCarried : Value → Prop
  | .float x =>
      x.isFinite = true ∧ ∃ y, Json.rounded? ⟨-5, 13⟩ x = some y ∧
        (.ofMagnitude x.isNegative y.magnitude : Double).convert = x
  | .double x =>
      x.isFinite = true ∧ ∃ y, Json.rounded? ⟨-4, 16⟩ x = some y ∧ y.magnitude = x.magnitude
  | _ => True

/-- Whether a value is a binary number that is not finite. -/
def IsNotFinite : Value → Prop
  | .float x => x.isFinite = false
  | .double x => x.isFinite = false
  | _ => False

/-- Whether the years of a value can be read. -/
def IsReadable : Value → Prop
  | .localDate date => isReadableYear date.year = true
  | .localDateTime date _ => isReadableYear date.year = true
  | _ => True

theorem isReadable_of_isStorable {value : Value} (storable : value.IsStorable) :
    value.IsReadable := by
  have readable : ∀ {date : Date}, date.IsStorable → isReadableYear date.year = true := by
    intro date storable
    unfold Date.IsStorable at storable
    simp only [isReadableYear, Bool.and_eq_true, decide_eq_true_eq]
    omega
  cases value with
  | localDate date => exact readable storable
  | localDateTime date time => exact readable storable.1
  | _ => trivial

theorem isWritten_toJson (value : Value) : value.toJson.IsWritten := by
  cases value with
  | string text => exact Json.isWritten_choice (.string text)
  | boolean truth => exact Json.isWritten_choice (.bool truth)
  | byte number | integer number | long number => exact Json.isWritten_choice (Json.isWritten_ofInt _)
  | float number => exact Json.isWritten_choice (Json.isWritten_ofSingle number)
  | double number => exact Json.isWritten_choice (Json.isWritten_ofDouble number)
  | blob bytes =>
      refine Json.isWritten_choice (.array fun element member => ?_)
      obtain ⟨byte, -, rfl⟩ := List.mem_map.mp member
      exact Json.isWritten_ofInt byte.toNat
  | localDate date => exact Json.isWritten_choice (.string _)
  | localTime time => exact Json.isWritten_choice (.string _)
  | localDateTime date time => exact Json.isWritten_choice (.string _)

theorem byteOfJson?_ofNat (byte : UInt8) : byteOfJson? (.ofNat byte.toNat) = some byte := by
  have bounded : byte.toNat < 256 := byte.toNat_lt
  have read : (Json.ofNat byte.toNat).integer? 0 255 = some (byte.toNat : Int) := by
    rw [Json.ofNat_eq_ofInt]
    exact Json.integer?_ofInt (by decide) (by decide) (by omega) (by omega)
  rw [byteOfJson?, read, Option.map_some, Int.toNat_natCast, UInt8.ofNat_toNat]

/-- What JSON gives for a value is what stands in its text. -/
theorem ofJson?_toJson {value : Value} (readable : value.IsReadable) :
    ofJson? value.toJson = value.carried? := by
  cases value with
  | string text => rfl
  | boolean truth => rfl
  | byte number =>
      change ((Json.ofInt number.toInt).integer? _ _).map _ = some (byte number)
      rw [Json.integer?_ofInt8, Option.map_some, Int8.ofInt_toInt]
  | integer number =>
      change ((Json.ofInt number.toInt).integer? _ _).map _ = some (integer number)
      rw [Json.integer?_ofInt32, Option.map_some, Int32.ofInt_toInt]
  | long number =>
      change ((Json.ofInt number.toInt).integer? _ _).map _ = some (long number)
      rw [Json.integer?_ofInt64, Option.map_some, Int64.ofInt_toInt]
  | float number =>
      change (Json.ofSingle number).single?.map float = _
      rw [carried?]
      split
      · rename_i finite
        rw [Json.single?_ofSingle finite, Option.map_map]
        rfl
      · rename_i notFinite
        rw [Json.single?_ofSingle_eq_none (Bool.not_eq_true _ ▸ notFinite), Option.map_none]
  | double number =>
      change (Json.ofDouble number).double?.map double = _
      rw [carried?]
      split
      · rename_i finite
        rw [Json.double?_ofDouble finite, Option.map_map]
        rfl
      · rename_i notFinite
        rw [Json.double?_ofDouble_eq_none (Bool.not_eq_true _ ▸ notFinite), Option.map_none]
  | blob bytes =>
      change (Json.list? byteOfJson? (.array (bytes.map fun byte => .ofNat byte.toNat))).map blob = _
      rw [Json.list?_map fun byte _ => byteOfJson?_ofNat byte]
      rfl
  -- the texts are made opaque, so that unfolding stops in front of their readers
  | localDate date =>
      have read : Date.ofText? (String.ofList date.text).toList = some date := by
        rw [String.toList_ofList, Date.ofText?_text readable]
      rw [toJson]
      generalize String.ofList date.text = text at read ⊢
      change (Date.ofText? text.toList).map localDate = _
      rw [read]
      rfl
  | localTime time =>
      have read : Time.ofText? (String.ofList time.text).toList = some time := by
        rw [String.toList_ofList, Time.ofText?_text]
      rw [toJson]
      generalize String.ofList time.text = text at read ⊢
      change (Time.ofText? text.toList).map localTime = _
      rw [read]
      rfl
  | localDateTime date time =>
      have read : readDateTime? (String.ofList (date.text ++ 'T' :: time.text)).toList =
          some (date, time) := by
        rw [String.toList_ofList, readDateTime?_text readable]
      rw [toJson]
      generalize String.ofList (date.text ++ 'T' :: time.text) = text at read ⊢
      change (readDateTime? text.toList).map _ = _
      rw [read]
      rfl

/-- The value that is read from the text of a value is the value that stands in it. -/
theorem reread?_eq (value : Value) (readable : value.IsReadable) (layout : Json.Layout) :
    value.reread? layout = value.carried? := by
  rw [reread?, Json.ofText?_text value.isWritten_toJson, Option.bind_some, ofJson?_toJson readable]

/-- The value itself stands in the text that carries it. -/
theorem carried?_eq_some_iff (value : Value) : value.carried? = some value ↔ value.IsCarried := by
  cases value with
  | float x =>
      rw [carried?, IsCarried]
      split
      · rename_i finite
        simp [finite, Option.map_eq_some_iff]
      · rename_i notFinite
        simp [notFinite]
  | double x =>
      have same : ∀ y : Double,
          Number.ofMagnitude x.isNegative y.magnitude = x ↔ y.magnitude = x.magnitude := by
        intro y
        constructor
        · intro same
          have bounded : y.magnitude < 2 ^ (Format.double.exponentBits + Format.double.fractionBits) :=
            Nat.mod_lt _ (Nat.two_pow_pos _)
          rw [← Number.magnitude_ofMagnitude bounded, same]
        · intro level
          rw [level, x.ofMagnitude_magnitude]
      rw [carried?, IsCarried]
      split
      · rename_i finite
        simp [finite, Option.map_eq_some_iff, same]
      · rename_i notFinite
        simp [notFinite]
  | _ => exact iff_of_true rfl trivial

theorem carried?_eq_none {value : Value} (notFinite : value.IsNotFinite) :
    value.carried? = none := by
  cases value with
  | float x | double x => exact if_neg (ne_true_of_eq_false notFinite)
  | _ => cases notFinite

/-- Every finite single is carried. -/
theorem isCarried_float {x : Single} (finite : x.isFinite = true) : (float x).IsCarried :=
  ⟨finite, Json.isReadBack finite⟩

/-- A double that is written exactly is carried. -/
theorem isCarried_double {x : Double} (finite : x.isFinite = true)
    (exact : Json.IsExactlyWritten x) : (double x).IsCarried :=
  ⟨finite, Json.exists_rounded finite exact⟩

end Value

/-- A value that a field accepts comes back from its text exactly when the text carries it. Every
value but a binary number is carried, every finite single is, and a finite double that is written
exactly is, too. A binary number that is not finite does not come back at all. -/
theorem accepted_value_comes_back_iff_carried {field : Field} {value : Value}
    (accepted : field.error? (some value) = none) (layout : Json.Layout) :
    (value.reread? layout = some value ↔ value.IsCarried) ∧
      (value.type ≠ .float ∧ value.type ≠ .double → value.IsCarried) ∧
      (∀ x, value = .float x → x.isFinite = true → value.IsCarried) ∧
      (∀ x, value = .double x → x.isFinite = true → Json.IsExactlyWritten x → value.IsCarried) ∧
      (value.IsNotFinite → value.reread? layout = none) := by
  have storable := (Field.error?_eq_none_iff_accepts.mp accepted).2.1
  have reread := value.reread?_eq (Value.isReadable_of_isStorable storable) layout
  rw [reread]
  refine ⟨value.carried?_eq_some_iff, fun other => ?_, ?_, ?_, Value.carried?_eq_none⟩
  · cases value with
    | float x => exact absurd rfl other.1
    | double x => exact absurd rfl other.2
    | _ => trivial
  · rintro x rfl finite
    exact Value.isCarried_float finite
  · rintro x rfl finite exact
    exact Value.isCarried_double finite exact

/-- The single 7.038531e-26, next to whose decimal a midpoint lies, comes back from a column of
singles, and the double 12.1 from a column of doubles. -/
theorem price_comes_back :
    ((⟨"share", .float, .nullable, "", []⟩ : Field).error? (some (.float ⟨0x15ae43fd⟩)) = none ∧
      (Value.float ⟨0x15ae43fd⟩).reread? .compact = some (.float ⟨0x15ae43fd⟩)) ∧
    (⟨"price", .double, .nullable, "", []⟩ : Field).error? (some (.double ⟨0x4028333333333333⟩)) =
        none ∧
      (Value.double ⟨0x4028333333333333⟩).reread? .compact =
        some (.double ⟨0x4028333333333333⟩) := by
  have shareAccepted : (⟨"share", .float, .nullable, "", []⟩ : Field).error?
      (some (.float ⟨0x15ae43fd⟩)) = none := by decide
  have priceAccepted : (⟨"price", .double, .nullable, "", []⟩ : Field).error?
      (some (.double ⟨0x4028333333333333⟩)) = none := by decide
  have exact : Json.IsExactlyWritten ⟨0x4028333333333333⟩ := ⟨by decide +kernel, by decide +kernel⟩
  obtain ⟨shareBack, -, shareCarried, -⟩ :=
    accepted_value_comes_back_iff_carried shareAccepted .compact
  obtain ⟨priceBack, -, -, priceCarried, -⟩ :=
    accepted_value_comes_back_iff_carried priceAccepted .compact
  exact ⟨⟨shareAccepted, shareBack.mpr (shareCarried _ rfl (by decide))⟩, priceAccepted,
    priceBack.mpr (priceCarried _ rfl (by decide) exact)⟩

/-- Of two doubles that the same column accepts, the pattern that is not a number does not come back
and the double after 12.1 comes back as 12.1. -/
theorem last_digit_and_nan_are_lost :
    (⟨"price", .double, .nullable, "", []⟩ : Field).error? (some (.double ⟨0x7ff8000000000000⟩)) =
        none ∧
      (Value.double ⟨0x7ff8000000000000⟩).reread? .compact = none ∧
      (⟨"price", .double, .nullable, "", []⟩ : Field).error?
        (some (.double ⟨0x4028333333333334⟩)) = none ∧
      (Value.double ⟨0x4028333333333334⟩).reread? .compact =
        some (.double ⟨0x4028333333333333⟩) := by
  have nan : (Value.double ⟨0x7ff8000000000000⟩).carried? = none := by decide
  have near : (Value.double ⟨0x4028333333333334⟩).carried? =
      some (.double ⟨0x4028333333333333⟩) := by decide +kernel
  exact ⟨by decide, (Value.reread?_eq (.double _) trivial .compact).trans nan, by decide,
    (Value.reread?_eq (.double _) trivial .compact).trans near⟩

end TableStore
