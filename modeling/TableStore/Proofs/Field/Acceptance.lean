import TableStore.Proofs.Binary.Order
import TableStore.Proofs.Value.Literal

/-!
# What a field accepts

A value can be stored in a field when it has the field's type, when dates and times keep to the
years and to the microseconds that can be stored, and when it meets every constraint. Nothing can
be stored in a field that may be empty.

This says what the checks find without saying how they look for it. The reason that they give
against a value is the first one in their order: an empty field, the type, the storage, then the
first constraint that is broken.
-/

namespace TableStore

open Binary Calendar

/-! ## Storage -/

/-- Whether a date can be stored exactly. -/
def Calendar.Date.IsStorable (date : Date) : Prop :=
  1 ≤ date.year ∧ date.year ≤ 9999

/-- Whether a time can be stored exactly: no leap second, and whole microseconds. -/
def Calendar.Time.IsStorable (time : Time) : Prop :=
  time.nanos < 1000000000 ∧ 1000 ∣ time.nanos

/-- Whether a value can be stored exactly. -/
def Value.IsStorable : Value → Prop
  | .localDate date => date.IsStorable
  | .localTime time => time.IsStorable
  | .localDateTime date time => date.IsStorable ∧ time.IsStorable
  | _ => True

theorem StorageIssue.ofDate?_eq_none_iff (date : Date) :
    ofDate? date = none ↔ date.IsStorable := by
  unfold ofDate? Date.IsStorable leastYear greatestYear
  split_ifs with inside <;> simp [inside]

theorem StorageIssue.ofTime?_eq_none_iff (time : Time) :
    ofTime? time = none ↔ time.IsStorable := by
  have early : time.isLeapSecond = false ↔ time.nanos < 1000000000 := by
    rw [Time.isLeapSecond, decide_eq_false_iff_not, not_le, nanosPerSecond]
  have whole : time.nanos % 1000 = 0 ↔ 1000 ∣ time.nanos := Nat.dvd_iff_mod_eq_zero.symm
  rw [Time.IsStorable, ← early, ← whole, ofTime?]
  split_ifs with leap finer
  · simp [leap]
  · simp [finer]
  · simp [leap, not_not.mp finer]

theorem Value.storageIssue?_eq_none_iff (value : Value) :
    value.storageIssue? = none ↔ value.IsStorable := by
  cases value with
  | localDate date => exact StorageIssue.ofDate?_eq_none_iff date
  | localTime time => exact StorageIssue.ofTime?_eq_none_iff time
  | localDateTime date time =>
      rw [storageIssue?, Option.or_eq_none_iff, StorageIssue.ofDate?_eq_none_iff,
        StorageIssue.ofTime?_eq_none_iff, IsStorable]
  | _ => exact iff_of_true rfl trivial

/-! ## Rules -/

namespace Rule

/-- Whether a binary number keeps to inclusive bounds, and what is not finite to a policy. A bound
that is not a number bounds nothing. -/
@[mk_iff]
structure AdmitsNumber {format : Format} (allow : NonFinite) (least greatest x : Number format) :
    Prop where
  nan : x.isNaN = true → allow = .allValues ∨ allow = .allButInfinities
  infinite : x.isInfinite = true → allow = .allValues ∨ allow = .allButNaN
  least : x.isFinite = true → least.isNaN = false → least.place ≤ x.place
  greatest : x.isFinite = true → greatest.isNaN = false → x.place ≤ greatest.place

/-- Whether a value meets a rule. -/
def Admits : Rule → Value → Prop
  | .byteRange least greatest, .byte n => least ≤ n ∧ n ≤ greatest
  | .integerRange least greatest, .integer n => least ≤ n ∧ n ≤ greatest
  | .longRange least greatest, .long n => least ≤ n ∧ n ≤ greatest
  | .floatRange least greatest allow, .float x => AdmitsNumber allow least greatest x
  | .doubleRange least greatest allow, .double x => AdmitsNumber allow least greatest x
  | .stringLength least greatest, .string text =>
      least.toNat ≤ text.length ∧ text.length ≤ greatest.toNat
  | .stringEnumerated allowed, .string text => text ∈ allowed
  | _, _ => False

theorem integerViolation?_eq_none_iff (n least greatest : Int) :
    integerViolation? n least greatest = none ↔ least ≤ n ∧ n ≤ greatest := by
  rw [integerViolation?, ← not_lt, ← not_lt, ← not_or]
  split_ifs with outside <;> simp [outside]

theorem numberViolation?_eq_none_iff_admits {format : Format} (exponents : 0 < format.exponentBits)
    (allow : NonFinite) (x least greatest : Number format) :
    numberViolation? allow x least greatest = none ↔ AdmitsNumber allow least greatest x := by
  rw [admitsNumber_iff, numberViolation?, Number.isFinite_eq]
  cases nan : x.isNaN with
  | true =>
      have notInfinite := Number.isInfinite_eq_false nan
      cases allow <;> simp [notInfinite, NonFinite.allowsNaN]
  | false =>
      cases infinite : x.isInfinite with
      | true => cases allow <;> simp [NonFinite.allowsInfinite]
      | false =>
          simp [Number.compare?_eq_lt_iff exponents, Number.compare?_eq_gt_iff exponents, nan]

/-- A rule finds nothing against a value exactly when the value meets it. -/
theorem violation?_eq_none_iff_admits (rule : Rule) (value : Value) :
    rule.violation? value = none ↔ rule.Admits value := by
  cases rule with
  | byteRange least greatest =>
      cases value with
      | byte n =>
          rw [violation?, integerViolation?_eq_none_iff, Admits, Int8.le_iff_toInt_le,
            Int8.le_iff_toInt_le]
      | _ => simp [violation?, Admits]
  | integerRange least greatest =>
      cases value with
      | integer n =>
          rw [violation?, integerViolation?_eq_none_iff, Admits, Int32.le_iff_toInt_le,
            Int32.le_iff_toInt_le]
      | _ => simp [violation?, Admits]
  | longRange least greatest =>
      cases value with
      | long n =>
          rw [violation?, integerViolation?_eq_none_iff, Admits, Int64.le_iff_toInt_le,
            Int64.le_iff_toInt_le]
      | _ => simp [violation?, Admits]
  | floatRange least greatest allow =>
      cases value with
      | float x => exact numberViolation?_eq_none_iff_admits (by decide) allow x least greatest
      | _ => simp [violation?, Admits]
  | doubleRange least greatest allow =>
      cases value with
      | double x => exact numberViolation?_eq_none_iff_admits (by decide) allow x least greatest
      | _ => simp [violation?, Admits]
  | stringLength least greatest =>
      cases value with
      | string text =>
          rw [violation?, Admits, String.length_toList, ← not_lt, ← not_lt, ← not_or]
          split_ifs with outside <;> simp [outside]
      | _ => simp [violation?, Admits]
  | stringEnumerated allowed =>
      cases value with
      | string text =>
          rw [violation?, Admits]
          split_ifs with listed <;> simp [listed]
      | _ => simp [violation?, Admits]

end Rule

/-! ## Fields -/

namespace Field

variable {field : Field} {value : Value} {error : Error}

/-- Whether a value, or nothing, may stand in a field. -/
def Accepts (field : Field) : Option Value → Prop
  | none => field.role = .nullable
  | some value =>
      value.type = field.type ∧ value.IsStorable ∧
        ∀ constraint ∈ field.constraints, constraint.rule.Admits value

/-- Why the column of a field cannot hold a value: the type comes before the storage. -/
inductive CannotHold (field : Field) (value : Value) : Error → Prop
  | mistyped (otherType : value.type ≠ field.type) :
      field.CannotHold value (.typeMismatch field.name field.type value.type)
  | unrepresentable {issue : StorageIssue} (sameType : value.type = field.type)
      (found : value.storageIssue? = some issue) :
      field.CannotHold value (.unrepresentable field.name issue)

/-- Why a field refuses a value or nothing. Of several constraints that are broken it names the
first. -/
inductive Refuses (field : Field) : Option Value → Error → Prop
  | null (required : field.role ≠ .nullable) : field.Refuses none (.nullViolation field.name)
  | unheld {value : Value} {error : Error} (cannotHold : field.CannotHold value error) :
      field.Refuses (some value) error
  | constraint {value : Value} {before after : List Constraint} {constraint : Constraint}
      {violation : Violation} (sameType : value.type = field.type) (storable : value.IsStorable)
      (constraints : field.constraints = before ++ constraint :: after)
      (met : ∀ earlier ∈ before, earlier.rule.Admits value)
      (broken : constraint.rule.violation? value = some violation) :
      field.Refuses (some value)
        (.constraintViolation field.name constraint.name violation)

theorem isNullable_iff : field.isNullable = true ↔ field.role = .nullable := by
  rw [isNullable]
  cases field.role <;> decide

theorem typeError?_eq_none_iff_isStorable :
    field.typeError? value = none ↔ value.type = field.type ∧ value.IsStorable := by
  rw [typeError?_eq_none_iff, Value.storageIssue?_eq_none_iff]

theorem typeError?_eq_some_iff :
    field.typeError? value = some error ↔ field.CannotHold value error := by
  unfold typeError?
  constructor
  · intro found
    split at found
    · rename_i otherType
      cases found
      exact .mistyped otherType
    · rename_i sameType
      obtain ⟨issue, hinders, rfl⟩ := Option.map_eq_some_iff.mp found
      exact .unrepresentable (not_not.mp sameType) hinders
  · rintro (otherType | ⟨sameType, found⟩)
    · rw [if_pos otherType]
    · rw [if_neg (not_not.mpr sameType), found, Option.map_some]

theorem constraint_error?_eq_none_iff {constraint : Constraint} :
    constraint.error? field.name value = none ↔ constraint.rule.Admits value := by
  rw [Constraint.error?, Option.map_eq_none_iff, Rule.violation?_eq_none_iff_admits]

/-- A field finds nothing against exactly what it accepts. -/
theorem error?_eq_none_iff_accepts {given : Option Value} :
    field.error? given = none ↔ field.Accepts given := by
  cases given with
  | none =>
      rw [error?, Accepts, ← isNullable_iff]
      split_ifs with nullable <;> simp [nullable]
  | some value =>
      rw [error?, valueError?, Option.or_eq_none_iff, typeError?_eq_none_iff_isStorable,
        List.findSome?_eq_none_iff, Accepts, and_assoc]
      simp only [constraint_error?_eq_none_iff]

/-- The error of a field is why the field refuses what is given. -/
theorem error?_eq_some_iff_refuses {given : Option Value} :
    field.error? given = some error ↔ field.Refuses given error := by
  constructor
  · intro found
    cases given with
    | none =>
        rw [error?] at found
        split at found
        · cases found
        · rename_i required
          cases found
          exact .null (mt isNullable_iff.mpr required)
    | some value =>
        rcases Option.or_eq_some_iff.mp found with cannotHold | ⟨held, found⟩
        · exact .unheld (typeError?_eq_some_iff.mp cannotHold)
        · obtain ⟨sameType, storable⟩ := typeError?_eq_none_iff_isStorable.mp held
          obtain ⟨before, constraint, after, constraints, fails, met⟩ :=
            List.findSome?_eq_some_iff.mp found
          obtain ⟨violation, broken, rfl⟩ := Option.map_eq_some_iff.mp fails
          exact .constraint sameType storable constraints
            (fun earlier member => constraint_error?_eq_none_iff.mp (met earlier member)) broken
  · rintro (required | cannotHold | ⟨sameType, storable, constraints, met, broken⟩)
    · rw [error?, if_neg (mt isNullable_iff.mp required)]
    · rw [error?, valueError?, typeError?_eq_some_iff.mpr cannotHold, Option.some_or]
    · have held := typeError?_eq_none_iff_isStorable.mpr ⟨sameType, storable⟩
      rw [error?, valueError?, held, Option.none_or]
      apply List.findSome?_eq_some_iff.mpr
      refine ⟨_, _, _, constraints, ?_, fun earlier member =>
        constraint_error?_eq_none_iff.mpr (met earlier member)⟩
      rw [Constraint.error?, broken, Option.map_some]

end Field

end TableStore
