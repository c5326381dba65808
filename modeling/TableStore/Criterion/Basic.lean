import TableStore.Criterion.Comparison
import TableStore.Field

/-!
# Criteria

A criterion puts one comparison with its comparands on one field. It is built from a
match of the family that the field belongs to; the comparands must have the type of
the field and be storable, their number must suit the comparison, and the bounds of a
range must be in order. Tests for emptiness suit every field.

These conditions are part of the type, so every criterion satisfies them.
-/

namespace TableStore

namespace Criterion

/-- The first comparand that is of another type or cannot be stored decides the error. -/
def comparandError? (field : Field) (values : List Value) : Option Error :=
  values.findSome? field.typeError?

/-- The error of the number of comparands. -/
def countError? (field : Field) (comparison : Comparison) (values : List Value) :
    Option Error :=
  if comparison.takes values.length then none
  else some (.invalidCriterion field.name (.comparands comparison values.length))

/-- Whether one value does not come after another; false if they cannot be compared. -/
def inOrder (lower upper : Value) : Bool :=
  match lower.compare? upper with
  | some .lt | some .eq => true
  | _ => false

/-- The error of the bounds of a range. -/
def boundsError? (field : Field) (comparison : Comparison) (values : List Value) :
    Option Error :=
  match comparison, values with
  | .between _ _, [lower, upper] =>
      if inOrder lower upper then none else some (.invalidCriterion field.name .bounds)
  | _, _ => none

/-- The first reason against a comparison with comparands on a field. -/
def error? (field : Field) (comparison : Comparison) (values : List Value) : Option Error :=
  (comparandError? field values).or <|
    (countError? field comparison values).or (boundsError? field comparison values)

end Criterion

/-- A comparison with its comparands on one field. -/
structure Criterion where
  field : Field
  comparison : Comparison
  values : List Value
  suited : comparison.suits field.type = true
  accepted : Criterion.error? field comparison values = none
deriving DecidableEq

namespace Criterion

/-- The criterion of a comparison that suits the field, or the first reason against it. -/
def check (field : Field) (comparison : Comparison) (values : List Value)
    (suited : comparison.suits field.type = true) : Except Error Criterion :=
  match h : error? field comparison values with
  | none => .ok ⟨field, comparison, values, suited, h⟩
  | some error => .error error

/-- A criterion that is given has the field, the comparison and the comparands asked for. -/
theorem check_eq_ok_iff {field : Field} {comparison : Comparison} {values : List Value}
    {suited : comparison.suits field.type = true} {criterion : Criterion} :
    check field comparison values suited = .ok criterion ↔
      criterion.field = field ∧ criterion.comparison = comparison ∧ criterion.values = values := by
  unfold check
  constructor
  · intro given
    split at given
    · cases given
      exact ⟨rfl, rfl, rfl⟩
    · cases given
  · rintro ⟨rfl, rfl, rfl⟩
    split
    · rfl
    · rename_i error refused
      rw [criterion.accepted] at refused
      cases refused

/-- A criterion on a field of numbers. -/
def numeric (field : Field) (matching : OrderedMatch) (values : List Value) :
    Except Error Criterion :=
  if h : Family.numeric.admits field.type = true then
    check field matching.comparison values (matching.comparison_suits (.inl h))
  else .error (.invalidCriterion field.name (.family .numeric field.type))

/-- A criterion on a field of dates or times. -/
def temporal (field : Field) (matching : OrderedMatch) (values : List Value) :
    Except Error Criterion :=
  if h : Family.temporal.admits field.type = true then
    check field matching.comparison values (matching.comparison_suits (.inr h))
  else .error (.invalidCriterion field.name (.family .temporal field.type))

/-- A criterion on a field of texts. -/
def string (field : Field) (matching : StringMatch) (values : List Value) :
    Except Error Criterion :=
  if h : Family.string.admits field.type = true then
    check field matching.comparison values (matching.comparison_suits h)
  else .error (.invalidCriterion field.name (.family .string field.type))

/-- A criterion on a field of truth values. -/
def boolean (field : Field) (matching : BooleanMatch) : Except Error Criterion :=
  if h : Family.boolean.admits field.type = true then
    check field matching.comparison [] (matching.comparison_suits h)
  else .error (.invalidCriterion field.name (.family .boolean field.type))

/-- The criterion of rows that leave a field empty. -/
def isNull (field : Field) : Criterion :=
  ⟨field, .isNull, [], rfl, rfl⟩

/-- The criterion of rows that do not leave a field empty. -/
def isNotNull (field : Field) : Criterion :=
  ⟨field, .isNotNull, [], rfl, rfl⟩

end Criterion

end TableStore
