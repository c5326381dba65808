import TableStore.Proofs.Table.Basic
import TableStore.Proofs.Value.Literal

/-!
# Agreeing fields

Fields agree when they say the same, with the bounds of their constraints compared as numbers.
Agreeing fields accept the same values, so values that suit the fields of a table suit those of
every table that is the same.
-/

namespace TableStore

open Binary

/-- A number compares alike with numbers that are equal. -/
theorem Binary.Number.compare?_eq_of_agrees {format : Format} {a b : Number format}
    (same : a.agrees b = true) (x : Number format) : x.compare? a = x.compare? b := by
  simp only [agrees, Bool.and_eq_true, Bool.not_eq_true', beq_iff_eq] at same
  obtain ⟨⟨number, alsoNumber⟩, position⟩ := same
  rw [compare?, compare?, number, alsoNumber, position]

namespace Rule

/-- Bounds that are equal as numbers admit the same numbers. -/
theorem numberViolation?_eq_none_iff {format : Format} (allow : NonFinite)
    (value : Number format) {least greatest other further : Number format}
    (sameLeast : least.agrees other = true) (sameGreatest : greatest.agrees further = true) :
    numberViolation? allow value least greatest = none ↔
      numberViolation? allow value other further = none := by
  rw [numberViolation?, numberViolation?, Number.compare?_eq_of_agrees sameLeast,
    Number.compare?_eq_of_agrees sameGreatest]
  split
  · rfl
  · split
    · rfl
    · split <;> simp

/-- Agreeing rules admit the same values. -/
theorem violation?_eq_none_iff {a b : Rule} (same : a.agrees b = true) (value : Value) :
    a.violation? value = none ↔ b.violation? value = none := by
  unfold agrees at same
  split at same
  · simp only [Bool.and_eq_true, beq_iff_eq] at same
    obtain ⟨⟨least, greatest⟩, rfl⟩ := same
    cases value with
    | float x => exact numberViolation?_eq_none_iff _ x least greatest
    | _ => simp [violation?]
  · simp only [Bool.and_eq_true, beq_iff_eq] at same
    obtain ⟨⟨least, greatest⟩, rfl⟩ := same
    cases value with
    | double x => exact numberViolation?_eq_none_iff _ x least greatest
    | _ => simp [violation?]
  · rw [eq_of_beq same]

end Rule

namespace Field

/-- The constraints of agreeing fields are broken by the same values. -/
theorem constraints_eq_none_iff {a b : List Constraint}
    (same : a.isEqv b Constraint.agrees = true) (field : String) (value : Value) :
    (a.findSome? fun constraint => constraint.error? field value) = none ↔
      (b.findSome? fun constraint => constraint.error? field value) = none := by
  rw [isEqv_iff_forall₂ fun _ _ => Iff.rfl] at same
  simp only [List.findSome?_eq_none_iff]
  induction same with
  | nil => rfl
  | @cons first other _ _ agree _ ih =>
      rw [Constraint.agrees, Bool.and_eq_true] at agree
      have broken : first.error? field value = none ↔ other.error? field value = none := by
        simpa [Constraint.error?] using Rule.violation?_eq_none_iff agree.2 value
      rw [List.forall_mem_cons, List.forall_mem_cons, broken, ih]

/-- Agreeing fields accept the same values. -/
theorem error?_eq_none_iff_of_agrees {a b : Field} (same : a.agrees b = true)
    (value : Option Value) : a.error? value = none ↔ b.error? value = none := by
  simp only [agrees, Bool.and_eq_true, beq_iff_eq] at same
  obtain ⟨⟨⟨⟨name, type⟩, role⟩, -⟩, constraints⟩ := same
  cases value with
  | none =>
      rw [error?, error?, isNullable, isNullable, role]
      split <;> simp
  | some value =>
      have typed : a.typeError? value = none ↔ b.typeError? value = none := by
        rw [typeError?_eq_none_iff, typeError?_eq_none_iff, type]
      rw [error?, error?, valueError?, valueError?, Option.or_eq_none_iff, Option.or_eq_none_iff,
        typed, name, constraints_eq_none_iff constraints]

end Field

namespace Table

/-- Values suit the fields of one list exactly when they suit agreeing fields. -/
theorem suits_zip_iff_of_isEqv {first second : List Field}
    (same : first.isEqv second Field.agrees = true) (values : List (Option Value)) :
    (∀ entry ∈ first.zip values, entry.1.error? entry.2 = none) ↔
      ∀ entry ∈ second.zip values, entry.1.error? entry.2 = none := by
  rw [isEqv_iff_forall₂ fun _ _ => Iff.rfl] at same
  induction same generalizing values with
  | nil => rfl
  | cons agree _ ih =>
      cases values with
      | nil => simp
      | cons value values =>
          simp only [List.zip_cons_cons, List.forall_mem_cons]
          rw [Field.error?_eq_none_iff_of_agrees agree, ih]

/-- Values suit a table exactly when they suit a table that is the same. -/
theorem suits_iff_of_sameAs {a b : Table} (same : a.sameAs b = true)
    (values : List (Option Value)) :
    (∀ entry ∈ a.fields.zip values, entry.1.error? entry.2 = none) ↔
      ∀ entry ∈ b.fields.zip values, entry.1.error? entry.2 = none := by
  simp only [sameAs, Bool.and_eq_true] at same
  exact suits_zip_iff_of_isEqv same.2 values

end Table

end TableStore
