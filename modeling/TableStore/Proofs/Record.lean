import TableStore.Proofs.Table.Basic
import TableStore.Proofs.Value.Literal

/-!
# Records under the columns of a table

The values of a record that was built suit their fields. In a table that is the same as the
record's own, looking a value up by the name of a column gives the value at the position of the
column, so the row of a record has the literals of its values in order.
-/

namespace TableStore

open Sql

/-- What suits a field has the field's type and can be stored. -/
theorem Field.typed_of_error?_eq_none {field : Field} {value : Option Value}
    (suits : field.error? value = none) :
    ∀ v ∈ value, v.type = field.type ∧ v.storageIssue? = none := by
  rintro v rfl
  exact (field.typeError?_eq_none_iff v).mp (Option.or_eq_none_iff.mp suits).1

namespace Record

theorem fill_eq_self {table : Table} {values : List (Option Value)}
    (aligned : values.length = table.fields.length) : fill table values = values := by
  simp [fill, aligned]

/-- What is checked becomes a record of its table when there is room for it and every value
passes. -/
theorem checked_eq_ok_iff {check : Field → Option Value → Option Error} {table : Table}
    {values : List (Option Value)} {record : Record} :
    checked check table values = .ok record ↔
      values.length ≤ table.fields.length ∧ record.table = table ∧
        record.values = fill table values ∧
        ∀ entry ∈ record.entries, check entry.1 entry.2 = none := by
  unfold checked
  by_cases fits : values.length ≤ table.fields.length
  · rw [dif_pos fits]
    constructor
    · intro made
      split at made
      · cases made
      · rename_i accepted
        cases made
        exact ⟨fits, rfl, rfl, List.findSome?_eq_none_iff.mp accepted⟩
    · obtain ⟨own, held, aligned⟩ := record
      rintro ⟨-, sameTable, sameValues, accepted⟩
      dsimp only at sameTable sameValues
      subst sameTable sameValues
      have passes : valuesError? check own.fields (fill own values) = none :=
        List.findSome?_eq_none_iff.mpr accepted
      rw [passes]
  · simp [fits]

/-- A record that was built is of its table, and every value suits its field. -/
theorem suits_of_build {table : Table} {values : List (Option Value)} {record : Record}
    (built : build table values = .ok record) :
    record.table = table ∧ ∀ entry ∈ record.entries, entry.1.error? entry.2 = none := by
  obtain ⟨-, own, -, suits⟩ := checked_eq_ok_iff.mp built
  exact ⟨own, suits⟩

variable {table : Table} {record : Record}

/-- The value under the name of a column is the value at its position. -/
theorem valueNamed?_eq (same : record.table.sameAs table = true) {field : Field}
    {value : Option Value} (member : (field, value) ∈ table.fields.zip record.values) :
    record.valueNamed? field.name = value := by
  obtain ⟨own, ownMem, outline⟩ := Table.exists_mem_zip_of_sameAs same member
  obtain ⟨index, at_index⟩ := List.mem_iff_getElem?.mp ownMem
  obtain ⟨found, valued⟩ := List.getElem?_zip_eq_some.mp at_index
  have sameName : own.name = field.name := (Prod.mk.inj outline).1
  rw [valueNamed?, ← sameName, Table.fieldIndex?_eq_some found, Option.bind_some, value?, valued,
    Option.join_some]

/-- The row of a record has the literals of its values in the order of the columns. -/
theorem row_eq (same : record.table.sameAs table = true) :
    table.row record =
      (table.fields.zip record.values).map fun entry => entry.1.literal entry.2 := by
  have aligned : table.fields.length = record.values.length := by
    rw [record.aligned, Table.length_fields_of_sameAs same]
  have fields : table.fields = (table.fields.zip record.values).map Prod.fst :=
    (List.map_fst_zip aligned.le).symm
  rw [Table.row]
  nth_rewrite 1 [fields]
  rw [List.map_map]
  apply List.map_congr_left
  intro entry member
  rw [Function.comp_apply, valueNamed?_eq same member]

/-- The values of a record that was built have the types of the columns and can be stored. -/
theorem typed_of_build {values : List (Option Value)} {declared : Table}
    (built : build declared values = .ok record) (same : record.table.sameAs table = true) :
    ∀ entry ∈ table.fields.zip record.values,
      ∀ v ∈ entry.2, v.type = entry.1.type ∧ v.storageIssue? = none :=
  Table.forall_mem_zip_of_sameAs same
    (fun type value => ∀ v ∈ value, v.type = type ∧ v.storageIssue? = none)
    fun entry member => Field.typed_of_error?_eq_none ((suits_of_build built).2 entry member)

end Record

end TableStore
