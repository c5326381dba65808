import Mathlib.Data.List.Forall2
import TableStore.Proofs.Table.Legal
import TableStore.Statement.Rows

/-!
# Accepted tables

A table that was accepted has fields, and their names are distinct, so the field at a position
is found again under its name. Tables that are the same agree on the name, the type and the role
of each field.
-/

namespace TableStore

/-- In a list where no key comes twice, what is looked up under a key is what stands beside it. -/
theorem lookup_eq_some_iff_mem {κ α : Type} [BEq κ] [LawfulBEq κ] {entries : List (κ × α)}
    (distinct : (entries.map Prod.fst).Nodup) {key : κ} {value : α} :
    entries.lookup key = some value ↔ (key, value) ∈ entries := by
  induction entries with
  | nil => simp
  | cons entry rest ih =>
      obtain ⟨own, found⟩ := entry
      rw [List.map_cons, List.nodup_cons] at distinct
      rw [List.lookup_cons, List.mem_cons]
      cases same : key == own with
      | true =>
          obtain rfl := eq_of_beq same
          have later : (key, value) ∉ rest := fun member =>
            distinct.1 (List.mem_map.mpr ⟨_, member, rfl⟩)
          simp [later, eq_comm]
      | false => simp [ih distinct.2, ne_of_beq_false same]

/-- A Boolean comparison of lists goes along both lists. -/
theorem isEqv_iff_forall₂ {α : Type} {same : α → α → Bool} {Equal : α → α → Prop}
    (decides : ∀ a b, same a b = true ↔ Equal a b) (first second : List α) :
    first.isEqv second same = true ↔ List.Forall₂ Equal first second := by
  induction first generalizing second with
  | nil => cases second <;> simp
  | cons a first ih =>
      cases second with
      | nil => simp
      | cons b second =>
          rw [List.isEqv_cons_cons, Bool.and_eq_true, decides, ih, List.forall₂_cons]

/-- What a field says about its column: name, type and role. -/
def Field.outline (field : Field) : String × ValueType × Role :=
  (field.name, field.type, field.role)

theorem Field.outline_eq_of_agrees {a b : Field} (same : a.agrees b = true) :
    a.outline = b.outline := by
  simp only [agrees, Bool.and_eq_true, beq_iff_eq] at same
  obtain ⟨⟨⟨⟨name, type⟩, role⟩, -⟩, -⟩ := same
  rw [outline, outline, name, type, role]

namespace Table

variable (table : Table)

theorem fields_ne_nil : table.fields ≠ [] :=
  table.isLegal.fields_ne_nil

/-- No two fields of a table have one name. -/
theorem nodup_fieldNames : table.fieldNames.Nodup :=
  table.isLegal.fieldNames_nodup

theorem fieldNames_ne_nil : table.fieldNames ≠ [] := by
  simpa [fieldNames] using table.fields_ne_nil

variable {table}

/-- The names in the index are those of the fields. -/
theorem map_fst_index : table.index.map Prod.fst = table.fieldNames.reverse := by
  have names : (Field.positions 0 table.fields).map Prod.fst = table.fieldNames := by
    rw [Field.positions, List.map_map, fieldNames]
    conv_rhs => rw [← List.zipIdx_map_fst 0 table.fields, List.map_map]
    rfl
  rw [index_eq, List.map_reverse, names]

/-- A name is at a position exactly when the field there bears it. -/
theorem fieldIndex?_eq_some_iff {name : String} {index : Nat} :
    table.fieldIndex? name = some index ↔
      ∃ field, table.fields[index]? = some field ∧ field.name = name := by
  have distinct : (table.index.map Prod.fst).Nodup := by
    rw [map_fst_index]
    exact List.pairwise_reverse.mpr (table.nodup_fieldNames.imp Ne.symm)
  rw [fieldIndex?, lookup_eq_some_iff_mem distinct, index_eq, List.mem_reverse, Field.positions]
  simp [List.mem_zipIdx_iff_getElem?]

/-- A field is at the position of its name. -/
theorem fieldIndex?_eq_some {index : Nat} {field : Field}
    (found : table.fields[index]? = some field) :
    table.fieldIndex? field.name = some index :=
  fieldIndex?_eq_some_iff.mpr ⟨field, found, rfl⟩

/-- The fields of a table are told apart by their names, also when they are paired with values. -/
theorem eq_of_name_eq {α : Type} {values : List α} {first second : Field × α}
    (firstMem : first ∈ table.fields.zip values) (secondMem : second ∈ table.fields.zip values)
    (sameName : first.1.name = second.1.name) : first = second := by
  obtain ⟨i, firstAt⟩ := List.mem_iff_getElem?.mp firstMem
  obtain ⟨j, secondAt⟩ := List.mem_iff_getElem?.mp secondMem
  have firstIndex := fieldIndex?_eq_some (List.getElem?_zip_eq_some.mp firstAt).1
  have secondIndex := fieldIndex?_eq_some (List.getElem?_zip_eq_some.mp secondAt).1
  rw [sameName, secondIndex] at firstIndex
  cases firstIndex
  exact Option.some.inj (firstAt.symm.trans secondAt)

/-- The fields found under a name are the fields that bear it. -/
theorem fieldNamed?_eq_some_iff {name : String} {field : Field} :
    table.fieldNamed? name = some field ↔ field ∈ table.fields ∧ field.name = name := by
  simp only [fieldNamed?, field?, Option.bind_eq_some_iff, fieldIndex?_eq_some_iff]
  constructor
  · rintro ⟨index, ⟨_, found, sameName⟩, again⟩
    cases found.symm.trans again
    exact ⟨List.mem_of_getElem? found, sameName⟩
  · rintro ⟨member, sameName⟩
    obtain ⟨index, found⟩ := List.mem_iff_getElem?.mp member
    exact ⟨index, ⟨field, found, sameName⟩, found⟩

/-- A field is found under its name. -/
theorem fieldNamed?_eq_some {field : Field} (member : field ∈ table.fields) :
    table.fieldNamed? field.name = some field :=
  fieldNamed?_eq_some_iff.mpr ⟨member, rfl⟩

/-! ## Sameness -/

variable {a b : Table}

theorem map_outline_eq_of_isEqv {first second : List Field}
    (same : first.isEqv second Field.agrees = true) :
    first.map Field.outline = second.map Field.outline := by
  rw [isEqv_iff_forall₂ fun _ _ => Iff.rfl] at same
  induction same with
  | nil => rfl
  | cons agree _ ih => rw [List.map_cons, List.map_cons, Field.outline_eq_of_agrees agree, ih]

/-- The same tables are in one place and agree on the outlines of their fields. -/
theorem eq_of_sameAs (same : a.sameAs b = true) :
    a.schema = b.schema ∧ a.name = b.name ∧
      a.fields.map Field.outline = b.fields.map Field.outline := by
  simp only [sameAs, Bool.and_eq_true, beq_iff_eq] at same
  exact ⟨same.1.1, same.1.2, map_outline_eq_of_isEqv same.2⟩

theorem length_fields_of_sameAs (same : a.sameAs b = true) :
    a.fields.length = b.fields.length := by
  simpa using congrArg List.length (eq_of_sameAs same).2.2

theorem fieldNames_of_sameAs (same : a.sameAs b = true) : a.fieldNames = b.fieldNames := by
  have names := congrArg (List.map Prod.fst) (eq_of_sameAs same).2.2
  rw [List.map_map, List.map_map] at names
  exact names

/-- What is paired with a field of one table is paired with a field of the same outline in a
table that is the same. -/
theorem exists_mem_zip_of_sameAs (same : a.sameAs b = true) {α : Type} {values : List α}
    {field : Field} {value : α} (member : (field, value) ∈ b.fields.zip values) :
    ∃ own, (own, value) ∈ a.fields.zip values ∧ own.outline = field.outline := by
  obtain ⟨index, at_index⟩ := List.mem_iff_getElem?.mp member
  obtain ⟨found, valued⟩ := List.getElem?_zip_eq_some.mp at_index
  have outlines := congrArg (fun outlines => outlines[index]?) (eq_of_sameAs same).2.2
  rw [List.getElem?_map, List.getElem?_map, found, Option.map_some] at outlines
  obtain ⟨own, owned, outline⟩ := Option.map_eq_some_iff.mp outlines
  have paired := List.getElem?_zip_eq_some (z := (own, value)).mpr ⟨owned, valued⟩
  exact ⟨own, List.mem_of_getElem? paired, outline⟩

/-- What holds of the values under fields of some types holds in every table that is the same. -/
theorem forall_mem_zip_of_sameAs (same : a.sameAs b = true) {α : Type} {values : List α}
    (holds : ValueType → α → Prop)
    (each : ∀ entry ∈ a.fields.zip values, holds entry.1.type entry.2) :
    ∀ entry ∈ b.fields.zip values, holds entry.1.type entry.2 := by
  intro entry member
  obtain ⟨own, ownMem, outline⟩ := exists_mem_zip_of_sameAs same member
  have sameType : own.type = entry.1.type := (Prod.mk.inj (Prod.mk.inj outline).2).1
  rw [← sameType]
  exact each _ ownMem

end Table

end TableStore
