import TableStore.Proofs.Field
import TableStore.Proofs.Table.Lookup
import TableStore.Statement.Structure

/-!
# Tables that stand for each other

A table stands for itself and for every table that is the same. This is an equivalence, but not
equality: descriptions of tables do not count, and a bound that is zero may have either sign.

What is kept is all that counts for an operation. The tables have one place, their fields have the
same outlines in the same order, each field accepts what its counterpart accepts, and a field
belongs to both or to none.
-/

namespace TableStore

open Sql

/-! ## Fields -/

/-- Whether a field stands for another: it is this field or equal to it. -/
def Field.Alike (a b : Field) : Prop :=
  a = b ∨ a.Equal b

theorem Field.Alike.outline_eq {a b : Field} (alike : a.Alike b) : a.outline = b.outline := by
  rcases alike with rfl | same
  · rfl
  · exact outline_eq_of_agrees ((agrees_iff a b).mpr same)

theorem Field.Alike.error?_eq_none_iff {a b : Field} (alike : a.Alike b) (value : Option Value) :
    a.error? value = none ↔ b.error? value = none := by
  rcases alike with rfl | same
  · rfl
  · exact error?_eq_none_iff_of_agrees ((agrees_iff a b).mpr same) value

namespace Field.Alike

variable {a b : Field} (alike : a.Alike b)

include alike

theorem name_eq : a.name = b.name :=
  congrArg Prod.fst alike.outline_eq

theorem type_eq : a.type = b.type :=
  congrArg (·.2.1) alike.outline_eq

theorem isNullable_eq : a.isNullable = b.isNullable :=
  congrArg (·.2.2.isNullable) alike.outline_eq

theorem column_eq : a.column = b.column := by
  rw [column, column, alike.name_eq, alike.type_eq, alike.isNullable_eq]

end Field.Alike

/-- A field with an outline, of which nothing else is known. -/
def Field.ofOutline (outline : String × ValueType × Role) : Field where
  name := outline.1
  type := outline.2.1
  role := outline.2.2

namespace Table

/-! ## Equivalence -/

/-- Whether the constraints of the fields of a table are at hand. -/
def AtHand (table : Table) : Prop :=
  ∀ field ∈ table.fields, ∀ constraint ∈ field.constraints, constraint.AtHand

/-- Whether a table stands for another: it is this table or the same. -/
def Alike (a b : Table) : Prop :=
  a = b ∨ a.sameAs b = true

variable {a b c : Table}

theorem sameAs_refl (atHand : a.AtHand) : a.sameAs a = true :=
  (sameAs_iff a a).mpr ⟨rfl, rfl, List.forall₂_same.mpr fun field member =>
    Field.equal_self (atHand field member)⟩

theorem sameAs_symm (same : a.sameAs b = true) : b.sameAs a = true :=
  (sameAs_iff b a).mpr ((sameAs_iff a b).mp same).symm

theorem sameAs_trans (first : a.sameAs b = true) (second : b.sameAs c = true) :
    a.sameAs c = true :=
  (sameAs_iff a c).mpr (((sameAs_iff a b).mp first).trans ((sameAs_iff b c).mp second))

namespace Alike

theorem symm (alike : a.Alike b) : b.Alike a :=
  alike.imp Eq.symm sameAs_symm

/-- What is the same as a table is the same as one that stands for it, and the other way round. -/
theorem sameAs_eq {first second : Table} (alike : a.Alike b) (other : first.Alike second) :
    a.sameAs first = b.sameAs second := by
  have forward {a b first second : Table} (alike : a.Alike b) (other : first.Alike second)
      (same : a.sameAs first = true) : b.sameAs second = true := by
    have left : b.sameAs first = true := by
      rcases alike with rfl | alike
      · exact same
      · exact sameAs_trans (sameAs_symm alike) same
    rcases other with rfl | other
    · exact left
    · exact sameAs_trans left other
  exact Bool.eq_iff_iff.mpr ⟨forward alike other, forward alike.symm other.symm⟩

/-! ## What is kept -/

section Kept

variable (alike : a.Alike b)

include alike

theorem schema_eq : a.schema = b.schema := by
  rcases alike with rfl | same
  · rfl
  · exact (eq_of_sameAs same).1

theorem name_eq : a.name = b.name := by
  rcases alike with rfl | same
  · rfl
  · exact (eq_of_sameAs same).2.1

theorem qualifiedName_eq : a.qualifiedName = b.qualifiedName := by
  rw [Declaration.qualifiedName, Declaration.qualifiedName, alike.schema_eq, alike.name_eq]

theorem physical_eq (environment : Environment) :
    a.physical environment = b.physical environment := by
  rw [physical, physical, alike.schema_eq, alike.name_eq]

/-- Fields stand for each other one by one. -/
theorem fields : List.Forall₂ Field.Alike a.fields b.fields := by
  rcases alike with rfl | same
  · exact List.forall₂_same.mpr fun field _ => .inl rfl
  · exact ((sameAs_iff a b).mp same).fields.imp fun _ _ => .inr

theorem length_fields_eq : a.fields.length = b.fields.length :=
  alike.fields.length_eq

theorem outlines_eq : a.fields.map Field.outline = b.fields.map Field.outline := by
  rcases alike with rfl | same
  · rfl
  · exact (eq_of_sameAs same).2.2

/-- What is made of the outlines of the fields is the same. -/
theorem map_outline_eq {β : Type} (of : String × ValueType × Role → β) :
    (a.fields.map fun field => of field.outline) = b.fields.map fun field => of field.outline := by
  simpa only [List.map_map, Function.comp_def] using congrArg (List.map of) alike.outlines_eq

theorem fieldNames_eq : a.fieldNames = b.fieldNames :=
  alike.map_outline_eq Prod.fst

theorem columns_eq : a.fields.map Field.column = b.fields.map Field.column :=
  alike.map_outline_eq fun outline => (Field.ofOutline outline).column

/-- The names of the primary key are picked by role. -/
theorem keyNames_eq : a.keyNames = b.keyNames := by
  have picked (table : Table) (role : Role) :
      (table.fields.filter (·.role == role)).map (·.name) =
        ((table.fields.map Field.outline).filter (·.2.2 == role)).map Prod.fst := by
    rw [List.filter_map, List.map_map]
    rfl
  rw [keyNames, keyNames, keyFields, keyFields, List.map_append, List.map_append, picked, picked,
    picked, picked, alike.outlines_eq]

/-- A name is at the same position. -/
theorem fieldIndex?_eq (name : String) : a.fieldIndex? name = b.fieldIndex? name := by
  have named (table : Table) (index : Nat) :
      table.fieldIndex? name = some index ↔ table.fieldNames[index]? = some name := by
    rw [fieldIndex?_eq_some_iff, fieldNames, List.getElem?_map, Option.map_eq_some_iff]
  apply Option.ext
  intro index
  rw [named, named, alike.fieldNames_eq]

/-- The same fields belong to both tables. -/
theorem contains_eq (field : Field) : a.contains field = b.contains field := by
  have forward {a b : Table} (alike : a.Alike b) (contained : a.contains field = true) :
      b.contains field = true := by
    rcases contains_iff.mp contained with ⟨own, member, same⟩
    rcases exists_mem_of_forall₂ alike.fields member with ⟨other, otherMem, rfl | also⟩
    · exact contains_iff.mpr ⟨own, otherMem, same⟩
    · exact contains_iff.mpr ⟨other, otherMem, also.symm.trans same⟩
  exact Bool.eq_iff_iff.mpr ⟨forward alike, forward alike.symm⟩

/-- Values suit both tables or neither. -/
theorem suits_iff (values : List (Option Value)) :
    (∀ entry ∈ a.fields.zip values, entry.1.error? entry.2 = none) ↔
      ∀ entry ∈ b.fields.zip values, entry.1.error? entry.2 = none := by
  rcases alike with rfl | same
  · rfl
  · exact suits_iff_of_sameAs same values

/-- A field with a name accepts a value in both tables or in neither. -/
theorem exists_accepting_iff (name : String) (value : Option Value) :
    (∃ field ∈ a.fields, field.name = name ∧ field.error? value = none) ↔
      ∃ field ∈ b.fields, field.name = name ∧ field.error? value = none := by
  have forward {a b : Table} (alike : a.Alike b) :
      (∃ field ∈ a.fields, field.name = name ∧ field.error? value = none) →
        ∃ field ∈ b.fields, field.name = name ∧ field.error? value = none := by
    rintro ⟨own, member, named, accepts⟩
    rcases exists_mem_of_forall₂ alike.fields member with ⟨other, otherMem, counterpart⟩
    have alsoAccepts := (counterpart.error?_eq_none_iff value).mp accepts
    exact ⟨other, otherMem, counterpart.name_eq ▸ named, alsoAccepts⟩
  exact ⟨forward alike, forward alike.symm⟩

end Kept

end Alike

end Table

end TableStore
