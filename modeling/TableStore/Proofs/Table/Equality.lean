import TableStore.Proofs.Constraint
import TableStore.Proofs.Table.Basic

/-!
# Equal fields and tables

Fields are compared like their parts, and two tables are the same when they have one schema, one
name and equal fields in the same order.
-/

namespace TableStore

theorem forall₂_symm {α : Type} {related : α → α → Prop} {first second : List α}
    (turns : ∀ {x y}, related x y → related y x) (all : List.Forall₂ related first second) :
    List.Forall₂ related second first :=
  (all.imp fun _ _ => turns).flip

theorem forall₂_trans {α : Type} {related : α → α → Prop} {first second third : List α}
    (goesOn : ∀ {x y z}, related x y → related y z → related x z)
    (all : List.Forall₂ related first second) (further : List.Forall₂ related second third) :
    List.Forall₂ related first third := by
  induction all generalizing third with
  | nil => exact further
  | cons same _ ih =>
      cases further with
      | cons other rest => exact .cons (goesOn same other) (ih rest)

/-- What stands in the first of two lists is related to something in the second. -/
theorem exists_mem_of_forall₂ {α β : Type} {related : α → β → Prop} {first : List α}
    {second : List β} (all : List.Forall₂ related first second) {x : α} (member : x ∈ first) :
    ∃ y ∈ second, related x y := by
  induction all with
  | nil => cases member
  | cons same _ ih =>
      rcases List.mem_cons.mp member with rfl | later
      · exact ⟨_, List.mem_cons_self, same⟩
      · rcases ih later with ⟨y, present, also⟩
        exact ⟨y, List.mem_cons_of_mem _ present, also⟩

/-- Equality of fields. -/
structure Field.Equal (a b : Field) : Prop where
  name : a.name = b.name
  type : a.type = b.type
  role : a.role = b.role
  description : a.description = b.description
  constraints : List.Forall₂ Constraint.Equal a.constraints b.constraints

theorem Field.agrees_iff (a b : Field) : a.agrees b = true ↔ a.Equal b := by
  simp only [agrees, Bool.and_eq_true, beq_iff_eq, isEqv_iff_forall₂ Constraint.agrees_iff]
  constructor
  · rintro ⟨⟨⟨⟨name, type⟩, role⟩, description⟩, constraints⟩
    exact ⟨name, type, role, description, constraints⟩
  · rintro ⟨name, type, role, description, constraints⟩
    exact ⟨⟨⟨⟨name, type⟩, role⟩, description⟩, constraints⟩

theorem Field.Equal.symm {a b : Field} (same : a.Equal b) : b.Equal a :=
  ⟨same.name.symm, same.type.symm, same.role.symm, same.description.symm,
    forall₂_symm Constraint.Equal.symm same.constraints⟩

theorem Field.Equal.trans {a b c : Field} (first : a.Equal b) (second : b.Equal c) : a.Equal c :=
  ⟨first.name.trans second.name, first.type.trans second.type, first.role.trans second.role,
    first.description.trans second.description,
    forall₂_trans Constraint.Equal.trans first.constraints second.constraints⟩

/-- A field whose constraints are at hand is equal to itself. -/
theorem Field.equal_self {field : Field}
    (atHand : ∀ constraint ∈ field.constraints, constraint.AtHand) : field.Equal field :=
  ⟨rfl, rfl, rfl, rfl, List.forall₂_same.mpr fun constraint member =>
    (atHand constraint member).equal_self⟩

/-- Sameness of tables. -/
structure Table.Same (a b : Table) : Prop where
  schema : a.schema = b.schema
  name : a.name = b.name
  fields : List.Forall₂ Field.Equal a.fields b.fields

theorem Table.sameAs_iff (a b : Table) : a.sameAs b = true ↔ a.Same b := by
  simp only [sameAs, Bool.and_eq_true, beq_iff_eq, isEqv_iff_forall₂ Field.agrees_iff]
  constructor
  · rintro ⟨⟨schema, name⟩, fields⟩
    exact ⟨schema, name, fields⟩
  · rintro ⟨schema, name, fields⟩
    exact ⟨⟨schema, name⟩, fields⟩

theorem Table.Same.symm {a b : Table} (same : a.Same b) : b.Same a :=
  ⟨same.schema.symm, same.name.symm, forall₂_symm Field.Equal.symm same.fields⟩

theorem Table.Same.trans {a b c : Table} (first : a.Same b) (second : b.Same c) : a.Same c :=
  ⟨first.schema.trans second.schema, first.name.trans second.name,
    forall₂_trans Field.Equal.trans first.fields second.fields⟩

end TableStore
