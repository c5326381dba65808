import TableStore.Constraint

/-!
# Fields

A field is one column of a table: a name, a value type, a role, a description and
constraints. The role decides whether the column belongs to the primary key and
whether a row may leave it empty.

A value suits a field when it has the type, can be stored exactly and breaks no
constraint; the first reason against it is its error.
-/

namespace TableStore

/-- The part that a field plays in its table. -/
inductive Role where
  | partitionKey
  | clusteringKey
  | notNull
  | nullable
deriving DecidableEq, Repr

namespace Role

/-- Whether a row may leave the field empty. -/
def isNullable : Role → Bool
  | .nullable => true
  | _ => false

/-- Whether the field belongs to the primary key. -/
def isKey : Role → Bool
  | .partitionKey | .clusteringKey => true
  | _ => false

/-- The name of a role in messages and reports. -/
def name : Role → String
  | .partitionKey => "PARTITION_KEY"
  | .clusteringKey => "CLUSTERING_KEY"
  | .notNull => "NOT_NULL"
  | .nullable => "NULLABLE"

end Role

/-- One column of a table. -/
structure Field where
  name : String
  type : ValueType
  role : Role
  description : String := ""
  constraints : List Constraint := []
deriving DecidableEq

namespace Field

/-- Whether a row may leave the field empty. -/
def isNullable (field : Field) : Bool :=
  field.role.isNullable

/-- Equality of fields, with the bounds of constraints compared as numbers. -/
def agrees (a b : Field) : Bool :=
  a.name == b.name && a.type == b.type && a.role == b.role &&
    a.description == b.description && a.constraints.isEqv b.constraints Constraint.agrees

/-- The error of a value whose type is not the field's; nothing has no type. -/
def mismatch? (field : Field) : Option Value → Option Error
  | some value =>
      if value.type ≠ field.type then
        some (.typeMismatch field.name field.type value.type)
      else none
  | none => none

/-- The error of a value whose type is not the field's or which cannot be stored. -/
def typeError? (field : Field) (value : Value) : Option Error :=
  if value.type ≠ field.type then
    some (.typeMismatch field.name field.type value.type)
  else (value.storageIssue?).map (.unrepresentable field.name)

/-- The first reason against storing a value in the field. -/
def valueError? (field : Field) (value : Value) : Option Error :=
  (field.typeError? value).or
    (field.constraints.findSome? fun constraint => constraint.error? field.name value)

/-- The first reason against storing a value or nothing in the field. -/
def error? (field : Field) : Option Value → Option Error
  | some value => field.valueError? value
  | none => if field.isNullable then none else some (.nullViolation field.name)

end Field

end TableStore
