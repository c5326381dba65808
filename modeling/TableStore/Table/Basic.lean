import TableStore.Field
import TableStore.Table.Name

/-!
# Tables

A declaration gives a table its place, its name and its fields. It is accepted when
every name is a name, the schema does not end like the schemas of the other
environments, there is a field, no field is declared twice, and the constraints of
every field are of its type and bear different names.

Accepting a declaration goes through its fields once and writes down the position of each
name. A table is a declaration together with these positions and the fact that it was accepted,
so whatever is said of tables is said of accepted declarations.
-/

namespace TableStore

namespace Field

/-- The first reason against the constraints of a field, given the names of those
before them. -/
def constraintsError? (field : Field) (seen : List String) :
    List Constraint → Option Error
  | [] => none
  | constraint :: rest =>
      if constraint.type ≠ field.type then
        some (.configuration
          (.constraintOfOtherType constraint.name constraint.type field.name field.type))
      else if constraint.name ∈ seen then
        some (.configuration (.constraintTwice field.name constraint.name))
      else constraintsError? field (constraint.name :: seen) rest

/-- The first reason against declaring a field. -/
def declarationError? (field : Field) : Option Error :=
  (Name.error? .field field.name).or (field.constraintsError? [] field.constraints)

end Field

/-- What is said about a table before it is checked. -/
structure Declaration where
  tablespace : String
  schema : String
  name : String
  description : String := ""
  examples : Option String := none
  fields : List Field
deriving DecidableEq

/-- The positions of fields under their names. -/
abbrev FieldIndex := List (String × Nat)

namespace Declaration

/-- Schema and table name joined by a point, for messages. -/
def qualifiedName (declaration : Declaration) : String :=
  declaration.schema ++ "." ++ declaration.name

/-- The first reason against a declaration apart from its fields, one of which there must be. -/
def headError? (declaration : Declaration) : Option Error :=
  (Name.error? .tablespace declaration.tablespace).or <|
  (Name.error? .schema declaration.schema).or <|
  (Name.error? .table declaration.name).or <|
  ((Name.reservedSuffix? declaration.schema).map fun ending =>
    .configuration (.reservedSuffix declaration.schema ending)).or <|
  if declaration.fields.isEmpty then
    some (.configuration (.noFields declaration.qualifiedName))
  else none

/-- The positions of fields from a position on, added to those of the fields before them, or
the first reason against one of the fields. -/
def indexFields (declaration : Declaration) (index : FieldIndex) (position : Nat) :
    List Field → Except Error FieldIndex
  | [] => .ok index
  | field :: rest =>
      match field.declarationError? with
      | some error => .error error
      | none =>
          match index.lookup field.name with
          | some _ => .error (.configuration (.fieldTwice declaration.qualifiedName field.name))
          | none =>
              indexFields declaration ((field.name, position) :: index) (position + 1) rest

/-- The positions of the fields of a declaration, or the first reason against it. -/
def freeze (declaration : Declaration) : Except Error FieldIndex :=
  match declaration.headError? with
  | some error => .error error
  | none => declaration.indexFields [] 0 declaration.fields

end Declaration

/-- A declaration that was accepted, with the positions of its fields. -/
structure Table extends Declaration where
  index : FieldIndex
  frozen : toDeclaration.freeze = .ok index
deriving DecidableEq

namespace Declaration

/-- The table of a declaration, or the first reason against it. -/
def build (declaration : Declaration) : Except Error Table :=
  match frozen : declaration.freeze with
  | .ok index => .ok ⟨declaration, index, frozen⟩
  | .error error => .error error

theorem freeze_eq_ok_get {frozen : Except Error FieldIndex}
    (accepted : frozen.toOption.isSome = true) :
    frozen = .ok (frozen.toOption.get accepted) := by
  cases frozen with
  | error => cases accepted
  | ok => rfl

/-- The table of a declaration that is known to be accepted. -/
def accept (declaration : Declaration)
    (accepted : declaration.freeze.toOption.isSome = true) : Table where
  toDeclaration := declaration
  index := declaration.freeze.toOption.get accepted
  frozen := freeze_eq_ok_get accepted

theorem build_eq_ok_iff (declaration : Declaration) (table : Table) :
    declaration.build = .ok table ↔ table.toDeclaration = declaration := by
  unfold build
  constructor
  · intro built
    split at built
    · cases built
      rfl
    · cases built
  · rintro rfl
    obtain ⟨declaration, index, accepted⟩ := table
    split
    · rename_i other frozen
      cases accepted.symm.trans frozen
      rfl
    · rename_i error rejected
      cases accepted.symm.trans rejected

end Declaration

namespace Table

/-- The number of fields. -/
def fieldCount (table : Table) : Nat :=
  table.fields.length

/-- The field at a position. -/
def field? (table : Table) (index : Nat) : Option Field :=
  table.fields[index]?

/-- The position of the field with a name. -/
def fieldIndex? (table : Table) (name : String) : Option Nat :=
  table.index.lookup name

/-- The field with a name. -/
def fieldNamed? (table : Table) (name : String) : Option Field :=
  (table.fieldIndex? name).bind table.field?

/-- Whether a field is one of the table's. -/
def contains (table : Table) (field : Field) : Bool :=
  (table.fieldNamed? field.name).any fun own => own.agrees field

/-- Whether two tables declare the same fields in the same order under one schema and
one name. -/
def sameAs (a b : Table) : Bool :=
  a.schema == b.schema && a.name == b.name && a.fields.isEqv b.fields Field.agrees

/-- The fields of the primary key: partition keys, then clustering keys, each in
order of declaration. -/
def keyFields (table : Table) : List Field :=
  table.fields.filter (·.role == .partitionKey) ++
    table.fields.filter (·.role == .clusteringKey)

end Table

end TableStore
