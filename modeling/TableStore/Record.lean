import TableStore.Table.Basic

/-!
# Records

A record is one row of a table: an optional value for each field, in the order of the
fields. Values given from the front are enough; the fields left over are empty. Every
value is checked against its field, and the first field with a fault decides the
error. Of values that a server gave only the type is checked.
-/

namespace TableStore

/-- One row of a table. -/
structure Record where
  table : Table
  values : List (Option Value)
  aligned : values.length = table.fields.length
deriving DecidableEq

namespace Record

/-- Values followed by nothing for every further field of a table. -/
def fill (table : Table) (values : List (Option Value)) : List (Option Value) :=
  values ++ List.replicate (table.fields.length - values.length) none

theorem length_fill (table : Table) (values : List (Option Value))
    (fits : values.length ≤ table.fields.length) :
    (fill table values).length = table.fields.length := by
  simp [fill]
  omega

/-- The first reason against values, each put to a check of its field in order. -/
def valuesError? (check : Field → Option Value → Option Error) (fields : List Field)
    (values : List (Option Value)) : Option Error :=
  (fields.zip values).findSome? fun (field, value) => check field value

/-- The record of a table with the given values, each put to a check of its field, or the first
reason against it. -/
def checked (check : Field → Option Value → Option Error) (table : Table)
    (values : List (Option Value)) : Except Error Record :=
  if fits : values.length ≤ table.fields.length then
    match valuesError? check table.fields (fill table values) with
    | some error => .error error
    | none => .ok ⟨table, fill table values, length_fill table values fits⟩
  else
    .error (.configuration
      (.tooManyValues table.qualifiedName values.length table.fieldCount))

/-- The record of a table with the given values, or the first reason against it. -/
def build (table : Table) (values : List (Option Value)) : Except Error Record :=
  checked Field.error? table values

/-- The record of a table with values that a server gave. Only their number and their types are
checked, because the server sees to the rest. -/
def restore (table : Table) (values : List (Option Value)) : Except Error Record :=
  checked Field.mismatch? table values

/-- The value at a position; nothing for an empty field or a position beyond the last. -/
def value? (record : Record) (index : Nat) : Option Value :=
  record.values[index]?.join

/-- The value of the field with a name; nothing for an empty field or another name. -/
def valueNamed? (record : Record) (name : String) : Option Value :=
  (record.table.fieldIndex? name).bind record.value?

/-- The fields with their values, in order. -/
def entries (record : Record) : List (Field × Option Value) :=
  record.table.fields.zip record.values

/-- Whether two optional values have the same content. -/
def valueAgrees : Option Value → Option Value → Bool
  | some a, some b => a.agrees b
  | none, none => true
  | _, _ => false

/-- Whether two records are of the same table and have the same values. -/
def agrees (a b : Record) : Bool :=
  a.table.sameAs b.table && a.values.isEqv b.values valueAgrees

end Record

end TableStore
