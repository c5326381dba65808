import TableStore.Table.Basic

/-!
# Updates

An update says for each field of a table whether it keeps its value, becomes empty
or takes a new value. It is built from a list of assignments by name, which must not
be empty, must name fields of the table, and must name each at most once. The first
assignment with a fault decides the error.
-/

namespace TableStore

/-- What an update does to one field. -/
inductive FieldUpdate where
  | keep
  | setNull
  | set (value : Value)
deriving DecidableEq

/-- The update that gives a field an optional value. -/
def FieldUpdate.ofValue : Option Value → FieldUpdate
  | none => .setNull
  | some value => .set value

/-- One assignment: the name of a field and its new value, or none to empty it. -/
abbrev Assignment := String × Option Value

/-- New values for the rows of a table, one entry for each field in order. -/
structure Updates where
  table : Table
  updates : List FieldUpdate
  aligned : updates.length = table.fields.length
deriving DecidableEq

namespace Updates

/-- The field with a name and its position. -/
def place? (table : Table) (name : String) : Option (Nat × Field) :=
  (table.fieldIndex? name).bind fun index => (table.field? index).map fun field => (index, field)

/-- Assignments carried out one after another on what is to be done to each field so far, or the
first reason against one of them. A field that does not keep its value was assigned before. -/
def assign (table : Table) (updates : List FieldUpdate) :
    List Assignment → Except Error (List FieldUpdate)
  | [] => .ok updates
  | (name, value) :: rest =>
      match place? table name with
      | none => .error (.binding table.qualifiedName name)
      | some (index, field) =>
          match field.error? value with
          | some error => .error error
          | none =>
              if updates[index]? = some .keep then
                assign table (updates.set index (.ofValue value)) rest
              else .error (.configuration (.assignedTwice name))

/-- Assignments leave every field with one update. -/
theorem length_of_assign {table : Table} {before after : List FieldUpdate}
    {assignments : List Assignment} (assigned : assign table before assignments = .ok after) :
    after.length = before.length := by
  induction assignments generalizing before with
  | nil =>
      cases assigned
      rfl
  | cons assignment rest ih =>
      rw [assign] at assigned
      split at assigned
      · cases assigned
      · split at assigned
        · cases assigned
        · split at assigned
          · rw [ih assigned, List.length_set]
          · cases assigned

/-- The update made of assignments, or the first reason against it. -/
def build (table : Table) (assignments : List Assignment) : Except Error Updates :=
  if assignments.isEmpty then .error (.configuration (.emptyUpdate table.qualifiedName))
  else
    match assigned : assign table (List.replicate table.fieldCount .keep) assignments with
    | .error error => .error error
    | .ok updates => .ok ⟨table, updates, by simp [length_of_assign assigned, Table.fieldCount]⟩

/-- The fields that change with their new values, in order of the fields. -/
def changes (updates : Updates) : List (Field × Option Value) :=
  (updates.table.fields.zip updates.updates).filterMap fun (field, update) =>
    match update with
    | .keep => none
    | .setNull => some (field, none)
    | .set value => some (field, some value)

end Updates

end TableStore
