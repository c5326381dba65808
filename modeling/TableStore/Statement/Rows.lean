import TableStore.Record
import TableStore.Selection
import TableStore.Sql.Statement
import TableStore.Updates

/-!
# Statements about rows

The statements that count, read, delete, update and insert rows of a table in one
environment. Columns stand in the order of the fields; reading is ordered by the
primary key when there is one.
-/

namespace TableStore

open Sql

namespace Table

/-- The table of the server that holds a table in an environment. -/
def physical (table : Table) (environment : Environment) : TableName :=
  ⟨Routing.physicalSchema table.schema environment, table.name⟩

/-- The names of the fields in order. -/
def fieldNames (table : Table) : List String :=
  table.fields.map (·.name)

/-- The names of the primary key in order. -/
def keyNames (table : Table) : List String :=
  table.keyFields.map (·.name)

/-- The literals of a record under the columns of a table, each value looked up by the
name of its column. -/
def row (table : Table) (record : Record) : List Literal :=
  table.fields.map fun field => field.literal (record.valueNamed? field.name)

/-- The statement that inserts records into a table, if there are any. -/
def insertion? (table : Table) (environment : Environment) :
    List Record → Option RowStatement
  | [] => none
  | records =>
      some (.insert (table.physical environment) table.fieldNames (records.map table.row))

end Table

namespace Selection

/-- The conditions of a selection in order. -/
def conditions (selection : Selection) : List Condition :=
  selection.criteria.map (·.condition)

/-- The statement that counts the selected rows. -/
def counting (selection : Selection) (environment : Environment) : RowStatement :=
  .count (selection.table.physical environment) selection.conditions

/-- The statement that reads the selected rows. -/
def reading (selection : Selection) (environment : Environment) : RowStatement :=
  .select selection.table.fieldNames (selection.table.physical environment)
    selection.conditions selection.table.keyNames

/-- The statement that deletes the selected rows. -/
def deletion (selection : Selection) (environment : Environment) : RowStatement :=
  .delete (selection.table.physical environment) selection.conditions

end Selection

namespace Updates

/-- The assignments of an update in order of the fields. -/
def assignments (updates : Updates) : List (String × Literal) :=
  updates.changes.map fun (field, value) => (field.name, field.literal value)

/-- The statement that updates the selected rows of the selection's table. -/
def statement (updates : Updates) (selection : Selection) (environment : Environment) :
    RowStatement :=
  .update (selection.table.physical environment) updates.assignments selection.conditions

end Updates

end TableStore
