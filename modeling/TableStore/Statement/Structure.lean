import TableStore.Statement.Rows

/-!
# Statements about structure

The statements that create the schema and the table of a declaration in one environment
and that bring single columns and the primary key in line with it.
-/

namespace TableStore

open Sql

/-- The column of a field. -/
def Field.column (field : Field) : Column :=
  ⟨field.name, field.type, field.isNullable⟩

namespace Table

/-- The statement that creates the schema of a table. -/
def schemaCreation (table : Table) (environment : Environment) : Definition :=
  .createSchema (Routing.physicalSchema table.schema environment)

/-- The statement that creates a table. -/
def creation (table : Table) (environment : Environment) : Definition :=
  .createTable (table.physical environment) (table.fields.map Field.column) table.keyNames

/-- The statement that adds the column of a field. -/
def columnAddition (table : Table) (field : Field) (environment : Environment) : Definition :=
  .addColumn (table.physical environment) field.column

/-- The statement that gives the column of a field its type. -/
def typeAlteration (table : Table) (field : Field) (environment : Environment) : Definition :=
  .alterType (table.physical environment) field.name field.type

/-- The statement that lets the column of a field be empty or forbids it. -/
def nullabilityAlteration (table : Table) (field : Field) (environment : Environment) :
    Definition :=
  .setNullable (table.physical environment) field.name field.isNullable

/-- The statement that adds the primary key. -/
def keyAddition (table : Table) (environment : Environment) : Definition :=
  .addPrimaryKey (table.physical environment) table.keyNames

end Table

end TableStore
