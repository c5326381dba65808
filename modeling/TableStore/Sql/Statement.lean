import TableStore.Sql.ColumnType
import TableStore.Sql.Condition

/-!
# Statements

The statements that are ever sent, each with its one text. Tables are named by schema
and table, all names are quoted, and all constants are literals, so a statement is a
text without parameters. The queries of the catalog are the exception: they are fixed
texts, and the names they ask about are bound as parameters.
-/

namespace TableStore.Sql

/-- A table of the server. -/
structure TableName where
  schema : String
  table : String
deriving DecidableEq

/-- The quoted name of a table. -/
def TableName.text (name : TableName) : String :=
  quoteIdentifier name.schema ++ "." ++ quoteIdentifier name.table

/-- A column as it is created. -/
structure Column where
  name : String
  type : ValueType
  isNullable : Bool
deriving DecidableEq

/-- The definition of a column. -/
def Column.text (column : Column) : String :=
  quoteIdentifier column.name ++ " " ++ column.type.nativeName ++
    if column.isNullable then "" else " NOT NULL"

/-- Names, quoted and separated by commas. -/
def nameList (names : List String) : String :=
  ", ".intercalate (names.map quoteIdentifier)

/-- The statements that read or change rows. -/
inductive RowStatement where
  | count (table : TableName) (conditions : List Condition)
  | select (columns : List String) (table : TableName) (conditions : List Condition)
      (order : List String)
  | delete (table : TableName) (conditions : List Condition)
  | update (table : TableName) (assignments : List (String × Literal))
      (conditions : List Condition)
  | insert (table : TableName) (columns : List String) (rows : List (List Literal))
deriving DecidableEq

/-- The statements that create or alter structure. -/
inductive Definition where
  | createSchema (schema : String)
  | createTable (table : TableName) (columns : List Column) (key : List String)
  | addColumn (table : TableName) (column : Column)
  | alterType (table : TableName) (column : String) (type : ValueType)
  | setNullable (table : TableName) (column : String) (isNullable : Bool)
  | addPrimaryKey (table : TableName) (key : List String)
deriving DecidableEq

/-- The queries of the catalog. -/
inductive CatalogQuery where
  | schemaExists (schema : String)
  | tableExists (table : TableName)
  | columns (table : TableName)
  | primaryKey (table : TableName)
deriving DecidableEq

/-- The settings of a session. -/
inductive Setting where
  | standardStrings
  | statementLimit (milliseconds : Nat)
  | applicationName (name : String)
  | utc
deriving DecidableEq

/-- A statement. -/
inductive Statement where
  | rows (statement : RowStatement)
  | definition (definition : Definition)
  | catalog (query : CatalogQuery)
  | setting (setting : Setting)
deriving DecidableEq

/-- One assignment of an update. -/
def assignmentText (assignment : String × Literal) : String :=
  quoteIdentifier assignment.1 ++ " = " ++ assignment.2.text

/-- The literals of one inserted row. -/
def rowText (row : List Literal) : String :=
  "(" ++ ", ".intercalate (row.map Literal.text) ++ ")"

/-- The order of a query, empty when no column is named. -/
def orderText : List String → String
  | [] => ""
  | order => " ORDER BY " ++ nameList order

/-- The text of a statement about rows. -/
def RowStatement.text : RowStatement → String
  | .count table conditions =>
      "SELECT COUNT(*) FROM " ++ table.text ++ whereText conditions
  | .select columns table conditions order =>
      "SELECT " ++ nameList columns ++ " FROM " ++ table.text ++ whereText conditions ++
        orderText order
  | .delete table conditions => "DELETE FROM " ++ table.text ++ whereText conditions
  | .update table assignments conditions =>
      "UPDATE " ++ table.text ++ " SET " ++
        ", ".intercalate (assignments.map assignmentText) ++ whereText conditions
  | .insert table columns rows =>
      "INSERT INTO " ++ table.text ++ " (" ++ nameList columns ++ ") VALUES " ++
        ", ".intercalate (rows.map rowText)

/-- The parts between the parentheses of a table definition. -/
def tableParts (columns : List Column) (key : List String) : List String :=
  columns.map Column.text ++ if key.isEmpty then [] else ["PRIMARY KEY (" ++ nameList key ++ ")"]

/-- The text of a statement about structure. -/
def Definition.text : Definition → String
  | .createSchema schema => "CREATE SCHEMA IF NOT EXISTS " ++ quoteIdentifier schema
  | .createTable table columns key =>
      "CREATE TABLE " ++ table.text ++ " (" ++ ", ".intercalate (tableParts columns key) ++ ")"
  | .addColumn table column => "ALTER TABLE " ++ table.text ++ " ADD COLUMN " ++ column.text
  | .alterType table column type =>
      "ALTER TABLE " ++ table.text ++ " ALTER COLUMN " ++ quoteIdentifier column ++ " TYPE " ++
        type.nativeName ++ " USING " ++ quoteIdentifier column ++ "::" ++ type.nativeName
  | .setNullable table column isNullable =>
      "ALTER TABLE " ++ table.text ++ " ALTER COLUMN " ++ quoteIdentifier column ++
        if isNullable then " DROP NOT NULL" else " SET NOT NULL"
  | .addPrimaryKey table key =>
      "ALTER TABLE " ++ table.text ++ " ADD PRIMARY KEY (" ++ nameList key ++ ")"

/-- The text of a query of the catalog. -/
def CatalogQuery.text : CatalogQuery → String
  | .schemaExists _ =>
      "SELECT EXISTS (SELECT 1 FROM pg_catalog.pg_namespace WHERE nspname = $1)"
  | .tableExists _ =>
      "SELECT EXISTS (SELECT 1 FROM information_schema.tables " ++
        "WHERE table_schema = $1 AND table_name = $2)"
  | .columns _ =>
      "SELECT column_name::text, data_type::text, is_nullable::text " ++
        "FROM information_schema.columns " ++
        "WHERE table_schema = $1 AND table_name = $2 ORDER BY ordinal_position"
  | .primaryKey _ =>
      "SELECT kcu.column_name::text FROM information_schema.table_constraints tc " ++
        "JOIN information_schema.key_column_usage kcu " ++
        "ON tc.constraint_name = kcu.constraint_name " ++
        "AND tc.table_schema = kcu.table_schema AND tc.table_name = kcu.table_name " ++
        "WHERE tc.constraint_type = 'PRIMARY KEY' " ++
        "AND tc.table_schema = $1 AND tc.table_name = $2 ORDER BY kcu.ordinal_position"

/-- The names that a query of the catalog is asked about. -/
def CatalogQuery.parameters : CatalogQuery → List String
  | .schemaExists schema => [schema]
  | .tableExists table | .columns table | .primaryKey table => [table.schema, table.table]

/-- The text of a setting. -/
def Setting.text : Setting → String
  | .standardStrings => "SET standard_conforming_strings = on"
  | .statementLimit milliseconds => s!"SET statement_timeout = '{milliseconds}ms'"
  | .applicationName name => "SET application_name = " ++ quoteString name
  | .utc => "SET timezone = 'UTC'"

/-- The text of a statement. -/
def Statement.text : Statement → String
  | .rows sent => sent.text
  | .definition change => change.text
  | .catalog query => query.text
  | .setting choice => choice.text

/-- The parameters bound to a statement. -/
def Statement.parameters : Statement → List String
  | .catalog query => query.parameters
  | _ => []

/-- Whether a statement only reads the catalog. -/
def Statement.isCatalogQuery : Statement → Bool
  | .catalog _ => true
  | _ => false

end TableStore.Sql
