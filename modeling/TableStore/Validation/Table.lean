import TableStore.Server.Connection
import TableStore.Validation.Live

/-!
# Validating a table

A validation asks the catalog for the schema, the table, its columns and its primary
key, in this order, and settles the discrepancies of each answer before it asks the
next question. A table of a missing schema is missing without being asked for, and
columns and key are looked at only when the table was there.
-/

namespace TableStore.Validation

open Server Sql

variable (connection : Connection) (table : Table) (action : Action)

/-- Settle one discrepancy: execute its remedy, or leave it. -/
def settle (report : Report) (discrepancy : Discrepancy) : Dialogue Report :=
  match discrepancy.remedy? table connection.environment action with
  | some statement =>
      .send (.definition statement) fun _ => .done (.ok (report.execute statement))
  | none => .done (.ok (report.leave discrepancy))

/-- Settle discrepancies one after another. -/
def settleAll (report : Report) : List Discrepancy → Dialogue Report
  | [] => .done (.ok report)
  | discrepancy :: rest =>
      (settle connection table action report discrepancy).bind fun report =>
        settleAll report rest

/-- Ask the catalog about a table and read the answer. -/
def askCatalog {α : Type} (query : CatalogQuery) (read : Answer → Option α) : Dialogue α :=
  connection.ask table (.catalog query) read

/-- Whether the table is there; it is not asked for when the schema is missing. -/
def askTable (schemaExists : Bool) : Dialogue Bool :=
  if schemaExists then
    askCatalog connection table (.tableExists (table.physical connection.environment))
      Answer.truth?
  else .done (.ok false)

/-- Compare the columns and the key of a table that is there. -/
def validatePresent (report : Report) : Dialogue TableStatus := do
  let physical := table.physical connection.environment
  let columns ← askCatalog connection table (.columns physical) Answer.triples?
  let report ← settleAll connection table action report
    (columnsDiscrepancies table (columns.map LiveColumn.ofReport))
  let key ← askCatalog connection table (.primaryKey physical) Answer.texts?
  let report ← settleAll connection table action report (keyDiscrepancies table key)
  return report.finish table connection.environment true

end TableStore.Validation

namespace TableStore

open Server Sql Validation

/-- Compare the live structure of a table with its declaration and do what the action
allows about the discrepancies. -/
def Table.validate (connection : Connection) (table : Table) (action : Action) :
    Dialogue TableStatus :=
  connection.carry do
    let physical := table.physical connection.environment
    let schemaExists ← askCatalog connection table (.schemaExists physical.schema)
      Answer.truth?
    let report ← settleAll connection table action {}
      (if schemaExists then [] else [.schemaMissing])
    let tableExists ← askTable connection table schemaExists
    if tableExists then validatePresent connection table action report
    else do
      let report ← settle connection table action report .tableMissing
      return report.finish table connection.environment false

end TableStore
