import TableStore.Validation.Report

/-!
# Live structure

What the catalog says about the columns and the primary key of a table, and how it
differs from a declaration. For a column that is reported twice the last report
counts; columns that are not declared are left alone.
-/

namespace TableStore.Validation

/-- A column as the catalog reports it. -/
structure LiveColumn where
  name : String
  type : String
  isNullable : Bool
deriving DecidableEq

/-- A column from its reported name, type and nullability, which is `YES` in any case. -/
def LiveColumn.ofReport (report : String × String × String) : LiveColumn :=
  ⟨report.1, report.2.1, Environment.foldCase report.2.2 == "yes"⟩

/-- The last report of the column with a name. -/
def liveColumn? (columns : List LiveColumn) (name : String) : Option LiveColumn :=
  columns.reverse.find? fun column => column.name == name

/-- How the live column of a field differs from its declaration, type before
nullability. -/
def columnDiscrepancies (field : Field) : Option LiveColumn → List Discrepancy
  | none => [.columnMissing field]
  | some column =>
      (if field.type.holdsIn column.type then [] else [.wrongType field column.type]) ++
        if column.isNullable == field.isNullable then [] else [.wrongNullability field]

/-- How the live columns differ from the fields of a table, in order of the fields. -/
def columnsDiscrepancies (table : Table) (columns : List LiveColumn) : List Discrepancy :=
  table.fields.flatMap fun field =>
    columnDiscrepancies field (liveColumn? columns field.name)

/-- How the live primary key differs from the declared one. -/
def keyDiscrepancies (table : Table) (live : List String) : List Discrepancy :=
  if live = table.keyNames then [] else [.wrongKey live]

end TableStore.Validation
